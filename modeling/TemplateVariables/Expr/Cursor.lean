import TemplateVariables.Expr
import TemplateVariables.ParseError

/-!
# Cursors

A cursor is a place among the lexemes of a tag: the lexemes that are left and
the offset where the last one read ends.  Reading something returns a step,
which carries the proof that lexemes have been used up; recursive readers
terminate by it.
-/

namespace TemplateVariables

structure Cursor where
  rest : List Lexeme
  lastStop : Nat
deriving DecidableEq, Repr

/-- The number of lexemes that are left. -/
def Cursor.size (cursor : Cursor) : Nat :=
  cursor.rest.length

/-- Something read, and a place with fewer than `bound` lexemes left. -/
structure Step (α : Type) (bound : Nat) where
  value : α
  next : Cursor
  shorter : next.size < bound

/-- What a reader returns. -/
abbrev Reading (α : Type) (bound : Nat) := Except ParseError (Step α bound)

namespace Cursor

/-! ## Sizes

What a reader shows of the place it stops at follows in one step from what the readers it
calls have shown. -/

section Size

variable {cursor first second next : Cursor}

theorem size_lt_succ (cursor : Cursor) : cursor.size < cursor.size + 1 :=
  Nat.lt_succ_self _

theorem size_le_self (cursor : Cursor) : cursor.size ≤ cursor.size :=
  Nat.le_refl _

theorem lt_succ (hnext : next.size < cursor.size) : next.size < cursor.size + 1 :=
  Nat.lt_succ_of_lt hnext

theorem lt_trans (hfirst : first.size < cursor.size) (hnext : next.size < first.size) :
    next.size < cursor.size :=
  Nat.lt_trans hnext hfirst

theorem lt_succ_trans (hfirst : first.size < cursor.size) (hnext : next.size < first.size) :
    next.size < cursor.size + 1 :=
  lt_succ (lt_trans hfirst hnext)

theorem lt_of_lt_succ (hfirst : first.size < cursor.size) (hnext : next.size < first.size + 1) :
    next.size < cursor.size :=
  Nat.lt_of_le_of_lt (Nat.le_of_lt_succ hnext) hfirst

theorem lt_trans_trans (hfirst : first.size < cursor.size) (hsecond : second.size < first.size)
    (hnext : next.size < second.size) : next.size < cursor.size :=
  lt_trans (lt_trans hfirst hsecond) hnext

theorem lt_succ_of_lt_succ (hfirst : first.size < cursor.size)
    (hsecond : second.size < first.size) (hnext : next.size < second.size + 1) :
    next.size < cursor.size + 1 :=
  lt_succ (lt_of_lt_succ (lt_trans hfirst hsecond) hnext)

end Size

/-! ## Readers of lexemes -/

def ofLexemes (lexemes : List Lexeme) : Cursor where
  rest := lexemes
  lastStop := 0

def kind? (cursor : Cursor) : Option LexemeKind :=
  cursor.rest.head?.map (·.kind)

/-- Reads the next lexeme, whatever it is. -/
def next? : (cursor : Cursor) → Option (Step Lexeme cursor.size)
  | { rest := [], .. } => none
  | { rest := lexeme :: rest, .. } =>
      some ⟨lexeme, { rest, lastStop := lexeme.span.stop }, Nat.lt_succ_self _⟩

/-- Reads the next lexeme if it is of the given kind. -/
def take? (kind : LexemeKind) (cursor : Cursor) : Option (Step Span cursor.size) :=
  match cursor.next? with
  | some ⟨lexeme, next, hnext⟩ =>
      if lexeme.kind = kind then some ⟨lexeme.span, next, hnext⟩ else none
  | none => none

/-- The span from the start of something read to the last lexeme read. -/
def spanFrom (cursor : Cursor) (start : Span) : Span :=
  Span.ofBounds start.start.toNat (max cursor.lastStop start.stop)

/-- The error for a place where something else is required. -/
def unexpected (cursor : Cursor) (tagEnd : Span) (wanted : Expected) : ParseError :=
  match cursor.rest with
  | [] => .invalidSyntax (.expected wanted none) tagEnd
  | lexeme :: _ => .invalidSyntax (.expected wanted (some lexeme.kind)) lexeme.span

def expect (cursor : Cursor) (tagEnd : Span) (kind : LexemeKind) :
    Reading Span cursor.size :=
  match cursor.take? kind with
  | some step => .ok step
  | none => .error (cursor.unexpected tagEnd (.exactly kind))

/-- Reads a lexeme inside the bracket opened at `opened`.  When no lexeme is left
the bracket is reported as unclosed. -/
def expectInside (cursor : Cursor) (tagEnd : Span) (bracket : Punct) (opened : Span)
    (mark : Punct) : Reading Span cursor.size :=
  if cursor.rest = [] then .error (.invalidSyntax (.unclosedBracket bracket) opened)
  else cursor.expect tagEnd (.punct mark)

def name? (cursor : Cursor) : Option (Step (String × Span) cursor.size) :=
  match cursor.next? with
  | some ⟨{ kind := .name text, span }, next, hnext⟩ =>
      some ⟨(text, span), next, hnext⟩
  | _ => none

def expectName (cursor : Cursor) (tagEnd : Span) (role : NameRole) :
    Reading (String × Span) cursor.size :=
  match cursor.name? with
  | some step => .ok step
  | none => .error (cursor.unexpected tagEnd (.name role))

/-- Fails on the first lexeme that is left over. -/
def expectEnd (cursor : Cursor) : Except ParseError Unit :=
  match cursor.rest with
  | [] => .ok ()
  | lexeme :: _ => .error (.invalidSyntax (.unusedLexeme lexeme.kind) lexeme.span)

/-- Whether a list without brackets ends here, so that a comma before this place
is a trailing one. -/
def atListEnd (cursor : Cursor) : Bool :=
  match cursor.kind? with
  | none => true
  | some (.punct .assign) => true
  | some (.punct .rparen) => true
  | some (.name text) => text == "if" || text == "else" || text == "recursive"
  | some _ => false

/-- The further words of a dotted name. -/
def moreWords (cursor : Cursor) : Step (List String) (cursor.size + 1) :=
  match cursor.take? (.punct .dot) with
  | none => ⟨[], cursor, size_lt_succ cursor⟩
  | some ⟨_, afterDot, hdot⟩ =>
      match afterDot.name? with
      | none => ⟨[], cursor, size_lt_succ cursor⟩
      | some ⟨(word, _), afterWord, hword⟩ =>
          let ⟨words, next, hnext⟩ := moreWords afterWord
          ⟨word :: words, next, lt_succ_of_lt_succ hdot hword hnext⟩
termination_by cursor.size

/-- Words joined by dots, and the span of the first. -/
def expectDotted (cursor : Cursor) (tagEnd : Span) (role : NameRole) :
    Reading (DottedName × Span) cursor.size := do
  let ⟨(word, span), afterWord, hword⟩ ← cursor.expectName tagEnd role
  let ⟨words, next, hnext⟩ := moreWords afterWord
  return ⟨(word :: words, span), next, lt_of_lt_succ hword hnext⟩

end Cursor

end TemplateVariables
