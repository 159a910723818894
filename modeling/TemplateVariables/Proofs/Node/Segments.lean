import TemplateVariables.Proofs.Expr.Context
import TemplateVariables.Proofs.Node.Spanless

/-!
# How block tags are written

A block tag is a word and its arguments.  Most of the arguments are lexemes that
the statement prescribes; between them stand the lexemes of expressions and
filter calls, of which only what they are read as is known.
-/

namespace TemplateVariables

/-- A part of a written tag. -/
inductive Segment where
  | lexeme (kind : LexemeKind)
  /-- The lexemes of one of the options. -/
  | choice (options : List (List LexemeKind))
  /-- An expression in parentheses. -/
  | expr (expr : Expr)
  | filter (call : FilterCall)
  /-- A call without parentheses around it, up to the end of the tag. -/
  | call (call : Expr)

namespace Segment

def word (text : String) : Segment :=
  .lexeme (.name text)

def punct (mark : Punct) : Segment :=
  .lexeme (.punct mark)

/-- The lexemes are those of the segments. -/
inductive Spell : List Segment → List Lexeme → Prop where
  | nil : Spell [] []
  | lexeme {kind : LexemeKind} {segments : List Segment} {rest : List Lexeme} (span : Span)
      (hrest : Spell segments rest) : Spell (.lexeme kind :: segments) (⟨kind, span⟩ :: rest)
  | choice {options : List (List LexemeKind)} {segments : List Segment}
      {lexemes rest : List Lexeme} (hlexemes : lexemes.map (·.kind) ∈ options)
      (hrest : Spell segments rest) : Spell (.choice options :: segments) (lexemes ++ rest)
  | expr {expr : Expr} {segments : List Segment} {lexemes rest : List Lexeme}
      (hexpr : expr.WrittenAs lexemes) (hrest : Spell segments rest) :
      Spell (.expr expr :: segments) (lexemes ++ rest)
  | filter {call : FilterCall} {segments : List Segment} {lexemes rest : List Lexeme}
      (hcall : call.AcceptedFrom lexemes) (hrest : Spell segments rest) :
      Spell (.filter call :: segments) (lexemes ++ rest)
  | call {call : Expr} {lexemes : List Lexeme} (hcall : call.AcceptedFrom lexemes) :
      Spell [.call call] lexemes

theorem Spell.eq_nil {lexemes : List Lexeme} (hspell : Spell [] lexemes) : lexemes = [] := by
  cases hspell
  rfl

theorem Spell.ne_nil {kind : LexemeKind} {segments : List Segment} {lexemes : List Lexeme}
    (hspell : Spell (.lexeme kind :: segments) lexemes) : lexemes ≠ [] := by
  cases hspell
  exact List.cons_ne_nil _ _

theorem Spell.of_kinds {segments : List Segment} {rest : List Lexeme} (lexemes : List Lexeme)
    (hrest : Spell segments rest) :
    Spell ((lexemes.map (·.kind)).map .lexeme ++ segments) (lexemes ++ rest) := by
  induction lexemes with
  | nil => exact hrest
  | cons lexeme lexemes ih => exact .lexeme lexeme.span ih

/-- A choice comes down to one of its options. -/
theorem Spell.exists_option (front : List Segment) {segments : List Segment}
    {options : List (List LexemeKind)} {lexemes : List Lexeme}
    (hspell : Spell (front ++ .choice options :: segments) lexemes) :
    ∃ option ∈ options, Spell (front ++ (option.map .lexeme ++ segments)) lexemes := by
  induction front generalizing lexemes with
  | nil =>
      cases hspell with
      | @choice _ _ chosen rest hchosen hrest => exact ⟨_, hchosen, hrest.of_kinds chosen⟩
  | cons segment front ih =>
      generalize hbehind : front ++ .choice options :: segments = behind at ih
      rw [List.cons_append, hbehind] at hspell
      cases hspell with
      | lexeme span hrest =>
          obtain ⟨option, hoption, hspell⟩ := ih hrest
          exact ⟨option, hoption, .lexeme span hspell⟩
      | choice hchosen hrest =>
          obtain ⟨option, hoption, hspell⟩ := ih hrest
          exact ⟨option, hoption, .choice hchosen hspell⟩
      | expr hexpr hrest =>
          obtain ⟨option, hoption, hspell⟩ := ih hrest
          exact ⟨option, hoption, .expr hexpr hspell⟩
      | filter hcall hrest =>
          obtain ⟨option, hoption, hspell⟩ := ih hrest
          exact ⟨option, hoption, .filter hcall hspell⟩
      | call => simp at hbehind

/-- The kind of the first lexeme of the segments, if there is one. -/
inductive Begins : List Segment → Option LexemeKind → Prop where
  | nil : Begins [] none
  | lexeme (kind : LexemeKind) (segments : List Segment) :
      Begins (.lexeme kind :: segments) (some kind)
  | expr (expr : Expr) (segments : List Segment) :
      Begins (.expr expr :: segments) (some (.punct .lparen))

theorem begins_kinds (kinds : List LexemeKind) : Begins (kinds.map .lexeme) kinds.head? := by
  cases kinds with
  | nil => exact .nil
  | cons kind kinds => exact .lexeme kind _

theorem Spell.head?_kinds {segments : List Segment} {lexemes : List Lexeme}
    {head : Option LexemeKind} (hspell : Spell segments lexemes)
    (hbegins : Begins segments head) : (lexemes.map (·.kind)).head? = head := by
  cases hbegins with
  | nil =>
      cases hspell
      rfl
  | lexeme =>
      cases hspell
      rfl
  | expr =>
      cases hspell with
      | expr hexpr =>
          obtain ⟨inner, opened, closed, rfl, -⟩ := hexpr.parenthesised
          rfl

end Segment

/-! ## Readings in front of segments -/

open Segment (Spell Begins)

/-- The reading succeeds with a value of which `holds` is true, and the lexemes of the
segments are left. -/
def Arrives {α : Type} {bound : Nat} (reading : Reading α bound) (holds : α → Prop)
    (segments : List Segment) : Prop :=
  ∃ value next hsize, reading = .ok ⟨value, next, hsize⟩ ∧ holds value ∧ Spell segments next.rest

/-- The reading succeeds with a value of which `holds` is true. -/
def Succeeds {α : Type} (reading : Except ParseError α) (holds : α → Prop) : Prop :=
  ∃ value, reading = .ok value ∧ holds value

section Arrives

variable {α β : Type} {bound bound' : Nat} {reading : Reading α bound} {holds : α → Prop}
  {after : β → Prop} {middle segments : List Segment}

theorem Arrives.ok {value : α} {next : Cursor} {hsize : next.size < bound}
    (hvalue : holds value) (hspell : Spell segments next.rest) :
    Arrives (Except.ok ⟨value, next, hsize⟩ : Reading α bound) holds segments :=
  ⟨value, next, hsize, rfl, hvalue, hspell⟩

theorem Arrives.bind {continuation : Step α bound → Reading β bound'}
    (hreading : Arrives reading holds middle)
    (hcontinuation : ∀ value next hsize, holds value → Spell middle next.rest →
      Arrives (continuation ⟨value, next, hsize⟩) after segments) :
    Arrives (reading >>= continuation) after segments := by
  obtain ⟨value, next, hsize, rfl, hvalue, hspell⟩ := hreading
  exact hcontinuation value next hsize hvalue hspell

theorem Arrives.bind_succeeds {continuation : Step α bound → Except ParseError β}
    (hreading : Arrives reading holds middle)
    (hcontinuation : ∀ value next hsize, holds value → Spell middle next.rest →
      Succeeds (continuation ⟨value, next, hsize⟩) after) :
    Succeeds (reading >>= continuation) after := by
  obtain ⟨value, next, hsize, rfl, hvalue, hspell⟩ := hreading
  exact hcontinuation value next hsize hvalue hspell

theorem Succeeds.ok {value : α} (hvalue : holds value) :
    Succeeds (Except.ok value : Except ParseError α) holds :=
  ⟨value, rfl, hvalue⟩

theorem Succeeds.bind {reading : Except ParseError α} {continuation : α → Except ParseError β}
    (hreading : Succeeds reading holds)
    (hcontinuation : ∀ value, holds value → Succeeds (continuation value) after) :
    Succeeds (reading >>= continuation) after := by
  obtain ⟨value, rfl, hvalue⟩ := hreading
  exact hcontinuation value hvalue

end Arrives

namespace Cursor

variable {cursor : Cursor} {kind : LexemeKind} {segments : List Segment}
  {head : Option LexemeKind}

theorem next?_spelled (hspell : Spell (.lexeme kind :: segments) cursor.rest) :
    ∃ span next hsize, cursor.next? = some ⟨⟨kind, span⟩, next, hsize⟩ ∧
      Spell segments next.rest := by
  obtain ⟨lexemes, lastStop⟩ := cursor
  cases hspell with
  | lexeme span hrest => exact ⟨span, _, Nat.lt_succ_self _, rfl, hrest⟩

theorem take?_spelled (hspell : Spell (.lexeme kind :: segments) cursor.rest) :
    ∃ span next hsize, cursor.take? kind = some ⟨span, next, hsize⟩ ∧
      Spell segments next.rest := by
  obtain ⟨span, next, hsize, hnext, hrest⟩ := next?_spelled hspell
  exact ⟨span, next, hsize, by simp [take?, hnext], hrest⟩

theorem name?_spelled {text : String} (hspell : Spell (.word text :: segments) cursor.rest) :
    ∃ span next hsize, cursor.name? = some ⟨(text, span), next, hsize⟩ ∧
      Spell segments next.rest := by
  obtain ⟨span, next, hsize, hnext, hrest⟩ := next?_spelled hspell
  exact ⟨span, next, hsize, by simp [name?, hnext], hrest⟩

theorem head?_kinds (hspell : Spell segments cursor.rest) (hbegins : Begins segments head) :
    cursor.kinds.head? = head :=
  hspell.head?_kinds hbegins

theorem take?_none_spelled (hspell : Spell segments cursor.rest)
    (hbegins : Begins segments head) (hhead : head ≠ some kind) : cursor.take? kind = none := by
  apply take?_eq_none
  rw [head?_kinds hspell hbegins]
  exact hhead

theorem name?_none_spelled (hspell : Spell segments cursor.rest)
    (hbegins : Begins segments head) (hhead : ∀ text, head ≠ some (.name text)) :
    cursor.name? = none := by
  apply name?_eq_none
  rw [head?_kinds hspell hbegins]
  exact hhead

theorem kind?_spelled (hspell : Spell segments cursor.rest) (hbegins : Begins segments head) :
    cursor.kind? = head := by
  rw [kind?_eq_head?, head?_kinds hspell hbegins]

theorem expect_arrives (tagEnd : Span)
    (hspell : Spell (.lexeme kind :: segments) cursor.rest) :
    Arrives (cursor.expect tagEnd kind) (fun _ => True) segments := by
  obtain ⟨span, next, hsize, htake, hrest⟩ := take?_spelled hspell
  exact ⟨span, next, hsize, by rw [expect, htake], trivial, hrest⟩

theorem expectName_arrives (tagEnd : Span) (role : NameRole) {text : String}
    (hspell : Spell (.word text :: segments) cursor.rest) :
    Arrives (cursor.expectName tagEnd role) (fun name => name.1 = text) segments := by
  obtain ⟨span, next, hsize, hname, hrest⟩ := name?_spelled hspell
  exact ⟨(text, span), next, hsize, by rw [expectName, hname], rfl, hrest⟩

theorem expectEnd_succeeds (hspell : Spell [] cursor.rest) :
    Succeeds cursor.expectEnd (fun _ => True) := by
  have hkinds := (rest_eq_nil_iff cursor).1 hspell.eq_nil
  exact ⟨(), expectEnd_eq_ok hkinds, trivial⟩

end Cursor

/-- Whether an expression ends in front of the lexeme, or in front of the end of the tag. -/
def LexemeKind.endsOperation (head : Option LexemeKind) : Prop :=
  ∀ kind ∈ head, kind.extendsOperand = false ∧ Connective.ofKind? kind = none ∧
    kind ≠ .name "not"

instance (head : Option LexemeKind) : Decidable (LexemeKind.endsOperation head) :=
  inferInstanceAs (Decidable (∀ kind ∈ head, _))

section Expressions

variable {expr : Expr} {segments : List Segment} {cursor : Cursor} {head : Option LexemeKind}

theorem Segment.Spell.endsOperation {lexemes : List Lexeme} (hspell : Spell segments lexemes)
    (hbegins : Begins segments head) (hhead : LexemeKind.endsOperation head) :
    EndsOperation (lexemes.map (·.kind)) := by
  rw [EndsOperation, EndsOperand, hspell.head?_kinds hbegins]
  exact ⟨fun kind hkind => (hhead kind hkind).1, fun kind hkind => (hhead kind hkind).2⟩

theorem Expr.read_arrives (tagEnd : Span) {level : Level}
    (hspell : Spell (.expr expr :: segments) cursor.rest) (hbegins : Begins segments head)
    (hhead : LexemeKind.endsOperation head) (hif : level = .full → head ≠ some (.name "if")) :
    Arrives (Expr.read tagEnd level cursor) (fun value => value.spanless = expr.spanless)
      segments := by
  generalize hlexemes : cursor.rest = lexemes at hspell
  cases hspell with
  | expr hexpr hrest =>
      rw [← hrest.head?_kinds hbegins] at hif
      obtain ⟨value, next, hsize, hok, hvalue, hnext⟩ :=
        hexpr.leaves_read hlexemes (hrest.endsOperation hbegins hhead) tagEnd hif
      rw [← hnext] at hrest
      exact ⟨value, next, hsize, hok, hvalue, hrest⟩

theorem Expr.readTuple_arrives (tagEnd : Span) {level : Level}
    (hspell : Spell (.expr expr :: segments) cursor.rest) (hbegins : Begins segments head)
    (hhead : LexemeKind.endsOperation head) (hif : level = .full → head ≠ some (.name "if"))
    (hcomma : head ≠ some (.punct .comma)) :
    Arrives (Expr.readTuple tagEnd level cursor) (fun value => value.spanless = expr.spanless)
      segments := by
  generalize hlexemes : cursor.rest = lexemes at hspell
  cases hspell with
  | expr hexpr hrest =>
      rw [← hrest.head?_kinds hbegins] at hif hcomma
      obtain ⟨value, next, hsize, hok, hvalue, hnext⟩ :=
        hexpr.leaves_readTuple hlexemes (hrest.endsOperation hbegins hhead) tagEnd hif hcomma
      rw [← hnext] at hrest
      exact ⟨value, next, hsize, hok, hvalue, hrest⟩

theorem Expr.readFilter_arrives (tagEnd : Span) {call : FilterCall}
    (hspell : Spell (.filter call :: segments) cursor.rest) (hbegins : Begins segments head)
    (hhead : ∀ kind ∈ head, kind = .punct .pipe) :
    Arrives (Expr.readFilter tagEnd cursor) (fun value => value.spanless = call.spanless)
      segments := by
  generalize hlexemes : cursor.rest = lexemes at hspell
  cases hspell with
  | filter hcall hrest =>
      rw [← hrest.head?_kinds hbegins] at hhead
      obtain ⟨value, next, hsize, hok, hvalue, hnext⟩ :=
        hcall.leaves_readFilter hlexemes hhead tagEnd
      rw [← hnext] at hrest
      exact ⟨value, next, hsize, hok, hvalue, hrest⟩

end Expressions

end TemplateVariables
