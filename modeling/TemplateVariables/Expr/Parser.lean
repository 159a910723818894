import TemplateVariables.Expr.Cursor

/-!
# Reading expressions

Operators bind by powers, loosest first:

| operators                                      | left | right |
|------------------------------------------------|------|-------|
| `or`                                           | 1    | 2     |
| `and`                                          | 3    | 4     |
| `not` before its operand                       |      | 5     |
| `==` `!=` `<` `>` `<=` `>=` `in` `not in` `is` | 7    | 8     |
| `~`                                            | 9    | 10    |
| `+` `-`                                        | 11   | 12    |
| `*` `/` `//` `%`                               | 13   | 14    |
| `-` `+` before their operand                   |      | 15    |
| `**`                                           | 18   | 17    |

Access (`.name`, `[index]`, `(args)`) binds tighter than filters, and filters
bind tighter than any operator.  The conditional `a if b else c` is looser than
all of them and is read only where the level allows it.
-/

namespace TemplateVariables

/-- The words that are operators and never names of variables. -/
def reservedWords : List String :=
  ["and", "or", "not", "in", "is", "if", "else"]

/-- The power with which an operator binds the operand after it. -/
def UnaryOp.power : UnaryOp → Nat
  | .not => 5
  | .neg => 15
  | .pos => 15

/-- The powers with which an operator binds the operands on its two sides. -/
def BinaryOp.powers : BinaryOp → Nat × Nat
  | .or => (1, 2)
  | .and => (3, 4)
  | .eq | .ne | .lt | .gt | .le | .ge | .isIn | .notIn => (7, 8)
  | .concat => (9, 10)
  | .add | .sub => (11, 12)
  | .mul | .div | .floorDiv | .mod => (13, 14)
  | .pow => (18, 17)

/-- What can follow an operand: an operator, or the `is` of a test. -/
inductive Connective where
  | operator (op : BinaryOp)
  | test
deriving DecidableEq, Repr

namespace Connective

/-- How tightly the connective binds the operand before it. -/
def leftPower : Connective → Nat
  | .operator op => op.powers.1
  | .test => 7

/-- The connective that a lexeme is by itself. -/
def ofKind? : LexemeKind → Option Connective
  | .name "or" => some (.operator .or)
  | .name "and" => some (.operator .and)
  | .name "in" => some (.operator .isIn)
  | .name "is" => some .test
  | .punct .eq => some (.operator .eq)
  | .punct .ne => some (.operator .ne)
  | .punct .lt => some (.operator .lt)
  | .punct .gt => some (.operator .gt)
  | .punct .le => some (.operator .le)
  | .punct .ge => some (.operator .ge)
  | .punct .plus => some (.operator .add)
  | .punct .minus => some (.operator .sub)
  | .punct .tilde => some (.operator .concat)
  | .punct .star => some (.operator .mul)
  | .punct .slash => some (.operator .div)
  | .punct .floor => some (.operator .floorDiv)
  | .punct .percent => some (.operator .mod)
  | .punct .power => some (.operator .pow)
  | _ => none

end Connective

def UnaryOp.ofKind? : LexemeKind → Option UnaryOp
  | .name "not" => some .not
  | .punct .minus => some .neg
  | .punct .plus => some .pos
  | _ => none

/-- The expression that a word is by itself; a reserved word is none. -/
def Expr.ofWord? (word : String) (span : Span) : Option Expr :=
  if word = "true" ∨ word = "True" then some (.literal (.bool true) span)
  else if word = "false" ∨ word = "False" then some (.literal (.bool false) span)
  else if word = "none" ∨ word = "None" then some (.literal .none span)
  else if word ∈ reservedWords then none
  else some (.identifier word span)

namespace Cursor

/-- The connective at a cursor, if there is one.  `not` is one only before
`in`. -/
def connective (cursor : Cursor) :
    Except ParseError (Option (Step Connective cursor.size)) :=
  match cursor.next? with
  | none => .ok none
  | some ⟨lexeme, afterFirst, hfirst⟩ =>
      if lexeme.kind = .name "not" then
        match afterFirst.take? (.name "in") with
        | some ⟨_, next, hnext⟩ =>
            .ok (some ⟨.operator .notIn, next, by omega⟩)
        | none => .error (.invalidSyntax .misplacedNot lexeme.span)
      else
        .ok ((Connective.ofKind? lexeme.kind).map fun connective =>
          ⟨connective, afterFirst, hfirst⟩)

/-- The operator before an operand, if there is one, and its span. -/
def unaryOp? (cursor : Cursor) : Option (Step (UnaryOp × Span) cursor.size) :=
  match cursor.next? with
  | none => none
  | some ⟨lexeme, next, hnext⟩ =>
      (UnaryOp.ofKind? lexeme.kind).map fun op => ⟨(op, lexeme.span), next, hnext⟩

/-- Adjacent strings after a string of the given value and span; together they
are one string. -/
def moreStrings (value : String) (span : Span) (cursor : Cursor) :
    Step (String × Span) (cursor.size + 1) :=
  match cursor.next? with
  | some ⟨{ kind := .str more, span := moreSpan }, afterMore, hmore⟩ =>
      let ⟨result, next, hnext⟩ :=
        moreStrings (value ++ more) (span.cover moreSpan) afterMore
      ⟨result, next, by omega⟩
  | _ => ⟨(value, span), cursor, Nat.lt_succ_self _⟩
termination_by cursor.size

/-- The keyword before an argument, `name =`. -/
def keyword? (cursor : Cursor) : Option (Step String cursor.size) :=
  match cursor.name? with
  | none => none
  | some ⟨(word, _), afterWord, hword⟩ =>
      match afterWord.take? (.punct .assign) with
      | none => none
      | some ⟨_, next, hnext⟩ => some ⟨word, next, by omega⟩

/-- Whether a single argument without brackets follows the name of a test. -/
def atBareArgument (cursor : Cursor) : Bool :=
  match cursor.kind? with
  | some (.name word) => !reservedWords.contains word && word != "recursive"
  | some (.number _) => true
  | some (.str _) => true
  | some (.punct .lbracket) => true
  | some (.punct .lbrace) => true
  | _ => false

end Cursor

/-- Which expressions are read: all of them, or those without a conditional and
without an operator looser than a power outside of brackets. -/
inductive Level where
  | full
  | above (power : Nat)
deriving DecidableEq, Repr

namespace Parser

/-- The reader for the expressions inside a larger one.  They begin after its
start, so they have fewer than `bound` lexemes to read. -/
abbrev Nested (bound : Nat) :=
  (level : Level) → (cursor : Cursor) → cursor.size < bound → Reading Expr cursor.size

variable (tagEnd : Span) {bound : Nat} (nested : Nested bound)

/-! ## Brackets -/

/-- The items after the first of a bracketed series, up to its closing bracket. -/
def seriesTail {α : Type}
    (item : (cursor : Cursor) → cursor.size < bound → Reading α cursor.size)
    (opening closing : Punct) (opened : Span) (cursor : Cursor)
    (hbound : cursor.size < bound) : Reading (List α) (cursor.size + 1) := do
  if cursor.kind? = some (.punct closing) then
    return ⟨[], cursor, Nat.lt_succ_self _⟩
  let ⟨_, afterComma, hcomma⟩ ← cursor.expectInside tagEnd opening opened .comma
  if afterComma.kind? = some (.punct closing) then
    return ⟨[], afterComma, by omega⟩
  let ⟨first, afterFirst, hfirst⟩ ← item afterComma (by omega)
  let ⟨others, next, hnext⟩ ← seriesTail item opening closing opened afterFirst (by omega)
  return ⟨first :: others, next, by omega⟩
termination_by cursor.size

/-- A series of items separated by commas, with an optional comma at its end,
after its opening bracket and up to and including its closing bracket. -/
def series {α : Type}
    (item : (cursor : Cursor) → cursor.size < bound → Reading α cursor.size)
    (opening closing : Punct) (opened : Span) (cursor : Cursor)
    (hbound : cursor.size < bound) : Reading (List α) cursor.size := do
  if cursor.kind? = some (.punct closing) then
    let ⟨_, next, hnext⟩ ← cursor.expectInside tagEnd opening opened closing
    return ⟨[], next, hnext⟩
  let ⟨first, afterFirst, hfirst⟩ ← item cursor hbound
  let ⟨others, afterItems, hitems⟩ ←
    seriesTail tagEnd item opening closing opened afterFirst (by omega)
  let ⟨_, next, hnext⟩ ← afterItems.expectInside tagEnd opening opened closing
  return ⟨first :: others, next, by omega⟩

/-- The items of a parenthesised tuple after its first. -/
def groupTail (cursor : Cursor) (hbound : cursor.size < bound) :
    Reading (List Expr) (cursor.size + 1) := do
  match cursor.take? (.punct .comma) with
  | none => return ⟨[], cursor, Nat.lt_succ_self _⟩
  | some ⟨_, afterComma, hcomma⟩ =>
      if afterComma.kind? = some (.punct .rparen) then
        return ⟨[], afterComma, by omega⟩
      let ⟨first, afterFirst, hfirst⟩ ← nested .full afterComma (by omega)
      let ⟨others, next, hnext⟩ ← groupTail afterFirst (by omega)
      return ⟨first :: others, next, by omega⟩
termination_by cursor.size

/-- A parenthesised expression or tuple after its opening bracket.  A bracket
around a single expression adds nothing to it. -/
def group (opened : Span) (cursor : Cursor) (hbound : cursor.size < bound) :
    Reading Expr cursor.size := do
  match cursor.take? (.punct .rparen) with
  | some ⟨_, next, hnext⟩ => return ⟨.tuple [] (next.spanFrom opened), next, hnext⟩
  | none =>
      let ⟨first, afterFirst, hfirst⟩ ← nested .full cursor hbound
      if afterFirst.kind? = some (.punct .comma) then
        let ⟨others, afterItems, hitems⟩ ← groupTail nested afterFirst (by omega)
        let ⟨_, next, hnext⟩ ← afterItems.expectInside tagEnd .lparen opened .rparen
        return ⟨.tuple (first :: others) (next.spanFrom opened), next, by omega⟩
      else
        let ⟨_, next, hnext⟩ ← afterFirst.expectInside tagEnd .lparen opened .rparen
        return ⟨first, next, by omega⟩

/-- An entry `key: value` of a dictionary. -/
def entry (cursor : Cursor) (hbound : cursor.size < bound) :
    Reading (Expr × Expr) cursor.size := do
  let ⟨key, afterKey, hkey⟩ ← nested .full cursor hbound
  let ⟨_, afterColon, hcolon⟩ ← afterKey.expect tagEnd (.punct .colon)
  let ⟨value, next, hnext⟩ ← nested .full afterColon (by omega)
  return ⟨(key, value), next, by omega⟩

/-- An argument: `value`, `name=value`, `*value` or `**value`. -/
def argument (cursor : Cursor) (hbound : cursor.size < bound) :
    Reading Argument cursor.size := do
  match cursor.take? (.punct .star) <|> cursor.take? (.punct .power) with
  | some ⟨_, afterStar, hstar⟩ =>
      let ⟨value, next, hnext⟩ ← nested .full afterStar (by omega)
      return ⟨{ name := none, value }, next, by omega⟩
  | none =>
      match cursor.keyword? with
      | some ⟨word, afterWord, hword⟩ =>
          let ⟨value, next, hnext⟩ ← nested .full afterWord (by omega)
          return ⟨{ name := some word, value }, next, by omega⟩
      | none =>
          let ⟨value, next, hnext⟩ ← nested .full cursor hbound
          return ⟨{ name := none, value }, next, hnext⟩

/-- The arguments of a call after its opening bracket. -/
def arguments (opened : Span) (cursor : Cursor) (hbound : cursor.size < bound) :
    Reading (List Argument) cursor.size :=
  series tagEnd (argument nested) .lparen .rparen opened cursor hbound

/-- The arguments in brackets that may follow a filter or test name. -/
def arguments? (cursor : Cursor) (hbound : cursor.size < bound) :
    Reading (Option (List Argument)) (cursor.size + 1) := do
  match cursor.take? (.punct .lparen) with
  | some ⟨opened, inside, hinside⟩ =>
      let ⟨args, next, hnext⟩ ← arguments tagEnd nested opened inside (by omega)
      return ⟨some args, next, by omega⟩
  | none => return ⟨none, cursor, Nat.lt_succ_self _⟩

/-! ## Operands -/

/-- A literal, a variable or a bracketed expression. -/
def primary (cursor : Cursor) (hbound : cursor.size ≤ bound) :
    Reading Expr cursor.size := do
  match cursor.next? with
  | none => throw (.invalidSyntax .expressionEnds tagEnd)
  | some ⟨lexeme, next, hnext⟩ =>
      match lexeme.kind with
      | .name word =>
          match Expr.ofWord? word lexeme.span with
          | some value => return ⟨value, next, hnext⟩
          | none => throw (.invalidSyntax (.reservedWord word) lexeme.span)
      | .number text => return ⟨.literal (.number text) lexeme.span, next, hnext⟩
      | .str text =>
          let ⟨(text, span), next, hmore⟩ := next.moreStrings text lexeme.span
          return ⟨.literal (.str text) span, next, by omega⟩
      | .punct .lparen =>
          let ⟨value, next, hgroup⟩ ← group tagEnd nested lexeme.span next (by omega)
          return ⟨value, next, by omega⟩
      | .punct .lbracket =>
          let ⟨items, next, hitems⟩ ←
            series tagEnd (nested .full) .lbracket .rbracket lexeme.span next (by omega)
          return ⟨.list items (next.spanFrom lexeme.span), next, by omega⟩
      | .punct .lbrace =>
          let ⟨entries, next, hentries⟩ ←
            series tagEnd (entry tagEnd nested) .lbrace .rbrace lexeme.span next (by omega)
          return ⟨.dict entries (next.spanFrom lexeme.span), next, by omega⟩
      | kind => throw (.invalidSyntax (.unexpectedLexeme kind) lexeme.span)

/-- A part of a slice; it is absent before a colon, before the closing bracket
and at the end of the tag. -/
def slicePart (cursor : Cursor) (hbound : cursor.size < bound) :
    Reading (Option Expr) (cursor.size + 1) := do
  if cursor.kind? = none ∨ cursor.kind? = some (.punct .colon) ∨
      cursor.kind? = some (.punct .rbracket) then
    return ⟨none, cursor, Nat.lt_succ_self _⟩
  let ⟨value, next, hnext⟩ ← nested .full cursor hbound
  return ⟨some value, next, by omega⟩

/-- A slice after its first colon. -/
def sliceTail (start : Option Expr) (opened : Span) (cursor : Cursor)
    (hbound : cursor.size < bound) : Reading Expr (cursor.size + 1) := do
  let ⟨stop, afterStop, hstop⟩ ← slicePart nested cursor hbound
  match afterStop.take? (.punct .colon) with
  | some ⟨_, afterColon, hcolon⟩ =>
      let ⟨step, next, hnext⟩ ← slicePart nested afterColon (by omega)
      return ⟨.slice start stop step (next.spanFrom opened), next, by omega⟩
  | none => return ⟨.slice start stop none (afterStop.spanFrom opened), afterStop, hstop⟩

/-- The index of a subscript, an expression or a slice. -/
def subscriptIndex (cursor : Cursor) (hbound : cursor.size < bound) :
    Reading Expr cursor.size := do
  let opened := (cursor.rest.head?.map (·.span)).getD tagEnd
  match cursor.take? (.punct .colon) with
  | some ⟨_, afterColon, hcolon⟩ =>
      let ⟨value, next, hnext⟩ ← sliceTail nested none opened afterColon (by omega)
      return ⟨value, next, by omega⟩
  | none =>
      let ⟨index, afterIndex, hindex⟩ ← nested .full cursor hbound
      match afterIndex.take? (.punct .colon) with
      | none => return ⟨index, afterIndex, hindex⟩
      | some ⟨_, afterColon, hcolon⟩ =>
          let ⟨value, next, hnext⟩ ←
            sliceTail nested (some index) opened afterColon (by omega)
          return ⟨value, next, by omega⟩

/-- The name of an attribute, which may be a number. -/
def attributeName (cursor : Cursor) : Reading String cursor.size :=
  match cursor.next? with
  | none => .error (.invalidSyntax (.expectedAttribute none) tagEnd)
  | some ⟨lexeme, next, hnext⟩ =>
      match lexeme.kind with
      | .name text => .ok ⟨text, next, hnext⟩
      | .number text => .ok ⟨text, next, hnext⟩
      | kind => .error (.invalidSyntax (.expectedAttribute (some kind)) lexeme.span)

/-- Attributes, subscripts and calls after a value. -/
def accessTail (value : Expr) (cursor : Cursor) (hbound : cursor.size < bound) :
    Reading Expr (cursor.size + 1) := do
  match cursor.take? (.punct .dot) with
  | some ⟨_, afterDot, hdot⟩ =>
      let ⟨name, afterName, hname⟩ ← attributeName tagEnd afterDot
      let ⟨value, next, hnext⟩ ←
        accessTail (.attribute value name (afterName.spanFrom value.span)) afterName (by omega)
      return ⟨value, next, by omega⟩
  | none =>
  match cursor.take? (.punct .lbracket) with
  | some ⟨opened, inside, hinside⟩ =>
      let ⟨index, afterIndex, hindex⟩ ← subscriptIndex tagEnd nested inside (by omega)
      let ⟨_, closed, hclosed⟩ ← afterIndex.expectInside tagEnd .lbracket opened .rbracket
      let ⟨value, next, hnext⟩ ←
        accessTail (.subscript value index (closed.spanFrom value.span)) closed (by omega)
      return ⟨value, next, by omega⟩
  | none =>
  match cursor.take? (.punct .lparen) with
  | some ⟨opened, inside, hinside⟩ =>
      let ⟨args, closed, hclosed⟩ ← arguments tagEnd nested opened inside (by omega)
      let ⟨value, next, hnext⟩ ←
        accessTail (.call value args (closed.spanFrom value.span)) closed (by omega)
      return ⟨value, next, by omega⟩
  | none => return ⟨value, cursor, Nat.lt_succ_self _⟩
termination_by cursor.size

/-- One stage of a filter pipeline, after its bar. -/
def filterCall (cursor : Cursor) (hbound : cursor.size < bound) :
    Reading FilterCall cursor.size := do
  let ⟨(name, start), afterName, hname⟩ ← cursor.expectDotted tagEnd .filter
  let ⟨args, next, hnext⟩ ← arguments? tagEnd nested afterName (by omega)
  return ⟨{ name, args := args.getD [], span := next.spanFrom start }, next, by omega⟩

/-- The filters after a value. -/
def filterTail (value : Expr) (cursor : Cursor) (hbound : cursor.size < bound) :
    Reading Expr (cursor.size + 1) := do
  match cursor.take? (.punct .pipe) with
  | none => return ⟨value, cursor, Nat.lt_succ_self _⟩
  | some ⟨_, afterBar, hbar⟩ =>
      let ⟨filter, afterFilter, hfilter⟩ ← filterCall tagEnd nested afterBar (by omega)
      let ⟨value, next, hnext⟩ ←
        filterTail (.filter value filter (value.span.cover filter.span)) afterFilter (by omega)
      return ⟨value, next, by omega⟩
termination_by cursor.size

/-- A primary expression with its accesses and filters. -/
def operand (cursor : Cursor) (hbound : cursor.size ≤ bound) :
    Reading Expr cursor.size := do
  let ⟨head, afterHead, hhead⟩ ← primary tagEnd nested cursor hbound
  let ⟨accessed, afterAccess, haccess⟩ ← accessTail tagEnd nested head afterHead (by omega)
  let ⟨value, next, hnext⟩ ← filterTail tagEnd nested accessed afterAccess (by omega)
  return ⟨value, next, by omega⟩

/-! ## Operators -/

/-- The test of a value, after its `is`. -/
def test (value : Expr) (cursor : Cursor) (hbound : cursor.size < bound) :
    Reading Expr cursor.size := do
  let ⟨negated, start, hstart⟩ : Step Bool (cursor.size + 1) :=
    match cursor.take? (.name "not") with
    | some ⟨_, next, hnext⟩ => ⟨true, next, by omega⟩
    | none => ⟨false, cursor, Nat.lt_succ_self _⟩
  let ⟨(name, _), afterName, hname⟩ ← start.expectDotted tagEnd .test
  let ⟨args?, afterArgs, hargs⟩ ← arguments? tagEnd nested afterName (by omega)
  match args? with
  | some args =>
      let span := afterArgs.spanFrom value.span
      return ⟨.test value name args negated span, afterArgs, by omega⟩
  | none =>
      if afterArgs.atBareArgument then
        let ⟨head, afterHead, hhead⟩ ← primary tagEnd nested afterArgs (by omega)
        let ⟨arg, next, hnext⟩ ← accessTail tagEnd nested head afterHead (by omega)
        let span := next.spanFrom value.span
        return ⟨.test value name [{ name := none, value := arg }] negated span, next, by omega⟩
      else
        let span := afterArgs.spanFrom value.span
        return ⟨.test value name [] negated span, afterArgs, by omega⟩

/-- Operators and tests after an operand, down to the given power. -/
def operatorTail (power : Nat) (left : Expr) (cursor : Cursor)
    (hbound : cursor.size < bound) : Reading Expr (cursor.size + 1) := do
  match ← cursor.connective with
  | none => return ⟨left, cursor, Nat.lt_succ_self _⟩
  | some ⟨connective, afterOp, hop⟩ =>
      if connective.leftPower < power then
        return ⟨left, cursor, Nat.lt_succ_self _⟩
      match connective with
      | .test =>
          let ⟨tested, afterTest, htest⟩ ← test tagEnd nested left afterOp (by omega)
          let ⟨value, next, hnext⟩ ← operatorTail power tested afterTest (by omega)
          return ⟨value, next, by omega⟩
      | .operator op =>
          let ⟨right, afterRight, hright⟩ ← nested (.above op.powers.2) afterOp (by omega)
          let ⟨value, next, hnext⟩ ←
            operatorTail power (.binary op left right (left.span.cover right.span))
              afterRight (by omega)
          return ⟨value, next, by omega⟩
termination_by cursor.size

/-- An operand, possibly with an operator before it. -/
def signed (cursor : Cursor) (hbound : cursor.size ≤ bound) :
    Reading Expr cursor.size := do
  match cursor.unaryOp? with
  | some ⟨(op, start), afterOp, hop⟩ =>
      let ⟨inner, next, hnext⟩ ← nested (.above op.power) afterOp (by omega)
      return ⟨.unary op inner (start.cover inner.span), next, by omega⟩
  | none => operand tagEnd nested cursor hbound

/-- Operands joined by operators that are not looser than the given power. -/
def operation (power : Nat) (cursor : Cursor) (hbound : cursor.size ≤ bound) :
    Reading Expr cursor.size := do
  let ⟨left, afterLeft, hleft⟩ ← signed tagEnd nested cursor hbound
  let ⟨value, next, hnext⟩ ← operatorTail tagEnd nested power left afterLeft (by omega)
  return ⟨value, next, by omega⟩

/-- Conditionals after a value. -/
def conditionalTail (value : Expr) (cursor : Cursor) (hbound : cursor.size < bound) :
    Reading Expr (cursor.size + 1) := do
  match cursor.take? (.name "if") with
  | none => return ⟨value, cursor, Nat.lt_succ_self _⟩
  | some ⟨_, afterIf, hif⟩ =>
      let ⟨condition, afterCondition, hcondition⟩ ← nested (.above 0) afterIf (by omega)
      match afterCondition.take? (.name "else") with
      | none =>
          let ⟨value, next, hnext⟩ ← conditionalTail
              (.conditional value condition none (afterCondition.spanFrom value.span))
              afterCondition (by omega)
          return ⟨value, next, by omega⟩
      | some ⟨_, afterElse, helse⟩ =>
          let ⟨otherwise, afterOther, hother⟩ ← nested .full afterElse (by omega)
          let ⟨value, next, hnext⟩ ← conditionalTail
              (.conditional value condition (some otherwise)
                (afterOther.spanFrom value.span))
              afterOther (by omega)
          return ⟨value, next, by omega⟩
termination_by cursor.size

end Parser

/-- Reads an expression of the given level. -/
def Expr.read (tagEnd : Span) (level : Level) (cursor : Cursor) :
    Reading Expr cursor.size := do
  let nested : Parser.Nested cursor.size := fun level inner _hinner =>
    Expr.read tagEnd level inner
  match level with
  | .above power => Parser.operation tagEnd nested power cursor (Nat.le_refl _)
  | .full =>
      let ⟨head, afterHead, hhead⟩ ← Parser.operation tagEnd nested 0 cursor (Nat.le_refl _)
      let ⟨value, next, hnext⟩ ← Parser.conditionalTail nested head afterHead hhead
      return ⟨value, next, by omega⟩
termination_by cursor.size

namespace Expr

/-- The items after the first of a tuple without brackets. -/
def readTupleTail (tagEnd : Span) (level : Level) (cursor : Cursor) :
    Reading (List Expr) (cursor.size + 1) := do
  match cursor.take? (.punct .comma) with
  | none => return ⟨[], cursor, Nat.lt_succ_self _⟩
  | some ⟨_, afterComma, hcomma⟩ =>
      if afterComma.atListEnd then
        return ⟨[], afterComma, by omega⟩
      let ⟨first, afterFirst, hfirst⟩ ← read tagEnd level afterComma
      let ⟨others, next, hnext⟩ ← readTupleTail tagEnd level afterFirst
      return ⟨first :: others, next, by omega⟩
termination_by cursor.size

/-- Reads expressions separated by commas; a comma makes them a tuple. -/
def readTuple (tagEnd : Span) (level : Level) (cursor : Cursor) :
    Reading Expr cursor.size := do
  let ⟨first, afterFirst, hfirst⟩ ← read tagEnd level cursor
  if afterFirst.kind? = some (.punct .comma) then
    let ⟨others, next, hnext⟩ ← readTupleTail tagEnd level afterFirst
    return ⟨.tuple (first :: others) (next.spanFrom first.span), next, by omega⟩
  else
    return ⟨first, afterFirst, hfirst⟩

/-- The expression, possibly a tuple without brackets, that all the lexemes
spell. -/
def ofLexemes (lexemes : List Lexeme) (tagEnd : Span) : Except ParseError Expr := do
  let ⟨value, next, _⟩ ← readTuple tagEnd .full (Cursor.ofLexemes lexemes)
  next.expectEnd
  return value

/-- Reads one stage of a filter pipeline, after its bar. -/
def readFilter (tagEnd : Span) (cursor : Cursor) : Reading FilterCall cursor.size :=
  let nested : Parser.Nested (cursor.size + 1) := fun level inner _ =>
    read tagEnd level inner
  Parser.filterCall tagEnd nested cursor (Nat.lt_succ_self _)

end Expr

end TemplateVariables
