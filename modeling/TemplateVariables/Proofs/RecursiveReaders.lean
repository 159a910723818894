import Mathlib.Tactic.ByContra
import TemplateVariables.Proofs.CursorPositions
import TemplateVariables.Proofs.Expr.RecursiveCalls

/-!
# Readers that call themselves

The reader of expressions and the reader of targets call themselves.  Each is written
here as a body in which the calls are answered from outside.  A call that the body makes
starts behind a lexeme that it has read, and so a depth of calls that is larger than
the number of lexemes is never reached, whether or not the lexemes can be read.
-/

namespace TemplateVariables

/-- A reader that calls itself, and what one call of it does when the calls inside are answered
from outside.  Only answers at places behind the start of the call make a difference. -/
structure RecursiveReader (κ α : Type) where
  read : κ → (cursor : Cursor) → Reading α cursor.size
  body : κ → (cursor : Cursor) →
    (κ → (inner : Cursor) → inner.size < cursor.size → Reading α inner.size) →
    Reading α cursor.size
  body_eq : ∀ key cursor answers,
    (∀ key inner hinner, cursor.Advances inner → answers key inner hinner = read key inner) →
    body key cursor answers = read key cursor

namespace RecursiveReader

variable {κ α : Type} (reader : RecursiveReader κ α)

/-- A call makes another one if it fails with whatever the other one fails with, while all other
calls are answered truly. -/
def Calls [DecidableEq κ] (key : κ) (cursor : Cursor) (called : κ) (inner : Cursor) : Prop :=
  ∀ error, reader.body key cursor (fun other place _ =>
    if other = called ∧ place = inner then .error error else reader.read other place) =
      .error error

/-- The reader with a bound on the depth of its calls. -/
def within (stuck : ParseError) : Nat → κ → (cursor : Cursor) → Reading α cursor.size
  | 0, _, _ => .error stuck
  | depth + 1, key, cursor =>
      reader.body key cursor fun key inner _ => within stuck depth key inner

variable {reader}

/-- A call inside of another one starts behind a lexeme that the other one has read. -/
theorem Calls.movesOn [DecidableEq κ] {key called : κ} {cursor inner : Cursor}
    (hcalls : reader.Calls key cursor called inner) : cursor.MovesOn inner := by
  by_contra hstays
  -- Without such a lexeme the answer is not looked at, and the call fails with every error.
  have hfails : ∀ error, reader.read key cursor = .error error := by
    intro error
    rw [← hcalls error]
    symm
    apply reader.body_eq
    intro other place hplace hadvances
    by_cases hsame : other = called ∧ place = inner
    · rw [hsame.2] at hadvances hplace
      exact absurd ⟨hadvances, hplace⟩ hstays
    · simp only [hsame, if_false]
  have hempty := hfails (.emptyTag default)
  rw [hfails (.emptyExpression default)] at hempty
  simp at hempty

/-- A depth that is larger than the number of lexemes left is no bound. -/
theorem within_eq (stuck : ParseError) {depth : Nat} {cursor : Cursor} (key : κ)
    (hdepth : cursor.size < depth) :
    reader.within stuck depth key cursor = reader.read key cursor := by
  induction depth generalizing key cursor with
  | zero => omega
  | succ depth ih =>
      apply reader.body_eq
      intro key inner hinner _
      exact ih key (by omega)

end RecursiveReader

/-! ## Expressions -/

namespace Expr

variable (tagEnd : Span)

/-- One call of the reader of expressions. -/
def readBody (level : Level) (cursor : Cursor) (nested : Parser.Nested cursor.size) :
    Reading Expr cursor.size := do
  match level with
  | .above power => Parser.operation tagEnd nested power cursor cursor.size_le_self
  | .full =>
      let ⟨head, afterHead, hhead⟩ ← Parser.operation tagEnd nested 0 cursor cursor.size_le_self
      let ⟨value, next, hnext⟩ ← Parser.conditionalTail nested head afterHead hhead
      return ⟨value, next, Cursor.lt_of_lt_succ hhead hnext⟩

theorem readBody_same {nested other : Parser.Nested cursor.size}
    (hnested : nested.SameFrom cursor other) (level : Level) :
    SameFrom cursor (readBody tagEnd level cursor nested) (readBody tagEnd level cursor other) := by
  cases level with
  | above power => exact Parser.operation_same hnested power (.refl cursor) _
  | full =>
      apply (Parser.operation_same hnested 0 (.refl cursor) _).bind
      rintro ⟨head, afterHead, hheadSize⟩ hhead
      apply (Parser.conditionalTail_same hnested head hhead _).bind
      rintro ⟨value, next, hnext⟩ hvalue
      exact .ok hvalue

/-- Expressions of all levels. -/
def recursiveReader : RecursiveReader Level Expr where
  read := read tagEnd
  body := readBody tagEnd
  body_eq := by
    intro level cursor answers hanswers
    have hnested : Parser.Nested.SameFrom cursor answers (Parser.reader tagEnd cursor.size) := by
      intro level inner hinner hadvances
      refine ⟨hanswers level inner hinner hadvances, ?_⟩
      intro step hstep
      have hreads := (read_follows tagEnd level inner).of_ok step hstep
      exact hadvances.trans hreads.advances
    rw [(readBody_same tagEnd hnested level).eq]
    cases level with
    | above power => exact (read_above tagEnd power cursor).symm
    | full =>
        rw [read]
        rfl

end Expr

/-! ## Targets -/

namespace Statement

variable (tagEnd : Span)

/-- One call of the reader of targets. -/
def readTargetsBody (cursor : Cursor)
    (answers : Unit → (inner : Cursor) → inner.size < cursor.size →
      Reading (List String) inner.size) : Reading (List String) cursor.size := do
  let ⟨names, afterItem, hitem⟩ ← show Reading (List String) cursor.size from
    match cursor.take? (.punct .lparen) with
    | some ⟨opened, inside, hinside⟩ => do
        let ⟨names, afterNames, hnames⟩ ← answers () inside hinside
        let ⟨_, next, hnext⟩ ← afterNames.expectInside tagEnd .lparen opened .rparen
        return ⟨names, next, Cursor.lt_trans_trans hinside hnames hnext⟩
    | none => do
        let ⟨(name, span), next, hnext⟩ ← cursor.expectName tagEnd .variableName
        if reservedWords.contains name then
          throw (.invalidSyntax (.reservedTarget name) span)
        return ⟨[name], next, hnext⟩
  match afterItem.take? (.punct .comma) with
  | none => return ⟨names, afterItem, hitem⟩
  | some ⟨_, afterComma, hcomma⟩ =>
      if afterComma.kind? = some (.name "in") ∨ afterComma.atListEnd = true then
        return ⟨names, afterComma, Cursor.lt_trans hitem hcomma⟩
      let ⟨others, next, hnext⟩ ← answers () afterComma (Cursor.lt_trans hitem hcomma)
      return ⟨names ++ others, next, Cursor.lt_trans_trans hitem hcomma hnext⟩

theorem readTargetsBody_same {cursor : Cursor}
    {answers : Unit → (inner : Cursor) → inner.size < cursor.size →
      Reading (List String) inner.size}
    (hanswers : ∀ inner hinner, cursor.Advances inner →
      answers () inner hinner = readTargets tagEnd inner) :
    SameFrom cursor (readTargetsBody tagEnd cursor answers) (readTargets tagEnd cursor) := by
  have hsame : ∀ inner hinner, cursor.Advances inner →
      SameFrom cursor (answers () inner hinner) (readTargets tagEnd inner) := by
    intro inner hinner hadvances
    refine ⟨hanswers inner hinner hadvances, ?_⟩
    intro step hstep
    exact hadvances.trans ((readTargets_takes tagEnd inner).of_ok step hstep).advances
  unfold readTargetsBody
  rw [readTargets]
  apply SameFrom.bind
  · cases hopen : cursor.take? (.punct .lparen) with
    | some opened =>
        rcases opened with ⟨opened, inside, hinside⟩
        apply (hsame inside hinside (Cursor.advances_of_take? hopen)).bind
        rintro ⟨names, afterNames, hnamesSize⟩ hnames
        apply (Cursor.expectInside_same hnames tagEnd .lparen opened .rparen).bind
        rintro ⟨_, next, hnext⟩ hclosed
        exact .ok hclosed
    | none =>
        apply (Cursor.expectName_same (.refl cursor) tagEnd .variableName).bind
        rintro ⟨⟨name, span⟩, next, hnext⟩ hname
        dsimp only
        split
        · exact .error
        · exact .ok hname
  · rintro ⟨names, afterItem, hitemSize⟩ hitem
    cases hcomma : afterItem.take? (.punct .comma) with
    | none =>
        simp only [hcomma]
        exact .ok hitem
    | some comma =>
        have hafter := hitem.trans (Cursor.advances_of_take? hcomma)
        simp only [hcomma]
        split
        · exact .ok hafter
        · apply (hsame comma.next _ hafter).bind
          rintro ⟨others, next, hnext⟩ hothers
          exact .ok hothers

/-- Targets, with those in brackets and those behind a comma. -/
def recursiveTargets : RecursiveReader Unit (List String) where
  read := fun _ => readTargets tagEnd
  body := fun _ => readTargetsBody tagEnd
  body_eq := fun _ _ _ hanswers => (readTargetsBody_same tagEnd (hanswers ())).eq

end Statement

end TemplateVariables
