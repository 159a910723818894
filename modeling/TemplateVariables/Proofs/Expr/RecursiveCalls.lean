import TemplateVariables.Proofs.Expr.Progress

/-!
# Recursive calls of the readers of expressions

The readers of the parts of an expression are given a reader for the expressions
inside of it.  They use it only at places that they have reached by reading lexemes.
So two readers that agree on these places may be exchanged for each other, and whatever
a part of an expression comes to, an error included, depends on nothing else.
-/

namespace TemplateVariables

/-! ## Readings that are the same from a place on -/

/-- The readings are the same, and the place where they end is reached from the origin. -/
structure SameFrom (origin : Cursor) {α : Type} {bound : Nat} (reading other : Reading α bound) :
    Prop where
  eq : reading = other
  reaches : ∀ step, other = .ok step → origin.Advances step.next

namespace SameFrom

variable {α β : Type} {bound bound' : Nat} {origin : Cursor} {reading other : Reading α bound}

theorem ok {value : α} {next : Cursor} {hsize : next.size < bound}
    (hnext : origin.Advances next) :
    SameFrom origin (.ok ⟨value, next, hsize⟩ : Reading α bound) (.ok ⟨value, next, hsize⟩) := by
  refine ⟨rfl, ?_⟩
  rintro _ ⟨⟩
  exact hnext

theorem error {error : ParseError} :
    SameFrom origin (.error error : Reading α bound) (.error error) := by
  refine ⟨rfl, ?_⟩
  rintro _ ⟨⟩

theorem refl {holds : Step α bound → Prop} (hreading : Ensures reading holds)
    (hholds : ∀ step, holds step → origin.Advances step.next) : SameFrom origin reading reading :=
  ⟨rfl, fun step hok => hholds step (hreading.of_ok step hok)⟩

theorem bind {continuation continuation' : Step α bound → Reading β bound'}
    (hreading : SameFrom origin reading other)
    (hcontinuation : ∀ step, origin.Advances step.next →
      SameFrom origin (continuation step) (continuation' step)) :
    SameFrom origin (reading >>= continuation) (other >>= continuation') := by
  rw [hreading.eq]
  cases hother : other with
  | error failure => exact error
  | ok step => exact hcontinuation step (hreading.reaches step hother)

end SameFrom

namespace Cursor

variable {origin cursor : Cursor} (hreached : origin.Advances cursor) (tagEnd : Span)

include hreached

theorem expect_same (kind : LexemeKind) :
    SameFrom origin (cursor.expect tagEnd kind) (cursor.expect tagEnd kind) :=
  .refl (Parser.expect_takes cursor kind)
    fun _ htake => hreached.trans (advances_of_take? htake)

theorem expectInside_same (bracket : Punct) (opened : Span) (mark : Punct) :
    SameFrom origin (cursor.expectInside tagEnd bracket opened mark)
      (cursor.expectInside tagEnd bracket opened mark) :=
  .refl (Parser.expectInside_takes cursor bracket opened mark)
    fun _ htake => hreached.trans (advances_of_take? htake)

theorem expectDotted_same (role : NameRole) :
    SameFrom origin (cursor.expectDotted tagEnd role) (cursor.expectDotted tagEnd role) :=
  ⟨rfl, fun _ hname => hreached.trans (advances_of_expectDotted hname)⟩

theorem expectName_same (role : NameRole) :
    SameFrom origin (cursor.expectName tagEnd role) (cursor.expectName tagEnd role) :=
  .refl (expectName_ensures tagEnd role)
    fun _ hname => hreached.trans (advances_of_name? hname.1)

theorem attributeName_same :
    SameFrom origin (Parser.attributeName tagEnd cursor) (Parser.attributeName tagEnd cursor) :=
  ⟨rfl, fun _ hname => hreached.trans (advances_of_attributeName hname)⟩

end Cursor

/-! ## The parts of an expression -/

namespace Parser

open Cursor

variable {tagEnd : Span} {origin : Cursor}

section Series

variable {α : Type} {bound : Nat}
  {item other : (cursor : Cursor) → cursor.size < bound → Reading α cursor.size}
  (hitem : ∀ cursor hbound, origin.Advances cursor →
    SameFrom origin (item cursor hbound) (other cursor hbound))
  (opening closing : Punct) (opened : Span)

include hitem

theorem seriesTail_same {cursor : Cursor} (hreached : origin.Advances cursor)
    (hbound : cursor.size < bound) :
    SameFrom origin (seriesTail tagEnd item opening closing opened cursor hbound)
      (seriesTail tagEnd other opening closing opened cursor hbound) := by
  unfold seriesTail
  by_cases hclose : cursor.kind? = some (.punct closing)
  · simp only [hclose, if_true]
    exact .ok hreached
  simp only [hclose, if_false]
  apply (expectInside_same hreached tagEnd opening opened .comma).bind
  rintro ⟨_, afterComma, hcommaSize⟩ hcomma
  by_cases hend : afterComma.kind? = some (.punct closing)
  · simp only [hend, if_true]
    exact .ok hcomma
  simp only [hend, if_false]
  apply (hitem afterComma _ hcomma).bind
  rintro ⟨first, afterFirst, hfirstSize⟩ hfirst
  apply (seriesTail_same hfirst _).bind
  rintro ⟨others, next, hnext⟩ hothers
  exact .ok hothers
termination_by cursor.size

theorem series_same {cursor : Cursor} (hreached : origin.Advances cursor)
    (hbound : cursor.size < bound) :
    SameFrom origin (series tagEnd item opening closing opened cursor hbound)
      (series tagEnd other opening closing opened cursor hbound) := by
  unfold series
  by_cases hclose : cursor.kind? = some (.punct closing)
  · simp only [hclose, if_true]
    apply (expectInside_same hreached tagEnd opening opened closing).bind
    rintro ⟨_, next, hnext⟩ hclosed
    exact .ok hclosed
  simp only [hclose, if_false]
  apply (hitem cursor hbound hreached).bind
  rintro ⟨first, afterFirst, hfirstSize⟩ hfirst
  apply (seriesTail_same hitem opening closing opened hfirst _).bind
  rintro ⟨others, afterItems, hitemsSize⟩ hothers
  apply (expectInside_same hothers tagEnd opening opened closing).bind
  rintro ⟨_, next, hnext⟩ hclosed
  exact .ok hclosed

end Series

/-- The readers answer alike at the places that are reached from the origin. -/
def Nested.SameFrom {bound : Nat} (origin : Cursor) (nested other : Nested bound) : Prop :=
  ∀ level cursor hbound, origin.Advances cursor →
    TemplateVariables.SameFrom origin (nested level cursor hbound) (other level cursor hbound)

section Nested

variable {bound : Nat} {nested other : Nested bound} (hnested : nested.SameFrom origin other)

include hnested

theorem groupTail_same {cursor : Cursor} (hreached : origin.Advances cursor)
    (hbound : cursor.size < bound) :
    SameFrom origin (groupTail nested cursor hbound) (groupTail other cursor hbound) := by
  unfold groupTail
  cases hcomma : cursor.take? (.punct .comma) with
  | none => exact .ok hreached
  | some comma =>
      have hafter := hreached.trans (advances_of_take? hcomma)
      dsimp only
      by_cases hend : comma.next.kind? = some (.punct .rparen)
      · simp only [hend, if_true]
        exact .ok hafter
      simp only [hend, if_false]
      apply (hnested .full comma.next _ hafter).bind
      rintro ⟨first, afterFirst, hfirstSize⟩ hfirst
      apply (groupTail_same hfirst _).bind
      rintro ⟨others, next, hnext⟩ hothers
      exact .ok hothers
termination_by cursor.size
decreasing_by exact Cursor.lt_trans comma.shorter hfirstSize

theorem group_same (opened : Span) {cursor : Cursor} (hreached : origin.Advances cursor)
    (hbound : cursor.size < bound) :
    SameFrom origin (group tagEnd nested opened cursor hbound)
      (group tagEnd other opened cursor hbound) := by
  unfold group
  cases hclose : cursor.take? (.punct .rparen) with
  | some closed => exact .ok (hreached.trans (advances_of_take? hclose))
  | none =>
      apply (hnested .full cursor hbound hreached).bind
      rintro ⟨first, afterFirst, hfirstSize⟩ hfirst
      dsimp only
      by_cases hcomma : afterFirst.kind? = some (.punct .comma)
      · simp only [hcomma, if_true]
        apply (groupTail_same hnested hfirst _).bind
        rintro ⟨others, afterItems, hitemsSize⟩ hothers
        apply (expectInside_same hothers tagEnd .lparen opened .rparen).bind
        rintro ⟨_, next, hnext⟩ hclosed
        exact .ok hclosed
      · simp only [hcomma, if_false]
        apply (expectInside_same hfirst tagEnd .lparen opened .rparen).bind
        rintro ⟨_, next, hnext⟩ hclosed
        exact .ok hclosed

theorem entry_same {cursor : Cursor} (hreached : origin.Advances cursor)
    (hbound : cursor.size < bound) :
    SameFrom origin (entry tagEnd nested cursor hbound) (entry tagEnd other cursor hbound) := by
  unfold entry
  apply (hnested .full cursor hbound hreached).bind
  rintro ⟨key, afterKey, hkeySize⟩ hkey
  apply (expect_same hkey tagEnd (.punct .colon)).bind
  rintro ⟨_, afterColon, hcolonSize⟩ hcolon
  apply (hnested .full afterColon _ hcolon).bind
  rintro ⟨value, next, hnext⟩ hvalue
  exact .ok hvalue

theorem argument_same {cursor : Cursor} (hreached : origin.Advances cursor)
    (hbound : cursor.size < bound) :
    SameFrom origin (argument nested cursor hbound) (argument other cursor hbound) := by
  unfold argument
  cases hstar : cursor.take? (.punct .star) <|> cursor.take? (.punct .power) with
  | some star =>
      apply (hnested .full star.next _ (hreached.trans (advances_of_star hstar))).bind
      rintro ⟨value, next, hnext⟩ hvalue
      exact .ok hvalue
  | none =>
      dsimp only
      cases hword : cursor.keyword? with
      | some word =>
          apply (hnested .full word.next _ (hreached.trans (advances_of_keyword? hword))).bind
          rintro ⟨value, next, hnext⟩ hvalue
          exact .ok hvalue
      | none =>
          apply (hnested .full cursor hbound hreached).bind
          rintro ⟨value, next, hnext⟩ hvalue
          exact .ok hvalue

theorem arguments_same (opened : Span) {cursor : Cursor} (hreached : origin.Advances cursor)
    (hbound : cursor.size < bound) :
    SameFrom origin (arguments tagEnd nested opened cursor hbound)
      (arguments tagEnd other opened cursor hbound) :=
  series_same (fun _ hbound hreached => argument_same hnested hreached hbound) _ _ opened
    hreached hbound

theorem arguments?_same {cursor : Cursor} (hreached : origin.Advances cursor)
    (hbound : cursor.size < bound) :
    SameFrom origin (arguments? tagEnd nested cursor hbound)
      (arguments? tagEnd other cursor hbound) := by
  unfold arguments?
  cases hopen : cursor.take? (.punct .lparen) with
  | none => exact .ok hreached
  | some opened =>
      have hinside := hreached.trans (advances_of_take? hopen)
      apply (arguments_same hnested opened.value hinside _).bind
      rintro ⟨args, next, hnext⟩ hargs
      exact .ok hargs

theorem primary_same {cursor : Cursor} (hreached : origin.Advances cursor)
    (hbound : cursor.size ≤ bound) :
    SameFrom origin (primary tagEnd nested cursor hbound)
      (primary tagEnd other cursor hbound) := by
  unfold primary
  cases hnext : cursor.next? with
  | none => exact .error
  | some first =>
      rcases first with ⟨⟨kind, span⟩, next, hsize⟩
      have hafter := hreached.trans (advances_of_next? hnext)
      cases kind with
      | name word =>
          dsimp only
          cases Expr.ofWord? word span with
          | none => exact .error
          | some value => exact .ok hafter
      | number text => exact .ok hafter
      | str text =>
          have hmore := advances_of_moreStrings (Eq.refl (next.moreStrings text span))
          exact .ok (hafter.trans hmore)
      | punct mark =>
          cases mark with
          | lparen =>
              apply (group_same hnested span hafter _).bind
              rintro ⟨value, after, hsize⟩ hvalue
              exact .ok hvalue
          | lbracket =>
              apply (series_same (hnested .full) _ _ span hafter _).bind
              rintro ⟨items, after, hsize⟩ hitems
              exact .ok hitems
          | lbrace =>
              apply (series_same (fun _ hbound hreached => entry_same hnested hreached hbound) _ _
                span hafter _).bind
              rintro ⟨entries, after, hsize⟩ hentries
              exact .ok hentries
          | _ => exact .error

theorem slicePart_same {cursor : Cursor} (hreached : origin.Advances cursor)
    (hbound : cursor.size < bound) :
    SameFrom origin (slicePart nested cursor hbound) (slicePart other cursor hbound) := by
  unfold slicePart
  split
  · exact .ok hreached
  · apply (hnested .full cursor hbound hreached).bind
    rintro ⟨value, next, hnext⟩ hvalue
    exact .ok hvalue

theorem sliceTail_same (start : Option Expr) (opened : Span) {cursor : Cursor}
    (hreached : origin.Advances cursor) (hbound : cursor.size < bound) :
    SameFrom origin (sliceTail nested start opened cursor hbound)
      (sliceTail other start opened cursor hbound) := by
  unfold sliceTail
  apply (slicePart_same hnested hreached hbound).bind
  rintro ⟨stop, afterStop, hstopSize⟩ hstop
  dsimp only
  cases hcolon : afterStop.take? (.punct .colon) with
  | none => exact .ok hstop
  | some colon =>
      apply (slicePart_same hnested (hstop.trans (advances_of_take? hcolon)) _).bind
      rintro ⟨step, next, hnext⟩ hstep
      exact .ok hstep

theorem subscriptIndex_same {cursor : Cursor} (hreached : origin.Advances cursor)
    (hbound : cursor.size < bound) :
    SameFrom origin (subscriptIndex tagEnd nested cursor hbound)
      (subscriptIndex tagEnd other cursor hbound) := by
  unfold subscriptIndex
  cases hcolon : cursor.take? (.punct .colon) with
  | some colon =>
      have hafter := hreached.trans (advances_of_take? hcolon)
      apply (sliceTail_same hnested none _ hafter _).bind
      rintro ⟨value, next, hnext⟩ hvalue
      exact .ok hvalue
  | none =>
      apply (hnested .full cursor hbound hreached).bind
      rintro ⟨index, afterIndex, hindexSize⟩ hindex
      dsimp only
      cases hcolon : afterIndex.take? (.punct .colon) with
      | none => exact .ok hindex
      | some colon =>
          have hafter := hindex.trans (advances_of_take? hcolon)
          apply (sliceTail_same hnested (some index) _ hafter _).bind
          rintro ⟨value, next, hnext⟩ hvalue
          exact .ok hvalue

theorem accessTail_same (value : Expr) {cursor : Cursor} (hreached : origin.Advances cursor)
    (hbound : cursor.size < bound) :
    SameFrom origin (accessTail tagEnd nested value cursor hbound)
      (accessTail tagEnd other value cursor hbound) := by
  unfold accessTail
  cases hdot : cursor.take? (.punct .dot) with
  | some dot =>
      rcases dot with ⟨_, afterDot, hdotSize⟩
      have hafter := hreached.trans (advances_of_take? hdot)
      apply (attributeName_same hafter tagEnd).bind
      rintro ⟨name, afterName, hnameSize⟩ hname
      apply (accessTail_same _ hname _).bind
      rintro ⟨value, next, hnext⟩ hvalue
      exact .ok hvalue
  | none =>
  cases hopen : cursor.take? (.punct .lbracket) with
  | some opened =>
      rcases opened with ⟨opened, inside, hinsideSize⟩
      have hinside := hreached.trans (advances_of_take? hopen)
      apply (subscriptIndex_same hnested hinside _).bind
      rintro ⟨index, afterIndex, hindexSize⟩ (hindex : origin.Advances afterIndex)
      apply (expectInside_same hindex tagEnd .lbracket opened .rbracket).bind
      rintro ⟨_, closed, hclosedSize⟩ hclosed
      apply (accessTail_same _ hclosed _).bind
      rintro ⟨value, next, hnext⟩ hvalue
      exact .ok hvalue
  | none =>
  cases hopen : cursor.take? (.punct .lparen) with
  | some opened =>
      rcases opened with ⟨opened, inside, hinsideSize⟩
      have hinside := hreached.trans (advances_of_take? hopen)
      apply (arguments_same hnested opened hinside _).bind
      rintro ⟨args, closed, hclosedSize⟩ hclosed
      apply (accessTail_same _ hclosed _).bind
      rintro ⟨value, next, hnext⟩ hvalue
      exact .ok hvalue
  | none => exact .ok hreached
termination_by cursor.size

theorem filterCall_same {cursor : Cursor} (hreached : origin.Advances cursor)
    (hbound : cursor.size < bound) :
    SameFrom origin (filterCall tagEnd nested cursor hbound)
      (filterCall tagEnd other cursor hbound) := by
  unfold filterCall
  apply (expectDotted_same hreached tagEnd .filter).bind
  rintro ⟨⟨name, start⟩, afterName, hnameSize⟩ hname
  apply (arguments?_same hnested hname _).bind
  rintro ⟨args, next, hnext⟩ hargs
  exact .ok hargs

theorem filterTail_same (value : Expr) {cursor : Cursor} (hreached : origin.Advances cursor)
    (hbound : cursor.size < bound) :
    SameFrom origin (filterTail tagEnd nested value cursor hbound)
      (filterTail tagEnd other value cursor hbound) := by
  unfold filterTail
  cases hbar : cursor.take? (.punct .pipe) with
  | none => exact .ok hreached
  | some bar =>
      apply (filterCall_same hnested (hreached.trans (advances_of_take? hbar)) _).bind
      rintro ⟨filter, afterFilter, hfilterSize⟩ hfilter
      apply (filterTail_same _ hfilter _).bind
      rintro ⟨value, next, hnext⟩ hvalue
      exact .ok hvalue
termination_by cursor.size
decreasing_by exact Cursor.lt_trans bar.shorter hfilterSize

theorem operand_same {cursor : Cursor} (hreached : origin.Advances cursor)
    (hbound : cursor.size ≤ bound) :
    SameFrom origin (operand tagEnd nested cursor hbound)
      (operand tagEnd other cursor hbound) := by
  unfold operand
  apply (primary_same hnested hreached hbound).bind
  rintro ⟨head, afterHead, hheadSize⟩ hhead
  apply (accessTail_same hnested head hhead _).bind
  rintro ⟨accessed, afterAccess, haccessSize⟩ haccess
  apply (filterTail_same hnested accessed haccess _).bind
  rintro ⟨value, next, hnext⟩ hvalue
  exact .ok hvalue

theorem test_same (value : Expr) {cursor : Cursor} (hreached : origin.Advances cursor)
    (hbound : cursor.size < bound) :
    SameFrom origin (test tagEnd nested value cursor hbound)
      (test tagEnd other value cursor hbound) := by
  unfold test
  split
  next negated start hstartSize hstart =>
  have hstartReached : origin.Advances start := by
    split at hstart
    · next hnot =>
        cases hstart
        exact hreached.trans (advances_of_take? hnot)
    · cases hstart
      exact hreached
  apply (expectDotted_same hstartReached tagEnd .test).bind
  rintro ⟨⟨name, _⟩, afterName, hnameSize⟩ hname
  apply (arguments?_same hnested hname _).bind
  rintro ⟨args?, afterArgs, hargsSize⟩ hargs
  cases args? with
  | some args => exact .ok hargs
  | none =>
      dsimp only
      split
      · apply (primary_same hnested hargs _).bind
        rintro ⟨head, afterHead, hheadSize⟩ hhead
        apply (accessTail_same hnested head hhead _).bind
        rintro ⟨arg, next, hnext⟩ harg
        exact .ok harg
      · exact .ok hargs

theorem operatorTail_same (power : Nat) (left : Expr) {cursor : Cursor}
    (hreached : origin.Advances cursor) (hbound : cursor.size < bound) :
    SameFrom origin (operatorTail tagEnd nested power left cursor hbound)
      (operatorTail tagEnd other power left cursor hbound) := by
  rw [operatorTail, operatorTail]
  cases hconnective : cursor.connective with
  | error failure => exact .error
  | ok found =>
  rcases found with _ | ⟨connective, afterOp, hopSize⟩
  · exact .ok hreached
  have hop := hreached.trans (advances_of_connective hconnective)
  dsimp only [bind, Except.bind]
  by_cases hloose : connective.leftPower < power
  · simp only [hloose, if_true]
    exact .ok hreached
  simp only [hloose, if_false]
  cases connective with
  | test =>
      apply (test_same hnested left hop _).bind
      rintro ⟨tested, afterTest, htestSize⟩ htest
      apply (operatorTail_same power tested htest _).bind
      rintro ⟨value, next, hnext⟩ hvalue
      exact .ok hvalue
  | operator op =>
      apply (hnested (.above op.powers.2) afterOp _ hop).bind
      rintro ⟨right, afterRight, hrightSize⟩ hright
      apply (operatorTail_same power _ hright _).bind
      rintro ⟨value, next, hnext⟩ hvalue
      exact .ok hvalue
termination_by cursor.size

theorem signed_same {cursor : Cursor} (hreached : origin.Advances cursor)
    (hbound : cursor.size ≤ bound) :
    SameFrom origin (signed tagEnd nested cursor hbound) (signed tagEnd other cursor hbound) := by
  unfold signed
  cases hop : cursor.unaryOp? with
  | none => exact operand_same hnested hreached hbound
  | some op =>
      have hafter := hreached.trans (advances_of_next? (next?_of_unaryOp? hop))
      apply (hnested (.above op.value.1.power) op.next _ hafter).bind
      rintro ⟨inner, next, hnext⟩ hinner
      exact .ok hinner

theorem operation_same (power : Nat) {cursor : Cursor} (hreached : origin.Advances cursor)
    (hbound : cursor.size ≤ bound) :
    SameFrom origin (operation tagEnd nested power cursor hbound)
      (operation tagEnd other power cursor hbound) := by
  unfold operation
  apply (signed_same hnested hreached hbound).bind
  rintro ⟨left, afterLeft, hleftSize⟩ hleft
  apply (operatorTail_same hnested power left hleft _).bind
  rintro ⟨value, next, hnext⟩ hvalue
  exact .ok hvalue

theorem conditionalTail_same (head : Expr) {cursor : Cursor} (hreached : origin.Advances cursor)
    (hbound : cursor.size < bound) :
    SameFrom origin (conditionalTail nested head cursor hbound)
      (conditionalTail other head cursor hbound) := by
  unfold conditionalTail
  cases hif : cursor.take? (.name "if") with
  | none => exact .ok hreached
  | some word =>
      rcases word with ⟨_, afterIf, hifSize⟩
      apply (hnested (.above 0) afterIf _ (hreached.trans (advances_of_take? hif))).bind
      rintro ⟨condition, afterCondition, hconditionSize⟩ hcondition
      dsimp only
      cases helse : afterCondition.take? (.name "else") with
      | none =>
          apply (conditionalTail_same _ hcondition _).bind
          rintro ⟨value, next, hnext⟩ hvalue
          exact .ok hvalue
      | some word =>
          rcases word with ⟨_, afterElse, helseSize⟩
          have hafter := hcondition.trans (advances_of_take? helse)
          apply (hnested .full afterElse _ hafter).bind
          rintro ⟨otherwise, afterOther, hotherSize⟩ hother
          apply (conditionalTail_same _ hother _).bind
          rintro ⟨value, next, hnext⟩ hvalue
          exact .ok hvalue
termination_by cursor.size

end Nested

end Parser

end TemplateVariables
