import TemplateVariables.Proofs.Expr.Nesting

/-!
# Where errors in expressions point

A reader that fails points to a lexeme that it has come to, to a bracket that it is inside
of, or to the end of the tag.  All of these are places of the source; none of them comes
with a second one.
-/

namespace TemplateVariables

open Text

/-! ## Places -/

/-- The error points to a place of the source and to nothing else. -/
structure ParseError.Fits (source : List Char) (error : ParseError) : Prop where
  span : error.span.Fits source
  alone : error.relatedSpan = none

/-- The reading goes on in the source or fails at a place of it. -/
abbrev Stays (source : List Char) (high : Nat) {α : Type} {bound : Nat}
    (reading : Reading α bound) : Prop :=
  Settles reading (fun step => step.next.Laid source high) (ParseError.Fits source)

/-- The reading succeeds or fails at a place of the source. -/
abbrev Points (source : List Char) {α : Type} (reading : Except ParseError α) : Prop :=
  Settles reading (fun _ => True) (ParseError.Fits source)

variable {source : List Char} {high : Nat} (hlimit : byteLength source ≤ Span.limit)
  {tagEnd : Span} (htagEnd : tagEnd.Fits source)

theorem Settles.invalid {α : Type} {good : α → Prop} {span : Span} (hspan : span.Fits source)
    (fault : Fault) : Settles (.error (.invalidSyntax fault span)) good (ParseError.Fits source) :=
  Settles.error ⟨hspan, rfl⟩

namespace Cursor

variable {cursor : Cursor} (hlaid : cursor.Laid source high)

include hlimit hlaid

theorem expectEnd_points : Points source cursor.expectEnd := by
  obtain ⟨_ | ⟨lexeme, rest⟩, lastStop⟩ := cursor
  · exact Settles.ok trivial
  · exact Settles.invalid ((hlaid.marks lexeme List.mem_cons_self).fits hlimit) _

include htagEnd

theorem unexpected_fits (wanted : Expected) :
    (cursor.unexpected tagEnd wanted).Fits source := by
  obtain ⟨_ | ⟨lexeme, rest⟩, lastStop⟩ := cursor
  · exact ⟨htagEnd, rfl⟩
  · exact ⟨(hlaid.marks lexeme List.mem_cons_self).fits hlimit, rfl⟩

theorem expect_stays (kind : LexemeKind) : Stays source high (cursor.expect tagEnd kind) := by
  unfold expect
  split
  · next htake => exact Settles.ok (hlaid.advances hlimit (advances_of_take? htake))
  · exact Settles.error (unexpected_fits hlimit htagEnd hlaid _)

theorem expectInside_stays (bracket : Punct) {opened : Span} (hopened : opened.Fits source)
    (mark : Punct) : Stays source high (cursor.expectInside tagEnd bracket opened mark) := by
  unfold expectInside
  split
  · exact Settles.invalid hopened _
  · exact expect_stays hlimit htagEnd hlaid _

theorem expectName_stays (role : NameRole) :
    Stays source high (cursor.expectName tagEnd role) := by
  unfold expectName
  split
  · next htake => exact Settles.ok (hlaid.advances hlimit (advances_of_name? htake))
  · exact Settles.error (unexpected_fits hlimit htagEnd hlaid _)

theorem expectDotted_stays (role : NameRole) :
    Stays source high (cursor.expectDotted tagEnd role) := by
  unfold expectDotted
  apply (expectName_stays hlimit htagEnd hlaid role).bind
  rintro ⟨⟨word, span⟩, afterWord, hword⟩ hafterWord
  exact Settles.ok (hafterWord.advances hlimit (moreWords_advances afterWord))

theorem attributeName_stays : Stays source high (Parser.attributeName tagEnd cursor) := by
  unfold Parser.attributeName
  split
  · exact Settles.invalid htagEnd _
  next lexeme next hsize hnext =>
  have hafter := hlaid.step hnext hlimit
  split
  · exact Settles.ok hafter
  · exact Settles.ok hafter
  · exact Settles.invalid ((hlaid.marks_of_next? hnext).fits hlimit) _

omit htagEnd

theorem connective_settles :
    Settles cursor.connective (fun found => ∀ step ∈ found, step.next.Laid source high)
      (ParseError.Fits source) := by
  unfold connective
  split
  · exact Settles.ok (by simp)
  next lexeme afterFirst hfirst hnext =>
  have hafter := hlaid.step hnext hlimit
  split
  · split
    · next hin =>
        apply Settles.ok
        rintro _ ⟨⟩
        exact hafter.advances hlimit (advances_of_take? hin)
    · exact Settles.invalid ((hlaid.marks_of_next? hnext).fits hlimit) _
  · apply Settles.ok
    intro step hstep
    obtain ⟨_, -, rfl⟩ := Option.map_eq_some_iff.1 hstep
    exact hafter

end Cursor

/-! ## Readers -/

namespace Parser

open Cursor

/-- The reader of the expressions inside a larger one stays in the source. -/
def Nested.Stays (source : List Char) (high : Nat) {bound : Nat} (nested : Nested bound) : Prop :=
  ∀ level cursor hbound, cursor.Laid source high →
    TemplateVariables.Stays source high (nested level cursor hbound)

section Series

variable {α : Type} {bound : Nat}
  {item : (cursor : Cursor) → cursor.size < bound → Reading α cursor.size}
  (hitem : ∀ cursor hbound, cursor.Laid source high → Stays source high (item cursor hbound))
  (opening closing : Punct) {opened : Span} (hopened : opened.Fits source)

include hlimit htagEnd hitem hopened

theorem seriesTail_stays {cursor : Cursor} (hlaid : cursor.Laid source high)
    (hbound : cursor.size < bound) :
    Stays source high (seriesTail tagEnd item opening closing opened cursor hbound) := by
  rw [seriesTail]
  split
  · exact Settles.ok hlaid
  apply (expectInside_stays hlimit htagEnd hlaid opening hopened .comma).bind
  rintro ⟨_, afterComma, hcommaSize⟩ hcomma
  dsimp only
  split
  · exact Settles.ok hcomma
  apply (hitem afterComma _ hcomma).bind
  rintro ⟨first, afterFirst, hfirstSize⟩ hfirst
  apply (seriesTail_stays hfirst _).bind
  rintro ⟨others, next, hnext⟩ hothers
  exact Settles.ok hothers
termination_by cursor.size

theorem series_stays {cursor : Cursor} (hlaid : cursor.Laid source high)
    (hbound : cursor.size < bound) :
    Stays source high (series tagEnd item opening closing opened cursor hbound) := by
  unfold series
  split
  · apply (expectInside_stays hlimit htagEnd hlaid opening hopened closing).bind
    rintro ⟨_, next, hnext⟩ hclose
    exact Settles.ok hclose
  apply (hitem cursor hbound hlaid).bind
  rintro ⟨first, afterFirst, hfirstSize⟩ hfirst
  apply (seriesTail_stays hlimit htagEnd hitem opening closing hopened hfirst _).bind
  rintro ⟨others, afterItems, hitemsSize⟩ hothers
  apply (expectInside_stays hlimit htagEnd hothers opening hopened closing).bind
  rintro ⟨_, next, hnext⟩ hclose
  exact Settles.ok hclose

end Series

section Nested

variable {bound : Nat} {nested : Nested bound} (hnested : nested.Stays source high)

include hlimit hnested

theorem groupTail_stays {cursor : Cursor} (hlaid : cursor.Laid source high)
    (hbound : cursor.size < bound) : Stays source high (groupTail nested cursor hbound) := by
  rw [groupTail]
  split
  · exact Settles.ok hlaid
  next afterComma hcommaSize hcomma =>
  have hafter := hlaid.advances hlimit (advances_of_take? hcomma)
  split
  · exact Settles.ok hafter
  apply (hnested .full afterComma _ hafter).bind
  rintro ⟨first, afterFirst, hfirstSize⟩ hfirst
  apply (groupTail_stays hfirst _).bind
  rintro ⟨others, next, hnext⟩ hothers
  exact Settles.ok hothers
termination_by cursor.size

theorem argument_stays {cursor : Cursor} (hlaid : cursor.Laid source high)
    (hbound : cursor.size < bound) : Stays source high (argument nested cursor hbound) := by
  unfold argument
  split
  · next afterStar hstarSize hstar =>
      apply (hnested .full afterStar _ (hlaid.advances hlimit (advances_of_star hstar))).bind
      rintro ⟨value, next, hnext⟩ hvalue
      exact Settles.ok hvalue
  split
  · next word afterWord hwordSize hword =>
      apply (hnested .full afterWord _ (hlaid.advances hlimit (advances_of_keyword? hword))).bind
      rintro ⟨value, next, hnext⟩ hvalue
      exact Settles.ok hvalue
  · apply (hnested .full cursor hbound hlaid).bind
    rintro ⟨value, next, hnext⟩ hvalue
    exact Settles.ok hvalue

omit hlimit in
theorem slicePart_stays {cursor : Cursor} (hlaid : cursor.Laid source high)
    (hbound : cursor.size < bound) : Stays source high (slicePart nested cursor hbound) := by
  unfold slicePart
  split
  · exact Settles.ok hlaid
  apply (hnested .full cursor hbound hlaid).bind
  rintro ⟨value, next, hnext⟩ hvalue
  exact Settles.ok hvalue

theorem sliceTail_stays (start : Option Expr) (opened : Span) {cursor : Cursor}
    (hlaid : cursor.Laid source high) (hbound : cursor.size < bound) :
    Stays source high (sliceTail nested start opened cursor hbound) := by
  unfold sliceTail
  apply (slicePart_stays hnested hlaid hbound).bind
  rintro ⟨stop, afterStop, hstopSize⟩ hstop
  dsimp only
  split
  · next afterColon hcolonSize hcolon =>
      have hafter := hstop.advances hlimit (advances_of_take? hcolon)
      apply (slicePart_stays hnested hafter _).bind
      rintro ⟨step, next, hnext⟩ hstep
      exact Settles.ok hstep
  · exact Settles.ok hstop

theorem subscriptIndex_stays (tagEnd : Span) {cursor : Cursor}
    (hlaid : cursor.Laid source high) (hbound : cursor.size < bound) :
    Stays source high (subscriptIndex tagEnd nested cursor hbound) := by
  unfold subscriptIndex
  split
  · next afterColon hcolonSize hcolon =>
      have hafter := hlaid.advances hlimit (advances_of_take? hcolon)
      apply (sliceTail_stays hlimit hnested none _ hafter _).bind
      rintro ⟨value, next, hnext⟩ hvalue
      exact Settles.ok hvalue
  apply (hnested .full cursor hbound hlaid).bind
  rintro ⟨index, afterIndex, hindexSize⟩ hindex
  dsimp only
  split
  · exact Settles.ok hindex
  · next afterColon hcolonSize hcolon =>
      have hafter := hindex.advances hlimit (advances_of_take? hcolon)
      apply (sliceTail_stays hlimit hnested (some index) _ hafter _).bind
      rintro ⟨value, next, hnext⟩ hvalue
      exact Settles.ok hvalue

theorem conditionalTail_stays (head : Expr) {cursor : Cursor} (hlaid : cursor.Laid source high)
    (hbound : cursor.size < bound) :
    Stays source high (conditionalTail nested head cursor hbound) := by
  rw [conditionalTail]
  split
  · exact Settles.ok hlaid
  next afterIf hifSize hif =>
  apply (hnested (.above 0) afterIf _ (hlaid.advances hlimit (advances_of_take? hif))).bind
  rintro ⟨condition, afterCondition, hconditionSize⟩ hcondition
  dsimp only
  split
  · apply (conditionalTail_stays _ hcondition _).bind
    rintro ⟨value, next, hnext⟩ hvalue
    exact Settles.ok hvalue
  · next afterElse helseSize helse =>
      have hafter := hcondition.advances hlimit (advances_of_take? helse)
      apply (hnested .full afterElse _ hafter).bind
      rintro ⟨otherwise, afterOther, hotherSize⟩ hother
      apply (conditionalTail_stays _ hother _).bind
      rintro ⟨value, next, hnext⟩ hvalue
      exact Settles.ok hvalue
termination_by cursor.size

include htagEnd

theorem group_stays {opened : Span} (hopened : opened.Fits source) {cursor : Cursor}
    (hlaid : cursor.Laid source high) (hbound : cursor.size < bound) :
    Stays source high (group tagEnd nested opened cursor hbound) := by
  unfold group
  split
  · next hclose => exact Settles.ok (hlaid.advances hlimit (advances_of_take? hclose))
  apply (hnested .full cursor hbound hlaid).bind
  rintro ⟨first, afterFirst, hfirstSize⟩ hfirst
  dsimp only
  split
  · apply (groupTail_stays hlimit hnested hfirst _).bind
    rintro ⟨others, afterItems, hitemsSize⟩ hothers
    apply (expectInside_stays hlimit htagEnd hothers .lparen hopened .rparen).bind
    rintro ⟨_, next, hnext⟩ hclose
    exact Settles.ok hclose
  · apply (expectInside_stays hlimit htagEnd hfirst .lparen hopened .rparen).bind
    rintro ⟨_, next, hnext⟩ hclose
    exact Settles.ok hclose

theorem entry_stays {cursor : Cursor} (hlaid : cursor.Laid source high)
    (hbound : cursor.size < bound) : Stays source high (entry tagEnd nested cursor hbound) := by
  unfold entry
  apply (hnested .full cursor hbound hlaid).bind
  rintro ⟨key, afterKey, hkeySize⟩ hkey
  apply (expect_stays hlimit htagEnd hkey (.punct .colon)).bind
  rintro ⟨_, afterColon, hcolonSize⟩ hcolon
  apply (hnested .full afterColon _ hcolon).bind
  rintro ⟨value, next, hnext⟩ hvalue
  exact Settles.ok hvalue

theorem arguments_stays {opened : Span} (hopened : opened.Fits source) {cursor : Cursor}
    (hlaid : cursor.Laid source high) (hbound : cursor.size < bound) :
    Stays source high (arguments tagEnd nested opened cursor hbound) :=
  series_stays hlimit htagEnd (fun _ _ hlaid => argument_stays hlimit hnested hlaid _) _ _
    hopened hlaid hbound

theorem arguments?_stays {cursor : Cursor} (hlaid : cursor.Laid source high)
    (hbound : cursor.size < bound) :
    Stays source high (arguments? tagEnd nested cursor hbound) := by
  unfold arguments?
  split
  · next opened inside hinsideSize hopen =>
      have hopened := (hlaid.marks_of_next? (next?_of_take? hopen)).fits hlimit
      have hinside := hlaid.advances hlimit (advances_of_take? hopen)
      apply (arguments_stays hlimit htagEnd hnested hopened hinside _).bind
      rintro ⟨args, next, hnext⟩ hargs
      exact Settles.ok hargs
  · exact Settles.ok hlaid

theorem primary_stays {cursor : Cursor} (hlaid : cursor.Laid source high)
    (hbound : cursor.size ≤ bound) : Stays source high (primary tagEnd nested cursor hbound) := by
  unfold primary
  split
  · exact Settles.invalid htagEnd _
  next lexeme next hnextSize hnext =>
  have hlexeme := (hlaid.marks_of_next? hnext).fits hlimit
  have hafter := hlaid.step hnext hlimit
  split
  · split
    · exact Settles.ok hafter
    · exact Settles.invalid hlexeme _
  · exact Settles.ok hafter
  · next text _ =>
      apply Settles.ok
      exact hafter.advances hlimit (advances_of_moreStrings rfl)
  · apply (group_stays hlimit htagEnd hnested hlexeme hafter _).bind
    rintro ⟨value, next, hgroupSize⟩ hgroup
    exact Settles.ok hgroup
  · apply (series_stays hlimit htagEnd (fun cursor hbound hlaid =>
      hnested .full cursor hbound hlaid) _ _ hlexeme hafter _).bind
    rintro ⟨items, next, hitemsSize⟩ hitems
    exact Settles.ok hitems
  · apply (series_stays hlimit htagEnd (fun cursor hbound hlaid =>
      entry_stays hlimit htagEnd hnested hlaid hbound) _ _ hlexeme hafter _).bind
    rintro ⟨entries, next, hentriesSize⟩ hentries
    exact Settles.ok hentries
  · exact Settles.invalid hlexeme _

theorem accessTail_stays (value : Expr) {cursor : Cursor} (hlaid : cursor.Laid source high)
    (hbound : cursor.size < bound) :
    Stays source high (accessTail tagEnd nested value cursor hbound) := by
  rw [accessTail]
  split
  · next afterDot hdotSize hdot =>
      have hafter := hlaid.advances hlimit (advances_of_take? hdot)
      apply (attributeName_stays hlimit htagEnd hafter).bind
      rintro ⟨name, afterName, hnameSize⟩ hname
      apply (accessTail_stays _ hname _).bind
      rintro ⟨value, next, hnext⟩ hvalue
      exact Settles.ok hvalue
  split
  · next opened inside hinsideSize hopen =>
      have hopened := (hlaid.marks_of_next? (next?_of_take? hopen)).fits hlimit
      have hinside := hlaid.advances hlimit (advances_of_take? hopen)
      apply (subscriptIndex_stays hlimit hnested tagEnd hinside _).bind
      rintro ⟨index, afterIndex, hindexSize⟩ (hindex : afterIndex.Laid source high)
      apply (expectInside_stays hlimit htagEnd hindex .lbracket hopened .rbracket).bind
      rintro ⟨_, closed, hclosedSize⟩ hclosed
      apply (accessTail_stays _ hclosed _).bind
      rintro ⟨value, next, hnext⟩ hvalue
      exact Settles.ok hvalue
  split
  · next opened inside hinsideSize hopen =>
      have hopened := (hlaid.marks_of_next? (next?_of_take? hopen)).fits hlimit
      have hinside := hlaid.advances hlimit (advances_of_take? hopen)
      apply (arguments_stays hlimit htagEnd hnested hopened hinside _).bind
      rintro ⟨args, closed, hclosedSize⟩ hclosed
      apply (accessTail_stays _ hclosed _).bind
      rintro ⟨value, next, hnext⟩ hvalue
      exact Settles.ok hvalue
  · exact Settles.ok hlaid
termination_by cursor.size

theorem filterCall_stays {cursor : Cursor} (hlaid : cursor.Laid source high)
    (hbound : cursor.size < bound) :
    Stays source high (filterCall tagEnd nested cursor hbound) := by
  unfold filterCall
  apply (expectDotted_stays hlimit htagEnd hlaid .filter).bind
  rintro ⟨⟨name, start⟩, afterName, hnameSize⟩ hname
  apply (arguments?_stays hlimit htagEnd hnested hname _).bind
  rintro ⟨args, next, hnext⟩ hargs
  exact Settles.ok hargs

theorem filterTail_stays (value : Expr) {cursor : Cursor} (hlaid : cursor.Laid source high)
    (hbound : cursor.size < bound) :
    Stays source high (filterTail tagEnd nested value cursor hbound) := by
  rw [filterTail]
  split
  · exact Settles.ok hlaid
  next afterBar hbarSize hbar =>
  have hafter := hlaid.advances hlimit (advances_of_take? hbar)
  apply (filterCall_stays hlimit htagEnd hnested hafter _).bind
  rintro ⟨filter, afterFilter, hfilterSize⟩ hfilter
  apply (filterTail_stays _ hfilter _).bind
  rintro ⟨value, next, hnext⟩ hvalue
  exact Settles.ok hvalue
termination_by cursor.size

theorem operand_stays {cursor : Cursor} (hlaid : cursor.Laid source high)
    (hbound : cursor.size ≤ bound) : Stays source high (operand tagEnd nested cursor hbound) := by
  unfold operand
  apply (primary_stays hlimit htagEnd hnested hlaid hbound).bind
  rintro ⟨head, afterHead, hheadSize⟩ hhead
  apply (accessTail_stays hlimit htagEnd hnested head hhead _).bind
  rintro ⟨accessed, afterAccess, haccessSize⟩ haccess
  apply (filterTail_stays hlimit htagEnd hnested accessed haccess _).bind
  rintro ⟨value, next, hnext⟩ hvalue
  exact Settles.ok hvalue

theorem test_stays (value : Expr) {cursor : Cursor} (hlaid : cursor.Laid source high)
    (hbound : cursor.size < bound) :
    Stays source high (test tagEnd nested value cursor hbound) := by
  unfold test
  split
  next negated start hstartSize hstart =>
  have hstartLaid : start.Laid source high := by
    split at hstart
    · next hnot =>
        cases hstart
        exact hlaid.advances hlimit (advances_of_take? hnot)
    · cases hstart
      exact hlaid
  apply (expectDotted_stays hlimit htagEnd hstartLaid .test).bind
  rintro ⟨⟨name, _⟩, afterName, hnameSize⟩ hname
  apply (arguments?_stays hlimit htagEnd hnested hname _).bind
  rintro ⟨args?, afterArgs, hargsSize⟩ hargs
  cases args? with
  | some args => exact Settles.ok hargs
  | none =>
      dsimp only
      split
      · apply (primary_stays hlimit htagEnd hnested hargs _).bind
        rintro ⟨head, afterHead, hheadSize⟩ hhead
        apply (accessTail_stays hlimit htagEnd hnested head hhead _).bind
        rintro ⟨arg, next, hnext⟩ harg
        exact Settles.ok harg
      · exact Settles.ok hargs

theorem operatorTail_stays (power : Nat) (left : Expr) {cursor : Cursor}
    (hlaid : cursor.Laid source high) (hbound : cursor.size < bound) :
    Stays source high (operatorTail tagEnd nested power left cursor hbound) := by
  rw [operatorTail]
  apply (connective_settles hlimit hlaid).bind
  rintro (_ | ⟨connective, afterOp, hopSize⟩) hfound
  · exact Settles.ok hlaid
  have hop : afterOp.Laid source high := hfound _ rfl
  dsimp only
  split
  · exact Settles.ok hlaid
  cases connective with
  | test =>
      apply (test_stays hlimit htagEnd hnested left hop _).bind
      rintro ⟨tested, afterTest, htestSize⟩ htest
      apply (operatorTail_stays power tested htest _).bind
      rintro ⟨value, next, hnext⟩ hvalue
      exact Settles.ok hvalue
  | operator op =>
      apply (hnested (.above op.powers.2) afterOp _ hop).bind
      rintro ⟨right, afterRight, hrightSize⟩ hright
      apply (operatorTail_stays power _ hright _).bind
      rintro ⟨value, next, hnext⟩ hvalue
      exact Settles.ok hvalue
termination_by cursor.size

theorem signed_stays {cursor : Cursor} (hlaid : cursor.Laid source high)
    (hbound : cursor.size ≤ bound) : Stays source high (signed tagEnd nested cursor hbound) := by
  unfold signed
  split
  · next op start afterOp hopSize hop =>
      have hafter := hlaid.step (next?_of_unaryOp? hop) hlimit
      apply (hnested (.above op.power) afterOp _ hafter).bind
      rintro ⟨inner, next, hnext⟩ hinner
      exact Settles.ok hinner
  · exact operand_stays hlimit htagEnd hnested hlaid hbound

theorem operation_stays (power : Nat) {cursor : Cursor} (hlaid : cursor.Laid source high)
    (hbound : cursor.size ≤ bound) :
    Stays source high (operation tagEnd nested power cursor hbound) := by
  unfold operation
  apply (signed_stays hlimit htagEnd hnested hlaid hbound).bind
  rintro ⟨left, afterLeft, hleftSize⟩ hleft
  apply (operatorTail_stays hlimit htagEnd hnested power left hleft _).bind
  rintro ⟨value, next, hnext⟩ hvalue
  exact Settles.ok hvalue

end Nested

end Parser

namespace Expr

include hlimit htagEnd

theorem read_stays (level : Level) {cursor : Cursor} (hlaid : cursor.Laid source high) :
    Stays source high (read tagEnd level cursor) := by
  have hnested : (Parser.reader tagEnd cursor.size).Stays source high :=
    fun level inner _hinner hinnerLaid => read_stays level hinnerLaid
  cases level with
  | above power =>
      rw [read_above]
      exact Parser.operation_stays hlimit htagEnd hnested power hlaid _
  | full =>
      rw [read]
      apply (Parser.operation_stays hlimit htagEnd hnested 0 hlaid _).bind
      rintro ⟨head, afterHead, hheadSize⟩ hhead
      apply (Parser.conditionalTail_stays hlimit hnested head hhead _).bind
      rintro ⟨value, next, hnext⟩ hvalue
      exact Settles.ok hvalue
termination_by cursor.size

theorem readTupleTail_stays (level : Level) {cursor : Cursor} (hlaid : cursor.Laid source high) :
    Stays source high (readTupleTail tagEnd level cursor) := by
  rw [readTupleTail]
  split
  · exact Settles.ok hlaid
  next afterComma hcommaSize hcomma =>
  have hafter := hlaid.advances hlimit (Cursor.advances_of_take? hcomma)
  split
  · exact Settles.ok hafter
  apply (read_stays hlimit htagEnd level hafter).bind
  rintro ⟨first, afterFirst, hfirstSize⟩ hfirst
  apply (readTupleTail_stays level hfirst).bind
  rintro ⟨others, next, hnext⟩ hothers
  exact Settles.ok hothers
termination_by cursor.size

theorem readTuple_stays (level : Level) {cursor : Cursor} (hlaid : cursor.Laid source high) :
    Stays source high (readTuple tagEnd level cursor) := by
  unfold readTuple
  apply (read_stays hlimit htagEnd level hlaid).bind
  rintro ⟨first, afterFirst, hfirstSize⟩ hfirst
  dsimp only
  split
  · apply (readTupleTail_stays hlimit htagEnd level hfirst).bind
    rintro ⟨others, next, hnext⟩ hothers
    exact Settles.ok hothers
  · exact Settles.ok hfirst

theorem readFilter_stays {cursor : Cursor} (hlaid : cursor.Laid source high) :
    Stays source high (readFilter tagEnd cursor) :=
  Parser.filterCall_stays hlimit htagEnd
    (fun level _ _ hinner => read_stays hlimit htagEnd level hinner) hlaid (Nat.lt_succ_self _)

end Expr

end TemplateVariables
