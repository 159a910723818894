import TemplateVariables.Proofs.Expr.Lexemes

/-!
# How readers move forward

A reader only moves forward: it gets from one place to another by reading the lexemes
between them one after the other, and leaves the rest as they are.
-/

namespace TemplateVariables

namespace Cursor

/-- The second place is reached from the first by reading lexemes. -/
inductive Advances : Cursor → Cursor → Prop where
  | refl (cursor : Cursor) : Advances cursor cursor
  | step {lexeme : Lexeme} {cursor middle next : Cursor} {hsize : middle.size < cursor.size}
      (hnext : cursor.next? = some ⟨lexeme, middle, hsize⟩) (hrest : Advances middle next) :
      Advances cursor next

variable {cursor middle next : Cursor}

theorem Advances.trans (hfirst : Advances cursor middle) (hsecond : Advances middle next) :
    Advances cursor next := by
  induction hfirst with
  | refl => exact hsecond
  | step hnext _ ih => exact .step hnext (ih hsecond)

theorem rest_of_next? {lexeme : Lexeme} {hsize : next.size < cursor.size}
    (hnext : cursor.next? = some ⟨lexeme, next, hsize⟩) :
    cursor.rest = lexeme :: next.rest ∧ next.lastStop = lexeme.span.stop := by
  obtain ⟨lexemes, lastStop⟩ := cursor
  cases lexemes with
  | nil => contradiction
  | cons first others =>
      cases hnext
      exact ⟨rfl, rfl⟩

theorem Advances.suffix (hadvances : Advances cursor next) : next.rest <:+ cursor.rest := by
  induction hadvances with
  | refl => exact List.suffix_refl _
  | step hnext _ ih =>
      rw [(rest_of_next? hnext).1]
      exact ih.trans (List.suffix_cons _ _)

/-! ## Single lexemes -/

theorem advances_of_next? {lexeme : Lexeme} {hsize : next.size < cursor.size}
    (hnext : cursor.next? = some ⟨lexeme, next, hsize⟩) : Advances cursor next :=
  .step hnext (.refl next)

theorem advances_of_take? {kind : LexemeKind} {span : Span} {hsize : next.size < cursor.size}
    (htake : cursor.take? kind = some ⟨span, next, hsize⟩) : Advances cursor next :=
  advances_of_next? (next?_of_take? htake)

theorem advances_of_name? {text : String} {span : Span} {hsize : next.size < cursor.size}
    (hname : cursor.name? = some ⟨(text, span), next, hsize⟩) : Advances cursor next :=
  advances_of_next? (next?_of_name? hname)

theorem advances_of_keyword? {word : String} {hsize : next.size < cursor.size}
    (hword : cursor.keyword? = some ⟨word, next, hsize⟩) : Advances cursor next := by
  unfold keyword? at hword
  split at hword
  · cases hword
  next hname =>
  split at hword
  · cases hword
  next hassign =>
  cases hword
  exact (advances_of_name? hname).trans (advances_of_take? hassign)

theorem next?_of_unaryOp? {op : UnaryOp} {span : Span} {hsize : next.size < cursor.size}
    (hop : cursor.unaryOp? = some ⟨(op, span), next, hsize⟩) :
    cursor.next? = some ⟨⟨op.kind, span⟩, next, hsize⟩ := by
  unfold unaryOp? at hop
  split at hop
  · cases hop
  next lexeme _ _ hnext =>
  obtain ⟨kind, lexemeSpan⟩ := lexeme
  obtain ⟨_, hkind, hstep⟩ := Option.map_eq_some_iff.1 hop
  cases hstep
  rw [UnaryOp.kind_of_ofKind? hkind]
  exact hnext

theorem advances_of_connective {connective : Connective} {hsize : next.size < cursor.size}
    (hconnective : cursor.connective = .ok (some ⟨connective, next, hsize⟩)) :
    Advances cursor next := by
  unfold Cursor.connective at hconnective
  split at hconnective
  · cases hconnective
  next hnext =>
  split at hconnective
  · split at hconnective
    · next hin =>
        cases hconnective
        exact .step hnext (advances_of_take? hin)
    · cases hconnective
  · obtain ⟨_, _, hstep⟩ := Option.map_eq_some_iff.1 (Except.ok.inj hconnective)
    cases hstep
    exact advances_of_next? hnext

theorem moreWords_advances (cursor : Cursor) : Advances cursor (moreWords cursor).next := by
  fun_induction moreWords cursor with
  | case1 cursor => exact .refl cursor
  | case2 cursor => exact .refl cursor
  | case3 cursor _ afterDot _ hdot word _ afterWord _ hword words after _ hmore ih =>
      rw [hmore] at ih
      exact (advances_of_take? hdot).trans ((advances_of_name? hword).trans ih)

/-- A dotted name begins with a word, whose span is reported with it. -/
theorem exists_name?_of_expectDotted {tagEnd : Span} {role : NameRole} {name : DottedName}
    {span : Span} {hsize : next.size < cursor.size}
    (hname : cursor.expectDotted tagEnd role = .ok ⟨(name, span), next, hsize⟩) :
    ∃ word middle hsize, cursor.name? = some ⟨(word, span), middle, hsize⟩ ∧
      Advances middle next := by
  have hdotted : Ensures (cursor.expectDotted tagEnd role) (fun step =>
      ∃ word middle hsize, cursor.name? = some ⟨(word, step.value.2), middle, hsize⟩ ∧
        Advances middle step.next) := by
    unfold expectDotted
    apply (expectName_ensures tagEnd role).bind
    rintro ⟨⟨word, wordSpan⟩, afterWord, hwordSize⟩ ⟨hword, -⟩
    exact Ensures.ok ⟨word, afterWord, hwordSize, hword, moreWords_advances afterWord⟩
  exact hdotted.of_ok _ hname

theorem advances_of_expectDotted {tagEnd : Span} {role : NameRole} {name : DottedName}
    {span : Span} {hsize : next.size < cursor.size}
    (hname : cursor.expectDotted tagEnd role = .ok ⟨(name, span), next, hsize⟩) :
    Advances cursor next := by
  obtain ⟨word, middle, _, hword, hmore⟩ := exists_name?_of_expectDotted hname
  exact (advances_of_name? hword).trans hmore

theorem advances_of_attributeName {tagEnd : Span} {name : String}
    {hsize : next.size < cursor.size}
    (hname : Parser.attributeName tagEnd cursor = .ok ⟨name, next, hsize⟩) :
    Advances cursor next := by
  unfold Parser.attributeName at hname
  split at hname
  · cases hname
  next lexeme _ _ hnext =>
  obtain ⟨kind, span⟩ := lexeme
  dsimp only at hname
  split at hname <;> cases hname <;> exact advances_of_next? hnext

theorem advances_of_star {span : Span} {hsize : next.size < cursor.size}
    (hstar : (cursor.take? (.punct .star) <|> cursor.take? (.punct .power)) =
      some ⟨span, next, hsize⟩) : Advances cursor next := by
  cases htake : cursor.take? (.punct .star) with
  | some step =>
      rw [htake] at hstar
      cases hstar
      exact advances_of_take? htake
  | none =>
      rw [htake] at hstar
      exact advances_of_take? hstar

theorem advances_of_negates {negated : Bool} (hnot : Parser.Negates cursor negated next) :
    Advances cursor next := by
  cases negated with
  | true =>
      obtain ⟨span, hsize, hnot⟩ := hnot
      exact advances_of_take? hnot
  | false =>
      obtain ⟨-, rfl⟩ := hnot
      exact .refl next

theorem advances_of_moreStrings {text whole : String} {span wholeSpan : Span}
    {hsize : next.size < cursor.size + 1}
    (hmore : cursor.moreStrings text span = ⟨(whole, wholeSpan), next, hsize⟩) :
    Advances cursor next := by
  fun_induction moreStrings text span cursor generalizing next with
  | case1 _ _ cursor more moreSpan afterMore _ hnext result after hafter hrec ih =>
      cases hmore
      exact .step hnext (ih hrec)
  | case2 =>
      cases hmore
      exact .refl _

end Cursor

/-! ## Readers -/

namespace Parser

open Cursor

theorem Reads.advances {tagEnd : Span} {form : Form} {cursor next : Cursor}
    (hreads : Reads tagEnd form cursor next) : cursor.Advances next := by
  induction hreads with
  | above _ ih => exact ih
  | full _ _ ihoperation ihtail => exact ihoperation.trans ihtail
  | operation _ _ ihsigned ihtail => exact ihsigned.trans ihtail
  | operatorStop => exact .refl _
  | operatorLoose => exact .refl _
  | operatorTest hconnective _ _ _ ihtest ihtail =>
      exact (advances_of_connective hconnective).trans (ihtest.trans ihtail)
  | operatorJoin hconnective _ _ _ ihright ihtail =>
      exact (advances_of_connective hconnective).trans (ihright.trans ihtail)
  | conditionalStop => exact .refl _
  | conditionalThen hif _ _ _ ihcondition ihtail =>
      exact (advances_of_take? hif).trans (ihcondition.trans ihtail)
  | conditionalElse hif _ helse _ _ ihcondition ihotherwise ihtail =>
      have hotherwise := (advances_of_take? helse).trans (ihotherwise.trans ihtail)
      exact (advances_of_take? hif).trans (ihcondition.trans hotherwise)
  | testArguments hnot hname _ ihargs =>
      exact (advances_of_negates hnot).trans ((advances_of_expectDotted hname).trans ihargs)
  | testBare hnot hname _ _ _ _ ihargs ihhead ihtail =>
      have harg := ihargs.trans (ihhead.trans ihtail)
      exact (advances_of_negates hnot).trans ((advances_of_expectDotted hname).trans harg)
  | testPlain hnot hname _ _ ihargs =>
      exact (advances_of_negates hnot).trans ((advances_of_expectDotted hname).trans ihargs)
  | signedOperator hop _ ih => exact .step (next?_of_unaryOp? hop) ih
  | signedOperand _ _ ih => exact ih
  | operand _ _ _ ihhead ihaccess ihfilters => exact ihhead.trans (ihaccess.trans ihfilters)
  | word hnext _ => exact advances_of_next? hnext
  | number hnext => exact advances_of_next? hnext
  | str hnext hmore => exact .step hnext (advances_of_moreStrings hmore)
  | group hopen _ ih => exact .step hopen ih
  | list hopen _ ih => exact .step hopen ih
  | dict hopen _ ih => exact .step hopen ih
  | accessStop => exact .refl _
  | accessAttribute hdot hname _ ihtail =>
      exact (advances_of_take? hdot).trans ((advances_of_attributeName hname).trans ihtail)
  | accessSubscript _ hopen _ hclose _ ihindex ihtail =>
      have htail := (advances_of_take? hclose).trans ihtail
      exact (advances_of_take? hopen).trans (ihindex.trans htail)
  | accessCall _ _ hopen _ _ ihargs ihtail =>
      exact (advances_of_take? hopen).trans (ihargs.trans ihtail)
  | filterStop => exact .refl _
  | filterNext hbar _ _ ihcall ihtail =>
      exact (advances_of_take? hbar).trans (ihcall.trans ihtail)
  | filterCall hname _ ihargs => exact (advances_of_expectDotted hname).trans ihargs
  | argumentsNone => exact .refl _
  | argumentsSome hopen _ ih => exact (advances_of_take? hopen).trans ih
  | index _ _ _ ih => exact ih
  | sliceFromStart hcolon _ ih => exact (advances_of_take? hcolon).trans ih
  | sliceFrom _ _ hcolon _ ihstart ihtail =>
      exact ihstart.trans ((advances_of_take? hcolon).trans ihtail)
  | sliceStep _ hcolon _ ihstop ihstep =>
      exact ihstop.trans ((advances_of_take? hcolon).trans ihstep)
  | sliceStop _ _ ihstop => exact ihstop
  | partNone => exact .refl _
  | partSome _ _ ih => exact ih
  | groupEmpty hclose => exact advances_of_take? hclose
  | groupTuple _ _ _ _ hclose ihfirst ihothers =>
      exact ihfirst.trans (ihothers.trans (advances_of_take? hclose))
  | groupSingle _ _ _ hclose ih => exact ih.trans (advances_of_take? hclose)
  | groupTailStop => exact .refl _
  | groupTailComma hcomma _ => exact advances_of_take? hcomma
  | groupTailItem hcomma _ _ _ ihfirst ihothers =>
      exact (advances_of_take? hcomma).trans (ihfirst.trans ihothers)
  | seriesEmpty _ hclose => exact advances_of_take? hclose
  | series _ _ _ _ hclose ihfirst ihothers =>
      exact ihfirst.trans (ihothers.trans (advances_of_take? hclose))
  | seriesTailStop => exact .refl _
  | seriesTailComma _ hcomma _ => exact advances_of_take? hcomma
  | seriesTailItem _ hcomma _ _ _ ihfirst ihothers =>
      exact (advances_of_take? hcomma).trans (ihfirst.trans ihothers)
  | itemExpr _ ih => exact ih
  | itemSplat hstar _ ih => exact (advances_of_star hstar).trans ih
  | itemKeyword _ hword _ ih => exact (advances_of_keyword? hword).trans ih
  | itemPositional _ _ _ ih => exact ih
  | itemEntry _ hcolon _ ihkey ihvalue =>
      exact ihkey.trans ((advances_of_take? hcolon).trans ihvalue)
  | tupleSingle _ _ ih => exact ih
  | tuple _ _ _ ihfirst ihothers => exact ihfirst.trans ihothers
  | tupleTailStop => exact .refl _
  | tupleTailComma hcomma _ => exact advances_of_take? hcomma
  | tupleTailItem hcomma _ _ _ ihfirst ihothers =>
      exact (advances_of_take? hcomma).trans (ihfirst.trans ihothers)

end Parser

end TemplateVariables
