import TemplateVariables.Proofs.Expr.Lexemes

/-!
# Brackets in expressions

The brackets that are open behind a list of lexemes are a stack.  A reader leaves
the stack as it finds it, apart from the bracket that it is there to close.  So
the end of what a reader uses up in a bracketed list of lexemes can be told from
the brackets alone.
-/

namespace TemplateVariables

/-! ## Stacks of brackets -/

/-- The open brackets behind the lexemes, innermost first, or nothing when a closing bracket
does not answer the innermost open one. -/
def LexemeKind.brackets? (opened : List Punct) : List LexemeKind → Option (List Punct)
  | [] => some opened
  | .punct mark :: rest =>
      if mark.isOpening then LexemeKind.brackets? (mark :: opened) rest
      else
        match mark.opening? with
        | none => LexemeKind.brackets? opened rest
        | some opening =>
            match opened with
            | [] => none
            | innermost :: outer =>
                if innermost = opening then LexemeKind.brackets? outer rest else none
  | _ :: rest => LexemeKind.brackets? opened rest

/-- Every bracket is closed by its own. -/
def LexemeKind.Balanced (kinds : List LexemeKind) : Prop :=
  LexemeKind.brackets? [] kinds = some []

namespace LexemeKind

variable {opened closed outer : List Punct} {kinds rest middle next : List LexemeKind}

theorem brackets?_append (opened : List Punct) (kinds rest : List LexemeKind) :
    brackets? opened (kinds ++ rest) =
      (brackets? opened kinds).bind fun closed => brackets? closed rest := by
  fun_induction brackets? opened kinds <;> simp_all [brackets?]

/-- Brackets that are open further out stay open. -/
theorem brackets?_frame (hkinds : brackets? opened kinds = some closed) (outer : List Punct) :
    brackets? (opened ++ outer) kinds = some (closed ++ outer) := by
  fun_induction brackets? opened kinds <;> simp_all [brackets?]

/-- The lexemes up to `rest` close the brackets `opened`, and all that open among them. -/
def Closes (opened : List Punct) (kinds rest : List LexemeKind) : Prop :=
  ∃ used, kinds = used ++ rest ∧ brackets? opened used = some []

theorem Closes.refl (kinds : List LexemeKind) : Closes [] kinds kinds :=
  ⟨[], rfl, rfl⟩

theorem Closes.suffix (hkinds : Closes opened kinds rest) : rest <:+ kinds := by
  obtain ⟨used, rfl, -⟩ := hkinds
  exact List.suffix_append used rest

theorem Closes.trans (hkinds : Closes [] kinds middle) (hmiddle : Closes opened middle next) :
    Closes opened kinds next := by
  obtain ⟨used, rfl, hused⟩ := hkinds
  obtain ⟨more, rfl, hmore⟩ := hmiddle
  refine ⟨used ++ more, (List.append_assoc used more next).symm, ?_⟩
  rw [brackets?_append, ← List.nil_append opened, brackets?_frame hused]
  exact hmore

theorem Closes.then (hkinds : Closes opened kinds middle) (hmiddle : Closes [] middle next) :
    Closes opened kinds next := by
  obtain ⟨used, rfl, hused⟩ := hkinds
  obtain ⟨more, rfl, hmore⟩ := hmiddle
  refine ⟨used ++ more, (List.append_assoc used more next).symm, ?_⟩
  rw [brackets?_append, hused]
  exact hmore

/-- Lexemes with brackets that are closed among them can be passed over. -/
theorem Balanced.closes (hkinds : Balanced kinds) (rest : List LexemeKind) :
    Closes [] (kinds ++ rest) rest :=
  ⟨kinds, rfl, hkinds⟩

theorem closes_cons (kind : LexemeKind) (rest : List LexemeKind) (hkind : Balanced [kind]) :
    Closes [] (kind :: rest) rest :=
  Balanced.closes hkind rest

theorem Closes.opening {mark : Punct} (hmark : mark.isOpening = true)
    (hrest : Closes (mark :: opened) rest next) : Closes opened (.punct mark :: rest) next := by
  obtain ⟨used, rfl, hused⟩ := hrest
  exact ⟨.punct mark :: used, rfl, by rw [brackets?, if_pos hmark, hused]⟩

theorem closes_closing {mark opening : Punct} (hmark : mark.opening? = some opening)
    (rest : List LexemeKind) : Closes [opening] (.punct mark :: rest) rest := by
  refine ⟨[.punct mark], rfl, ?_⟩
  cases mark <;> cases hmark <;> rfl

theorem balanced_strs (texts : List String) : Balanced (texts.map .str) := by
  induction texts with
  | nil => rfl
  | cons text texts ih => exact ih

end LexemeKind

theorem Connective.balanced_kinds (connective : Connective) :
    LexemeKind.Balanced connective.kinds := by
  cases connective with
  | test => rfl
  | operator op => cases op <;> rfl

theorem DottedName.balanced_kinds (name : DottedName) :
    LexemeKind.Balanced (DottedName.kinds name) := by
  cases name with
  | nil => rfl
  | cons word words =>
      induction words with
      | nil => rfl
      | cons next words ih => exact ih

namespace Parser

open LexemeKind

/-- The brackets that are open where the reader begins and that it closes. -/
def Form.opened : Form → List Punct
  | .group _ _ => [.lparen]
  | .series closing _ => closing.opening?.toList
  | _ => []

theorem closes_of_take? {cursor next : Cursor} {kind : LexemeKind} {span : Span}
    {hsize : next.size < cursor.size}
    (htake : cursor.take? kind = some ⟨span, next, hsize⟩) (hkind : Balanced [kind]) :
    Closes [] cursor.kinds next.kinds := by
  rw [Cursor.kinds_of_take? htake]
  exact closes_cons _ _ hkind

theorem closes_of_next? {cursor next : Cursor} {kind : LexemeKind} {span : Span}
    {hsize : next.size < cursor.size}
    (hnext : cursor.next? = some ⟨⟨kind, span⟩, next, hsize⟩) (hkind : Balanced [kind]) :
    Closes [] cursor.kinds next.kinds := by
  rw [Cursor.kinds_of_next? hnext]
  exact closes_cons _ _ hkind

theorem closes_of_open {cursor inside : Cursor} {mark : Punct} {span : Span}
    {hsize : inside.size < cursor.size} {next : List LexemeKind} {opened : List Punct}
    (hmark : mark.isOpening = true)
    (hopen : cursor.take? (.punct mark) = some ⟨span, inside, hsize⟩)
    (hinside : Closes (mark :: opened) inside.kinds next) :
    Closes opened cursor.kinds next := by
  rw [Cursor.kinds_of_take? hopen]
  exact hinside.opening hmark

theorem closes_of_close {cursor next : Cursor} {mark opening : Punct} {span : Span}
    {hsize : next.size < cursor.size} (hmark : mark.opening? = some opening)
    (hclose : cursor.take? (.punct mark) = some ⟨span, next, hsize⟩) :
    Closes [opening] cursor.kinds next.kinds := by
  rw [Cursor.kinds_of_take? hclose]
  exact closes_closing hmark _

theorem closes_of_expectDotted {cursor next : Cursor} {tagEnd : Span} {role : NameRole}
    {name : DottedName} {span : Span} {hsize : next.size < cursor.size}
    (hname : cursor.expectDotted tagEnd role = .ok ⟨(name, span), next, hsize⟩) :
    Closes [] cursor.kinds next.kinds := by
  rw [Cursor.kinds_of_expectDotted hname]
  exact (DottedName.balanced_kinds name).closes _

theorem closes_of_connective {cursor next : Cursor} {connective : Connective}
    {hsize : next.size < cursor.size}
    (hconnective : cursor.connective = .ok (some ⟨connective, next, hsize⟩)) :
    Closes [] cursor.kinds next.kinds := by
  rw [Cursor.kinds_of_connective hconnective]
  exact connective.balanced_kinds.closes _

theorem closes_of_negates {cursor start : Cursor} {negated : Bool}
    (hnot : Negates cursor negated start) : Closes [] cursor.kinds start.kinds := by
  rw [Cursor.kinds_of_negates hnot]
  apply Balanced.closes
  cases negated <;> rfl

/-- Every reader closes the brackets that are open before it as far as they are its own, and
all that it opens. -/
theorem Reads.closes {tagEnd : Span} {form : Form} {cursor next : Cursor}
    (hreads : Reads tagEnd form cursor next) :
    Closes form.opened cursor.kinds next.kinds := by
  induction hreads with
  | above _ ih => exact ih
  | full _ _ ihoperation ihtail => exact ihoperation.trans ihtail
  | operation _ _ ihsigned ihtail => exact ihsigned.trans ihtail
  | operatorStop => exact .refl _
  | operatorLoose => exact .refl _
  | operatorTest hconnective _ _ _ ihtest ihtail =>
      exact (closes_of_connective hconnective).trans (ihtest.trans ihtail)
  | operatorJoin hconnective _ _ _ ihright ihtail =>
      exact (closes_of_connective hconnective).trans (ihright.trans ihtail)
  | conditionalStop => exact .refl _
  | conditionalThen hif _ _ _ ihcondition ihtail =>
      exact (closes_of_take? hif rfl).trans (ihcondition.trans ihtail)
  | conditionalElse hif _ helse _ _ ihcondition ihotherwise ihtail =>
      have hotherwise := (closes_of_take? helse rfl).trans (ihotherwise.trans ihtail)
      exact (closes_of_take? hif rfl).trans (ihcondition.trans hotherwise)
  | testArguments hnot hname _ ihargs =>
      exact (closes_of_negates hnot).trans ((closes_of_expectDotted hname).trans ihargs)
  | testBare hnot hname _ _ _ _ ihargs ihhead ihtail =>
      have harg := ihargs.trans (ihhead.trans ihtail)
      exact (closes_of_negates hnot).trans ((closes_of_expectDotted hname).trans harg)
  | testPlain hnot hname _ _ ihargs =>
      exact (closes_of_negates hnot).trans ((closes_of_expectDotted hname).trans ihargs)
  | @signedOperator op _ _ _ _ _ _ hop _ ih =>
      rw [Cursor.kinds_of_unaryOp? hop]
      refine (closes_cons _ _ ?_).trans ih
      cases op <;> rfl
  | signedOperand _ _ ih => exact ih
  | operand _ _ _ ihhead ihaccess ihfilters => exact ihhead.trans (ihaccess.trans ihfilters)
  | word hnext _ => exact closes_of_next? hnext rfl
  | number hnext => exact closes_of_next? hnext rfl
  | str hnext hmore =>
      obtain ⟨texts, hmoreKinds, -, -⟩ := Cursor.kinds_of_moreStrings hmore
      refine (closes_of_next? hnext rfl).trans ?_
      rw [hmoreKinds]
      exact (balanced_strs texts).closes _
  | group hopen _ ih =>
      rw [Cursor.kinds_of_next? hopen]
      exact ih.opening rfl
  | list hopen _ ih =>
      rw [Cursor.kinds_of_next? hopen]
      exact ih.opening rfl
  | dict hopen _ ih =>
      rw [Cursor.kinds_of_next? hopen]
      exact ih.opening rfl
  | accessStop => exact .refl _
  | accessAttribute hdot hname _ ihtail =>
      obtain ⟨kind, hkind, hnameKinds⟩ := Cursor.kinds_of_attributeName hname
      refine (closes_of_take? hdot rfl).trans ?_
      rw [hnameKinds]
      rcases hkind with rfl | rfl
      · exact (closes_cons (.name _) _ rfl).trans ihtail
      · exact (closes_cons (.number _) _ rfl).trans ihtail
  | accessSubscript _ hopen _ hclose _ ihindex ihtail =>
      exact closes_of_open rfl hopen ((ihindex.trans (closes_of_close rfl hclose)).then ihtail)
  | accessCall _ _ hopen _ _ ihargs ihtail => exact closes_of_open rfl hopen (ihargs.then ihtail)
  | filterStop => exact .refl _
  | filterNext hbar _ _ ihcall ihtail =>
      exact (closes_of_take? hbar rfl).trans (ihcall.trans ihtail)
  | filterCall hname _ ihargs => exact (closes_of_expectDotted hname).trans ihargs
  | argumentsNone => exact .refl _
  | argumentsSome hopen _ ih => exact closes_of_open rfl hopen ih
  | index _ _ _ ih => exact ih
  | sliceFromStart hcolon _ ih => exact (closes_of_take? hcolon rfl).trans ih
  | sliceFrom _ _ hcolon _ ihstart ihtail =>
      exact ihstart.trans ((closes_of_take? hcolon rfl).trans ihtail)
  | sliceStep _ hcolon _ ihstop ihstep =>
      exact ihstop.trans ((closes_of_take? hcolon rfl).trans ihstep)
  | sliceStop _ _ ihstop => exact ihstop
  | partNone => exact .refl _
  | partSome _ _ ih => exact ih
  | groupEmpty hclose => exact closes_of_close rfl hclose
  | groupTuple _ _ _ _ hclose ihfirst ihothers =>
      exact ihfirst.trans (ihothers.trans (closes_of_close rfl hclose))
  | groupSingle _ _ _ hclose ih => exact ih.trans (closes_of_close rfl hclose)
  | groupTailStop => exact .refl _
  | groupTailComma hcomma _ => exact closes_of_take? hcomma rfl
  | groupTailItem hcomma _ _ _ ihfirst ihothers =>
      exact (closes_of_take? hcomma rfl).trans (ihfirst.trans ihothers)
  | seriesEmpty hclosing hclose =>
      obtain ⟨opening, hopening⟩ := Option.isSome_iff_exists.1 hclosing
      rw [Form.opened, hopening]
      exact closes_of_close hopening hclose
  | series hclosing _ _ _ hclose ihfirst ihothers =>
      obtain ⟨opening, hopening⟩ := Option.isSome_iff_exists.1 hclosing
      rw [Form.opened, hopening]
      exact ihfirst.trans (ihothers.trans (closes_of_close hopening hclose))
  | seriesTailStop => exact .refl _
  | seriesTailComma _ hcomma _ => exact closes_of_take? hcomma rfl
  | seriesTailItem _ hcomma _ _ _ ihfirst ihothers =>
      exact (closes_of_take? hcomma rfl).trans (ihfirst.trans ihothers)
  | itemExpr _ ih => exact ih
  | itemSplat hstar _ ih =>
      obtain ⟨mark, hmark, hkinds⟩ := Cursor.kinds_of_star hstar
      rw [hkinds]
      refine (closes_cons _ _ ?_).trans ih
      simp only [List.mem_cons, List.not_mem_nil, or_false] at hmark
      rcases hmark with rfl | rfl <;> rfl
  | itemKeyword _ hword _ ih =>
      rw [Cursor.kinds_of_keyword? hword]
      exact (closes_cons (.name _) _ rfl).trans ((closes_cons (.punct .assign) _ rfl).trans ih)
  | itemPositional _ _ _ ih => exact ih
  | itemEntry _ hcolon _ ihkey ihvalue =>
      exact ihkey.trans ((closes_of_take? hcolon rfl).trans ihvalue)
  | tupleSingle _ _ ih => exact ih
  | tuple _ _ _ ihfirst ihothers => exact ihfirst.trans ihothers
  | tupleTailStop => exact .refl _
  | tupleTailComma hcomma _ => exact closes_of_take? hcomma rfl
  | tupleTailItem hcomma _ _ _ ihfirst ihothers =>
      exact (closes_of_take? hcomma rfl).trans (ihfirst.trans ihothers)

end Parser

end TemplateVariables
