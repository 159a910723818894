import TemplateVariables.Proofs.Expr.Agreement
import TemplateVariables.Proofs.Node.Spanless
import TemplateVariables.Node.Parser

/-!
# Reading the same tags at other places

What a block tag says depends on the kinds of its lexemes alone.  Read at another place it
gives the same statement up to spans, or an error with the same message.
-/

namespace TemplateVariables

/-! ## Tags -/

namespace Tag

variable {tag tag' : Tag} (htag : tag.lexemes.map Lexeme.kind = tag'.lexemes.map Lexeme.kind)

include htag

theorem arguments_alike : tag.arguments.kinds = tag'.arguments.kinds := by
  change tag.lexemes.tail.map Lexeme.kind = tag'.lexemes.tail.map Lexeme.kind
  rw [List.map_tail, List.map_tail, htag]

theorem expectName_alike : Agree Eq tag.expectName tag'.expectName := by
  unfold expectName
  cases hlexemes : tag.lexemes with
  | nil =>
      rw [hlexemes] at htag
      rw [List.map_eq_nil_iff.1 htag.symm]
      exact Agree.error rfl
  | cons lexeme lexemes =>
      rw [hlexemes] at htag
      obtain ⟨lexeme', lexemes', hlexemes', hkind, -⟩ := List.map_eq_cons_iff.1 htag.symm
      rw [hlexemes']
      obtain ⟨kind, span⟩ := lexeme
      obtain ⟨kind', span'⟩ := lexeme'
      obtain rfl : kind' = kind := hkind
      cases kind' with
      | name word => exact Agree.ok rfl
      | _ => exact Agree.error rfl

theorem name?_alike : tag.name? = tag'.name? := by
  have hhead : tag.lexemes.head?.map Lexeme.kind = tag'.lexemes.head?.map Lexeme.kind := by
    rw [← List.head?_map, ← List.head?_map, htag]
  unfold name?
  cases hlexeme : tag.lexemes.head? with
  | none =>
      rw [hlexeme] at hhead
      rw [Option.map_eq_none_iff.1 hhead.symm]
  | some lexeme =>
      rw [hlexeme] at hhead
      obtain ⟨lexeme', hlexeme', hkind⟩ := Option.map_eq_some_iff.1 hhead.symm
      rw [hlexeme']
      obtain ⟨kind, span⟩ := lexeme
      obtain ⟨kind', span'⟩ := lexeme'
      obtain rfl : kind' = kind := hkind
      cases kind' <;> rfl

theorem expectBare_alike : Agree (fun _ _ => True) tag.expectBare tag'.expectBare := by
  unfold expectBare
  have hlength := congrArg List.length htag
  rw [List.length_map, List.length_map] at hlength
  apply Agree.ite (by rw [hlength])
  · intro _
    rw [name?_alike htag]
    exact Agree.error rfl
  · intro _
    exact Agree.ok trivial

theorem condition_alike :
    Agree (fun value value' : Expr => value.spanless = value'.spanless) tag.condition
      tag'.condition := by
  unfold condition
  apply (Expr.readTuple_alike (.above 0) (arguments_alike htag)).bind
  intro value value' next next' _ _ hvalue hnext
  apply (Cursor.expectEnd_alike hnext).bind
  intro _ _ _
  exact Agree.ok hvalue

end Tag

namespace Statement

section Readers

variable {tagEnd tagEnd' : Span}

/-! ## Names -/

theorem readTargets_alike {cursor cursor' : Cursor} (hcursor : cursor.kinds = cursor'.kinds) :
    Alike id (readTargets tagEnd cursor) (readTargets tagEnd' cursor') := by
  unfold readTargets
  refine Alike.bind (?_ : Alike id _ _) ?_
  · obtain ⟨hopen, hopen'⟩ | ⟨_, _, inside, inside', _, _, hopen, hopen', hinside⟩ :=
      Cursor.take?_alike hcursor (.punct .lparen)
    · rw [hopen, hopen']
      apply (Cursor.expectName_alike hcursor .variableName).bind
      rintro ⟨name, _⟩ ⟨_, _⟩ next next' _ _ rfl hnext
      apply Agree.ite Iff.rfl
      · intro _
        exact Agree.error rfl
      · intro _
        exact Alike.ok rfl hnext
    · rw [hopen, hopen']
      apply (readTargets_alike hinside).bind
      rintro names names' afterNames afterNames' _ _ (rfl : names = names') hafter
      apply (Cursor.expectInside_alike hafter .lparen .rparen).bind
      intro _ _ next next' _ _ _ hnext
      exact Alike.ok rfl hnext
  rintro names names' afterItem afterItem' _ _ (rfl : names = names') hafter
  dsimp only
  obtain ⟨hcomma, hcomma'⟩ | ⟨_, _, afterComma, afterComma', _, _, hcomma, hcomma', hmore⟩ :=
    Cursor.take?_alike hafter (.punct .comma)
  · rw [hcomma, hcomma']
    exact Alike.ok rfl hafter
  rw [hcomma, hcomma']
  apply Agree.ite (by rw [Cursor.kind?_alike hmore, Cursor.atListEnd_alike hmore])
  · intro _
    exact Alike.ok rfl hmore
  intro _
  apply (readTargets_alike hmore).bind
  rintro others others' next next' _ _ (rfl : others = others') hnext
  exact Alike.ok rfl hnext
termination_by cursor.size

theorem skipWord_alike (word : String) {cursor cursor' : Cursor}
    (hcursor : cursor.kinds = cursor'.kinds) :
    (skipWord word cursor).next.kinds = (skipWord word cursor').next.kinds := by
  unfold skipWord
  obtain ⟨hword, hword'⟩ | ⟨_, _, next, next', _, _, hword, hword', hnext⟩ :=
    Cursor.take?_alike hcursor (.name word)
  · rw [hword, hword']
    exact hcursor
  · rw [hword, hword']
    exact hnext

/-! ## Parameters and bindings -/

theorem readParameter_alike {cursor cursor' : Cursor} (hcursor : cursor.kinds = cursor'.kinds) :
    Alike Parameter.spanless (readParameter tagEnd cursor) (readParameter tagEnd' cursor') := by
  unfold readParameter
  apply (Cursor.expectName_alike hcursor .parameter).bind
  rintro ⟨name, _⟩ ⟨_, _⟩ afterName afterName' _ _ rfl hafter
  dsimp only
  obtain ⟨hassign, hassign'⟩ | ⟨_, _, afterAssign, afterAssign', _, _, hassign, hassign', hvalue⟩ :=
    Cursor.take?_alike hafter (.punct .assign)
  · rw [hassign, hassign']
    exact Alike.ok rfl hafter
  rw [hassign, hassign']
  apply (Expr.read_alike .full hvalue).bind
  intro value value' next next' _ _ hvalue hnext
  exact Alike.ok (by simp [Parameter.spanless, hvalue]) hnext

theorem readParametersTail_alike {cursor cursor' : Cursor}
    (hcursor : cursor.kinds = cursor'.kinds) :
    Alike (List.map Parameter.spanless) (readParametersTail tagEnd cursor)
      (readParametersTail tagEnd' cursor') := by
  unfold readParametersTail
  obtain ⟨hclose, hclose'⟩ | ⟨_, _, next, next', _, _, hclose, hclose', hnext⟩ :=
    Cursor.take?_alike hcursor (.punct .rparen)
  rotate_left
  · rw [hclose, hclose']
    exact Alike.ok rfl hnext
  rw [hclose, hclose']
  apply (Cursor.expect_alike hcursor (.punct .comma)).bind
  intro _ _ afterComma afterComma' _ _ _ hcomma
  dsimp only
  obtain ⟨hclose, hclose'⟩ | ⟨_, _, next, next', _, _, hclose, hclose', hnext⟩ :=
    Cursor.take?_alike hcomma (.punct .rparen)
  rotate_left
  · rw [hclose, hclose']
    exact Alike.ok rfl hnext
  rw [hclose, hclose']
  apply (readParameter_alike hcomma).bind
  intro first first' afterFirst afterFirst' _ _ hfirst hafter
  apply (readParametersTail_alike hafter).bind
  intro others others' next next' _ _ hothers hnext
  exact Alike.ok (by rw [List.map_cons, List.map_cons, hfirst, hothers]) hnext
termination_by cursor.size

theorem readParameters_alike {cursor cursor' : Cursor} (hcursor : cursor.kinds = cursor'.kinds) :
    Alike (List.map Parameter.spanless) (readParameters tagEnd cursor)
      (readParameters tagEnd' cursor') := by
  unfold readParameters
  apply (Cursor.expect_alike hcursor (.punct .lparen)).bind
  intro _ _ inside inside' _ _ _ hinside
  dsimp only
  obtain ⟨hclose, hclose'⟩ | ⟨_, _, next, next', _, _, hclose, hclose', hnext⟩ :=
    Cursor.take?_alike hinside (.punct .rparen)
  rotate_left
  · rw [hclose, hclose']
    exact Alike.ok rfl hnext
  rw [hclose, hclose']
  apply (readParameter_alike hinside).bind
  intro first first' afterFirst afterFirst' _ _ hfirst hafter
  apply (readParametersTail_alike hafter).bind
  intro others others' next next' _ _ hothers hnext
  exact Alike.ok (by rw [List.map_cons, List.map_cons, hfirst, hothers]) hnext

theorem readBinding_alike {cursor cursor' : Cursor} (hcursor : cursor.kinds = cursor'.kinds) :
    Alike bindingSpanless (readBinding tagEnd cursor) (readBinding tagEnd' cursor') := by
  unfold readBinding
  apply (Cursor.expectName_alike hcursor .variableName).bind
  rintro ⟨name, _⟩ ⟨_, _⟩ afterName afterName' _ _ rfl hafter
  apply (Cursor.expect_alike hafter (.punct .assign)).bind
  intro _ _ afterAssign afterAssign' _ _ _ hassign
  apply (Expr.read_alike .full hassign).bind
  intro value value' next next' _ _ hvalue hnext
  exact Alike.ok (by simp [bindingSpanless, hvalue]) hnext

theorem readBindingsTail_alike {cursor cursor' : Cursor}
    (hcursor : cursor.kinds = cursor'.kinds) :
    Agree (fun pairs pairs' => pairs.map bindingSpanless = pairs'.map bindingSpanless)
      (readBindingsTail tagEnd cursor) (readBindingsTail tagEnd' cursor') := by
  unfold readBindingsTail
  apply Agree.ite (Cursor.rest_eq_nil_alike hcursor)
  · intro _
    exact Agree.ok rfl
  intro _
  apply (Cursor.expect_alike hcursor (.punct .comma)).bind
  intro _ _ afterComma afterComma' _ _ _ hcomma
  apply (readBinding_alike hcomma).bind
  intro first first' afterFirst afterFirst' _ _ hfirst hafter
  apply (readBindingsTail_alike hafter).bind
  intro others others' hothers
  exact Agree.ok (by rw [List.map_cons, List.map_cons, hfirst, hothers])
termination_by cursor.size

theorem readBindings_alike {cursor cursor' : Cursor} (hcursor : cursor.kinds = cursor'.kinds) :
    Agree (fun pairs pairs' => pairs.map bindingSpanless = pairs'.map bindingSpanless)
      (readBindings tagEnd cursor) (readBindings tagEnd' cursor') := by
  unfold readBindings
  apply Agree.ite (Cursor.rest_eq_nil_alike hcursor)
  · intro _
    exact Agree.ok rfl
  intro _
  apply (readBinding_alike hcursor).bind
  intro first first' afterFirst afterFirst' _ _ hfirst hafter
  apply (readBindingsTail_alike hafter).bind
  intro others others' hothers
  exact Agree.ok (by rw [List.map_cons, List.map_cons, hfirst, hothers])

theorem readFilters_alike {cursor cursor' : Cursor} (hcursor : cursor.kinds = cursor'.kinds) :
    Alike (List.map FilterCall.spanless) (readFilters tagEnd cursor)
      (readFilters tagEnd' cursor') := by
  unfold readFilters
  obtain ⟨hbar, hbar'⟩ | ⟨_, _, afterBar, afterBar', _, _, hbar, hbar', hafterBar⟩ :=
    Cursor.take?_alike hcursor (.punct .pipe)
  · rw [hbar, hbar']
    exact Alike.ok rfl hcursor
  rw [hbar, hbar']
  apply (Expr.readFilter_alike hafterBar).bind
  intro first first' afterFirst afterFirst' _ _ hfirst hafter
  apply (readFilters_alike hafter).bind
  intro others others' next next' _ _ hothers hnext
  exact Alike.ok (by rw [List.map_cons, List.map_cons, hfirst, hothers]) hnext
termination_by cursor.size

/-! ## Imports -/

theorem atContext_eq (cursor : Cursor) :
    atContext cursor =
      match cursor.kinds with
      | .name first :: .name second :: _ =>
          (first == "with" || first == "without") && second == "context"
      | _ => false := by
  obtain ⟨lexemes, _⟩ := cursor
  match lexemes with
  | [] => rfl
  | [⟨kind, _⟩] => cases kind <;> rfl
  | ⟨first, _⟩ :: ⟨second, _⟩ :: _ => cases first <;> cases second <;> rfl

theorem atContext_alike {cursor cursor' : Cursor} (hcursor : cursor.kinds = cursor'.kinds) :
    atContext cursor = atContext cursor' := by
  rw [atContext_eq, atContext_eq, hcursor]

theorem skipContext_alike {cursor cursor' : Cursor} (hcursor : cursor.kinds = cursor'.kinds) :
    (skipContext cursor).next.kinds = (skipContext cursor').next.kinds := by
  unfold skipContext
  rw [atContext_alike hcursor]
  split
  · obtain ⟨hnone, hnone'⟩ | ⟨_, _, _, first, first', _, _, hsome, hsome', hfirst⟩ :=
      Cursor.next?_alike hcursor
    · rw [hnone, hnone']
      exact hcursor
    rw [hsome, hsome']
    dsimp only
    obtain ⟨hnone, hnone'⟩ | ⟨_, _, _, next, next', _, _, hsome, hsome', hnext⟩ :=
      Cursor.next?_alike hfirst
    · rw [hnone, hnone']
      exact hfirst
    · rw [hsome, hsome']
      exact hnext
  · exact hcursor

theorem readImportedName_alike {cursor cursor' : Cursor}
    (hcursor : cursor.kinds = cursor'.kinds) :
    Alike id (readImportedName tagEnd cursor) (readImportedName tagEnd' cursor') := by
  unfold readImportedName
  apply (Cursor.expectName_alike hcursor .importedName).bind
  rintro ⟨name, _⟩ ⟨_, _⟩ afterName afterName' _ _ rfl hafter
  dsimp only
  obtain ⟨has, has'⟩ | ⟨_, _, afterAs, afterAs', _, _, has, has', hafterAs⟩ :=
    Cursor.take?_alike hafter (.name "as")
  · rw [has, has']
    exact Alike.ok rfl hafter
  rw [has, has']
  apply (Cursor.expectName_alike hafterAs .importAlias).bind
  rintro ⟨other, _⟩ ⟨_, _⟩ next next' _ _ rfl hnext
  exact Alike.ok rfl hnext

theorem readImportedNames_alike {cursor cursor' : Cursor}
    (hcursor : cursor.kinds = cursor'.kinds) :
    Alike id (readImportedNames tagEnd cursor) (readImportedNames tagEnd' cursor') := by
  unfold readImportedNames
  apply Agree.ite (by rw [atContext_alike hcursor])
  · intro _
    exact Alike.ok rfl hcursor
  intro _
  apply (readImportedName_alike hcursor).bind
  rintro first first' afterFirst afterFirst' _ _ (rfl : first = first') hafter
  dsimp only
  obtain ⟨hcomma, hcomma'⟩ | ⟨_, _, afterComma, afterComma', _, _, hcomma, hcomma', hmore⟩ :=
    Cursor.take?_alike hafter (.punct .comma)
  · rw [hcomma, hcomma']
    exact Alike.ok rfl hafter
  rw [hcomma, hcomma']
  apply (readImportedNames_alike hmore).bind
  rintro others others' next next' _ _ (rfl : others = others') hnext
  exact Alike.ok rfl hnext
termination_by cursor.size

theorem readSetTargets_alike {cursor cursor' : Cursor} (hcursor : cursor.kinds = cursor'.kinds) :
    Alike id (readSetTargets tagEnd cursor) (readSetTargets tagEnd' cursor') := by
  have hnames : Alike id
      (readTargets tagEnd cursor >>= fun step =>
        pure ⟨step.value.map SetTarget.name, step.next, step.shorter⟩)
      (readTargets tagEnd' cursor' >>= fun step =>
        pure ⟨step.value.map SetTarget.name, step.next, step.shorter⟩) := by
    apply (readTargets_alike hcursor).bind
    rintro names names' next next' _ _ (rfl : names = names') hnext
    exact Alike.ok rfl hnext
  unfold readSetTargets
  obtain ⟨hspace, hspace'⟩ | ⟨space, _, _, afterSpace, afterSpace', _, _, hspace, hspace',
      hafter⟩ :=
    Cursor.name?_alike hcursor
  · rw [hspace, hspace']
    exact hnames
  rw [hspace, hspace']
  dsimp only
  obtain ⟨hdot, hdot'⟩ | ⟨_, _, afterDot, afterDot', _, _, hdot, hdot', hafterDot⟩ :=
    Cursor.take?_alike hafter (.punct .dot)
  · rw [hdot, hdot']
    exact hnames
  rw [hdot, hdot']
  apply (Cursor.expectName_alike hafterDot .attributeName).bind
  rintro ⟨name, _⟩ ⟨_, _⟩ next next' _ _ rfl hnext
  exact Alike.ok rfl hnext

end Readers

/-! ## Statements -/

section Tags

variable {tag tag' : Tag} (htag : tag.lexemes.map Lexeme.kind = tag'.lexemes.map Lexeme.kind)

/-- The same statement up to spans, or errors with the same message. -/
def Alike (reading reading' : Except ParseError Statement) : Prop :=
  Agree (fun statement statement' => statement.spanless = statement'.spanless) reading reading'

/-- What is left is to see that nothing follows. -/
theorem alike_of_expectEnd {cursor cursor' : Cursor} {statement statement' : Statement}
    (hcursor : cursor.kinds = cursor'.kinds)
    (hstatement : statement.spanless = statement'.spanless) :
    Alike (cursor.expectEnd >>= fun _ => pure statement)
      (cursor'.expectEnd >>= fun _ => pure statement') :=
  (Cursor.expectEnd_alike hcursor).bind fun _ _ _ => Agree.ok hstatement

include htag

theorem readIf_alike : Alike (readIf tag) (readIf tag') := by
  apply (Tag.condition_alike htag).bind
  intro condition condition' hcondition
  exact Agree.ok (by simp only [Statement.spanless, Header.spanless, hcondition])

theorem readLoop_alike : Alike (readLoop tag) (readLoop tag') := by
  unfold readLoop
  apply (readTargets_alike (Tag.arguments_alike htag)).bind
  rintro names names' afterNames afterNames' _ _ (rfl : names = names') hafterNames
  apply (Cursor.expect_alike hafterNames (.name "in")).bind
  intro _ _ afterIn afterIn' _ _ _ hafterIn
  apply (Expr.readTuple_alike (.above 0) hafterIn).bind
  intro iterable iterable' afterIterable afterIterable' _ _ hiterable hafter
  dsimp only
  obtain ⟨hif, hif'⟩ | ⟨_, _, afterIf, afterIf', _, _, hif, hif', hafterIf⟩ :=
    Cursor.take?_alike hafter (.name "if")
  · rw [hif, hif']
    refine alike_of_expectEnd (skipWord_alike "recursive" hafter) ?_
    rw [Statement.spanless, Statement.spanless, Header.spanless, Header.spanless, hiterable,
      Cursor.kind?_alike hafter]
  rw [hif, hif']
  apply (Expr.read_alike .full hafterIf).bind
  intro condition condition' afterCondition afterCondition' _ _ hcondition hafterCondition
  refine alike_of_expectEnd (skipWord_alike "recursive" hafterCondition) ?_
  rw [Statement.spanless, Statement.spanless, Header.spanless, Header.spanless, hiterable,
    Cursor.kind?_alike hafterCondition, Option.map_some, Option.map_some, hcondition]

theorem readSet_alike : Alike (readSet tag) (readSet tag') := by
  unfold readSet
  apply (readSetTargets_alike (Tag.arguments_alike htag)).bind
  rintro targets targets' afterTargets afterTargets' _ _ (rfl : targets = targets') hafter
  dsimp only
  obtain ⟨hassign, hassign'⟩ | ⟨_, _, afterAssign, afterAssign', _, _, hassign, hassign',
      hafterAssign⟩ :=
    Cursor.take?_alike hafter (.punct .assign)
  · rw [hassign, hassign']
    dsimp only
    split
    · apply (readFilters_alike hafter).bind
      intro filters filters' next next' _ _ hfilters hnext
      refine alike_of_expectEnd hnext ?_
      simp only [Statement.spanless, Header.spanless, PlainHeader.spanless, hfilters]
    · exact Agree.error rfl
  rw [hassign, hassign']
  apply (Expr.readTuple_alike .full hafterAssign).bind
  intro value value' next next' _ _ hvalue hnext
  refine alike_of_expectEnd hnext ?_
  simp only [Statement.spanless, Node.spanless, hvalue]

theorem readMacro_alike : Alike (readMacro tag) (readMacro tag') := by
  unfold readMacro
  apply (Cursor.expectName_alike (Tag.arguments_alike htag) .macroName).bind
  rintro ⟨name, _⟩ ⟨_, _⟩ afterName afterName' _ _ rfl hafter
  apply (readParameters_alike hafter).bind
  intro params params' next next' _ _ hparams hnext
  refine alike_of_expectEnd hnext ?_
  simp only [Statement.spanless, Header.spanless, PlainHeader.spanless, hparams]

omit htag in
/-- Calls are told from other expressions without a look at spans. -/
theorem readBlockCall_eq (params : List Parameter) (cursor : Cursor) :
    readBlockCall tag params cursor =
      Expr.read tag.endSpan .full cursor >>= fun step =>
        if step.value.spanless matches .call .. then
          step.next.expectEnd >>= fun _ => pure (.opens (.plain (.callBlock params step.value)))
        else .error (.invalidSyntax .notMacroCall step.value.span) := by
  unfold readBlockCall
  apply Ensures.trivial.bind_congr
  rintro ⟨call, next, _⟩ _
  cases call <;> rfl

omit htag in
theorem readBlockCall_alike {params params' : List Parameter}
    (hparams : params.map Parameter.spanless = params'.map Parameter.spanless)
    {cursor cursor' : Cursor} (hcursor : cursor.kinds = cursor'.kinds) :
    Alike (readBlockCall tag params cursor) (readBlockCall tag' params' cursor') := by
  rw [readBlockCall_eq, readBlockCall_eq]
  apply (Expr.read_alike .full hcursor).bind
  intro call call' next next' _ _ hcall hnext
  apply Agree.ite (by rw [hcall])
  · intro _
    refine alike_of_expectEnd hnext ?_
    simp only [Statement.spanless, Header.spanless, PlainHeader.spanless, hparams, hcall]
  · intro _
    exact Agree.error rfl

theorem readCall_alike : Alike (readCall tag) (readCall tag') := by
  unfold readCall
  have harguments := Tag.arguments_alike htag
  apply Agree.ite (by rw [Cursor.kind?_alike harguments])
  · intro _
    apply (readParameters_alike harguments).bind
    intro params params' afterParams afterParams' _ _ hparams hafter
    exact readBlockCall_alike hparams hafter
  · intro _
    exact readBlockCall_alike rfl harguments

theorem readWith_alike : Alike (readWith tag) (readWith tag') := by
  unfold readWith
  apply (readBindings_alike (Tag.arguments_alike htag)).bind
  intro bindings bindings' hbindings
  exact Agree.ok (by
    simp only [Statement.spanless, Header.spanless, PlainHeader.spanless, hbindings])

theorem readFilterBlock_alike : Alike (readFilterBlock tag) (readFilterBlock tag') := by
  unfold readFilterBlock
  apply (Expr.readFilter_alike (Tag.arguments_alike htag)).bind
  intro first first' afterFirst afterFirst' _ _ hfirst hafter
  apply (readFilters_alike hafter).bind
  intro others others' next next' _ _ hothers hnext
  refine alike_of_expectEnd hnext ?_
  simp only [Statement.spanless, Header.spanless, PlainHeader.spanless, List.map_cons, hfirst,
    hothers]

theorem readBlock_alike : Alike (readBlock tag) (readBlock tag') := by
  unfold readBlock
  apply (Cursor.expectName_alike (Tag.arguments_alike htag) .blockName).bind
  rintro ⟨name, _⟩ ⟨_, _⟩ afterName afterName' _ _ rfl hafter
  exact alike_of_expectEnd (skipWord_alike "required" (skipWord_alike "scoped" hafter)) rfl

theorem readExtends_alike : Alike (readExtends tag) (readExtends tag') := by
  unfold readExtends
  apply (Expr.read_alike .full (Tag.arguments_alike htag)).bind
  intro template template' next next' _ _ htemplate hnext
  refine alike_of_expectEnd hnext ?_
  simp only [Statement.spanless, Node.spanless, htemplate]

theorem readInclude_alike : Alike (readInclude tag) (readInclude tag') := by
  unfold readInclude
  apply (Expr.read_alike .full (Tag.arguments_alike htag)).bind
  intro template template' afterTemplate afterTemplate' _ _ htemplate hafter
  have hnode : Statement.spanless (.complete (.includeTemplate template tag.span)) =
      Statement.spanless (.complete (.includeTemplate template' tag'.span)) := by
    simp only [Statement.spanless, Node.spanless, htemplate]
  dsimp only
  obtain ⟨hignore, hignore'⟩ | ⟨_, _, afterIgnore, afterIgnore', _, _, hignore, hignore',
      hafterIgnore⟩ :=
    Cursor.take?_alike hafter (.name "ignore")
  · rw [hignore, hignore']
    exact alike_of_expectEnd (skipContext_alike hafter) hnode
  rw [hignore, hignore']
  apply (Cursor.expect_alike hafterIgnore (.name "missing")).bind
  intro _ _ afterMissing afterMissing' _ _ _ hmissing
  exact alike_of_expectEnd (skipContext_alike hmissing) hnode

theorem readImport_alike : Alike (readImport tag) (readImport tag') := by
  unfold readImport
  apply (Expr.read_alike .full (Tag.arguments_alike htag)).bind
  intro template template' afterTemplate afterTemplate' _ _ htemplate hafter
  apply (Cursor.expect_alike hafter (.name "as")).bind
  intro _ _ afterAs afterAs' _ _ _ has
  apply (Cursor.expectName_alike has .importAlias).bind
  rintro ⟨name, _⟩ ⟨_, _⟩ afterName afterName' _ _ rfl hname
  refine alike_of_expectEnd (skipContext_alike hname) ?_
  simp only [Statement.spanless, Node.spanless, htemplate]

theorem readFrom_alike : Alike (readFrom tag) (readFrom tag') := by
  unfold readFrom
  apply (Expr.read_alike .full (Tag.arguments_alike htag)).bind
  intro template template' afterTemplate afterTemplate' _ _ htemplate hafter
  apply (Cursor.expect_alike hafter (.name "import")).bind
  intro _ _ afterImport afterImport' _ _ _ himport
  apply (readImportedNames_alike himport).bind
  rintro names names' afterNames afterNames' _ _ (rfl : names = names') hafterNames
  apply Agree.ite Iff.rfl
  · intro _
    exact Agree.error rfl
  intro _
  refine alike_of_expectEnd (skipContext_alike hafterNames) ?_
  simp only [Statement.spanless, Node.spanless, htemplate]

theorem readDo_alike : Alike (readDo tag) (readDo tag') := by
  unfold readDo
  apply (Expr.readTuple_alike .full (Tag.arguments_alike htag)).bind
  intro expr expr' next next' _ _ hexpr hnext
  refine alike_of_expectEnd hnext ?_
  simp only [Statement.spanless, Node.spanless, hexpr]

theorem ofTag_alike (word : String) : Alike (ofTag tag word) (ofTag tag' word) := by
  unfold ofTag
  split
  · exact readIf_alike htag
  · exact readLoop_alike htag
  · exact readSet_alike htag
  · exact readMacro_alike htag
  · exact readCall_alike htag
  · exact readWith_alike htag
  · exact readFilterBlock_alike htag
  · exact readBlock_alike htag
  · exact readExtends_alike htag
  · exact readInclude_alike htag
  · exact readImport_alike htag
  · exact readFrom_alike htag
  · exact readDo_alike htag
  · exact (Tag.expectBare_alike htag).bind fun _ _ _ => Agree.ok rfl
  · exact (Tag.expectBare_alike htag).bind fun _ _ _ => Agree.ok rfl
  · exact Agree.error rfl
  · exact Agree.error rfl

end Tags

end Statement

/-! ## Tags among other tags -/

namespace Parser

variable {tag tag' : Tag} (htag : tag.lexemes.map Lexeme.kind = tag'.lexemes.map Lexeme.kind)

theorem strayTag_message {opened opened' : List OpenTag}
    (hopened : opened.map OpenTag.name = opened'.map OpenTag.name) (word : String)
    (span span' : Span) :
    (strayTag opened word span).message = (strayTag opened' word span').message := by
  cases opened with
  | nil =>
      obtain rfl : opened' = [] := List.map_eq_nil_iff.1 hopened.symm
      rfl
  | cons innermost opened =>
      obtain ⟨innermost', opened', rfl, hname, -⟩ := List.map_eq_cons_iff.1 hopened.symm
      rw [strayTag, strayTag, OpenTag.closer, OpenTag.closer, hname]
      rfl

include htag

theorem expressionNode_alike :
    Agree (fun node node' : Node => node.spanless = node'.spanless) (expressionNode tag)
      (expressionNode tag') := by
  unfold expressionNode
  have hempty : tag.lexemes = [] ↔ tag'.lexemes = [] := by
    rw [← List.map_eq_nil_iff, htag, List.map_eq_nil_iff]
  apply Agree.ite hempty
  · intro _
    exact Agree.error rfl
  intro _
  apply (Expr.ofLexemes_alike htag).bind
  intro expr expr' hexpr
  exact Agree.ok (by simp only [Node.spanless, hexpr])

theorem statement_alike {opened opened' : List OpenTag}
    (hopened : opened.map OpenTag.name = opened'.map OpenTag.name) (word : String) :
    Statement.Alike (statement opened word tag) (statement opened' word tag') := by
  unfold statement
  have hloop : opened.all (fun outer => outer.name != "for") =
      opened'.all (fun outer => outer.name != "for") := by
    have hall (opened : List OpenTag) : opened.all (fun outer => outer.name != "for") =
        (opened.map OpenTag.name).all (· != "for") := by
      rw [List.all_map]
      rfl
    rw [hall, hall, hopened]
  apply Agree.ite Iff.rfl
  · intro _
    exact Agree.error (strayTag_message hopened word _ _)
  intro _
  apply Agree.ite (by rw [hloop])
  · intro _
    exact Agree.error rfl
  · intro _
    exact Statement.ofTag_alike htag word

theorem expectRepeatedName_alike {innermost innermost' : OpenTag}
    (hinnermost : innermost.name = innermost'.name) (name : String) :
    Agree (fun _ _ => True) (expectRepeatedName innermost name tag)
      (expectRepeatedName innermost' name tag') := by
  unfold expectRepeatedName
  obtain ⟨hnone, hnone'⟩ | ⟨kind, _, _, next, next', _, _, hsome, hsome', hnext⟩ :=
    Cursor.next?_alike (Tag.arguments_alike htag)
  · rw [hnone, hnone']
    exact Agree.ok trivial
  rw [hsome, hsome']
  apply Agree.ite Iff.rfl
  · intro _
    exact Cursor.expectEnd_alike hnext
  · intro _
    rw [OpenTag.closer, OpenTag.closer, hinnermost]
    exact Agree.error rfl

theorem expectPlainEnd_alike {innermost innermost' : OpenTag}
    (hinnermost : innermost.name = innermost'.name) {header header' : PlainHeader}
    (hheader : header.spanless = header'.spanless) :
    Agree (fun _ _ => True) (expectPlainEnd innermost header tag)
      (expectPlainEnd innermost' header' tag') := by
  unfold expectPlainEnd
  rw [PlainHeader.repeatedName?_of_spanless hheader]
  cases header'.repeatedName? with
  | none => exact Tag.expectBare_alike htag
  | some name => exact expectRepeatedName_alike htag hinnermost name

end Parser

end TemplateVariables
