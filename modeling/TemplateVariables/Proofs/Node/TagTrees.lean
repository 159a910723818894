import TemplateVariables.Proofs.Expr.Brackets
import TemplateVariables.Proofs.Expr.Nesting
import TemplateVariables.Proofs.Node.Targets
import TemplateVariables.Proofs.Node.TreeMachine

/-!
# The trees of a tag

Behind its first word a tag is a row of single lexemes, among which expressions and filter
calls are read.  Its readers differ in the lexemes they ask for, but all of them close the
brackets they open, use the tag up to its end, and put the trees they read into the
statement in the order in which they stand in the tag.
-/

namespace TemplateVariables

open LexemeKind TemplateVariables.Parser

/-- The expressions and filter calls that the readers of statements ask for. -/
def Parser.Form.IsWhole : Form → Prop
  | .expression _ _ => True
  | .tuple _ _ => True
  | .filterCall _ => True
  | _ => False

/-- From the first place to the second there are single lexemes and the given trees.  The
brackets `opened` are open at the first place, innermost first, and none at the second. -/
inductive Takes (tagEnd : Span) : List Punct → Cursor → List Subtree → Cursor → Prop where
  | stop (cursor : Cursor) : Takes tagEnd [] cursor [] cursor
  | lexeme {lexeme : Lexeme} {opened inner : List Punct} {trees : List Subtree}
      {cursor middle next : Cursor} {hsize : middle.size < cursor.size}
      (hnext : cursor.next? = some ⟨lexeme, middle, hsize⟩)
      (hbrackets : brackets? opened [lexeme.kind] = some inner)
      (hrest : Takes tagEnd inner middle trees next) : Takes tagEnd opened cursor trees next
  | read {form : Form} {opened : List Punct} {trees : List Subtree} {cursor middle next : Cursor}
      (hform : form.IsWhole) (hreads : Reads tagEnd form cursor middle)
      (hrest : Takes tagEnd opened middle trees next) :
      Takes tagEnd opened cursor (form.trees ++ trees) next

namespace Takes

variable {tagEnd : Span} {opened outer : List Punct} {trees others : List Subtree}
  {cursor middle next : Cursor}

theorem trans (hfirst : Takes tagEnd opened cursor trees middle)
    (hsecond : Takes tagEnd outer middle others next) :
    Takes tagEnd (opened ++ outer) cursor (trees ++ others) next := by
  induction hfirst with
  | stop => exact hsecond
  | lexeme hnext hbrackets _ ih =>
      exact .lexeme hnext (brackets?_frame hbrackets outer) (ih hsecond)
  | read hform hreads _ ih =>
      rw [List.append_assoc]
      exact .read hform hreads (ih hsecond)

theorem of_take? {kind : LexemeKind} {span : Span} {hsize : next.size < cursor.size}
    (htake : cursor.take? kind = some ⟨span, next, hsize⟩) (hkind : Balanced [kind]) :
    Takes tagEnd [] cursor [] next :=
  .lexeme (Cursor.next?_of_take? htake) hkind (.stop next)

theorem of_name? {text : String} {span : Span} {hsize : next.size < cursor.size}
    (hname : cursor.name? = some ⟨(text, span), next, hsize⟩) : Takes tagEnd [] cursor [] next :=
  .lexeme (Cursor.next?_of_name? hname) rfl (.stop next)

theorem of_open {span : Span} {hsize : middle.size < cursor.size}
    (hopen : cursor.take? (.punct .lparen) = some ⟨span, middle, hsize⟩)
    (hinside : Takes tagEnd [.lparen] middle trees next) : Takes tagEnd [] cursor trees next :=
  .lexeme (Cursor.next?_of_take? hopen) rfl hinside

theorem of_close {span : Span} {hsize : next.size < cursor.size}
    (hclose : cursor.take? (.punct .rparen) = some ⟨span, next, hsize⟩) :
    Takes tagEnd [.lparen] cursor [] next :=
  .lexeme (Cursor.next?_of_take? hclose) rfl (.stop next)

theorem of_reads {form : Form} (hreads : Reads tagEnd form cursor next) (hform : form.IsWhole) :
    Takes tagEnd [] cursor form.trees next := by
  have hread := read hform hreads (stop next)
  rwa [List.append_nil] at hread

/-- Targets are single lexemes with brackets among them. -/
theorem of_targets {rule : TargetRule} {names : List String}
    (hreads : ReadsTargets rule cursor names next) : Takes tagEnd [] cursor [] next := by
  induction hreads with
  | name hname => exact of_name? hname
  | group hopen _ hclose ih => exact of_open hopen (ih.trans (of_close hclose))
  | last _ _ ih => exact ih
  | trailing _ hcomma _ ih => exact ih.trans (of_take? hcomma rfl)
  | more _ hcomma _ _ ih ihOthers => exact ih.trans ((of_take? hcomma rfl).trans ihOthers)

/-! ## What holds between the two places -/

theorem advances (htakes : Takes tagEnd opened cursor trees next) : cursor.Advances next := by
  induction htakes with
  | stop => exact .refl _
  | lexeme hnext _ _ ih => exact .step hnext ih
  | read _ hreads _ ih => exact hreads.advances.trans ih

theorem closes (htakes : Takes tagEnd opened cursor trees next) :
    Closes opened cursor.kinds next.kinds := by
  induction htakes with
  | stop => exact Closes.refl _
  | lexeme hnext hbrackets _ ih =>
      obtain ⟨used, hrest, hused⟩ := ih
      rw [Cursor.kinds_of_next? hnext, hrest]
      refine ⟨_ :: used, rfl, ?_⟩
      rw [← List.singleton_append, brackets?_append, hbrackets]
      exact hused
  | @read form _ _ _ _ _ hform hreads _ ih =>
      have hopened : form.opened = [] := by
        cases form <;> first | rfl | cases hform
      have hcloses := hreads.closes
      rw [hopened] at hcloses
      exact hcloses.trans ih

/-- The trees stand in a row where the lexemes do. -/
theorem nests {source : List Char} (hlimit : Text.byteLength source ≤ Span.limit)
    (htakes : Takes tagEnd opened cursor trees next) {low high : Nat}
    (hlaid : cursor.Laid source high) (hbehind : cursor.Behind low) (hle : low ≤ high) :
    Subtree.Row source low trees high := by
  induction htakes generalizing low with
  | stop => exact Subtree.Row.nil hle
  | @lexeme found _ _ _ _ _ _ _ hnext _ _ ih =>
      have hmiddle := hlaid.step hnext hlimit
      have hstart := hbehind.le_start hnext
      have hstop := (Cursor.rest_of_next? hnext).2
      have hspan := found.span.start_le_stop
      exact ih hmiddle (hmiddle.behind.mono (by omega)) hle
  | @read form _ _ cursor _ _ hform hreads _ ih =>
      have hready : form.Ready source low cursor := by
        cases form <;> first | exact hbehind | cases hform
      have hmiddle := hlaid.advances hlimit hreads.advances
      have hrest := ih hmiddle hmiddle.behind hmiddle.lastStop_le_high
      exact (hreads.nests hlimit hlaid hready).append hrest

end Takes

/-! ## Readers of the parts of statements -/

section Expressions

variable (tagEnd : Span)

theorem Expr.read_takes (level : Level) (cursor : Cursor) :
    Ensures (Expr.read tagEnd level cursor)
      (fun step => Takes tagEnd [] cursor [.expr step.value] step.next) := by
  constructor
  intro step hok
  exact Takes.of_reads ((Expr.read_follows tagEnd level cursor).of_ok step hok) True.intro

theorem Expr.readTuple_takes (level : Level) (cursor : Cursor) :
    Ensures (Expr.readTuple tagEnd level cursor)
      (fun step => Takes tagEnd [] cursor [.expr step.value] step.next) := by
  constructor
  intro step hok
  exact Takes.of_reads ((Expr.readTuple_follows tagEnd level cursor).of_ok step hok) True.intro

theorem Expr.readFilter_takes (cursor : Cursor) :
    Ensures (Expr.readFilter tagEnd cursor)
      (fun step => Takes tagEnd [] cursor [.filter step.value] step.next) := by
  constructor
  intro step hok
  exact Takes.of_reads ((Expr.readFilter_follows tagEnd cursor).of_ok step hok) True.intro

end Expressions

namespace Statement

variable (tagEnd : Span)

theorem expectName_takes (role : NameRole) (cursor : Cursor) :
    Ensures (cursor.expectName tagEnd role)
      (fun step => Takes tagEnd [] cursor [] step.next) := by
  constructor
  intro step hstep
  exact Takes.of_name? ((Cursor.expectName_ensures tagEnd role).of_ok step hstep).1

theorem expectWord_takes (word : String) (cursor : Cursor) :
    Ensures (cursor.expect tagEnd (.name word))
      (fun step => Takes tagEnd [] cursor [] step.next) := by
  constructor
  intro step hstep
  exact Takes.of_take? ((Parser.expect_takes cursor _).of_ok step hstep) rfl

theorem readTargets_takes (cursor : Cursor) :
    Ensures (readTargets tagEnd cursor)
      (fun step => Takes tagEnd [] cursor [] step.next) :=
  ⟨fun step hok => .of_targets ((readTargets_reads tagEnd cursor).of_ok step hok)⟩

section SetTargets

variable {tagEnd} {cursor next : Cursor} {targets : List SetTarget}

theorem SetTargets.takes (htargets : SetTargets tagEnd cursor targets next) :
    Takes tagEnd [] cursor [] next := by
  cases htargets with
  | ofNames hnames => exact (readTargets_takes tagEnd cursor).of_ok _ hnames
  | ofAttribute hspace hdot hname =>
      have hattribute := (expectName_takes tagEnd .attributeName _).of_ok _ hname
      exact (Takes.of_name? hspace).trans ((Takes.of_take? hdot rfl).trans hattribute)

/-- A namespace that is assigned to stands in front of the first dot, reserved or not. -/
theorem SetTargets.spaces (htargets : SetTargets tagEnd cursor targets next) :
    ∀ space ∈ targets.filterMap SetTarget.space?,
      ∃ rest, cursor.kinds = .name space :: .punct .dot :: rest := by
  cases htargets with
  | @ofNames names _ _ _ =>
      have hspaces : (names.map SetTarget.name).filterMap SetTarget.space? = [] := by
        rw [List.filterMap_map]
        exact List.filterMap_eq_nil_iff.2 fun _ _ => rfl
      rw [hspaces]
      exact List.forall_mem_nil _
  | ofAttribute hspace hdot _ =>
      intro other hother
      obtain rfl := List.mem_singleton.1 hother
      rw [Cursor.kinds_of_name? hspace, Cursor.kinds_of_take? hdot]
      exact ⟨_, rfl⟩

end SetTargets

theorem readParameter_takes (cursor : Cursor) :
    Ensures (readParameter tagEnd cursor)
      (fun step => Takes tagEnd [] cursor (step.value.default.toList.map .expr) step.next) := by
  unfold readParameter
  apply (expectName_takes tagEnd .parameter cursor).bind
  rintro ⟨⟨name, _⟩, afterName, hafterName⟩ hname
  cases hassign : afterName.take? (.punct .assign) with
  | none =>
      simp only [hassign]
      exact Ensures.ok hname
  | some step =>
      simp only [hassign]
      apply (Expr.read_takes tagEnd .full step.next).bind
      rintro ⟨value, next, hnext⟩ hvalue
      exact Ensures.ok (hname.trans ((Takes.of_take? hassign rfl).trans hvalue))

theorem readParametersTail_takes (cursor : Cursor) :
    Ensures (readParametersTail tagEnd cursor)
      (fun step => Takes tagEnd [.lparen] cursor (Parameter.children step.value) step.next) := by
  rw [readParametersTail]
  cases hclose : cursor.take? (.punct .rparen) with
  | some step => exact Ensures.ok (Takes.of_close hclose)
  | none =>
      apply (Parser.expect_takes cursor (.punct .comma)).bind
      rintro ⟨_, afterComma, hafterComma⟩ hcomma
      have hcommaTakes : Takes tagEnd [] cursor [] afterComma := Takes.of_take? hcomma rfl
      dsimp only
      cases hclose : afterComma.take? (.punct .rparen) with
      | some step => exact Ensures.ok (hcommaTakes.trans (Takes.of_close hclose))
      | none =>
          apply (readParameter_takes tagEnd afterComma).bind
          rintro ⟨first, afterFirst, hafterFirst⟩ hfirst
          apply (readParametersTail_takes afterFirst).bind
          rintro ⟨others, next, hnext⟩ hothers
          exact Ensures.ok (hcommaTakes.trans (hfirst.trans hothers))
termination_by cursor.size
decreasing_by exact Cursor.lt_trans hafterComma hafterFirst

theorem readParameters_takes (cursor : Cursor) :
    Ensures (readParameters tagEnd cursor)
      (fun step => Takes tagEnd [] cursor (Parameter.children step.value) step.next) := by
  unfold readParameters
  apply (Parser.expect_takes cursor (.punct .lparen)).bind
  rintro ⟨_, inside, hinside⟩ hopen
  dsimp only
  cases hclose : inside.take? (.punct .rparen) with
  | some step => exact Ensures.ok (Takes.of_open hopen (Takes.of_close hclose))
  | none =>
      apply (readParameter_takes tagEnd inside).bind
      rintro ⟨first, afterFirst, hafterFirst⟩ hfirst
      apply (readParametersTail_takes tagEnd afterFirst).bind
      rintro ⟨others, next, hnext⟩ hothers
      exact Ensures.ok (Takes.of_open hopen (hfirst.trans hothers))

theorem readBinding_takes (cursor : Cursor) :
    Ensures (readBinding tagEnd cursor)
      (fun step => Takes tagEnd [] cursor [.expr step.value.2] step.next) := by
  unfold readBinding
  apply (expectName_takes tagEnd .variableName cursor).bind
  rintro ⟨⟨name, _⟩, afterName, hafterName⟩ hname
  apply (Parser.expect_takes afterName (.punct .assign)).bind
  rintro ⟨_, afterAssign, hafterAssign⟩ hassign
  apply (Expr.read_takes tagEnd .full afterAssign).bind
  rintro ⟨value, next, hnext⟩ hvalue
  exact Ensures.ok (hname.trans ((Takes.of_take? hassign rfl).trans hvalue))

/-- The trees are those of the whole tag from the cursor on. -/
def TakesAll (cursor : Cursor) (trees : List Subtree) : Prop :=
  ∃ next, next.rest = [] ∧ Takes tagEnd [] cursor trees next

variable {tagEnd} in
theorem TakesAll.after {cursor middle : Cursor} {trees others : List Subtree}
    (hfirst : Takes tagEnd [] cursor trees middle) (hrest : TakesAll tagEnd middle others) :
    TakesAll tagEnd cursor (trees ++ others) := by
  obtain ⟨next, hnext, htakes⟩ := hrest
  exact ⟨next, hnext, hfirst.trans htakes⟩

theorem takesAll_nil {cursor : Cursor} (hrest : cursor.rest = []) : TakesAll tagEnd cursor [] :=
  ⟨cursor, hrest, .stop cursor⟩

theorem expectEnd_takes (cursor : Cursor) :
    Ensures cursor.expectEnd (fun _ => TakesAll tagEnd cursor []) := by
  constructor
  intro _ hend
  apply takesAll_nil
  rw [Cursor.rest_eq_nil_iff]
  exact Cursor.expectEnd_ensures.of_ok _ hend

theorem readBindingsTail_takes (cursor : Cursor) :
    Ensures (readBindingsTail tagEnd cursor)
      (fun bindings => TakesAll tagEnd cursor (bindings.map (.expr ·.2))) := by
  rw [readBindingsTail]
  by_cases hend : cursor.rest = []
  · rw [if_pos hend]
    exact Ensures.ok (takesAll_nil tagEnd hend)
  · rw [if_neg hend]
    apply (Parser.expect_takes cursor (.punct .comma)).bind
    rintro ⟨_, afterComma, hafterComma⟩ hcomma
    apply (readBinding_takes tagEnd afterComma).bind
    rintro ⟨first, afterFirst, hafterFirst⟩ hfirst
    apply (readBindingsTail_takes afterFirst).bind
    intro others hothers
    exact Ensures.ok (hothers.after ((Takes.of_take? hcomma rfl).trans hfirst))
termination_by cursor.size
decreasing_by exact Cursor.lt_trans hafterComma hafterFirst

theorem readBindings_takes (cursor : Cursor) :
    Ensures (readBindings tagEnd cursor)
      (fun bindings => TakesAll tagEnd cursor (bindings.map (.expr ·.2))) := by
  unfold readBindings
  by_cases hend : cursor.rest = []
  · rw [if_pos hend]
    exact Ensures.ok (takesAll_nil tagEnd hend)
  · rw [if_neg hend]
    apply (readBinding_takes tagEnd cursor).bind
    rintro ⟨first, afterFirst, hafterFirst⟩ hfirst
    apply (readBindingsTail_takes tagEnd afterFirst).bind
    intro others hothers
    exact Ensures.ok (hothers.after hfirst)

theorem readFilters_takes (cursor : Cursor) :
    Ensures (readFilters tagEnd cursor)
      (fun step => Takes tagEnd [] cursor (step.value.map .filter) step.next) := by
  rw [readFilters]
  cases hbar : cursor.take? (.punct .pipe) with
  | none => exact Ensures.ok (.stop cursor)
  | some step =>
      obtain ⟨_, afterBar, hafterBar⟩ := step
      apply (Expr.readFilter_takes tagEnd afterBar).bind
      rintro ⟨first, afterFirst, hafterFirst⟩ hfirst
      apply (readFilters_takes afterFirst).bind
      rintro ⟨others, next, hnext⟩ hothers
      exact Ensures.ok ((Takes.of_take? hbar rfl).trans (hfirst.trans hothers))
termination_by cursor.size
decreasing_by exact Cursor.lt_trans hafterBar hafterFirst

/-! ## Words -/

theorem skipWord_takes (word : String) (cursor : Cursor) :
    Takes tagEnd [] cursor [] (skipWord word cursor).next := by
  unfold skipWord
  split
  · next hword => exact Takes.of_take? hword rfl
  · exact .stop cursor

theorem skipContext_takes (cursor : Cursor) :
    Takes tagEnd [] cursor [] (skipContext cursor).next := by
  obtain ⟨lexemes, lastStop⟩ := cursor
  unfold skipContext
  split
  · next hcontext =>
      unfold atContext at hcontext
      split at hcontext
      · next hrest =>
          obtain rfl : lexemes = _ := hrest
          exact .lexeme rfl rfl (.lexeme rfl rfl (.stop _))
      · cases hcontext
  · exact .stop _

theorem readImportedName_takes (cursor : Cursor) :
    Ensures (readImportedName tagEnd cursor)
      (fun step => Takes tagEnd [] cursor [] step.next) := by
  unfold readImportedName
  apply (expectName_takes tagEnd .importedName cursor).bind
  rintro ⟨⟨name, _⟩, afterName, hafterName⟩ hname
  cases has : afterName.take? (.name "as") with
  | none =>
      simp only [has]
      exact Ensures.ok hname
  | some step =>
      simp only [has]
      apply (expectName_takes tagEnd .importAlias step.next).bind
      rintro ⟨⟨other, _⟩, next, hnext⟩ hother
      exact Ensures.ok (hname.trans ((Takes.of_take? has rfl).trans hother))

theorem readImportedNames_takes (cursor : Cursor) :
    Ensures (readImportedNames tagEnd cursor)
      (fun step => Takes tagEnd [] cursor [] step.next) := by
  rw [readImportedNames]
  split
  · exact Ensures.ok (.stop cursor)
  apply (readImportedName_takes tagEnd cursor).bind
  rintro ⟨first, afterFirst, hafterFirst⟩ hfirst
  cases hcomma : afterFirst.take? (.punct .comma) with
  | none =>
      simp only [hcomma]
      exact Ensures.ok hfirst
  | some step =>
      obtain ⟨_, afterComma, hafterComma⟩ := step
      simp only [hcomma]
      apply (readImportedNames_takes afterComma).bind
      rintro ⟨others, next, hnext⟩ hothers
      exact Ensures.ok (hfirst.trans ((Takes.of_take? hcomma rfl).trans hothers))
termination_by cursor.size
decreasing_by exact Cursor.lt_trans hafterFirst hafterComma

end Statement

/-! ## Statements -/

/-- The trees of the opener of a block, in the order of its tag. -/
def PlainHeader.trees : PlainHeader → List Subtree
  | .setBlock _ filters => filters.map .filter
  | .macroBlock _ params => Parameter.children params
  | .callBlock params call => Parameter.children params ++ [.expr call]
  | .withBlock bindings => bindings.map (.expr ·.2)
  | .filterBlock filters => filters.map .filter
  | .block _ => []

def Header.trees : Header → List Subtree
  | .conditional condition => [.expr condition]
  | .loop _ iterable condition _ => .expr iterable :: condition.toList.map .expr
  | .plain header => header.trees

namespace Statement

def trees : Statement → List Subtree
  | .complete node => node.children
  | .opens header => header.trees

/-- The statement holds the trees of its tag, and a complete one has the span of the tag.  A
namespace that it assigns to stands in front of the first dot of a `set` tag. -/
structure OfTag (tag : Tag) (word : String) (statement : Statement) : Prop where
  takes : TakesAll tag.endSpan tag.arguments statement.trees
  span : ∀ node, statement = .complete node → node.span = tag.span
  spaces : ∀ node, statement = .complete node → ∀ space ∈ node.spaces,
    word = "set" ∧ ∃ rest, tag.arguments.kinds = .name space :: .punct .dot :: rest

variable (tag : Tag)

theorem condition_takes :
    Ensures tag.condition
      (fun condition => TakesAll tag.endSpan tag.arguments [.expr condition]) := by
  unfold Tag.condition
  apply (Expr.readTuple_takes tag.endSpan (.above 0) tag.arguments).bind
  rintro ⟨condition, next, hnext⟩ hcondition
  apply (expectEnd_takes tag.endSpan next).bind
  intro _ hend
  exact Ensures.ok (hend.after hcondition)

theorem OfTag.opens {tag : Tag} {word : String} {header : Header}
    (htakes : TakesAll tag.endSpan tag.arguments header.trees) :
    OfTag tag word (.opens header) where
  takes := htakes
  span := nofun
  spaces := nofun

theorem OfTag.complete {tag : Tag} {word : String} {node : Node}
    (htakes : TakesAll tag.endSpan tag.arguments node.children) (hspan : node.span = tag.span)
    (hspaces : ∀ space ∈ node.spaces,
      word = "set" ∧ ∃ rest, tag.arguments.kinds = .name space :: .punct .dot :: rest) :
    OfTag tag word (.complete node) where
  takes := htakes
  span := by
    rintro _ ⟨⟩
    exact hspan
  spaces := by
    rintro _ ⟨⟩
    exact hspaces

/-- Nothing but the first word is in the tag. -/
theorem expectBare_takes :
    Ensures tag.expectBare (fun _ => TakesAll tag.endSpan tag.arguments []) := by
  unfold Tag.expectBare
  split
  · exact Ensures.error
  · next hlength =>
      apply Ensures.ok
      apply takesAll_nil
      obtain ⟨lexemes, span, inner, left, right⟩ := tag
      rcases lexemes with _ | ⟨first, _ | ⟨second, others⟩⟩
      · rfl
      · rfl
      · simp at hlength

/-- Behind the first word there is at most the name of the block that the tag closes. -/
theorem expectRepeatedName_takes (innermost : OpenTag) (name : String) :
    Ensures (Parser.expectRepeatedName innermost name tag)
      (fun _ => TakesAll tag.endSpan tag.arguments []) := by
  unfold Parser.expectRepeatedName
  split
  · next hnone =>
      apply Ensures.ok
      apply takesAll_nil
      rw [Cursor.rest_eq_nil_iff]
      cases hkinds : tag.arguments.kinds with
      | nil => rfl
      | cons kind others =>
          obtain ⟨_, _, _, hsome, -⟩ := Cursor.next?_eq_some hkinds
          rw [hnone] at hsome
          cases hsome
  · next lexeme next hsize hnext =>
      split
      · next hname =>
          constructor
          intro _ hend
          have hfirst : Takes tag.endSpan [] tag.arguments [] next :=
            .lexeme hnext (by rw [hname]; rfl) (.stop next)
          exact ((expectEnd_takes tag.endSpan next).of_ok _ hend).after hfirst
      · exact Ensures.error

theorem expectPlainEnd_takes (innermost : OpenTag) (header : PlainHeader) :
    Ensures (Parser.expectPlainEnd innermost header tag)
      (fun _ => TakesAll tag.endSpan tag.arguments []) := by
  unfold Parser.expectPlainEnd
  split
  · exact expectRepeatedName_takes tag innermost _
  · exact expectBare_takes tag

variable {word : String}

theorem readIf_takes : Ensures (readIf tag) (OfTag tag word) := by
  apply (condition_takes tag).bind
  intro condition hcondition
  exact Ensures.ok (OfTag.opens hcondition)

theorem readLoop_takes : Ensures (readLoop tag) (OfTag tag word) := by
  apply (readTargets_takes tag.endSpan tag.arguments).bind
  rintro ⟨names, afterNames, hafterNames⟩ hnames
  apply (expectWord_takes tag.endSpan "in" afterNames).bind
  rintro ⟨_, afterIn, hafterIn⟩ hin
  apply (Expr.readTuple_takes tag.endSpan (.above 0) afterIn).bind
  rintro ⟨iterable, afterIterable, hafterIterable⟩ hiterable
  have hfront := hnames.trans (hin.trans hiterable)
  cases hif : afterIterable.take? (.name "if") with
  | none =>
      have hrecursive := skipWord_takes tag.endSpan "recursive" afterIterable
      simp only [hif]
      apply (expectEnd_takes tag.endSpan _).bind
      intro _ hend
      exact Ensures.ok (OfTag.opens (hend.after (hfront.trans hrecursive)))
  | some step =>
      simp only [hif]
      apply (Expr.read_takes tag.endSpan .full step.next).bind
      rintro ⟨condition, afterCondition, hafterCondition⟩ hcondition
      have hrecursive := skipWord_takes tag.endSpan "recursive" afterCondition
      apply (expectEnd_takes tag.endSpan _).bind
      intro _ hend
      have hback := (Takes.of_take? hif rfl).trans (hcondition.trans hrecursive)
      exact Ensures.ok (OfTag.opens (hend.after (hfront.trans hback)))

theorem readSet_takes : Ensures (readSet tag) (OfTag tag "set") := by
  apply (readSetTargets_follows tag.endSpan tag.arguments).bind
  rintro ⟨targets, afterTargets, hafterTargets⟩ hset
  have htargets := hset.takes
  cases hassign : afterTargets.take? (.punct .assign) with
  | some step =>
      simp only [hassign]
      apply (Expr.readTuple_takes tag.endSpan .full step.next).bind
      rintro ⟨value, next, hnext⟩ hvalue
      apply (expectEnd_takes tag.endSpan next).bind
      intro _ hend
      have hwhole := htargets.trans ((Takes.of_take? hassign rfl).trans hvalue)
      apply Ensures.ok
      apply OfTag.complete (hend.after hwhole) rfl
      exact fun space hspace => ⟨rfl, hset.spaces space hspace⟩
  | none =>
      simp only [hassign]
      rcases targets with _ | ⟨⟨name⟩ | ⟨space, name⟩, _ | ⟨target, targets⟩⟩
      case cons.name.nil =>
        apply (readFilters_takes tag.endSpan afterTargets).bind
        rintro ⟨filters, next, hnext⟩ hfilters
        apply (expectEnd_takes tag.endSpan next).bind
        intro _ hend
        apply Ensures.ok
        apply OfTag.opens
        have hwhole := hend.after (htargets.trans hfilters)
        rwa [List.append_nil] at hwhole
      all_goals exact Ensures.error

theorem readMacro_takes : Ensures (readMacro tag) (OfTag tag word) := by
  apply (expectName_takes tag.endSpan .macroName tag.arguments).bind
  rintro ⟨⟨name, _⟩, afterName, hafterName⟩ hname
  apply (readParameters_takes tag.endSpan afterName).bind
  rintro ⟨params, next, hnext⟩ hparams
  apply (expectEnd_takes tag.endSpan next).bind
  intro _ hend
  apply Ensures.ok
  apply OfTag.opens
  have hwhole := hend.after (hname.trans hparams)
  rwa [List.append_nil] at hwhole

theorem readBlockCall_takes {params : List Parameter} {cursor : Cursor}
    (hparams : Takes tag.endSpan [] tag.arguments (Parameter.children params) cursor) :
    Ensures (readBlockCall tag params cursor) (OfTag tag word) := by
  apply (Expr.read_takes tag.endSpan .full cursor).bind
  rintro ⟨call, next, hnext⟩ hcall
  cases call with
  | call callee args span =>
      apply (expectEnd_takes tag.endSpan next).bind
      intro _ hend
      apply Ensures.ok
      apply OfTag.opens
      have hwhole := hend.after (hparams.trans hcall)
      rwa [List.append_nil] at hwhole
  | _ => exact Ensures.error

theorem readCall_takes : Ensures (readCall tag) (OfTag tag word) := by
  unfold readCall
  by_cases hparen : tag.arguments.kind? = some (.punct .lparen)
  · rw [if_pos hparen]
    apply (readParameters_takes tag.endSpan tag.arguments).bind
    rintro ⟨params, afterParams, hafterParams⟩ hparams
    exact readBlockCall_takes tag hparams
  · rw [if_neg hparen]
    exact readBlockCall_takes tag (.stop tag.arguments)

theorem readWith_takes : Ensures (readWith tag) (OfTag tag word) := by
  apply (readBindings_takes tag.endSpan tag.arguments).bind
  intro bindings hbindings
  exact Ensures.ok (OfTag.opens hbindings)

theorem readFilterBlock_takes : Ensures (readFilterBlock tag) (OfTag tag word) := by
  apply (Expr.readFilter_takes tag.endSpan tag.arguments).bind
  rintro ⟨first, afterFirst, hafterFirst⟩ hfirst
  apply (readFilters_takes tag.endSpan afterFirst).bind
  rintro ⟨others, next, hnext⟩ hothers
  apply (expectEnd_takes tag.endSpan next).bind
  intro _ hend
  apply Ensures.ok
  apply OfTag.opens
  have hwhole := hend.after (hfirst.trans hothers)
  rwa [List.append_nil] at hwhole

theorem readBlock_takes : Ensures (readBlock tag) (OfTag tag word) := by
  apply (expectName_takes tag.endSpan .blockName tag.arguments).bind
  rintro ⟨⟨name, _⟩, afterName, hafterName⟩ hname
  have hscoped := skipWord_takes tag.endSpan "scoped" afterName
  have hrequired := skipWord_takes tag.endSpan "required" (skipWord "scoped" afterName).next
  apply (expectEnd_takes tag.endSpan _).bind
  intro _ hend
  exact Ensures.ok (OfTag.opens (hend.after (hname.trans (hscoped.trans hrequired))))

theorem readExtends_takes : Ensures (readExtends tag) (OfTag tag word) := by
  apply (Expr.read_takes tag.endSpan .full tag.arguments).bind
  rintro ⟨template, next, hnext⟩ htemplate
  apply (expectEnd_takes tag.endSpan next).bind
  intro _ hend
  exact Ensures.ok (OfTag.complete (hend.after htemplate) rfl (List.forall_mem_nil _))

theorem readInclude_takes : Ensures (readInclude tag) (OfTag tag word) := by
  apply (Expr.read_takes tag.endSpan .full tag.arguments).bind
  rintro ⟨template, afterTemplate, hafterTemplate⟩ htemplate
  cases hignore : afterTemplate.take? (.name "ignore") with
  | none =>
      have hcontext := skipContext_takes tag.endSpan afterTemplate
      simp only [hignore]
      apply (expectEnd_takes tag.endSpan _).bind
      intro _ hend
      have hwhole := htemplate.trans hcontext
      exact Ensures.ok (OfTag.complete (hend.after hwhole) rfl (List.forall_mem_nil _))
  | some step =>
      simp only [hignore]
      apply (expectWord_takes tag.endSpan "missing" step.next).bind
      rintro ⟨_, afterMissing, hafterMissing⟩ hmissing
      have hcontext := skipContext_takes tag.endSpan afterMissing
      apply (expectEnd_takes tag.endSpan _).bind
      intro _ hend
      have hwhole := htemplate.trans ((Takes.of_take? hignore rfl).trans (hmissing.trans hcontext))
      exact Ensures.ok (OfTag.complete (hend.after hwhole) rfl (List.forall_mem_nil _))

theorem readImport_takes : Ensures (readImport tag) (OfTag tag word) := by
  apply (Expr.read_takes tag.endSpan .full tag.arguments).bind
  rintro ⟨template, afterTemplate, hafterTemplate⟩ htemplate
  apply (expectWord_takes tag.endSpan "as" afterTemplate).bind
  rintro ⟨_, afterAs, hafterAs⟩ has
  apply (expectName_takes tag.endSpan .importAlias afterAs).bind
  rintro ⟨⟨name, _⟩, afterName, hafterName⟩ hname
  have hcontext := skipContext_takes tag.endSpan afterName
  apply (expectEnd_takes tag.endSpan _).bind
  intro _ hend
  have hwhole := htemplate.trans (has.trans (hname.trans hcontext))
  exact Ensures.ok (OfTag.complete (hend.after hwhole) rfl (List.forall_mem_nil _))

theorem readFrom_takes : Ensures (readFrom tag) (OfTag tag word) := by
  apply (Expr.read_takes tag.endSpan .full tag.arguments).bind
  rintro ⟨template, afterTemplate, hafterTemplate⟩ htemplate
  apply (expectWord_takes tag.endSpan "import" afterTemplate).bind
  rintro ⟨_, afterImport, hafterImport⟩ himport
  apply (readImportedNames_takes tag.endSpan afterImport).bind
  rintro ⟨names, afterNames, hafterNames⟩ hnames
  cases names with
  | nil => exact Ensures.error
  | cons name names =>
      have hcontext := skipContext_takes tag.endSpan afterNames
      apply (expectEnd_takes tag.endSpan _).bind
      intro _ hend
      have hwhole := htemplate.trans (himport.trans (hnames.trans hcontext))
      exact Ensures.ok (OfTag.complete (hend.after hwhole) rfl (List.forall_mem_nil _))

theorem readDo_takes : Ensures (readDo tag) (OfTag tag word) := by
  apply (Expr.readTuple_takes tag.endSpan .full tag.arguments).bind
  rintro ⟨expr, next, hnext⟩ hexpr
  apply (expectEnd_takes tag.endSpan next).bind
  intro _ hend
  exact Ensures.ok (OfTag.complete (hend.after hexpr) rfl (List.forall_mem_nil _))

theorem ofTag_takes (word : String) : Ensures (ofTag tag word) (OfTag tag word) := by
  unfold ofTag
  split
  · exact readIf_takes tag
  · exact readLoop_takes tag
  · exact readSet_takes tag
  · exact readMacro_takes tag
  · exact readCall_takes tag
  · exact readWith_takes tag
  · exact readFilterBlock_takes tag
  · exact readBlock_takes tag
  · exact readExtends_takes tag
  · exact readInclude_takes tag
  · exact readImport_takes tag
  · exact readFrom_takes tag
  · exact readDo_takes tag
  · apply (expectBare_takes tag).bind
    intro _ hbare
    exact Ensures.ok (OfTag.complete hbare rfl (List.forall_mem_nil _))
  · apply (expectBare_takes tag).bind
    intro _ hbare
    exact Ensures.ok (OfTag.complete hbare rfl (List.forall_mem_nil _))
  · exact Ensures.error
  · exact Ensures.error

theorem statement_takes (outer : List OpenTag) (word : String) :
    Ensures (Parser.statement outer word tag) (OfTag tag word) := by
  unfold Parser.statement
  split
  · exact Ensures.error
  split
  · exact Ensures.error
  · exact ofTag_takes tag word

end Statement

theorem Parser.expressionNode_takes (tag : Tag) :
    Ensures (Parser.expressionNode tag) (fun node =>
      Statement.TakesAll tag.endSpan (Cursor.ofLexemes tag.lexemes) node.children ∧
        node.span = tag.span ∧ node.spaces = []) := by
  unfold Parser.expressionNode
  split
  · exact Ensures.error
  · apply (Expr.ofLexemes_follows tag.lexemes tag.endSpan).bind
    rintro expr ⟨next, hend, hreads⟩
    refine Ensures.ok ⟨⟨next, ?_, Takes.of_reads hreads True.intro⟩, rfl, rfl⟩
    rwa [Cursor.rest_eq_nil_iff]

/-! ## Lexemes of a token -/

/-- The lexemes of a tag; other tokens have none. -/
def Token.kinds : Token → List LexemeKind
  | .expression tag => tag.lexemes.map Lexeme.kind
  | .block tag => tag.lexemes.map Lexeme.kind
  | _ => []

theorem Tag.kinds_of_expectName {tag : Tag} {word : String} (hname : tag.expectName = .ok word) :
    (Token.block tag).kinds = .name word :: tag.arguments.kinds := by
  obtain ⟨lexemes, span, inner, left, right⟩ := tag
  unfold Tag.expectName at hname
  split at hname
  · cases hname
  · next hlexemes =>
      cases hname
      obtain rfl : lexemes = _ := hlexemes
      rfl
  · cases hname

end TemplateVariables
