import TemplateVariables.Proofs.Node.TagTrees
import TemplateVariables.Proofs.SoundTrees

/-!
# Proper statements

The readers of statements refuse what could not be written: a reserved target, a call block
without a call, an import of nothing.  What a tag says by itself is therefore a header that can
be written, or a complete node that lacks nothing and has no body.
-/

namespace TemplateVariables

theorem TargetNames.append {names others : List String} (hnames : TargetNames names)
    (hothers : TargetNames others) : TargetNames (names ++ others) :=
  ⟨List.append_ne_nil_of_left_ne_nil hnames.1 others,
    List.forall_mem_append.2 ⟨hnames.2, hothers.2⟩⟩

theorem ReadsTargets.targetNames {rule : TargetRule} {cursor next : Cursor} {names : List String}
    (hreads : ReadsTargets rule cursor names next) : TargetNames names := by
  induction hreads with
  | @name word _ _ _ _ _ hword =>
      exact ⟨List.cons_ne_nil word [], List.forall_mem_singleton.2 hword⟩
  | group _ _ _ ih => exact ih
  | last _ _ ih => exact ih
  | trailing _ _ _ ih => exact ih
  | more _ _ _ _ ih ihOthers => exact ih.append ihOthers

/-- The name of a block that is assigned to stands alone in front of the filters. -/
theorem SetTarget.WellFormed.not_mem_reservedWords {name : String}
    (htargets : SetTarget.WellFormed [.name name]) : name ∉ reservedWords := by
  rcases htargets with ⟨names, hnames, heq⟩ | ⟨space, field, heq⟩
  · rw [← List.map_singleton, List.map_inj_right (fun _ _ => SetTarget.name.inj)] at heq
    subst heq
    exact hnames.2 name List.mem_cons_self
  · cases heq

/-- A node that stands for markup by itself: it is no text, has no body and lacks nothing. -/
structure Node.IsMarkup (node : Node) : Prop where
  filled : node.Filled
  bodies : node.bodies = []
  noText : node.isText = false

theorem Node.IsMarkup.proper {node : Node} (hnode : node.IsMarkup) : node.Proper where
  filled := hnode.filled
  bodies := by
    rw [hnode.bodies]
    exact List.forall_mem_nil _

namespace Statement

def Proper : Statement → Prop
  | .complete node => node.IsMarkup
  | .opens header => header.WellFormed

theorem SetTargets.wellFormed {tagEnd : Span} {cursor next : Cursor} {targets : List SetTarget}
    (htargets : SetTargets tagEnd cursor targets next) : SetTarget.WellFormed targets := by
  cases htargets with
  | ofNames hread =>
      exact .inl ⟨_, ((readTargets_reads tagEnd cursor).of_ok _ hread).targetNames, rfl⟩
  | ofAttribute => exact .inr ⟨_, _, rfl⟩

variable (tag : Tag)

theorem Proper.of_expectEnd {cursor : Cursor} {statement : Statement}
    (hstatement : statement.Proper) :
    Ensures (cursor.expectEnd >>= fun _ => .ok statement) Proper := by
  apply Ensures.trivial.bind
  intro _ _
  exact Ensures.ok hstatement

theorem readLoop_proper : Ensures (readLoop tag) Proper := by
  apply (readTargets_reads tag.endSpan tag.arguments).bind
  rintro ⟨names, afterNames, hafterNames⟩ hreads
  have hnames := hreads.targetNames
  apply Ensures.trivial.bind
  rintro ⟨_, afterIn, hafterIn⟩ _
  apply Ensures.trivial.bind
  rintro ⟨iterable, afterIterable, hafterIterable⟩ _
  cases hif : afterIterable.take? (.name "if") with
  | none =>
      simp only [hif]
      exact Proper.of_expectEnd hnames
  | some step =>
      simp only [hif]
      apply Ensures.trivial.bind
      rintro ⟨condition, afterCondition, hafterCondition⟩ _
      exact Proper.of_expectEnd hnames

theorem readSet_proper : Ensures (readSet tag) Proper := by
  apply (readSetTargets_follows tag.endSpan tag.arguments).bind
  rintro ⟨targets, afterTargets, hafterTargets⟩ hset
  have htargets := hset.wellFormed
  cases hassign : afterTargets.take? (.punct .assign) with
  | some step =>
      simp only [hassign]
      apply Ensures.trivial.bind
      rintro ⟨value, next, hnext⟩ _
      exact Proper.of_expectEnd ⟨htargets, rfl, rfl⟩
  | none =>
      simp only [hassign]
      rcases targets with _ | ⟨⟨name⟩ | ⟨space, name⟩, _ | ⟨target, targets⟩⟩
      case cons.name.nil =>
        apply Ensures.trivial.bind
        rintro ⟨filters, next, hnext⟩ _
        exact Proper.of_expectEnd htargets.not_mem_reservedWords
      all_goals exact Ensures.error

theorem readBlockCall_proper (params : List Parameter) (cursor : Cursor) :
    Ensures (readBlockCall tag params cursor) Proper := by
  apply Ensures.trivial.bind
  rintro ⟨call, next, hnext⟩ _
  cases call with
  | call callee args span => exact Proper.of_expectEnd ⟨callee, args, span, rfl⟩
  | _ => exact Ensures.error

theorem readCall_proper : Ensures (readCall tag) Proper := by
  unfold readCall
  split
  · apply Ensures.trivial.bind
    rintro ⟨params, afterParams, hafterParams⟩ _
    exact readBlockCall_proper tag params afterParams
  · exact readBlockCall_proper tag [] tag.arguments

theorem readFilterBlock_proper : Ensures (readFilterBlock tag) Proper := by
  apply Ensures.trivial.bind
  rintro ⟨first, afterFirst, hafterFirst⟩ _
  apply Ensures.trivial.bind
  rintro ⟨others, next, hnext⟩ _
  exact Proper.of_expectEnd (List.cons_ne_nil first others)

theorem readInclude_proper : Ensures (readInclude tag) Proper := by
  apply Ensures.trivial.bind
  rintro ⟨template, afterTemplate, hafterTemplate⟩ _
  cases hignore : afterTemplate.take? (.name "ignore") with
  | none =>
      simp only [hignore]
      exact Proper.of_expectEnd ⟨trivial, rfl, rfl⟩
  | some step =>
      simp only [hignore]
      apply Ensures.trivial.bind
      rintro ⟨_, afterMissing, hafterMissing⟩ _
      exact Proper.of_expectEnd ⟨trivial, rfl, rfl⟩

theorem readImport_proper : Ensures (readImport tag) Proper := by
  apply Ensures.trivial.bind
  rintro ⟨template, afterTemplate, hafterTemplate⟩ _
  apply Ensures.trivial.bind
  rintro ⟨_, afterAs, hafterAs⟩ _
  apply Ensures.trivial.bind
  rintro ⟨⟨name, _⟩, afterName, hafterName⟩ _
  exact Proper.of_expectEnd ⟨trivial, rfl, rfl⟩

theorem readFrom_proper : Ensures (readFrom tag) Proper := by
  apply Ensures.trivial.bind
  rintro ⟨template, afterTemplate, hafterTemplate⟩ _
  apply Ensures.trivial.bind
  rintro ⟨_, afterImport, hafterImport⟩ _
  apply Ensures.trivial.bind
  rintro ⟨names, afterNames, hafterNames⟩ _
  cases names with
  | nil => exact Ensures.error
  | cons name names => exact Proper.of_expectEnd ⟨List.cons_ne_nil name names, rfl, rfl⟩

theorem ofTag_proper (word : String) : Ensures (ofTag tag word) Proper := by
  unfold ofTag
  split
  · apply Ensures.trivial.bind
    intro condition _
    exact Ensures.ok trivial
  · exact readLoop_proper tag
  · exact readSet_proper tag
  · apply Ensures.trivial.bind
    rintro ⟨⟨name, _⟩, afterName, hafterName⟩ _
    apply Ensures.trivial.bind
    rintro ⟨params, next, hnext⟩ _
    exact Proper.of_expectEnd trivial
  · exact readCall_proper tag
  · apply Ensures.trivial.bind
    intro bindings _
    exact Ensures.ok trivial
  · exact readFilterBlock_proper tag
  · apply Ensures.trivial.bind
    rintro ⟨⟨name, _⟩, afterName, hafterName⟩ _
    exact Proper.of_expectEnd trivial
  · apply Ensures.trivial.bind
    rintro ⟨template, next, hnext⟩ _
    exact Proper.of_expectEnd ⟨trivial, rfl, rfl⟩
  · exact readInclude_proper tag
  · exact readImport_proper tag
  · exact readFrom_proper tag
  · apply Ensures.trivial.bind
    rintro ⟨expr, next, hnext⟩ _
    exact Proper.of_expectEnd ⟨trivial, rfl, rfl⟩
  · apply Ensures.trivial.bind
    intro _ _
    exact Ensures.ok ⟨trivial, rfl, rfl⟩
  · apply Ensures.trivial.bind
    intro _ _
    exact Ensures.ok ⟨trivial, rfl, rfl⟩
  · exact Ensures.error
  · exact Ensures.error

theorem statement_proper (outer : List OpenTag) (word : String) :
    Ensures (Parser.statement outer word tag) Proper := by
  unfold Parser.statement
  split
  · exact Ensures.error
  split
  · exact Ensures.error
  · exact ofTag_proper tag word

end Statement

theorem Parser.expressionNode_isMarkup (tag : Tag) :
    Ensures (Parser.expressionNode tag) Node.IsMarkup := by
  unfold Parser.expressionNode
  split
  · exact Ensures.error
  · apply Ensures.trivial.bind
    intro expr _
    exact Ensures.ok ⟨trivial, rfl, rfl⟩

end TemplateVariables
