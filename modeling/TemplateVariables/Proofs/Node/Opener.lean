import TemplateVariables.Node.Parser
import TemplateVariables.Proofs.Node.Targets

/-!
# Tags that open a block

Whether a block tag opens a block, and which name its end tag may repeat, can be
told from its lexemes without reading any expression.  Most tags are told by
their first word; a `set` tag opens a block unless an equals sign follows its
targets.
-/

namespace TemplateVariables

/-- The lexemes that the targets of a `set` tag are made of. -/
def LexemeKind.isTargetPart : LexemeKind → Bool
  | .name _ => true
  | .punct mark => [Punct.lparen, .rparen, .comma, .dot].contains mark
  | _ => false

def Cursor.kindsAfterTargets (cursor : Cursor) : List LexemeKind :=
  cursor.kinds.dropWhile LexemeKind.isTargetPart

namespace Tag

def assigns (tag : Tag) : Bool :=
  tag.arguments.kindsAfterTargets.head? == some (.punct .assign)

def opensBlock (tag : Tag) (word : String) : Bool :=
  ["if", "for", "macro", "call", "with", "filter", "block"].contains word ||
    word == "set" && !tag.assigns

/-- The name that the end tag of a macro or a block may repeat. -/
def repeatableName? (tag : Tag) (word : String) : Option String :=
  if word = "macro" ∨ word = "block" then tag.arguments.name?.map (·.value.1) else none

end Tag

def Statement.header? : Statement → Option Header
  | .complete _ => none
  | .opens header => some header

def Header.repeatedName? : Header → Option String
  | .plain header => header.repeatedName?
  | _ => none

theorem Tag.repeatableName?_eq_some (tag : Tag) {word name : String} {span : Span}
    {next : Cursor} {hnext : next.size < tag.arguments.size}
    (hword : word = "macro" ∨ word = "block")
    (hname : tag.arguments.name? = some ⟨(name, span), next, hnext⟩) :
    tag.repeatableName? word = some name := by
  rw [Tag.repeatableName?, if_pos hword, hname, Option.map_some]

/-! ## Targets -/

namespace Cursor

variable {cursor next : Cursor}

theorem kindsAfterTargets_eq {kind : LexemeKind} (hkinds : cursor.kinds = kind :: next.kinds)
    (hkind : kind.isTargetPart = true) : next.kindsAfterTargets = cursor.kindsAfterTargets := by
  rw [kindsAfterTargets, kindsAfterTargets, hkinds, List.dropWhile_cons_of_pos hkind]

theorem head?_kindsAfterTargets {kind : LexemeKind} {rest : List LexemeKind}
    (hkinds : cursor.kinds = kind :: rest) (hkind : kind.isTargetPart = false) :
    cursor.kindsAfterTargets.head? = some kind := by
  rw [kindsAfterTargets, hkinds, List.dropWhile_cons_of_neg (by simp [hkind])]
  rfl

end Cursor

/-- Only parts of targets are used up. -/
theorem ReadsTargets.kindsAfterTargets_eq {rule : TargetRule} {cursor next : Cursor}
    {names : List String} (hreads : ReadsTargets rule cursor names next) :
    next.kindsAfterTargets = cursor.kindsAfterTargets := by
  have htake {kind : LexemeKind} {span : Span} {cursor next : Cursor}
      {hsize : next.size < cursor.size} (hstep : cursor.take? kind = some ⟨span, next, hsize⟩)
      (hkind : kind.isTargetPart = true) : next.kindsAfterTargets = cursor.kindsAfterTargets :=
    Cursor.kindsAfterTargets_eq (Cursor.kinds_of_take? hstep) hkind
  induction hreads with
  | name hname => exact Cursor.kindsAfterTargets_eq (Cursor.kinds_of_name? hname) rfl
  | group hopen _ hclose ih => exact (htake hclose rfl).trans (ih.trans (htake hopen rfl))
  | last _ _ ih => exact ih
  | trailing _ hcomma _ ih => exact (htake hcomma rfl).trans ih
  | more _ hcomma _ _ ih ihOthers => exact ihOthers.trans ((htake hcomma rfl).trans ih)

namespace Statement

theorem SetTargets.kindsAfterTargets_eq {tagEnd : Span} {cursor next : Cursor}
    {targets : List SetTarget} (htargets : SetTargets tagEnd cursor targets next) :
    next.kindsAfterTargets = cursor.kindsAfterTargets := by
  cases htargets with
  | ofNames hnames =>
      exact ((readTargets_reads tagEnd cursor).of_ok _ hnames).kindsAfterTargets_eq
  | ofAttribute hspace hdot hname =>
      have hspaceKinds := Cursor.kindsAfterTargets_eq (Cursor.kinds_of_name? hspace) rfl
      have hdotKinds := Cursor.kindsAfterTargets_eq (Cursor.kinds_of_take? hdot) rfl
      have hkinds := ((Cursor.expectName_ensures tagEnd .attributeName).of_ok _ hname).2
      have hnameKinds := Cursor.kindsAfterTargets_eq hkinds rfl
      exact hnameKinds.trans (hdotKinds.trans hspaceKinds)

theorem readFilters_ensures (tagEnd : Span) (cursor : Cursor) :
    Ensures (readFilters tagEnd cursor)
      (fun step => step.next.kinds = cursor.kinds ∨
        ∃ rest, cursor.kinds = .punct .pipe :: rest) := by
  rw [readFilters]
  cases hpipe : cursor.take? (.punct .pipe) with
  | none => exact Ensures.ok (.inl rfl)
  | some step =>
      have hkinds : ∃ rest, cursor.kinds = .punct .pipe :: rest :=
        ⟨_, Cursor.kinds_of_take? hpipe⟩
      apply Ensures.trivial.bind
      rintro ⟨first, afterFirst, hfirst⟩ _
      apply Ensures.trivial.bind
      rintro ⟨others, next, hnext⟩ _
      exact Ensures.ok (.inr hkinds)

/-! ## Statements -/

/-- The header, if there is one, is the one that the lexemes of the tag announce. -/
def Announced (tag : Tag) (word : String) (statement : Statement) : Prop :=
  match statement.header? with
  | none => tag.opensBlock word = false
  | some header =>
      tag.opensBlock word = true ∧ header.tagName = word ∧
        header.repeatedName? = tag.repeatableName? word

variable (tag : Tag)

theorem readIf_ensures : Ensures (readIf tag) (Announced tag "if") := by
  apply Ensures.trivial.bind
  intro condition _
  exact Ensures.ok ⟨rfl, rfl, rfl⟩

theorem readLoop_ensures : Ensures (readLoop tag) (Announced tag "for") := by
  apply Ensures.trivial.bind
  rintro ⟨names, afterNames, hnames⟩ _
  apply Ensures.trivial.bind
  rintro ⟨_, afterIn, hin⟩ _
  apply Ensures.trivial.bind
  rintro ⟨iterable, afterIterable, hiterable⟩ _
  cases hif : afterIterable.take? (.name "if") with
  | none =>
      simp only [hif]
      apply Ensures.trivial.bind
      intro _ _
      exact Ensures.ok ⟨rfl, rfl, rfl⟩
  | some step =>
      simp only [hif]
      apply Ensures.trivial.bind
      rintro ⟨condition, afterCondition, hcondition⟩ _
      apply Ensures.trivial.bind
      intro _ _
      exact Ensures.ok ⟨rfl, rfl, rfl⟩

theorem readSet_ensures : Ensures (readSet tag) (Announced tag "set") := by
  apply (readSetTargets_follows tag.endSpan tag.arguments).bind
  rintro ⟨targets, afterTargets, hafterTargets⟩ htargets
  have hkinds := htargets.kindsAfterTargets_eq
  dsimp only at hkinds
  cases hassign : afterTargets.take? (.punct .assign) with
  | some step =>
      have hhead : afterTargets.kindsAfterTargets.head? = some (.punct .assign) :=
        Cursor.head?_kindsAfterTargets (Cursor.kinds_of_take? hassign) rfl
      have hassigns : tag.assigns = true := by
        rw [Tag.assigns, ← hkinds, hhead]
        rfl
      simp only [hassign]
      apply Ensures.trivial.bind
      rintro ⟨value, next, hnext⟩ _
      apply Ensures.trivial.bind
      intro _ _
      exact Ensures.ok (by simp [Announced, header?, Tag.opensBlock, hassigns])
  | none =>
      simp only [hassign]
      rcases targets with _ | ⟨⟨name⟩ | ⟨space, name⟩, _ | ⟨target, targets⟩⟩
      case cons.name.nil =>
        apply (readFilters_ensures tag.endSpan afterTargets).bind
        rintro ⟨filters, next, hnext⟩ hfilters
        apply Cursor.expectEnd_ensures.bind
        intro _ hend
        have hassigns : tag.assigns = false := by
          rw [Tag.assigns, ← hkinds]
          rcases hfilters with hnone | ⟨rest, hpipe⟩
          · rw [Cursor.kindsAfterTargets, ← hnone, hend]
            rfl
          · rw [Cursor.head?_kindsAfterTargets hpipe rfl]
            rfl
        exact Ensures.ok ⟨by simp [Tag.opensBlock, hassigns], rfl, rfl⟩
      all_goals exact Ensures.error

theorem readMacro_ensures : Ensures (readMacro tag) (Announced tag "macro") := by
  apply (Cursor.expectName_ensures tag.endSpan .macroName).bind
  rintro ⟨⟨name, span⟩, afterName, hafterName⟩ ⟨hname, _⟩
  apply Ensures.trivial.bind
  rintro ⟨params, next, hnext⟩ _
  apply Ensures.trivial.bind
  intro _ _
  exact Ensures.ok ⟨rfl, rfl, (tag.repeatableName?_eq_some (.inl rfl) hname).symm⟩

theorem readBlockCall_ensures (params : List Parameter) (cursor : Cursor) :
    Ensures (readBlockCall tag params cursor) (Announced tag "call") := by
  apply Ensures.trivial.bind
  rintro ⟨call, next, hnext⟩ _
  cases call with
  | call callee args span =>
      apply Ensures.trivial.bind
      intro _ _
      exact Ensures.ok ⟨rfl, rfl, rfl⟩
  | _ => exact Ensures.error

theorem readCall_ensures : Ensures (readCall tag) (Announced tag "call") := by
  unfold readCall
  by_cases hparen : tag.arguments.kind? = some (.punct .lparen)
  · rw [if_pos hparen]
    apply Ensures.trivial.bind
    rintro ⟨params, afterParams, hparams⟩ _
    exact readBlockCall_ensures tag params afterParams
  · rw [if_neg hparen]
    exact readBlockCall_ensures tag [] tag.arguments

theorem readWith_ensures : Ensures (readWith tag) (Announced tag "with") := by
  apply Ensures.trivial.bind
  intro bindings _
  exact Ensures.ok ⟨rfl, rfl, rfl⟩

theorem readFilterBlock_ensures : Ensures (readFilterBlock tag) (Announced tag "filter") := by
  apply Ensures.trivial.bind
  rintro ⟨first, afterFirst, hfirst⟩ _
  apply Ensures.trivial.bind
  rintro ⟨others, next, hnext⟩ _
  apply Ensures.trivial.bind
  intro _ _
  exact Ensures.ok ⟨rfl, rfl, rfl⟩

theorem readBlock_ensures : Ensures (readBlock tag) (Announced tag "block") := by
  apply (Cursor.expectName_ensures tag.endSpan .blockName).bind
  rintro ⟨⟨name, span⟩, afterName, hafterName⟩ ⟨hname, _⟩
  apply Ensures.trivial.bind
  intro _ _
  exact Ensures.ok ⟨rfl, rfl, (tag.repeatableName?_eq_some (.inr rfl) hname).symm⟩

theorem readExtends_ensures : Ensures (readExtends tag) (header? · = none) := by
  apply Ensures.trivial.bind
  rintro ⟨template, next, hnext⟩ _
  apply Ensures.trivial.bind
  intro _ _
  exact Ensures.ok rfl

theorem readInclude_ensures : Ensures (readInclude tag) (header? · = none) := by
  apply Ensures.trivial.bind
  rintro ⟨template, afterTemplate, htemplate⟩ _
  cases hignore : afterTemplate.take? (.name "ignore") with
  | none =>
      simp only [hignore]
      apply Ensures.trivial.bind
      intro _ _
      exact Ensures.ok rfl
  | some step =>
      simp only [hignore]
      apply Ensures.trivial.bind
      rintro ⟨_, afterMissing, hmissing⟩ _
      apply Ensures.trivial.bind
      intro _ _
      exact Ensures.ok rfl

theorem readImport_ensures : Ensures (readImport tag) (header? · = none) := by
  apply Ensures.trivial.bind
  rintro ⟨template, afterTemplate, htemplate⟩ _
  apply Ensures.trivial.bind
  rintro ⟨_, afterAs, has⟩ _
  apply Ensures.trivial.bind
  rintro ⟨⟨name, span⟩, afterName, hname⟩ _
  apply Ensures.trivial.bind
  intro _ _
  exact Ensures.ok rfl

theorem readFrom_ensures : Ensures (readFrom tag) (header? · = none) := by
  apply Ensures.trivial.bind
  rintro ⟨template, afterTemplate, htemplate⟩ _
  apply Ensures.trivial.bind
  rintro ⟨_, afterImport, himport⟩ _
  apply Ensures.trivial.bind
  rintro ⟨names, afterNames, hnames⟩ _
  cases names with
  | nil => exact Ensures.error
  | cons name names =>
      apply Ensures.trivial.bind
      intro _ _
      exact Ensures.ok rfl

theorem readDo_ensures : Ensures (readDo tag) (header? · = none) := by
  apply Ensures.trivial.bind
  rintro ⟨expr, next, hnext⟩ _
  apply Ensures.trivial.bind
  intro _ _
  exact Ensures.ok rfl

theorem ofTag_ensures (word : String) : Ensures (ofTag tag word) (Announced tag word) := by
  have hleaf {reading : Except ParseError Statement} {word : String}
      (hreading : Ensures reading (header? · = none)) (hopens : tag.opensBlock word = false) :
      Ensures reading (Announced tag word) := by
    constructor
    intro statement hstatement
    rw [Announced, hreading.of_ok statement hstatement]
    exact hopens
  unfold ofTag
  split
  · exact readIf_ensures tag
  · exact readLoop_ensures tag
  · exact readSet_ensures tag
  · exact readMacro_ensures tag
  · exact readCall_ensures tag
  · exact readWith_ensures tag
  · exact readFilterBlock_ensures tag
  · exact readBlock_ensures tag
  · exact hleaf (readExtends_ensures tag) rfl
  · exact hleaf (readInclude_ensures tag) rfl
  · exact hleaf (readImport_ensures tag) rfl
  · exact hleaf (readFrom_ensures tag) rfl
  · exact hleaf (readDo_ensures tag) rfl
  · apply Ensures.trivial.bind
    intro _ _
    exact Ensures.ok rfl
  · apply Ensures.trivial.bind
    intro _ _
    exact Ensures.ok rfl
  · exact Ensures.error
  · exact Ensures.error

end Statement

end TemplateVariables
