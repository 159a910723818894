import TemplateVariables.Collector
import TemplateVariables.Proofs.Node.Joining
import TemplateVariables.Proofs.Node.Opener

/-!
# Text, comments and raw blocks say nothing

A template without its text, comments and raw blocks has the same tree but for the nodes
that they are, the same error when it has one, and the same free variables.

The tree is followed through the machine that builds it.  An inert token adds an inert node
and does nothing else, and every other token does the same whether or not the inert nodes
before it have been dropped.
-/

namespace TemplateVariables

/-- Whether a token is text, a comment or a raw block. -/
def Token.isInert : Token → Bool
  | .text .. => true
  | .comment .. => true
  | .raw .. => true
  | .expression .. => false
  | .block .. => false
  | .eof .. => false

/-- Whether a node is text, a comment or a raw block. -/
def Node.isInert : Node → Bool
  | .text .. => true
  | .comment .. => true
  | .raw .. => true
  | _ => false

mutual

/-- The node without the inert nodes inside it, at every depth. -/
def Node.prune : Node → Node
  | .conditional branches otherwise span =>
      .conditional (Branch.pruneAll branches) (Node.pruneOption otherwise) span
  | .loop names iterable condition recursive body otherwise span =>
      .loop names iterable condition recursive (Node.pruneAll body) (Node.pruneOption otherwise)
        span
  | .setBlock name filters body span => .setBlock name filters (Node.pruneAll body) span
  | .macroBlock name params body span => .macroBlock name params (Node.pruneAll body) span
  | .callBlock params call body span => .callBlock params call (Node.pruneAll body) span
  | .withBlock bindings body span => .withBlock bindings (Node.pruneAll body) span
  | .filterBlock filters body span => .filterBlock filters (Node.pruneAll body) span
  | .block name body span => .block name (Node.pruneAll body) span
  | node => node

/-- The nodes without the inert ones, at every depth. -/
def Node.pruneAll : List Node → List Node
  | [] => []
  | node :: rest =>
      if node.isInert then Node.pruneAll rest else node.prune :: Node.pruneAll rest

def Node.pruneOption : Option (List Node) → Option (List Node)
  | none => none
  | some nodes => some (Node.pruneAll nodes)

def Branch.pruneAll : List Branch → List Branch
  | [] => []
  | ⟨condition, body⟩ :: rest => ⟨condition, Node.pruneAll body⟩ :: Branch.pruneAll rest

end

namespace Node

theorem pruneAll_cons_of_inert {node : Node} (hnode : node.isInert = true) (rest : List Node) :
    pruneAll (node :: rest) = pruneAll rest := by
  rw [pruneAll, if_pos hnode]

theorem pruneAll_cons_of_not_inert {node : Node} (hnode : node.isInert = false)
    (rest : List Node) : pruneAll (node :: rest) = node.prune :: pruneAll rest := by
  rw [pruneAll, if_neg (by rw [hnode]; exact Bool.false_ne_true)]

theorem pruneAll_append (first second : List Node) :
    pruneAll (first ++ second) = pruneAll first ++ pruneAll second := by
  induction first with
  | nil => rfl
  | cons node rest ih =>
      cases hnode : node.isInert with
      | true =>
          rw [List.cons_append, pruneAll_cons_of_inert hnode, pruneAll_cons_of_inert hnode, ih]
      | false =>
          rw [List.cons_append, pruneAll_cons_of_not_inert hnode,
            pruneAll_cons_of_not_inert hnode, ih, List.cons_append]

end Node

theorem Branch.pruneAll_append (first second : List Branch) :
    Branch.pruneAll (first ++ second) = Branch.pruneAll first ++ Branch.pruneAll second := by
  induction first with
  | nil => rfl
  | cons branch rest ih =>
      obtain ⟨condition, body⟩ := branch
      rw [List.cons_append, Branch.pruneAll, Branch.pruneAll, ih, List.cons_append]

theorem PlainHeader.isInert_node (header : PlainHeader) (body : List Node) (span : Span) :
    (header.node body span).isInert = false := by
  cases header <;> rfl

theorem PlainHeader.prune_node (header : PlainHeader) (body : List Node) (span : Span) :
    (header.node body span).prune = header.node (Node.pruneAll body) span := by
  cases header <;> simp only [PlainHeader.node, Node.prune]

/-! ## What is collected -/

theorem Node.collect_of_inert {node : Node} (hnode : node.isInert = true)
    (collector : Collector) : node.collect collector = collector := by
  cases node with
  | text content span => rfl
  | comment span => rfl
  | raw content span => rfl
  | _ => cases hnode

mutual

theorem Node.collect_prune : (node : Node) → node.prune.collect = node.collect
  | .text content span => rfl
  | .raw content span => rfl
  | .comment span => rfl
  | .expression expr span => rfl
  | .evaluate expr span => rfl
  | .set targets value span => rfl
  | .extendTemplate template span => rfl
  | .includeTemplate template span => rfl
  | .importTemplate template name span => rfl
  | .importNames template names span => rfl
  | .loopControl kind span => rfl
  | .conditional branches none span => by
      funext collector
      rw [Node.prune, Node.pruneOption, Node.collect, Node.collect,
        Branch.collectAll_prune branches]
  | .conditional branches (some otherwise) span => by
      funext collector
      rw [Node.prune, Node.pruneOption, Node.collect, Node.collect,
        Branch.collectAll_prune branches, Node.collectAll_prune otherwise]
  | .loop names iterable condition recursive body none span => by
      funext collector
      rw [Node.prune, Node.pruneOption, Node.collect, Node.collect, Node.collectAll_prune body]
  | .loop names iterable condition recursive body (some otherwise) span => by
      funext collector
      rw [Node.prune, Node.pruneOption, Node.collect, Node.collect, Node.collectAll_prune body,
        Node.collectAll_prune otherwise]
  | .setBlock name filters body span => by
      funext collector
      rw [Node.prune, Node.collect, Node.collect, Node.collectAll_prune body]
  | .macroBlock name params body span => by
      funext collector
      rw [Node.prune, Node.collect, Node.collect, Node.collectAll_prune body]
  | .callBlock params call body span => by
      funext collector
      rw [Node.prune, Node.collect, Node.collect, Node.collectAll_prune body]
  | .withBlock bindings body span => by
      funext collector
      rw [Node.prune, Node.collect, Node.collect, Node.collectAll_prune body]
  | .filterBlock filters body span => by
      funext collector
      rw [Node.prune, Node.collect, Node.collect, Node.collectAll_prune body]
  | .block name body span => by
      funext collector
      rw [Node.prune, Node.collect, Node.collect, Node.collectAll_prune body]

theorem Node.collectAll_prune :
    (nodes : List Node) → Node.collectAll (Node.pruneAll nodes) = Node.collectAll nodes
  | [] => rfl
  | node :: rest => by
      funext collector
      cases hnode : node.isInert with
      | true =>
          rw [Node.pruneAll_cons_of_inert hnode, Node.collectAll, Node.collect_of_inert hnode,
            Node.collectAll_prune rest]
      | false =>
          rw [Node.pruneAll_cons_of_not_inert hnode, Node.collectAll, Node.collectAll,
            node.collect_prune, Node.collectAll_prune rest]

theorem Branch.collectAll_prune :
    (branches : List Branch) →
      Branch.collectAll (Branch.pruneAll branches) = Branch.collectAll branches
  | [] => rfl
  | ⟨condition, body⟩ :: rest => by
      funext collector
      rw [Branch.pruneAll, Branch.collectAll, Branch.collectAll, Node.collectAll_prune body,
        Branch.collectAll_prune rest]

end

/-! ## Statements -/

theorem Parser.expressionNode_ensures (tag : Tag) :
    Ensures (expressionNode tag) fun node => ∃ expr, node = .expression expr tag.span := by
  unfold expressionNode
  split
  · exact Ensures.error
  · apply Ensures.trivial.bind
    intro expr _
    exact Ensures.ok ⟨expr, rfl⟩

namespace Statement

/-- A statement that is complete by itself is a single node with no inert node in it. -/
def IsPruned (statement : Statement) : Prop :=
  ∀ node, statement = .complete node → Node.pruneAll [node] = [node]

theorem isPruned_opens (header : Header) : (opens header).IsPruned := by
  intro node heq
  cases heq

theorem isPruned_complete {node : Node} (hnode : Node.pruneAll [node] = [node]) :
    (complete node).IsPruned := by
  rintro _ ⟨⟩
  exact hnode

theorem isPruned_of_announced {tag : Tag} {word : String} {statement : Statement}
    (hopens : tag.opensBlock word = true) (hannounced : Announced tag word statement) :
    statement.IsPruned := by
  cases statement with
  | opens header => exact isPruned_opens header
  | complete node => exact absurd (hopens.symm.trans hannounced) (by decide)

variable (tag : Tag)

theorem readSet_isPruned : Ensures (readSet tag) IsPruned := by
  apply Ensures.trivial.bind
  rintro ⟨targets, afterTargets, htargets⟩ _
  cases hassign : afterTargets.take? (.punct .assign) with
  | some step =>
      simp only [hassign]
      apply Ensures.trivial.bind
      rintro ⟨value, next, hnext⟩ _
      apply Ensures.trivial.bind
      intro _ _
      exact Ensures.ok (isPruned_complete rfl)
  | none =>
      simp only [hassign]
      rcases targets with _ | ⟨⟨name⟩ | ⟨space, name⟩, _ | ⟨target, targets⟩⟩
      case cons.name.nil =>
        apply Ensures.trivial.bind
        rintro ⟨filters, next, hnext⟩ _
        apply Ensures.trivial.bind
        intro _ _
        exact Ensures.ok (isPruned_opens _)
      all_goals exact Ensures.error

theorem readExtends_isPruned : Ensures (readExtends tag) IsPruned := by
  apply Ensures.trivial.bind
  rintro ⟨template, next, hnext⟩ _
  apply Ensures.trivial.bind
  intro _ _
  exact Ensures.ok (isPruned_complete rfl)

theorem readInclude_isPruned : Ensures (readInclude tag) IsPruned := by
  apply Ensures.trivial.bind
  rintro ⟨template, afterTemplate, htemplate⟩ _
  cases hignore : afterTemplate.take? (.name "ignore") with
  | none =>
      simp only [hignore]
      apply Ensures.trivial.bind
      intro _ _
      exact Ensures.ok (isPruned_complete rfl)
  | some step =>
      simp only [hignore]
      apply Ensures.trivial.bind
      rintro ⟨_, afterMissing, hmissing⟩ _
      apply Ensures.trivial.bind
      intro _ _
      exact Ensures.ok (isPruned_complete rfl)

theorem readImport_isPruned : Ensures (readImport tag) IsPruned := by
  apply Ensures.trivial.bind
  rintro ⟨template, afterTemplate, htemplate⟩ _
  apply Ensures.trivial.bind
  rintro ⟨_, afterAs, has⟩ _
  apply Ensures.trivial.bind
  rintro ⟨⟨name, span⟩, afterName, hname⟩ _
  apply Ensures.trivial.bind
  intro _ _
  exact Ensures.ok (isPruned_complete rfl)

theorem readFrom_isPruned : Ensures (readFrom tag) IsPruned := by
  apply Ensures.trivial.bind
  rintro ⟨template, afterTemplate, htemplate⟩ _
  apply Ensures.trivial.bind
  rintro ⟨_, afterImport, himport⟩ _
  apply Ensures.trivial.bind
  rintro ⟨names, afterNames, hnames⟩ _
  cases names with
  | nil => exact Ensures.error
  | cons name names =>
      apply Ensures.trivial.bind
      intro _ _
      exact Ensures.ok (isPruned_complete rfl)

theorem readDo_isPruned : Ensures (readDo tag) IsPruned := by
  apply Ensures.trivial.bind
  rintro ⟨expr, next, hnext⟩ _
  apply Ensures.trivial.bind
  intro _ _
  exact Ensures.ok (isPruned_complete rfl)

theorem ofTag_isPruned (word : String) : Ensures (ofTag tag word) IsPruned := by
  have hblock {reading : Except ParseError Statement} {word : String}
      (hreading : Ensures reading (Announced tag word)) (hopens : tag.opensBlock word = true) :
      Ensures reading IsPruned :=
    ⟨fun statement hok => isPruned_of_announced hopens (hreading.of_ok statement hok)⟩
  unfold ofTag
  split
  · exact hblock (readIf_ensures tag) rfl
  · exact hblock (readLoop_ensures tag) rfl
  · exact readSet_isPruned tag
  · exact hblock (readMacro_ensures tag) rfl
  · exact hblock (readCall_ensures tag) rfl
  · exact hblock (readWith_ensures tag) rfl
  · exact hblock (readFilterBlock_ensures tag) rfl
  · exact hblock (readBlock_ensures tag) rfl
  · exact readExtends_isPruned tag
  · exact readInclude_isPruned tag
  · exact readImport_isPruned tag
  · exact readFrom_isPruned tag
  · exact readDo_isPruned tag
  · apply Ensures.trivial.bind
    intro _ _
    exact Ensures.ok (isPruned_complete rfl)
  · apply Ensures.trivial.bind
    intro _ _
    exact Ensures.ok (isPruned_complete rfl)
  · exact Ensures.error
  · exact Ensures.error

theorem statement_isPruned (opened : List OpenTag) (word : String) :
    Ensures (Parser.statement opened word tag) IsPruned := by
  unfold Parser.statement
  split
  · exact Ensures.error
  split
  · exact Ensures.error
  · exact ofTag_isPruned tag word

end Statement

/-! ## States -/

/-- What has been read of a block, without inert nodes. -/
def Unfinished.prune : Unfinished → Unfinished
  | .branch earlier condition => .branch (Branch.pruneAll earlier) condition
  | .otherwise branches => .otherwise (Branch.pruneAll branches)
  | .loop names iterable condition recursive => .loop names iterable condition recursive
  | .loopOtherwise names iterable condition recursive body =>
      .loopOtherwise names iterable condition recursive (Node.pruneAll body)
  | .plain header => .plain header

def OpenBlock.prune (block : OpenBlock) : OpenBlock where
  toOpenTag := block.toOpenTag
  before := Node.pruneAll block.before
  unfinished := block.unfinished.prune

namespace Building

/-- The state that is reached without inert tokens. -/
def prune (building : Building) : Building where
  blocks := building.blocks.map OpenBlock.prune
  nodes := Node.pruneAll building.nodes

theorem add_of_inert {node : Node} (hnode : node.isInert = true) (building : Building) :
    (building.add node).prune = building.prune := by
  have hnone : Node.pruneAll [node] = [] := by
    rw [Node.pruneAll_cons_of_inert hnode, Node.pruneAll]
  simp only [prune, add, Node.pruneAll_append, hnone, List.append_nil]

theorem add_prune {node pruned : Node} (hnode : Node.pruneAll [node] = [pruned])
    (building : Building) : (building.add node).prune = building.prune.add pruned := by
  simp only [prune, add, Node.pruneAll_append, hnode]

theorem opened_prune (building : Building) : building.prune.opened = building.opened := by
  rw [opened, prune, List.map_map]
  rfl

theorem accepted_prune (block : OpenBlock) : block.prune.accepted = block.accepted := by
  obtain ⟨tag, before, unfinished⟩ := block
  cases unfinished <;> rfl

theorem awaited_prune (building : Building) : building.prune.awaited = building.awaited := by
  obtain ⟨_ | ⟨block, below⟩, nodes⟩ := building
  · rfl
  · exact accepted_prune block

theorem apply_prune {statement : Statement} (hstatement : statement.IsPruned)
    (building : Building) (tag : Tag) :
    (building.apply tag statement).prune = building.prune.apply tag statement := by
  cases statement with
  | complete node => exact add_prune (hstatement node rfl) building
  | opens header =>
      cases header <;> rfl

theorem divide_prune (block : OpenBlock) (below : List OpenBlock) (unfinished : Unfinished) :
    (block.divide below unfinished).prune =
      block.prune.divide (below.map OpenBlock.prune) unfinished.prune := rfl

theorem complete_prune {node : Node} (hnode : node.isInert = false) (block : OpenBlock)
    (below : List OpenBlock) :
    (block.complete below node).prune =
      block.prune.complete (below.map OpenBlock.prune) node.prune := by
  have hone : Node.pruneAll [node] = [node.prune] := by
    rw [Node.pruneAll_cons_of_not_inert hnode, Node.pruneAll]
  exact add_prune hone ⟨below, block.before⟩

/-- Dropping inert nodes does not change what a tag does to the block that accepts it. -/
theorem close_prune (block : OpenBlock) (below : List OpenBlock) (body : List Node)
    (closing : Tag) :
    block.prune.close (below.map OpenBlock.prune) (Node.pruneAll body) closing =
      prune <$> block.close below body closing := by
  have hbranches (earlier : List Branch) (condition : Expr) :
      Branch.pruneAll (earlier ++ [⟨condition, body⟩]) =
        Branch.pruneAll earlier ++ [⟨condition, Node.pruneAll body⟩] :=
    Branch.pruneAll_append earlier [⟨condition, body⟩]
  have hconditional (branches : List Branch) (otherwise : Option (List Node)) (span : Span) :
      (Node.conditional branches otherwise span).isInert = false := rfl
  have hloop (names : List String) (iterable : Expr) (condition : Option Expr)
      (recursive : Bool) (body : List Node) (otherwise : Option (List Node)) (span : Span) :
      (Node.loop names iterable condition recursive body otherwise span).isInert = false := rfl
  obtain ⟨tag, before, unfinished⟩ := block
  cases unfinished <;> simp only [OpenBlock.close, map_bind, map_pure,
    apply_ite (prune <$> ·), divide_prune, complete_prune, hconditional, hloop,
    PlainHeader.isInert_node, PlainHeader.prune_node, OpenBlock.prune, Unfinished.prune,
    hbranches, Node.prune, Node.pruneOption]

theorem blockTag_prune (building : Building) (tag : Tag) :
    building.prune.blockTag tag = prune <$> building.blockTag tag := by
  cases hname : tag.expectName with
  | error error =>
      rw [blockTag_of_error hname, blockTag_of_error hname]
      rfl
  | ok word =>
      by_cases hword : word ∈ building.awaited
      · obtain ⟨_ | ⟨block, below⟩, nodes⟩ := building
        · exact absurd hword List.not_mem_nil
        have hblock : word ∈ block.accepted := hword
        rw [blockTag_of_mem hname hblock, ← close_prune block below nodes tag]
        apply blockTag_of_mem hname
        rwa [accepted_prune]
      · have hpruned : word ∉ building.prune.awaited := by rwa [awaited_prune]
        rw [blockTag_of_not_mem hname hword, blockTag_of_not_mem hname hpruned, opened_prune,
          map_bind]
        apply (Statement.statement_isPruned tag building.opened word).bind_congr
        intro statement hstatement
        exact congrArg Except.ok (apply_prune hstatement building tag).symm

/-- A token that is not inert does the same without the inert nodes before it. -/
theorem step_prune {token : Token} (htoken : token.isInert = false) (building : Building) :
    building.prune.step token = prune <$> building.step token := by
  cases token with
  | eof offset => rfl
  | block tag => exact blockTag_prune building tag
  | expression tag =>
      rw [step, step, map_bind]
      apply (Parser.expressionNode_ensures tag).bind_congr
      rintro _ ⟨expr, rfl⟩
      exact congrArg Except.ok (add_prune rfl building).symm
  | _ => cases htoken

/-- An inert token adds an inert node. -/
theorem step_of_inert {token : Token} (htoken : token.isInert = true) (building : Building) :
    ∃ next, building.step token = .ok next ∧ next.prune = building.prune := by
  cases token with
  | text content span => exact ⟨_, rfl, add_of_inert rfl building⟩
  | raw content span => exact ⟨_, rfl, add_of_inert rfl building⟩
  | comment span => exact ⟨_, rfl, add_of_inert rfl building⟩
  | _ => cases htoken

theorem finish_prune (building : Building) :
    building.prune.finish = Node.pruneAll <$> building.finish := by
  obtain ⟨blocks, nodes⟩ := building
  cases blocks <;> rfl

/-- The machine without inert tokens is always at the state of the machine with them, less
its inert nodes. -/
theorem run_prune (building : Building) (tokens : List Token) :
    building.prune.run (tokens.filter fun token => !token.isInert) =
      Node.pruneAll <$> building.run tokens := by
  induction tokens generalizing building with
  | nil => exact finish_prune building
  | cons token rest ih =>
      cases htoken : token.isInert with
      | true =>
          obtain ⟨next, hnext, hprune⟩ := step_of_inert htoken building
          have heof : ∀ offset, token ≠ .eof offset := by
            rintro offset rfl
            cases htoken
          rw [List.filter_cons_of_neg (by simp [htoken]), run_cons heof, hnext, ← hprune]
          exact ih next
      | false =>
          rw [List.filter_cons_of_pos (by simp [htoken])]
          -- The end token ends both runs, whatever stands behind it.
          by_cases heof : ∃ offset, token = .eof offset
          · obtain ⟨offset, rfl⟩ := heof
            exact finish_prune building
          · have hother : ∀ offset, token ≠ .eof offset := not_exists.1 heof
            rw [run_cons hother, run_cons hother, step_prune htoken, map_bind, bind_map_left]
            simp only [ih]

end Building

/-- Text, comments and raw blocks say nothing: a template without them has the same error or
the same tree without the nodes that they are, at every depth, and a tree without such nodes
has the same free variables. -/
theorem Node.ofTokens_filter_inert :
    (∀ tokens : List Token,
      Node.ofTokens (tokens.filter fun token => !token.isInert) =
        (Node.ofTokens tokens).map Node.pruneAll) ∧
    ∀ (globals : Globals) (nodes : List Node),
      freeVariables globals (Node.pruneAll nodes) = freeVariables globals nodes := by
  constructor
  · intro tokens
    rw [Node.ofTokens_eq_build, Node.ofTokens_eq_build]
    exact Building.run_prune Building.empty tokens
  · intro globals nodes
    rw [freeVariables, freeVariables, Node.collectAll_prune nodes]

end TemplateVariables
