import TemplateVariables.Proofs.Expr.Sound
import TemplateVariables.Proofs.Node.Proper
import TemplateVariables.Proofs.Node.TreeSteps
import TemplateVariables.Proofs.Token.Texts

/-!
# Templates are read soundly

The trees that have been read stay sound while the tree grows, and in every list texts lie
apart.  The first needs that the nodes put above other trees are proper, the second that texts
lie apart among the tokens: only a token that is a text becomes one, and it does so at once.
-/

namespace TemplateVariables

open Subtree

/-! ## Trees of a token -/

theorem Takes.operands {tagEnd : Span} {opened : List Punct} {trees : List Subtree}
    {cursor next : Cursor} (htakes : Takes tagEnd opened cursor trees next) : Operands trees := by
  induction htakes with
  | stop => exact .nil
  | lexeme _ _ _ ih => exact ih
  | @read form _ _ _ _ _ hform hreads _ ih =>
      -- What is read as a whole goes on with nothing, and is no index.
      have hsound : form.Sound → Operands form.trees := by
        cases form <;> first | exact id | cases hform
      have hfront : form.front = [] := by
        cases form <;> first | rfl | cases hform
      have hreads := hreads.sound
      rw [hfront] at hreads
      exact (hsound (hreads .nil)).append ih

theorem Token.Holds.operands {token : Token} {trees : List Subtree}
    (hholds : token.Holds trees) : Operands trees := by
  cases token with
  | expression tag =>
      obtain ⟨_, -, htakes⟩ := hholds
      exact htakes.operands
  | block tag =>
      obtain ⟨-, _, -, htakes⟩ := hholds
      exact htakes.operands
  | text content span => exact hholds ▸ .nil
  | raw content span => exact hholds ▸ .nil
  | comment span => exact hholds ▸ .nil
  | eof offset => exact hholds ▸ .nil

/-! ## Lists of nodes -/

/-- A list of proper nodes in which texts lie apart. -/
structure Node.ProperList (nodes : List Node) : Prop where
  proper : ∀ node ∈ nodes, node.Proper
  apart : Node.TextsApart nodes

namespace Node.ProperList

theorem nil : ProperList [] := ⟨List.forall_mem_nil _, List.isChain_nil⟩

theorem append {nodes : List Node} {node : Node} (hnodes : ProperList nodes)
    (hnode : node.Proper) (htext : endsInText nodes = true → node.isText = false) :
    ProperList (nodes ++ [node]) :=
  ⟨List.forall_mem_append.2 ⟨hnodes.proper, List.forall_mem_singleton.2 hnode⟩,
    hnodes.apart.append htext⟩

end Node.ProperList

theorem Branch.apart_append {branches : List Branch} {body : List Node}
    (hbranches : ∀ earlier ∈ branches.map (·.body), Node.TextsApart earlier)
    (hbody : Node.TextsApart body) (condition : Expr) :
    ∀ earlier ∈ (branches ++ [(⟨condition, body⟩ : Branch)]).map (·.body),
      Node.TextsApart earlier := by
  rw [List.map_append]
  exact List.forall_mem_append.2 ⟨hbranches, List.forall_mem_singleton.2 hbody⟩

theorem PlainHeader.proper_node {header : PlainHeader} (hheader : header.WellFormed)
    {body : List Node} (hbody : Node.TextsApart body) (span : Span) :
    (header.node body span).Proper := by
  cases header <;> exact ⟨hheader, List.forall_mem_singleton.2 hbody⟩

theorem PlainHeader.isText_node (header : PlainHeader) (body : List Node) (span : Span) :
    (header.node body span).isText = false := by
  cases header <;> rfl

/-! ## Proper states -/

/-- What has been read of a block lacks nothing, and in its complete lists texts lie apart. -/
def Unfinished.Proper : Unfinished → Prop
  | .branch earlier _ => ∀ body ∈ earlier.map (·.body), Node.TextsApart body
  | .otherwise branches =>
      branches ≠ [] ∧ ∀ body ∈ branches.map (·.body), Node.TextsApart body
  | .loop names _ _ _ => TargetNames names
  | .loopOtherwise names _ _ _ body => TargetNames names ∧ Node.TextsApart body
  | .plain header => header.WellFormed

structure OpenBlock.Proper (block : OpenBlock) : Prop where
  unfinished : block.unfinished.Proper
  before : Node.ProperList block.before

theorem Header.WellFormed.unfinished {header : Header} (hheader : header.WellFormed) :
    header.unfinished.Proper := by
  cases header with
  | conditional condition => exact List.forall_mem_nil _
  | loop names iterable condition recursive => exact hheader
  | plain header => exact hheader

namespace Building

structure Proper (building : Building) : Prop where
  blocks : ∀ block ∈ building.blocks, block.Proper
  nodes : Node.ProperList building.nodes

/-- The state behind a token: it is proper, and it ends in a text if the token is one. -/
structure Behind (token : Token) (building : Building) : Prop where
  proper : building.Proper
  text : Node.endsInText building.nodes = token.isText

theorem empty_proper : empty.Proper := ⟨List.forall_mem_nil _, .nil⟩

variable {building : Building} {block : OpenBlock} {below : List OpenBlock} {nodes : List Node}

theorem Proper.add (hproper : building.Proper) {node : Node} (hnode : node.Proper)
    {token : Token} (htoken : node.isText = token.isText)
    (htext : Node.endsInText building.nodes = true → token.isText = false) :
    Behind token (building.add node) where
  proper := ⟨hproper.blocks, hproper.nodes.append hnode (htoken ▸ htext)⟩
  text := (Node.endsInText_append building.nodes node).trans htoken

theorem Proper.push (hproper : building.Proper) {header : Header} (hheader : header.WellFormed)
    {tag : Tag} : Behind (.block tag) (building.push header tag) where
  proper := ⟨List.forall_mem_cons.2 ⟨⟨hheader.unfinished, hproper.nodes⟩, hproper.blocks⟩, .nil⟩
  text := rfl

theorem Proper.divide (hproper : Proper ⟨block :: below, nodes⟩) {unfinished : Unfinished}
    (hunfinished : unfinished.Proper) {tag : Tag} :
    Behind (.block tag) (block.divide below unfinished) := by
  obtain ⟨hblock, hbelow⟩ := List.forall_mem_cons.1 hproper.blocks
  exact ⟨⟨List.forall_mem_cons.2 ⟨⟨hunfinished, hblock.before⟩, hbelow⟩, .nil⟩, rfl⟩

theorem Proper.complete (hproper : Proper ⟨block :: below, nodes⟩) {node : Node}
    (hnode : node.Proper) (hblock : node.isText = false) {tag : Tag} :
    Behind (.block tag) (block.complete below node) := by
  obtain ⟨hopen, hbelow⟩ := List.forall_mem_cons.1 hproper.blocks
  exact ⟨⟨hbelow, hopen.before.append hnode fun _ => hblock⟩,
    (Node.endsInText_append block.before node).trans hblock⟩

/-! ## Steps -/

theorem Proper.close (hproper : Proper ⟨block :: below, nodes⟩) (closing : Tag) :
    Ensures (block.close below nodes closing) (Behind (.block closing)) := by
  have hunfinished := (hproper.blocks block List.mem_cons_self).unfinished
  have hbody := hproper.nodes.apart
  obtain ⟨tag, before, unfinished⟩ := block
  cases unfinished with
  | branch earlier condition =>
      have hbranches := Branch.apart_append hunfinished hbody condition
      have hsome := List.append_ne_nil_of_right_ne_nil earlier
        (List.cons_ne_nil (⟨condition, nodes⟩ : Branch) [])
      unfold OpenBlock.close
      dsimp only
      split
      · apply Ensures.trivial.bind
        intro next _
        apply Ensures.ok
        apply hproper.divide
        exact hbranches
      apply Ensures.trivial.bind
      intro _ _
      split
      · apply Ensures.ok
        apply hproper.divide
        exact ⟨hsome, hbranches⟩
      · apply Ensures.ok
        apply hproper.complete
        · exact ⟨hsome, List.forall_mem_append.2 ⟨hbranches, List.forall_mem_nil _⟩⟩
        · rfl
  | otherwise branches =>
      obtain ⟨hsome, hbranches⟩ := hunfinished
      apply Ensures.trivial.bind
      intro _ _
      apply Ensures.ok
      apply hproper.complete
      · exact ⟨hsome, List.forall_mem_append.2 ⟨hbranches, List.forall_mem_singleton.2 hbody⟩⟩
      · rfl
  | loop names iterable condition recursive =>
      apply Ensures.trivial.bind
      intro _ _
      split
      · apply Ensures.ok
        apply hproper.divide
        exact ⟨hunfinished, hbody⟩
      · apply Ensures.ok
        apply hproper.complete
        · exact ⟨hunfinished, List.forall_mem_singleton.2 hbody⟩
        · rfl
  | loopOtherwise names iterable condition recursive body =>
      obtain ⟨hnames, hfirst⟩ := hunfinished
      apply Ensures.trivial.bind
      intro _ _
      apply Ensures.ok
      apply hproper.complete
      · exact ⟨hnames, List.forall_mem_cons.2 ⟨hfirst, List.forall_mem_singleton.2 hbody⟩⟩
      · rfl
  | plain header =>
      apply Ensures.trivial.bind
      intro _ _
      apply Ensures.ok
      apply hproper.complete
      · exact PlainHeader.proper_node hunfinished hbody _
      · exact header.isText_node nodes _

theorem Proper.apply (hproper : building.Proper) {statement : Statement}
    (hstatement : statement.Proper) (tag : Tag) :
    Behind (.block tag) (building.apply tag statement) := by
  cases statement with
  | complete node => exact hproper.add hstatement.proper hstatement.noText fun _ => rfl
  | opens header => exact hproper.push hstatement

theorem Proper.blockTag (hproper : building.Proper) (tag : Tag) :
    Ensures (building.blockTag tag) (Behind (.block tag)) := by
  cases hname : tag.expectName with
  | error error =>
      rw [blockTag_of_error hname]
      exact Ensures.error
  | ok word =>
      by_cases hword : word ∈ building.awaited
      · obtain ⟨_ | ⟨block, below⟩, nodes⟩ := building
        · exact absurd hword List.not_mem_nil
        rw [blockTag_of_mem hname hword]
        exact hproper.close tag
      · rw [blockTag_of_not_mem hname hword]
        apply (Statement.statement_proper tag building.opened word).bind
        intro statement hstatement
        exact Ensures.ok (hproper.apply hstatement tag)

/-- A token that lacks nothing keeps the state proper, unless it is a second text. -/
theorem Proper.step (hproper : building.Proper) {token : Token}
    (htoken : ∀ offset, token ≠ .eof offset) (hfilled : token.Filled)
    (htext : Node.endsInText building.nodes = true → token.isText = false) :
    Ensures (building.step token) (Behind token) := by
  cases token with
  | text content span =>
      have hnode : (Node.text content span).Proper := ⟨hfilled, List.forall_mem_nil _⟩
      exact Ensures.ok (hproper.add hnode rfl htext)
  | raw content span =>
      have hnode : (Node.raw content span).IsMarkup := ⟨trivial, rfl, rfl⟩
      exact Ensures.ok (hproper.add hnode.proper rfl htext)
  | comment span =>
      have hnode : (Node.comment span).IsMarkup := ⟨trivial, rfl, rfl⟩
      exact Ensures.ok (hproper.add hnode.proper rfl htext)
  | eof offset => exact absurd rfl (htoken offset)
  | block tag => exact hproper.blockTag tag
  | expression tag =>
      apply (Parser.expressionNode_isMarkup tag).bind
      intro node hnode
      exact Ensures.ok (hproper.add hnode.proper hnode.noText htext)

/-- The trees stay sound if what is put above them is proper. -/
theorem Steps.operands {token : Token} {building next : Building}
    (hstep : Steps token building next) (hproper : next.Proper)
    (htrees : Operands building.trees) : Operands next.trees := by
  obtain ⟨trees, hholds, hnext | ⟨earlier, node, hearlier, hnext, hnode, -⟩⟩ := hstep.trees
  · rw [hnext]
    exact htrees.append hholds.operands
  · have hparts := htrees.append hholds.operands
    rw [hearlier, operands_append] at hparts
    rw [hnext]
    exact hparts.1.append (hparts.2.build (hproper.nodes.proper node hnode) rfl rfl)

/-! ## Runs -/

/-- The tokens of a template take a proper state with sound trees to sound trees. -/
theorem Proper.run {body : List Token} (hbody : ∀ offset, .eof offset ∉ body) (offset : UInt32)
    (hfilled : ∀ token ∈ body, token.Filled) (hapart : Token.TextsApart body)
    {building : Building} (hproper : building.Proper) (htrees : Operands building.trees)
    (htext : Node.endsInText building.nodes = true → ∀ token ∈ body.head?, token.isText = false) :
    Ensures (building.run (body ++ [.eof offset]))
      (fun nodes => Operands (nodes.map .node) ∧ Node.ProperList nodes) := by
  induction body generalizing building with
  | nil =>
      obtain ⟨_ | ⟨block, below⟩, nodes⟩ := building
      · exact Ensures.ok ⟨htrees, hproper.nodes⟩
      · exact Ensures.error
  | cons token rest ih =>
      have htoken : ∀ offset, token ≠ .eof offset := fun offset heq =>
        hbody offset (heq ▸ List.mem_cons_self)
      have hrest : ∀ offset, .eof offset ∉ rest := fun offset hmem =>
        hbody offset (List.mem_cons_of_mem token hmem)
      obtain ⟨hfirst, hothers⟩ := List.forall_mem_cons.1 hfilled
      obtain ⟨hnext, hapart⟩ := List.isChain_cons.1 hapart
      have hstep := hproper.step htoken hfirst fun hends => htext hends token rfl
      rw [List.cons_append, run_cons htoken]
      apply (hstep.and (step_steps htoken building)).bind
      rintro next ⟨hbehind, hsteps⟩
      apply ih hrest hothers hapart hbehind.proper (hsteps.operands hbehind.proper htrees)
      -- The list ends in a text only if the token was one, and then the next token is none.
      intro hends first hfirst
      exact hnext first hfirst (hbehind.text ▸ hends)

end Building

/-! ## Templates -/

/-- Every tree of a template keeps the rules for trees, and texts lie apart in the template. -/
theorem Node.ofSource_sound {source : List Char} {nodes : List Node}
    (hok : Node.ofSource source = .ok nodes) :
    Node.TextsApart nodes ∧ ∀ tree ∈ (nodes.map Subtree.node).flatMap Subtree.all, tree.Proper := by
  rw [Node.ofSource_eq_build] at hok
  split at hok
  · cases hok
    exact ⟨List.isChain_nil, List.forall_mem_nil _⟩
  · obtain ⟨tokens, htokens, hrun⟩ := exists_of_bind_eq_ok hok
    obtain ⟨body, offset, rfl, hbody⟩ := Token.exists_body_of_ofCharsFrom htokens
    have htexts := Token.setApart_of_ofCharsFrom htokens
    have hfilled := (List.forall_mem_append.1 htexts.filled).1
    have hapart := (List.isChain_append.1 htexts.apart).1
    obtain ⟨htrees, hlist⟩ := (Building.empty_proper.run hbody offset hfilled hapart .nil
      nofun).of_ok nodes hrun
    refine ⟨hlist.apart, fun tree hmem => ?_⟩
    obtain ⟨top, htop, hinside⟩ := List.mem_flatMap.1 hmem
    exact (htrees top htop).1 tree hinside

/-- A slice, a test that is not negated, nested targets, a call block, an import of names, and
texts that a comment keeps apart. -/
theorem Node.ofSource_sound_slice :
    let source := ("a\x7b# #\x7db\x7b\x7b xs[1:n] is in ys \x7d\x7d" ++
      "\x7b% for (k, v), w in xs %\x7d c\x7b% else %\x7d\x7b% set k = v %\x7d\x7b% endfor %\x7d" ++
      "\x7b% call f(x) %\x7d\x7b% from t import m %\x7d\x7b% endcall %\x7d").toList
    ∃ nodes, Node.ofSource source = .ok nodes ∧
      nodes.map Node.isText = [true, false, true, false, false, false] ∧
      (((nodes.map Subtree.node).flatMap Subtree.all).filter Subtree.isSlice).length = 1 ∧
      Node.TextsApart nodes ∧
      ∀ tree ∈ (nodes.map Subtree.node).flatMap Subtree.all, tree.Proper := by
  intro source
  have hread : (Node.ofSource source).map (fun nodes => (nodes.map Node.isText,
      (((nodes.map Subtree.node).flatMap Subtree.all).filter Subtree.isSlice).length)) =
        .ok ([true, false, true, false, false, false], 1) := by
    rw [Node.ofSource_eq_build]
    decide +kernel
  obtain ⟨nodes, hok, hfacts⟩ := exists_of_map_eq_ok hread
  obtain ⟨htexts, hslices⟩ := Prod.mk.inj hfacts
  exact ⟨nodes, hok, htexts, hslices, Node.ofSource_sound hok⟩

end TemplateVariables
