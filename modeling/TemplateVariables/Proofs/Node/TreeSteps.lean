import TemplateVariables.Proofs.Node.Joining
import TemplateVariables.Proofs.Node.TagTrees
import TemplateVariables.Proofs.Token.Joining
import TemplateVariables.Proofs.Token.Places

/-!
# How the tree grows

A token becomes a node, opens a block, or goes to the innermost block, which it divides or
completes.  Every tree of the token is put behind what has been read before it, and a
complete node is made of what has been read of it, in that order.
-/

namespace TemplateVariables

open TemplateVariables.Parser Statement

/-- The trees are those of the token itself, in the order in which it has them. -/
def Token.Holds (trees : List Subtree) : Token → Prop
  | .expression tag => TakesAll tag.endSpan (Cursor.ofLexemes tag.lexemes) trees
  | .block tag =>
      (∃ word, tag.expectName = .ok word) ∧ TakesAll tag.endSpan tag.arguments trees
  | _ => trees = []

/-- The token assigns to an attribute of the namespace. -/
def Token.Assigns (token : Token) (space : String) : Prop :=
  ∃ rest, token.kinds = .name "set" :: .name space :: .punct .dot :: rest

/-- The trees that have been read of a block, without those of the list being read. -/
def Unfinished.trees : Unfinished → List Subtree
  | .branch earlier condition => Branch.children earlier ++ [.expr condition]
  | .otherwise branches => Branch.children branches
  | .loop _ iterable condition _ => .expr iterable :: condition.toList.map .expr
  | .loopOtherwise _ iterable condition _ body =>
      (.expr iterable :: condition.toList.map .expr) ++ body.map .node
  | .plain header => header.trees

theorem Header.trees_unfinished (header : Header) : header.unfinished.trees = header.trees := by
  cases header <;> rfl

theorem PlainHeader.children_node (header : PlainHeader) (body : List Node) (span : Span) :
    (header.node body span).children = header.trees ++ body.map .node := by
  cases header <;> rfl

theorem PlainHeader.spaces_node (header : PlainHeader) (body : List Node) (span : Span) :
    (header.node body span).spaces = [] := by
  cases header <;> rfl

theorem PlainHeader.span_node (header : PlainHeader) (body : List Node) (span : Span) :
    (header.node body span).span = span := by
  cases header <;> rfl

theorem Branch.children_append (branches : List Branch) (condition : Expr) (body : List Node) :
    Branch.children (branches ++ [(⟨condition, body⟩ : Branch)]) =
      Branch.children branches ++ [.expr condition] ++ body.map .node := by
  simp [Branch.children]

/-- The trees in front of the list being read, in reading order. -/
def OpenBlock.front : List OpenBlock → List Subtree
  | [] => []
  | block :: below => front below ++ block.before.map .node ++ block.unfinished.trees

namespace Building

/-- What an accepted token does to the state. -/
inductive Steps (token : Token) : Building → Building → Prop where
  | add {building : Building} {node : Node} (hholds : token.Holds node.children)
      (hspan : node.span = token.span) (hspaces : ∀ space ∈ node.spaces, token.Assigns space) :
      Steps token building (building.add node)
  | opens {building : Building} {block : OpenBlock} {tag : Tag} (htag : token = .block tag)
      (hholds : token.Holds block.unfinished.trees) (hspan : block.span = token.span)
      (hbefore : block.before = building.nodes) :
      Steps token building ⟨block :: building.blocks, []⟩
  | divide {block : OpenBlock} {below : List OpenBlock} {nodes : List Node}
      {unfinished : Unfinished} {trees : List Subtree} (hholds : token.Holds trees)
      (htrees : unfinished.trees = block.unfinished.trees ++ nodes.map .node ++ trees) :
      Steps token ⟨block :: below, nodes⟩ (block.divide below unfinished)
  | complete {block : OpenBlock} {below : List OpenBlock} {nodes : List Node} {node : Node}
      (hholds : token.Holds [])
      (hchildren : node.children = block.unfinished.trees ++ nodes.map .node)
      (hspan : node.span = block.span.cover token.span) (hspaces : node.spaces = []) :
      Steps token ⟨block :: below, nodes⟩ (block.complete below node)

/-- The tokens take the state to the end of the template, whose tree is then complete. -/
inductive Runs : Building → List Token → List Node → Prop where
  | stop (nodes : List Node) : Runs ⟨[], nodes⟩ [] nodes
  | step {token : Token} {tokens : List Token} {building next : Building} {nodes : List Node}
      (hstep : Steps token building next) (hrest : Runs next tokens nodes) :
      Runs building (token :: tokens) nodes

/-! ## Trees of a state -/

/-- The trees that have been read, in reading order. -/
def trees (building : Building) : List Subtree :=
  OpenBlock.front building.blocks ++ building.nodes.map .node

theorem trees_add (building : Building) (node : Node) :
    (building.add node).trees = building.trees ++ [.node node] := by
  simp only [trees, Building.add, List.map_append, List.map_singleton, List.append_assoc]

/-- A token puts its trees behind those that have been read.  The last trees may then be the
children of a node of the list being read, which stands in their place. -/
theorem Steps.trees {token : Token} {building next : Building}
    (hstep : Steps token building next) :
    ∃ trees, token.Holds trees ∧
      (next.trees = building.trees ++ trees ∨
        ∃ earlier node, building.trees ++ trees = earlier ++ node.children ∧
          next.trees = earlier ++ [.node node] ∧ node ∈ next.nodes ∧
            ∀ space ∈ node.spaces, token.Assigns space) := by
  have hlast (nodes : List Node) (node : Node) : node ∈ nodes ++ [node] :=
    List.mem_append_right nodes List.mem_cons_self
  cases hstep with
  | add hholds _ hspaces =>
      exact ⟨_, hholds,
        .inr ⟨building.trees, _, rfl, trees_add building _, hlast building.nodes _, hspaces⟩⟩
  | opens _ hholds _ hbefore =>
      refine ⟨_, hholds, .inl ?_⟩
      simp only [Building.trees, OpenBlock.front, hbefore, List.map_nil, List.append_nil]
  | divide hholds htrees =>
      refine ⟨_, hholds, .inl ?_⟩
      simp only [Building.trees, OpenBlock.divide, OpenBlock.front, htrees, List.map_nil,
        List.append_nil, List.append_assoc]
  | @complete block below nodes node hholds hchildren _ hspaces =>
      refine ⟨_, hholds, .inr ⟨Building.trees ⟨below, block.before⟩, node, ?_,
        trees_add ⟨below, block.before⟩ node, hlast block.before node, ?_⟩⟩
      · rw [hchildren]
        simp only [Building.trees, OpenBlock.front, List.append_assoc, List.append_nil]
      · rw [hspaces]
        exact List.forall_mem_nil _

/-! ## Steps of the machine -/

theorem close_steps {closing : Tag} (hname : ∃ word, closing.expectName = .ok word)
    (block : OpenBlock) (below : List OpenBlock) (nodes : List Node) :
    Ensures (block.close below nodes closing)
      (Steps (.block closing) ⟨block :: below, nodes⟩) := by
  have hbare (hempty : TakesAll closing.endSpan closing.arguments []) :
      (Token.block closing).Holds [] := ⟨hname, hempty⟩
  obtain ⟨tag, before, unfinished⟩ := block
  cases unfinished with
  | branch earlier condition =>
      unfold OpenBlock.close
      dsimp only
      split
      · apply (condition_takes closing).bind
        intro next hnext
        apply Ensures.ok
        have hholds : (Token.block closing).Holds [.expr next] := ⟨hname, hnext⟩
        apply Steps.divide hholds
        simp only [Unfinished.trees, Branch.children_append]
      apply (expectBare_takes closing).bind
      intro _ hempty
      split
      · apply Ensures.ok
        apply Steps.divide (hbare hempty)
        simp only [Unfinished.trees, Branch.children_append, List.append_nil]
      · apply Ensures.ok
        apply Steps.complete (hbare hempty)
        · simp only [Node.children, Branch.children_append, Option.getD, List.map_nil,
            List.append_nil, Unfinished.trees]
        · rfl
        · rfl
  | otherwise branches =>
      apply (expectBare_takes closing).bind
      intro _ hempty
      exact Ensures.ok (.complete (hbare hempty) rfl rfl rfl)
  | loop names iterable condition recursive =>
      apply (expectBare_takes closing).bind
      intro _ hempty
      split
      · apply Ensures.ok
        apply Steps.divide (hbare hempty)
        rw [List.append_nil]
        rfl
      · apply Ensures.ok
        apply Steps.complete (hbare hempty)
        · simp only [Node.children, Option.getD, List.map_nil, List.append_nil, Unfinished.trees]
        · rfl
        · rfl
  | loopOtherwise names iterable condition recursive body =>
      apply (expectBare_takes closing).bind
      intro _ hempty
      exact Ensures.ok (.complete (hbare hempty) rfl rfl rfl)
  | plain header =>
      apply (expectPlainEnd_takes closing tag header).bind
      intro _ hempty
      apply Ensures.ok
      apply Steps.complete (hbare hempty)
      · exact header.children_node nodes _
      · exact header.span_node nodes _
      · exact header.spaces_node nodes _

theorem apply_steps {tag : Tag} {word : String} (hname : tag.expectName = .ok word)
    {statement : Statement} (htag : OfTag tag word statement) (building : Building) :
    Steps (.block tag) building (building.apply tag statement) := by
  cases statement with
  | complete node =>
      refine .add ⟨⟨word, hname⟩, htag.takes⟩ (htag.span node rfl) fun space hspace => ?_
      obtain ⟨rfl, rest, hkinds⟩ := htag.spaces node rfl space hspace
      refine ⟨rest, ?_⟩
      rw [Tag.kinds_of_expectName hname, hkinds]
  | opens header =>
      refine .opens rfl ⟨⟨word, hname⟩, ?_⟩ rfl rfl
      change TakesAll _ _ header.unfinished.trees
      rw [header.trees_unfinished]
      exact htag.takes

theorem blockTag_steps (building : Building) (tag : Tag) :
    Ensures (building.blockTag tag) (Steps (.block tag) building) := by
  cases hname : tag.expectName with
  | error error =>
      rw [blockTag_of_error hname]
      exact Ensures.error
  | ok word =>
      by_cases hword : word ∈ building.awaited
      · obtain ⟨_ | ⟨block, below⟩, nodes⟩ := building
        · exact absurd hword List.not_mem_nil
        rw [blockTag_of_mem hname hword]
        exact close_steps ⟨word, hname⟩ block below nodes
      · rw [blockTag_of_not_mem hname hword]
        apply (statement_takes tag building.opened word).bind
        intro statement hstatement
        exact Ensures.ok (apply_steps hname hstatement building)

theorem step_steps {token : Token} (htoken : ∀ offset, token ≠ .eof offset)
    (building : Building) : Ensures (building.step token) (Steps token building) := by
  cases token with
  | text content span => exact Ensures.ok (.add rfl rfl (List.forall_mem_nil _))
  | raw content span => exact Ensures.ok (.add rfl rfl (List.forall_mem_nil _))
  | comment span => exact Ensures.ok (.add rfl rfl (List.forall_mem_nil _))
  | eof offset => exact absurd rfl (htoken offset)
  | block tag => exact blockTag_steps building tag
  | expression tag =>
      apply (expressionNode_takes tag).bind
      rintro node ⟨htakes, hspan, hspaces⟩
      refine Ensures.ok (.add htakes hspan ?_)
      rw [hspaces]
      exact List.forall_mem_nil _

theorem run_runs {body : List Token} (hbody : ∀ offset, .eof offset ∉ body) (offset : UInt32)
    (building : Building) :
    Ensures (building.run (body ++ [.eof offset])) (building.Runs body) := by
  induction body generalizing building with
  | nil =>
      obtain ⟨_ | ⟨block, below⟩, nodes⟩ := building
      · exact Ensures.ok (.stop nodes)
      · exact Ensures.error
  | cons token rest ih =>
      have htoken : ∀ offset, token ≠ .eof offset := fun offset heq =>
        hbody offset (heq ▸ List.mem_cons_self)
      have hrest : ∀ offset, .eof offset ∉ rest := fun offset hmem =>
        hbody offset (List.mem_cons_of_mem token hmem)
      rw [List.cons_append, run_cons htoken]
      apply (step_steps htoken building).bind
      intro next hstep
      constructor
      intro nodes hok
      exact .step hstep ((ih hrest next).of_ok nodes hok)

end Building

/-- A source that is read is blank or gives tokens that build its tree. -/
theorem Node.exists_runs_of_ofSource {source : List Char} {nodes : List Node}
    (hok : Node.ofSource source = .ok nodes) :
    (source.all Text.isBlank = true ∧ nodes = []) ∨
      ∃ body offset, Token.ofChars source = .ok (body ++ [.eof offset]) ∧
        Building.empty.Runs body nodes := by
  rw [Node.ofSource_eq_build] at hok
  split at hok
  · next hblank => exact .inl ⟨hblank, (Except.ok.inj hok).symm⟩
  · obtain ⟨tokens, htokens, hrun⟩ := exists_of_bind_eq_ok hok
    obtain ⟨body, offset, rfl, hbody⟩ := Token.exists_body_of_ofCharsFrom htokens
    exact .inr ⟨body, offset, htokens, (Building.run_runs hbody offset _).of_ok nodes hrun⟩

end TemplateVariables
