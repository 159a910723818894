import TemplateVariables.Proofs.Collecting
import TemplateVariables.Proofs.Node.Agreement
import TemplateVariables.Proofs.Node.Joining
import TemplateVariables.Proofs.Token.Remarking

/-!
# Templates read in step

Two templates whose tokens have the same outlines are read in step: text aside, the
machine that builds the tree does with every token of the one what it does with that of
the other.  The states differ in spans, in text and in what raw blocks contain, none of
which the collector looks at.  Either both templates have the same free variables, or
both are refused with the same message.
-/

namespace TemplateVariables

/-! ## What is collected from longer lists -/

theorem Node.collectAll_append (first second : List Node) (collector : Collector) :
    Node.collectAll (first ++ second) collector =
      Node.collectAll second (Node.collectAll first collector) := by
  induction first generalizing collector with
  | nil => rfl
  | cons node rest ih => exact ih (node.collect collector)

theorem Branch.collectAll_append (first second : List Branch) (collector : Collector) :
    Branch.collectAll (first ++ second) collector =
      Branch.collectAll second (Branch.collectAll first collector) := by
  induction first generalizing collector with
  | nil => rfl
  | cons branch rest ih =>
      obtain ⟨condition, body⟩ := branch
      rw [List.cons_append, Branch.collectAll, Branch.collectAll, ih]

section Collect

variable {body body' : List Node}

theorem Node.collectAll_snoc {nodes nodes' : List Node} {node node' : Node}
    (hnodes : Node.collectAll nodes = Node.collectAll nodes')
    (hnode : node.collect = node'.collect) :
    Node.collectAll (nodes ++ [node]) = Node.collectAll (nodes' ++ [node']) := by
  funext collector
  rw [Node.collectAll_append, Node.collectAll_append, hnodes]
  exact congrFun hnode _

theorem Node.collect_congr {node node' : Node} (hnode : node.spanless = node'.spanless) :
    node.collect = node'.collect := by
  rw [← Node.collect_spanless node, hnode, Node.collect_spanless]

theorem Collector.expr_congr {value value' : Expr} (hvalue : value.spanless = value'.spanless)
    (collector : Collector) : collector.expr value = collector.expr value' := by
  rw [← expr_spanless collector value, hvalue, expr_spanless]

theorem Collector.condition_congr {condition condition' : Option Expr}
    (hcondition : condition.map Expr.spanless = condition'.map Expr.spanless)
    (collector : Collector) :
    collector.exprs condition.toList = collector.exprs condition'.toList := by
  rw [← condition_spanless collector condition, hcondition, condition_spanless]

theorem Branch.collectAll_snoc {branches branches' : List Branch} {condition condition' : Expr}
    (hbranches : Branch.collectAll branches = Branch.collectAll branches')
    (hcondition : condition.spanless = condition'.spanless)
    (hbody : Node.collectAll body = Node.collectAll body') :
    Branch.collectAll (branches ++ [⟨condition, body⟩]) =
      Branch.collectAll (branches' ++ [⟨condition', body'⟩]) := by
  funext collector
  rw [Branch.collectAll_append, Branch.collectAll_append, hbranches]
  simp only [Branch.collectAll, Collector.expr_congr hcondition, hbody]

theorem PlainHeader.collect_node {header header' : PlainHeader}
    (hheader : header.spanless = header'.spanless)
    (hbody : Node.collectAll body = Node.collectAll body') (span span' : Span) :
    (header.node body span).collect = (header'.node body' span').collect := by
  have hspans : (header.node body span).collect = (header'.node body span').collect :=
    Node.collect_congr (PlainHeader.spanless_node hheader rfl span span')
  rw [hspans]
  funext collector
  cases header' <;> simp only [PlainHeader.node, Node.collect, hbody]

end Collect

/-! ## States that differ in spans and text -/

/-- As much has been read of the two blocks. -/
inductive Unfinished.Alike : Unfinished → Unfinished → Prop where
  | branch {earlier earlier' : List Branch} {condition condition' : Expr}
      (hearlier : Branch.collectAll earlier = Branch.collectAll earlier')
      (hcondition : condition.spanless = condition'.spanless) :
      Alike (.branch earlier condition) (.branch earlier' condition')
  | otherwise {branches branches' : List Branch}
      (hbranches : Branch.collectAll branches = Branch.collectAll branches') :
      Alike (.otherwise branches) (.otherwise branches')
  | loop {names : List String} {iterable iterable' : Expr} {condition condition' : Option Expr}
      {recursive : Bool} (hiterable : iterable.spanless = iterable'.spanless)
      (hcondition : condition.map Expr.spanless = condition'.map Expr.spanless) :
      Alike (.loop names iterable condition recursive)
        (.loop names iterable' condition' recursive)
  | loopOtherwise {names : List String} {iterable iterable' : Expr}
      {condition condition' : Option Expr} {recursive : Bool} {body body' : List Node}
      (hiterable : iterable.spanless = iterable'.spanless)
      (hcondition : condition.map Expr.spanless = condition'.map Expr.spanless)
      (hbody : Node.collectAll body = Node.collectAll body') :
      Alike (.loopOtherwise names iterable condition recursive body)
        (.loopOtherwise names iterable' condition' recursive body')
  | plain {header header' : PlainHeader} (hheader : header.spanless = header'.spanless) :
      Alike (.plain header) (.plain header')

structure OpenBlock.Alike (block block' : OpenBlock) : Prop where
  name : block.name = block'.name
  before : Node.collectAll block.before = Node.collectAll block'.before
  unfinished : block.unfinished.Alike block'.unfinished

structure Building.Alike (building building' : Building) : Prop where
  blocks : List.Forall₂ OpenBlock.Alike building.blocks building'.blocks
  nodes : Node.collectAll building.nodes = Node.collectAll building'.nodes

theorem Header.unfinished_alike {header header' : Header}
    (hheader : header.spanless = header'.spanless) :
    header.unfinished.Alike header'.unfinished ∧ header.tagName = header'.tagName := by
  cases header with
  | conditional condition =>
      cases header' with
      | conditional condition' =>
          exact ⟨.branch rfl (Header.conditional.inj hheader), rfl⟩
      | _ => cases hheader
  | loop names iterable condition recursive =>
      cases header' with
      | loop names' iterable' condition' recursive' =>
          obtain ⟨rfl, hiterable, hcondition, rfl⟩ := Header.loop.inj hheader
          exact ⟨.loop hiterable hcondition, rfl⟩
      | _ => cases hheader
  | plain header =>
      cases header' with
      | plain header' =>
          have hplain := Header.plain.inj hheader
          exact ⟨.plain hplain, PlainHeader.tagName_of_spanless hplain⟩
      | _ => cases hheader

namespace OpenBlock

variable {block block' : OpenBlock} {below below' : List OpenBlock}

theorem Alike.closer (hblock : block.Alike block') : block.closer = block'.closer := by
  rw [OpenTag.closer, OpenTag.closer, hblock.name]

theorem Alike.accepted (hblock : block.Alike block') : block.accepted = block'.accepted := by
  have hcloser := hblock.closer
  obtain ⟨opened, before, unfinished⟩ := block
  obtain ⟨opened', before', unfinished'⟩ := block'
  have hunfinished : unfinished.Alike unfinished' := hblock.unfinished
  unfold OpenBlock.accepted
  cases hunfinished <;> simp only [hcloser]

theorem divide_alike (hblock : block.Alike block') (hbelow : List.Forall₂ Alike below below')
    {unfinished unfinished' : Unfinished} (hunfinished : unfinished.Alike unfinished') :
    (block.divide below unfinished).Alike (block'.divide below' unfinished') where
  blocks := .cons ⟨hblock.name, hblock.before, hunfinished⟩ hbelow
  nodes := rfl

theorem complete_alike (hblock : block.Alike block') (hbelow : List.Forall₂ Alike below below')
    {node node' : Node} (hnode : node.collect = node'.collect) :
    (block.complete below node).Alike (block'.complete below' node') where
  blocks := hbelow
  nodes := Node.collectAll_snoc hblock.before hnode

/-- A tag that the blocks accept leads to states that differ as little. -/
theorem close_alike (hblock : block.Alike block') (hbelow : List.Forall₂ Alike below below')
    {body body' : List Node} (hbody : Node.collectAll body = Node.collectAll body')
    {closing closing' : Tag}
    (hclosing : closing.lexemes.map Lexeme.kind = closing'.lexemes.map Lexeme.kind) :
    Agree Building.Alike (block.close below body closing) (block'.close below' body' closing') := by
  obtain ⟨opened, before, unfinished⟩ := block
  obtain ⟨opened', before', unfinished'⟩ := block'
  have hunfinished : unfinished.Alike unfinished' := hblock.unfinished
  have hname := Tag.name?_alike hclosing
  have hbare := Tag.expectBare_alike hclosing
  unfold OpenBlock.close
  cases hunfinished with
  | branch hearlier hcondition =>
      have hbranches := Branch.collectAll_snoc hearlier hcondition hbody
      apply Agree.ite (by rw [hname])
      · intro _
        apply (Tag.condition_alike hclosing).bind
        intro next next' hnext
        exact Agree.ok (divide_alike hblock hbelow (.branch hbranches hnext))
      · intro _
        apply hbare.bind
        intro _ _ _
        apply Agree.ite (by rw [hname])
        · intro _
          exact Agree.ok (divide_alike hblock hbelow (.otherwise hbranches))
        · intro _
          exact Agree.ok (complete_alike hblock hbelow hbranches)
  | otherwise hbranches =>
      apply hbare.bind
      intro _ _ _
      refine Agree.ok (complete_alike hblock hbelow ?_)
      funext collector
      simp only [Node.collect, hbranches, hbody]
  | loop hiterable hcondition =>
      apply hbare.bind
      intro _ _ _
      apply Agree.ite (by rw [hname])
      · intro _
        exact Agree.ok (divide_alike hblock hbelow (.loopOtherwise hiterable hcondition hbody))
      · intro _
        refine Agree.ok (complete_alike hblock hbelow ?_)
        funext collector
        simp only [Node.collect, hbody, Collector.expr_congr hiterable,
          Collector.condition_congr hcondition]
  | loopOtherwise hiterable hcondition hfirst =>
      apply hbare.bind
      intro _ _ _
      refine Agree.ok (complete_alike hblock hbelow ?_)
      funext collector
      simp only [Node.collect, hfirst, hbody, Collector.expr_congr hiterable,
        Collector.condition_congr hcondition]
  | plain hheader =>
      apply (Parser.expectPlainEnd_alike hclosing hblock.name hheader).bind
      intro _ _ _
      exact Agree.ok (complete_alike hblock hbelow (PlainHeader.collect_node hheader hbody _ _))

end OpenBlock

namespace Building

variable {building building' : Building}

theorem add_alike (hbuilding : building.Alike building') {node node' : Node}
    (hnode : node.collect = node'.collect) : (building.add node).Alike (building'.add node') where
  blocks := hbuilding.blocks
  nodes := Node.collectAll_snoc hbuilding.nodes hnode

theorem opened_alike (hbuilding : building.Alike building') :
    building.opened.map OpenTag.name = building'.opened.map OpenTag.name := by
  obtain ⟨blocks, nodes⟩ := building
  obtain ⟨blocks', nodes'⟩ := building'
  have hblocks : List.Forall₂ OpenBlock.Alike blocks blocks' := hbuilding.blocks
  unfold opened
  dsimp only
  rw [List.map_map, List.map_map]
  clear hbuilding
  induction hblocks with
  | nil => rfl
  | cons hblock _ ih => exact congrArg₂ List.cons hblock.name ih

theorem apply_alike (hbuilding : building.Alike building') (tag tag' : Tag)
    {statement statement' : Statement} (hstatement : statement.spanless = statement'.spanless) :
    (building.apply tag statement).Alike (building'.apply tag' statement') := by
  cases statement with
  | complete node =>
      cases statement' with
      | complete node' =>
          exact add_alike hbuilding (Node.collect_congr (Statement.complete.inj hstatement))
      | opens header' => cases hstatement
  | opens header =>
      cases statement' with
      | complete node' => cases hstatement
      | opens header' =>
          obtain ⟨hunfinished, hname⟩ :=
            Header.unfinished_alike (Statement.opens.inj hstatement)
          exact ⟨.cons ⟨hname, hbuilding.nodes, hunfinished⟩ hbuilding.blocks, rfl⟩

theorem blockTag_alike (hbuilding : building.Alike building') {tag tag' : Tag}
    (htag : tag.lexemes.map Lexeme.kind = tag'.lexemes.map Lexeme.kind) :
    Agree Alike (building.blockTag tag) (building'.blockTag tag') := by
  have hstatement (word : String) := Parser.statement_alike htag (opened_alike hbuilding) word
  unfold blockTag
  apply (Tag.expectName_alike htag).bind
  rintro word _ rfl
  obtain ⟨blocks, nodes⟩ := building
  obtain ⟨blocks', nodes'⟩ := building'
  have hblocks : List.Forall₂ OpenBlock.Alike blocks blocks' := hbuilding.blocks
  cases hblocks with
  | nil =>
      apply (hstatement word).bind
      intro statement statement' hsame
      exact Agree.ok (apply_alike hbuilding tag tag' hsame)
  | cons hblock hbelow =>
      apply Agree.ite (by rw [hblock.accepted])
      · intro _
        exact OpenBlock.close_alike hblock hbelow hbuilding.nodes htag
      · intro _
        apply (hstatement word).bind
        intro statement statement' hsame
        exact Agree.ok (apply_alike hbuilding tag tag' hsame)

/-- Two tokens with the same outline do the same to states that are alike. -/
theorem step_alike (hbuilding : building.Alike building') {token token' : Token}
    {outline : Outline} (htoken : token.outline? = some outline)
    (htoken' : token'.outline? = some outline) :
    Agree Alike (building.step token) (building'.step token') := by
  cases token with
  | text content span => cases htoken
  | expression tag =>
      obtain rfl := Option.some.inj htoken
      cases token' with
      | expression tag' =>
          have htag := Outline.expression.inj (Option.some.inj htoken'.symm)
          apply (Parser.expressionNode_alike htag).bind
          intro node node' hnode
          exact Agree.ok (add_alike hbuilding (Node.collect_congr hnode))
      | _ => cases htoken'
  | block tag =>
      obtain rfl := Option.some.inj htoken
      cases token' with
      | block tag' =>
          exact blockTag_alike hbuilding (Outline.block.inj (Option.some.inj htoken'.symm))
      | _ => cases htoken'
  | comment span =>
      obtain rfl := Option.some.inj htoken
      cases token' with
      | comment span' => exact Agree.ok (add_alike hbuilding rfl)
      | _ => cases htoken'
  | raw content span =>
      obtain rfl := Option.some.inj htoken
      cases token' with
      | raw content' span' => exact Agree.ok (add_alike hbuilding rfl)
      | _ => cases htoken'
  | eof offset =>
      obtain rfl := Option.some.inj htoken
      cases token' with
      | eof offset' => exact Agree.ok hbuilding
      | _ => cases htoken'

theorem finish_alike (hbuilding : building.Alike building') :
    Agree (fun nodes nodes' => Node.collectAll nodes = Node.collectAll nodes') building.finish
      building'.finish := by
  obtain ⟨blocks, nodes⟩ := building
  obtain ⟨blocks', nodes'⟩ := building'
  have hblocks : List.Forall₂ OpenBlock.Alike blocks blocks' := hbuilding.blocks
  cases hblocks with
  | nil => exact Agree.ok hbuilding.nodes
  | cons hblock hbelow =>
      unfold finish
      dsimp only
      rw [hblock.name, hblock.closer]
      exact Agree.error rfl

/-- Text changes nothing but the nodes of the innermost list, and nothing is collected there. -/
theorem exists_run_texts {texts : List Token} (htexts : ∀ token ∈ texts, token.outline? = none)
    (building : Building) (rest : List Token) :
    ∃ nodes, run building (texts ++ rest) = run ⟨building.blocks, nodes⟩ rest ∧
      Node.collectAll nodes = Node.collectAll building.nodes := by
  induction texts generalizing building with
  | nil => exact ⟨building.nodes, rfl, rfl⟩
  | cons token texts ih =>
      have htoken := htexts token List.mem_cons_self
      have hrest : ∀ token ∈ texts, token.outline? = none := fun other hother =>
        htexts other (List.mem_cons_of_mem token hother)
      cases token with
      | text content span =>
          obtain ⟨nodes, hrun, hnodes⟩ := ih hrest (building.add (.text content span))
          refine ⟨nodes, hrun, hnodes.trans ?_⟩
          funext collector
          exact Node.collectAll_append building.nodes [.text content span] collector
      | _ => cases htoken

/-- Tokens with the same outlines give trees of which the same is collected, or errors with the
same message. -/
theorem run_alike {outlines : List Outline} {tokens tokens' : List Token}
    (htokens : tokens.filterMap Token.outline? = outlines)
    (htokens' : tokens'.filterMap Token.outline? = outlines)
    (hbuilding : building.Alike building') :
    Agree (fun nodes nodes' => Node.collectAll nodes = Node.collectAll nodes')
      (building.run tokens) (building'.run tokens') := by
  induction outlines generalizing building building' tokens tokens' with
  | nil =>
      obtain ⟨nodes, hrun, hnodes⟩ :=
        exists_run_texts (List.filterMap_eq_nil_iff.1 htokens) building []
      obtain ⟨nodes', hrun', hnodes'⟩ :=
        exists_run_texts (List.filterMap_eq_nil_iff.1 htokens') building' []
      rw [List.append_nil] at hrun hrun'
      rw [hrun, hrun']
      exact finish_alike ⟨hbuilding.blocks, by rw [hnodes, hnodes', hbuilding.nodes]⟩
  | cons outline outlines ih =>
      obtain ⟨texts, token, rest, rfl, htexts, htoken, hrest⟩ :=
        List.filterMap_eq_cons_iff.1 htokens
      obtain ⟨texts', token', rest', rfl, htexts', htoken', hrest'⟩ :=
        List.filterMap_eq_cons_iff.1 htokens'
      obtain ⟨nodes, hrun, hnodes⟩ := exists_run_texts htexts building (token :: rest)
      obtain ⟨nodes', hrun', hnodes'⟩ := exists_run_texts htexts' building' (token' :: rest')
      have hstate : Alike ⟨building.blocks, nodes⟩ ⟨building'.blocks, nodes'⟩ :=
        ⟨hbuilding.blocks, by rw [hnodes, hnodes', hbuilding.nodes]⟩
      rw [hrun, hrun']
      by_cases heof : ∃ offset, token = .eof offset
      · obtain ⟨offset, rfl⟩ := heof
        obtain rfl := Option.some.inj htoken
        cases token' with
        | eof offset' => exact finish_alike hstate
        | _ => cases htoken'
      · have hmore : ∀ offset, token ≠ .eof offset := not_exists.1 heof
        have hmore' : ∀ offset, token' ≠ .eof offset := by
          rintro offset rfl
          obtain rfl := Option.some.inj htoken'
          cases token with
          | eof offset => exact hmore offset rfl
          | _ => cases htoken
        rw [run_cons hmore, run_cons hmore']
        apply (step_alike hstate htoken htoken').bind
        intro next next' hnext
        exact ih hrest hrest' hnext

end Building

/-- Templates whose tokens have the same outlines have the same free variables, or are refused
with the same message. -/
theorem Node.ofTokens_alike {tokens tokens' : List Token}
    (houtlines : tokens.filterMap Token.outline? = tokens'.filterMap Token.outline?) :
    Agree (fun nodes nodes' => Node.collectAll nodes = Node.collectAll nodes')
      (Node.ofTokens tokens) (Node.ofTokens tokens') := by
  rw [Node.ofTokens_eq_build, Node.ofTokens_eq_build]
  exact Building.run_alike houtlines rfl ⟨.nil, rfl⟩

end TemplateVariables
