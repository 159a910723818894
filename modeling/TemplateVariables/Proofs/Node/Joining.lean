import TemplateVariables.Proofs.Node.TreeMachine

/-!
# Templates read one behind the other

The tree of two templates in a row is the tree of the first followed by that of the
second, when the first is complete by itself.  An error in the first is an error of
both, unless it is only that a block is left open: the second may close it.

Both follow from the machine that builds the tree.  Its state after the first
template is all that the second depends on, and nodes in front of the outermost list
are never looked at.
-/

namespace TemplateVariables

namespace Building

/-! ## Nodes in front of the outermost list -/

/-- The state with more nodes in front of the outermost list. -/
def behind (front : List Node) : List OpenBlock → List Node → Building
  | [], nodes => ⟨[], front ++ nodes⟩
  | block :: below, nodes =>
      let outer := behind front below block.before
      ⟨{ block with before := outer.nodes } :: outer.blocks, nodes⟩

/-- The state after the same tokens, where the template has `front` before them. -/
def after (front : List Node) (building : Building) : Building :=
  behind front building.blocks building.nodes

theorem add_after (front : List Node) (building : Building) (node : Node) :
    (building.after front).add node = (building.add node).after front := by
  obtain ⟨blocks, nodes⟩ := building
  cases blocks <;> simp [after, behind, add]

theorem opened_after (front : List Node) (building : Building) :
    (building.after front).opened = building.opened := by
  obtain ⟨blocks, nodes⟩ := building
  induction blocks generalizing nodes with
  | nil => rfl
  | cons block below ih => exact congrArg (block.toOpenTag :: ·) (ih block.before)

theorem awaited_after (front : List Node) (building : Building) :
    (building.after front).awaited = building.awaited := by
  obtain ⟨blocks, nodes⟩ := building
  cases blocks <;> rfl

theorem apply_after (front : List Node) (building : Building) (tag : Tag)
    (statement : Statement) :
    (building.after front).apply tag statement =
      (building.apply tag statement).after front := by
  cases statement with
  | complete node => exact add_after front building node
  | opens header => rfl

/-- Nodes further out do not change what a tag does to the block that accepts it. -/
theorem close_after (front : List Node) (block : OpenBlock) (below : List OpenBlock)
    (body : List Node) (closing : Tag) :
    let outer := behind front below block.before
    OpenBlock.close { block with before := outer.nodes } outer.blocks body closing =
      after front <$> block.close below body closing := by
  intro outer
  have hdivide (unfinished : Unfinished) :
      OpenBlock.divide { block with before := outer.nodes } outer.blocks unfinished =
        (block.divide below unfinished).after front := rfl
  have hcomplete (node : Node) :
      OpenBlock.complete { block with before := outer.nodes } outer.blocks node =
        (block.complete below node).after front :=
    add_after front ⟨below, block.before⟩ node
  obtain ⟨tag, before, unfinished⟩ := block
  cases unfinished <;> simp only [OpenBlock.close, hdivide, hcomplete, map_bind, map_pure,
    apply_ite (after front <$> ·)]

theorem blockTag_after (front : List Node) (building : Building) (tag : Tag) :
    (building.after front).blockTag tag = after front <$> building.blockTag tag := by
  cases hname : tag.expectName with
  | error error =>
      rw [blockTag_of_error hname, blockTag_of_error hname]
      rfl
  | ok word =>
      by_cases hword : word ∈ building.awaited
      · obtain ⟨_ | ⟨block, below⟩, nodes⟩ := building
        · exact absurd hword List.not_mem_nil
        have hblock : word ∈ block.accepted := hword
        rw [blockTag_of_mem hname hblock, ← close_after front block below nodes tag]
        apply blockTag_of_mem hname
        exact hblock
      · have hafter : word ∉ (building.after front).awaited := by rwa [awaited_after]
        rw [blockTag_of_not_mem hname hword, blockTag_of_not_mem hname hafter, opened_after]
        simp only [map_bind, map_pure, apply_after]

theorem step_after (front : List Node) (building : Building) (token : Token) :
    (building.after front).step token = after front <$> building.step token := by
  cases token with
  | eof offset => rfl
  | expression tag => simp only [step, map_bind, map_pure, add_after]
  | block tag => exact blockTag_after front building tag
  | _ => exact congrArg Except.ok (add_after front building _)

theorem finish_after (front : List Node) (building : Building) :
    (building.after front).finish = (front ++ ·) <$> building.finish := by
  obtain ⟨blocks, nodes⟩ := building
  cases blocks <;> rfl

theorem run_cons {token : Token} (htoken : ∀ offset, token ≠ .eof offset) (building : Building)
    (rest : List Token) :
    run building (token :: rest) =
      building.step token >>= fun building => run building rest := by
  cases token <;> first | rfl | exact absurd rfl (htoken _)

theorem run_after (front : List Node) (building : Building) (tokens : List Token) :
    run (building.after front) tokens = (front ++ ·) <$> run building tokens := by
  induction tokens generalizing building with
  | nil => exact finish_after front building
  | cons token rest ih =>
      by_cases heof : ∃ offset, token = .eof offset
      · obtain ⟨offset, rfl⟩ := heof
        exact finish_after front building
      · have htoken : ∀ offset, token ≠ .eof offset := not_exists.1 heof
        rw [run_cons htoken, run_cons htoken, step_after, map_bind, bind_map_left]
        simp only [ih]

/-! ## Runs over two templates -/

/-- The state after tokens among which the end of the template is not. -/
def stepAll (building : Building) (tokens : List Token) : Except ParseError Building :=
  tokens.foldlM step building

theorem run_append {first : List Token} (hfirst : ∀ offset, Token.eof offset ∉ first)
    (building : Building) (second : List Token) :
    run building (first ++ second) =
      building.stepAll first >>= fun building => run building second := by
  induction first generalizing building with
  | nil => rfl
  | cons token rest ih =>
      have htoken : ∀ offset, token ≠ .eof offset := fun offset heq =>
        hfirst offset (heq ▸ List.mem_cons_self)
      have hrest : ∀ offset, Token.eof offset ∉ rest := fun offset hmem =>
        hfirst offset (List.mem_cons_of_mem token hmem)
      rw [List.cons_append, run_cons htoken, stepAll, List.foldlM_cons, bind_assoc]
      apply Ensures.trivial.bind_congr
      intro building _
      exact ih hrest building

theorem run_eq_stepAll {tokens : List Token} (htokens : ∀ offset, Token.eof offset ∉ tokens)
    (building : Building) :
    run building tokens = building.stepAll tokens >>= finish := by
  have hrun := run_append htokens building []
  rwa [List.append_nil] at hrun

/-- Without an open block, nothing but the nodes read so far tells the state from the first. -/
theorem eq_after_of_finish {building : Building} {nodes : List Node}
    (hfinish : building.finish = .ok nodes) : building = empty.after nodes := by
  obtain ⟨_ | ⟨block, below⟩, found⟩ := building
  · obtain rfl : found = nodes := by simpa [finish] using hfinish
    simp [after, behind, empty]
  · cases hfinish

end Building

/-- A parser error that says that a block is still open. -/
def ParseError.IsUnclosedTag (error : ParseError) : Prop :=
  ∃ name closer span, error = .unclosedTag name closer span

theorem Building.isUnclosedTag_of_finish {building : Building} {error : ParseError}
    (hfinish : building.finish = .error error) : error.IsUnclosedTag := by
  obtain ⟨_ | ⟨block, below⟩, found⟩ := building
  · cases hfinish
  · simp only [finish, Except.error.injEq] at hfinish
    exact ⟨_, _, _, hfinish.symm⟩

/-- Templates are parsed one behind the other: what follows a complete template is parsed
as if it stood alone, and only a block that is left open depends on what follows. -/
theorem Node.ofTokens_append {first : List Token} (hfirst : ∀ offset, Token.eof offset ∉ first)
    (second : List Token) :
    (∀ nodes, Node.ofTokens first = .ok nodes →
      Node.ofTokens (first ++ second) = (Node.ofTokens second).map (nodes ++ ·)) ∧
    ∀ error, Node.ofTokens first = .error error → ¬error.IsUnclosedTag →
      Node.ofTokens (first ++ second) = .error error := by
  simp only [Node.ofTokens_eq_build, Building.run_eq_stepAll hfirst,
    Building.run_append hfirst]
  cases hstate : Building.empty.stepAll first with
  | error error =>
      constructor
      · intro nodes hnodes
        cases hnodes
      · intro error hnodes _
        exact hnodes
  | ok building =>
      constructor
      · intro nodes hfinish
        have hstart : building = Building.empty.after nodes :=
          Building.eq_after_of_finish hfinish
        rw [hstart]
        exact Building.run_after nodes Building.empty second
      · intro error hfinish hopen
        exact absurd (Building.isUnclosedTag_of_finish hfinish) hopen

/-- A complete block in front of a stray end tag, and the other way round. -/
theorem Node.ofTokens_append_stray :
    let tag (words : List String) : Tag :=
      ⟨words.map fun word => ⟨.name word, ⟨3, 5⟩⟩, ⟨0, 15⟩, ⟨3, 9⟩, .preserve, .preserve⟩
    let complete : List Token :=
      [.block (tag ["block", "a"]), .text "x" ⟨15, 1⟩, .block (tag ["endblock", "a"])]
    let stray : List Token := [.block (tag ["endif"])]
    let node : Node := .block "a" [.text "x" ⟨15, 1⟩] ⟨0, 15⟩
    let error : ParseError := Parser.strayTag [] "endif" ⟨0, 15⟩
    (∀ offset, Token.eof offset ∉ complete) ∧ Node.ofTokens complete = .ok [node] ∧
      (∀ offset, Token.eof offset ∉ stray) ∧ Node.ofTokens stray = .error error ∧
      ¬error.IsUnclosedTag ∧
      Node.ofTokens (complete ++ stray) = (Node.ofTokens stray).map ([node] ++ ·) ∧
      Node.ofTokens (stray ++ complete) = .error error := by
  intro tag complete stray node error
  have hcomplete : ∀ offset, Token.eof offset ∉ complete := by simp [complete]
  have hstray : ∀ offset, Token.eof offset ∉ stray := by simp [stray]
  have hnode : Node.ofTokens complete = .ok [node] := by
    rw [Node.ofTokens_eq_build]
    rfl
  have herror : Node.ofTokens stray = .error error := by
    rw [Node.ofTokens_eq_build]
    rfl
  have hclosed : ¬error.IsUnclosedTag := by
    rintro ⟨_, _, _, heq⟩
    simp [error, Parser.strayTag] at heq
  exact ⟨hcomplete, hnode, hstray, herror, hclosed,
    (Node.ofTokens_append hcomplete stray).1 _ hnode,
    (Node.ofTokens_append hstray complete).2 _ herror hclosed⟩

end TemplateVariables
