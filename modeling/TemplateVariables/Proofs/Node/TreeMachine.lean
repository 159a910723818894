import TemplateVariables.Node.Parser
import TemplateVariables.Proofs.Expr.Reading

/-!
# Building the tree tag by tag

The parser calls itself for the body of every block.  The same tree is built by a
machine that goes over the tokens once.  It keeps the open blocks on a stack, each
with the nodes in front of it and with what has been read of it, and beside them
the nodes of the list that is being read.

What one token does to this state is said by `Building.step` alone.  A property of
whole templates can therefore be proved of one step and carried along the tokens,
without following the parser into its calls.
-/

namespace TemplateVariables

/-! ## The state -/

/-- What has been read of a block whose end tag has not been found. -/
inductive Unfinished where
  /-- The body under a condition, behind the branches before it. -/
  | branch (earlier : List Branch) (condition : Expr)
  | otherwise (branches : List Branch)
  | loop (names : List String) (iterable : Expr) (condition : Option Expr) (recursive : Bool)
  | loopOtherwise (names : List String) (iterable : Expr) (condition : Option Expr)
      (recursive : Bool) (body : List Node)
  | plain (header : PlainHeader)

/-- An open block, with the nodes in front of it in its list. -/
structure OpenBlock extends OpenTag where
  before : List Node
  unfinished : Unfinished

/-- The open blocks, innermost first, and the nodes read in the innermost list. -/
structure Building where
  blocks : List OpenBlock
  nodes : List Node

/-- What is read of a block with its opener. -/
def Header.unfinished : Header → Unfinished
  | .conditional condition => .branch [] condition
  | .loop names iterable condition recursive => .loop names iterable condition recursive
  | .plain header => .plain header

namespace OpenBlock

/-- The words of the tags that close or divide the block. -/
def accepted (block : OpenBlock) : List String :=
  match block.unfinished with
  | .branch .. => ["elif", "elseif", "else", block.closer]
  | .loop .. => ["else", block.closer]
  | _ => [block.closer]

/-- The block goes on with another body. -/
def divide (block : OpenBlock) (below : List OpenBlock) (unfinished : Unfinished) : Building where
  blocks := { block with unfinished } :: below
  nodes := []

/-- The block is complete and stands behind the nodes in front of it. -/
def complete (block : OpenBlock) (below : List OpenBlock) (node : Node) : Building where
  blocks := below
  nodes := block.before ++ [node]

/-- The state after a tag that the block accepts, where `body` is the list it ends. -/
def close (block : OpenBlock) (below : List OpenBlock) (body : List Node) (closing : Tag) :
    Except ParseError Building :=
  let span := block.span.cover closing.span
  match block.unfinished with
  | .branch earlier condition =>
      let branches := earlier ++ [{ condition, body }]
      if closing.name? = some "elif" ∨ closing.name? = some "elseif" then do
        let next ← closing.condition
        return block.divide below (.branch branches next)
      else do
        closing.expectBare
        if closing.name? = some "else" then return block.divide below (.otherwise branches)
        else return block.complete below (.conditional branches none span)
  | .otherwise branches => do
      closing.expectBare
      return block.complete below (.conditional branches (some body) span)
  | .loop names iterable condition recursive => do
      closing.expectBare
      if closing.name? = some "else" then
        return block.divide below (.loopOtherwise names iterable condition recursive body)
      else return block.complete below (.loop names iterable condition recursive body none span)
  | .loopOtherwise names iterable condition recursive first => do
      closing.expectBare
      return block.complete below
        (.loop names iterable condition recursive first (some body) span)
  | .plain header => do
      Parser.expectPlainEnd block.toOpenTag header closing
      return block.complete below (header.node body span)

end OpenBlock

namespace Building

def opened (building : Building) : List OpenTag :=
  building.blocks.map OpenBlock.toOpenTag

/-- The words that end the innermost list. -/
def awaited (building : Building) : List String :=
  (building.blocks.head?.map OpenBlock.accepted).getD []

def add (building : Building) (node : Node) : Building :=
  { building with nodes := building.nodes ++ [node] }

def push (building : Building) (header : Header) (tag : Tag) : Building where
  blocks :=
    { name := header.tagName
      span := tag.span
      before := building.nodes
      unfinished := header.unfinished } :: building.blocks
  nodes := []

/-- The state after what a block tag says by itself. -/
def apply (building : Building) (tag : Tag) : Statement → Building
  | .complete node => building.add node
  | .opens header => building.push header tag

def blockTag (building : Building) (tag : Tag) : Except ParseError Building := do
  let word ← tag.expectName
  match building.blocks with
  | block :: below =>
      if block.accepted.contains word then block.close below building.nodes tag
      else return building.apply tag (← Parser.statement building.opened word tag)
  | [] => return building.apply tag (← Parser.statement [] word tag)

def step (building : Building) : Token → Except ParseError Building
  | .text content span => .ok (building.add (.text content span))
  | .raw content span => .ok (building.add (.raw content span))
  | .comment span => .ok (building.add (.comment span))
  | .expression tag => do
      let node ← Parser.expressionNode tag
      return building.add node
  | .block tag => building.blockTag tag
  | .eof _ => .ok building

/-- The tree at the end of the template, where no block may be open. -/
def finish (building : Building) : Except ParseError (List Node) :=
  match building.blocks with
  | [] => .ok building.nodes
  | block :: _ => .error (.unclosedTag block.name block.closer block.span)

def run : Building → List Token → Except ParseError (List Node)
  | building, [] => building.finish
  | building, .eof _ :: _ => building.finish
  | building, token :: rest => do
      let building ← building.step token
      run building rest

/-- Before the first token. -/
def empty : Building where
  blocks := []
  nodes := []

end Building

/-! ## Where a list of nodes ends -/

namespace Parser

/-- A list of nodes ends at the end of the tokens or at a tag that was waited for. -/
def EndsAt {bound : Nat} (closers : List String) (siblings : Siblings bound) : Prop :=
  ∀ closing ∈ siblings.closing, ∃ word ∈ closers, closing.tag.expectName = .ok word

theorem endsAt_prepend {small large : Nat} {closers : List String} {siblings : Siblings small}
    (hsiblings : EndsAt closers siblings) (hle : small ≤ large) (node : Node) :
    EndsAt closers (siblings.prepend hle node) := by
  intro closing hclosing
  obtain ⟨original, horiginal, rfl⟩ := Option.map_eq_some_iff.mp hclosing
  exact hsiblings original horiginal

theorem nodes_ensures (closers : List String) (opened : List OpenTag) (tokens : List Token) :
    Ensures (nodes closers opened tokens) (EndsAt closers) := by
  have hprepend (rest : List Token) (hrest : rest.length < tokens.length) (node : Node)
      {large : Nat} (hle : rest.length ≤ large) :
      Ensures
        (do
          let siblings ← nodes closers opened rest
          return siblings.prepend hle node)
        (EndsAt closers) := by
    apply (nodes_ensures closers opened rest).bind
    intro siblings hsiblings
    exact Ensures.ok (endsAt_prepend hsiblings hle node)
  cases tokens with
  | nil =>
      rw [nodes]
      exact Ensures.ok (by simp [EndsAt])
  | cons token rest =>
      have hrest : rest.length < (token :: rest).length := Nat.lt_succ_self _
      cases token with
      | eof offset =>
          rw [nodes]
          exact Ensures.ok (by simp [EndsAt])
      | text content span =>
          rw [nodes]
          exact hprepend rest hrest _ _
      | raw content span =>
          rw [nodes]
          exact hprepend rest hrest _ _
      | comment span =>
          rw [nodes]
          exact hprepend rest hrest _ _
      | expression tag =>
          rw [nodes]
          apply Ensures.trivial.bind
          intro node _
          exact hprepend rest hrest _ _
      | block tag =>
          rw [nodes]
          cases hname : tag.expectName with
          | error error => exact Ensures.error
          | ok word =>
              change Ensures (ite _ _ _) _
              by_cases hword : closers.contains word = true
              · rw [if_pos hword]
                apply Ensures.ok
                rintro _ ⟨⟩
                exact ⟨word, List.contains_iff_mem.mp hword, hname⟩
              · rw [if_neg hword]
                apply Ensures.trivial.bind
                intro statement _
                cases statement with
                | complete node => exact hprepend rest hrest _ _
                | opens header =>
                    apply Ensures.trivial.bind
                    rintro ⟨node, after, hafter⟩ _
                    exact hprepend after (Nat.lt_trans hafter hrest) _ _
termination_by tokens.length

end Parser

/-! ## The machine and the parser -/

namespace Building

open TemplateVariables.Parser

/-- What the machine does once the parser has read the rest of the innermost list. -/
def resume {bound : Nat} (building : Building) (siblings : Siblings bound) :
    Except ParseError (List Node) :=
  let building := { building with nodes := building.nodes ++ siblings.nodes }
  match siblings.closing with
  | none => building.finish
  | some closing => run building (.block closing.tag :: closing.rest)

theorem resume_prepend {small large : Nat} (building : Building) (hle : small ≤ large)
    (node : Node) (siblings : Siblings small) :
    building.resume (siblings.prepend hle node) = (building.add node).resume siblings := by
  obtain ⟨nodes, closing⟩ := siblings
  cases closing <;> simp [resume, Siblings.prepend, add, Closing.weaken, finish]

/-- The machine does with the tokens what the parser's reading of them leaves to it. -/
def Follows (tokens : List Token) : Prop :=
  ∀ building : Building,
    run building tokens =
      Parser.nodes building.awaited building.opened tokens >>= building.resume

theorem blockTag_of_error {building : Building} {tag : Tag} {error : ParseError}
    (hname : tag.expectName = .error error) : building.blockTag tag = .error error := by
  rw [blockTag, hname]
  rfl

theorem blockTag_of_mem {block : OpenBlock} {tag : Tag} {word : String}
    (hname : tag.expectName = .ok word) (hword : word ∈ block.accepted)
    (below : List OpenBlock) (nodes : List Node) :
    blockTag ⟨block :: below, nodes⟩ tag = block.close below nodes tag := by
  rw [blockTag, hname]
  exact if_pos (List.contains_iff_mem.2 hword)

theorem blockTag_of_not_mem {building : Building} {tag : Tag} {word : String}
    (hname : tag.expectName = .ok word) (hword : word ∉ building.awaited) :
    building.blockTag tag =
      Parser.statement building.opened word tag >>= fun statement =>
        pure (building.apply tag statement) := by
  obtain ⟨blocks, nodes⟩ := building
  rw [blockTag, hname]
  cases blocks with
  | nil => rfl
  | cons block below => exact if_neg (mt List.contains_iff_mem.1 hword)

/-- From the start of a body on, the parser reads the body and the machine takes its end. -/
theorem run_eq_body {tokens : List Token} (htokens : Follows tokens) (block : OpenBlock)
    (below : List OpenBlock) :
    run ⟨block :: below, []⟩ tokens =
      Parser.nodes block.accepted (block.toOpenTag :: below.map OpenBlock.toOpenTag) tokens >>=
        fun siblings => siblings.body block.toOpenTag >>= fun part =>
          block.close below part.value.1 part.value.2 >>= fun building =>
            run building part.rest := by
  rw [htokens]
  apply (Parser.nodes_ensures _ _ tokens).bind_congr
  rintro ⟨nodes, closing⟩ hends
  cases closing with
  | none => rfl
  | some closing =>
      obtain ⟨word, hword, hname⟩ := hends closing rfl
      change blockTag ⟨block :: below, nodes⟩ closing.tag >>= _ = _
      rw [blockTag_of_mem hname hword]
      rfl

theorem plain_followed {tokens : List Token} (htokens : Follows tokens) (header : PlainHeader)
    (tag : Tag) (building : Building) :
    run (building.push (.plain header) tag) tokens =
      Parser.block building.opened (.plain header) tag tokens >>= fun part =>
        run (building.add part.value) part.rest := by
  rw [Parser.block]
  simp only [bind_assoc, pure_bind]
  refine (run_eq_body htokens _ building.blocks).trans ?_
  apply Ensures.trivial.bind_congr
  intro siblings _
  apply Ensures.trivial.bind_congr
  rintro ⟨⟨body, closing⟩, rest, hrest⟩ _
  rw [OpenBlock.close]
  simp only [Header.unfinished, bind_assoc, pure_bind]
  rfl

theorem loop_followed {tokens : List Token}
    (htokens : ∀ inner : List Token, inner.length ≤ tokens.length → Follows inner)
    (names : List String) (iterable : Expr) (condition : Option Expr) (recursive : Bool)
    (tag : Tag) (building : Building) :
    run (building.push (.loop names iterable condition recursive) tag) tokens =
      Parser.block building.opened (.loop names iterable condition recursive) tag tokens >>=
        fun part => run (building.add part.value) part.rest := by
  rw [Parser.block]
  simp only [bind_assoc]
  refine (run_eq_body (htokens tokens (Nat.le_refl _)) _ building.blocks).trans ?_
  apply Ensures.trivial.bind_congr
  intro siblings _
  apply Ensures.trivial.bind_congr
  rintro ⟨⟨body, closing⟩, rest, hrest⟩ _
  rw [OpenBlock.close]
  simp only [Header.unfinished, bind_assoc]
  apply Ensures.trivial.bind_congr
  intro _ _
  by_cases helse : closing.name? = some "else"
  · simp only [helse, if_true, bind_assoc, pure_bind]
    refine (run_eq_body (htokens rest (Nat.le_of_lt hrest)) _ building.blocks).trans ?_
    apply Ensures.trivial.bind_congr
    intro siblings _
    apply Ensures.trivial.bind_congr
    rintro ⟨⟨otherwise, closing⟩, rest, hotherwise⟩ _
    rw [OpenBlock.close]
    simp only [bind_assoc, pure_bind]
    rfl
  · simp only [helse, if_false, pure_bind]
    rfl

theorem branches_followed {tokens : List Token}
    (htokens : ∀ inner : List Token, inner.length ≤ tokens.length → Follows inner)
    (innermost : OpenTag) (below : List OpenBlock) (before : List Node)
    (earlier : List Branch) (condition : Expr) :
    run ⟨⟨innermost, before, .branch earlier condition⟩ :: below, []⟩ tokens =
      Parser.branches innermost (below.map OpenBlock.toOpenTag) condition tokens >>= fun part =>
        run ⟨below, before ++ [.conditional (earlier ++ part.value.1) part.value.2.1
          (innermost.span.cover part.value.2.2.span)]⟩ part.rest := by
  rw [Parser.branches]
  simp only [bind_assoc]
  refine (run_eq_body (htokens tokens (Nat.le_refl _)) _ below).trans ?_
  apply Ensures.trivial.bind_congr
  intro siblings _
  apply Ensures.trivial.bind_congr
  rintro ⟨⟨body, closing⟩, rest, hrest⟩ _
  have hinner : ∀ inner : List Token, inner.length ≤ rest.length → Follows inner :=
    fun inner hle => htokens inner (Nat.le_trans hle (Nat.le_of_lt hrest))
  rw [OpenBlock.close]
  by_cases hbranch : closing.name? = some "elif" ∨ closing.name? = some "elseif"
  · simp only [hbranch, if_true, bind_assoc, pure_bind]
    apply Ensures.trivial.bind_congr
    intro next _
    refine (branches_followed hinner innermost below before _ next).trans ?_
    simp only [List.append_assoc, List.singleton_append]
  simp only [hbranch, if_false, bind_assoc]
  apply Ensures.trivial.bind_congr
  intro _ _
  by_cases helse : closing.name? = some "else"
  · simp only [helse, if_true, bind_assoc, pure_bind]
    refine (run_eq_body (hinner rest (Nat.le_refl _)) _ below).trans ?_
    apply Ensures.trivial.bind_congr
    intro siblings _
    apply Ensures.trivial.bind_congr
    rintro ⟨⟨otherwise, closing⟩, rest, hotherwise⟩ _
    rw [OpenBlock.close]
    simp only [bind_assoc, pure_bind]
    rfl
  · simp only [helse, if_false, pure_bind]
    rfl
termination_by tokens.length

theorem block_followed {tokens : List Token}
    (htokens : ∀ inner : List Token, inner.length ≤ tokens.length → Follows inner)
    (header : Header) (tag : Tag) (building : Building) :
    run (building.push header tag) tokens =
      Parser.block building.opened header tag tokens >>= fun part =>
        run (building.add part.value) part.rest := by
  cases header with
  | conditional condition =>
      rw [Parser.block]
      simp only [bind_assoc, pure_bind]
      exact branches_followed htokens _ building.blocks building.nodes [] condition
  | loop names iterable condition recursive =>
      exact loop_followed htokens names iterable condition recursive tag building
  | plain header => exact plain_followed (htokens tokens (Nat.le_refl _)) header tag building

/-! ## Lists of nodes -/

theorem run_eq_prepend {rest : List Token} (hrest : Follows rest) (building : Building)
    {large : Nat} (hle : rest.length ≤ large) (node : Node) :
    run (building.add node) rest =
      Parser.nodes building.awaited building.opened rest >>= fun siblings =>
        building.resume (siblings.prepend hle node) := by
  simp only [resume_prepend]
  exact hrest (building.add node)

theorem follows_block {rest : List Token}
    (hrest : ∀ inner : List Token, inner.length ≤ rest.length → Follows inner) (tag : Tag) :
    Follows (.block tag :: rest) := by
  intro building
  rw [Parser.nodes]
  cases hname : tag.expectName with
  | error error =>
      change building.blockTag tag >>= _ = _
      rw [blockTag_of_error hname]
      rfl
  | ok word =>
      by_cases hword : word ∈ building.awaited
      -- A tag that is waited for ends the list, and the machine still has to take it.
      · change _ = ite _ _ _ >>= _
        rw [if_pos (List.contains_iff_mem.2 hword), pure_bind]
        simp only [resume, List.append_nil]
      · change building.blockTag tag >>= _ = ite _ _ _ >>= _
        rw [if_neg (mt List.contains_iff_mem.1 hword), blockTag_of_not_mem hname hword]
        simp only [bind_assoc, pure_bind]
        apply Ensures.trivial.bind_congr
        intro statement _
        cases statement with
        | complete node =>
            simp only [bind_assoc, pure_bind]
            exact run_eq_prepend (hrest rest (Nat.le_refl _)) building _ node
        | opens header =>
            rw [Building.apply, block_followed hrest header tag building]
            simp only [bind_assoc, pure_bind]
            apply Ensures.trivial.bind_congr
            rintro ⟨node, after, hafter⟩ _
            exact run_eq_prepend (hrest after (Nat.le_of_lt hafter)) building _ node

theorem follows (tokens : List Token) : Follows tokens := by
  have hend (building : Building) :
      building.finish =
        building.resume ({ nodes := [], closing := none } : Siblings tokens.length) := by
    simp [resume]
  cases tokens with
  | nil =>
      intro building
      rw [Parser.nodes]
      exact hend building
  | cons token rest =>
      have hrest : Follows rest := follows rest
      cases token with
      | block tag => exact follows_block (fun inner _ => follows inner) tag
      | eof offset =>
          intro building
          rw [Parser.nodes]
          exact hend building
      | expression tag =>
          intro building
          rw [Parser.nodes]
          change (expressionNode tag >>= fun node => pure (building.add node)) >>=
            (fun building => run building rest) = _
          simp only [bind_assoc, pure_bind]
          apply Ensures.trivial.bind_congr
          intro node _
          exact run_eq_prepend hrest building _ node
      | _ =>
          intro building
          rw [Parser.nodes]
          simp only [bind_assoc, pure_bind]
          exact run_eq_prepend hrest building _ _
termination_by tokens.length

end Building

/-- The parser reads the tree that the machine builds, and reports the same error otherwise. -/
theorem Node.ofTokens_eq_build (tokens : List Token) :
    Node.ofTokens tokens = Building.empty.run tokens := by
  have hnodes : Node.ofTokens tokens =
      Parser.nodes [] [] tokens >>= fun siblings => pure siblings.nodes := rfl
  have hrun : Building.empty.run tokens =
      Parser.nodes [] [] tokens >>= Building.empty.resume :=
    Building.follows tokens Building.empty
  rw [hnodes, hrun]
  apply (Parser.nodes_ensures [] [] tokens).bind_congr
  rintro ⟨nodes, closing⟩ hends
  cases closing with
  | none => rfl
  | some closing =>
      obtain ⟨word, hword, _⟩ := hends closing rfl
      exact absurd hword List.not_mem_nil

/-- The machine evaluates, which the recursion of the parser over all blocks does not. -/
theorem Node.ofSource_eq_build (source : List Char) :
    Node.ofSource source =
      if source.all Text.isBlank then .ok []
      else Token.ofChars source >>= Building.empty.run := by
  unfold Node.ofSource
  rw [funext Node.ofTokens_eq_build]

end TemplateVariables
