import TemplateVariables.Proofs.Node.Opener
import TemplateVariables.Proofs.Node.TreeMachine

/-!
# The machine of open blocks

Whether the blocks of a template are closed as they should be can be told by a
machine that goes over the tokens once and keeps the open blocks on a stack.
The parser calls itself for the body of every block instead.  Both come to the
same result: they accept the same tokens, and report the same error for all
others.

What a single tag says by itself is left to checks that the machine is given.
They see the tag, and for a closing tag the frame that it closes, but no other
token.

The frames on the stack are what this machine knows of the open blocks of the
machine that builds the tree.  The two are compared token by token, and the
parser is not followed into its calls again.
-/

namespace TemplateVariables

/-! ## Frames -/

/-- An open block on the stack of the machine. -/
structure BlockFrame extends OpenTag where
  afterElse : Bool
  repeatable? : Option String

namespace BlockFrame

def opened (word : String) (tag : Tag) : BlockFrame where
  name := word
  span := tag.span
  afterElse := false
  repeatable? := tag.repeatableName? word

/-- The words of the tags that close or divide the block. -/
def accepted (frame : BlockFrame) : List String :=
  if frame.name = "if" ∧ frame.afterElse = false then
    ["elif", "elseif", "else", frame.closer]
  else if frame.name = "for" ∧ frame.afterElse = false then ["else", frame.closer]
  else [frame.closer]

/-- The stack after an accepted tag, where `below` are the frames below this one. -/
def advance (frame : BlockFrame) (word : String) (below : List BlockFrame) : List BlockFrame :=
  if word = frame.closer then below
  else if word = "else" then { frame with afterElse := true } :: below
  else frame :: below

end BlockFrame

/-! ## The machine -/

/-- What is checked of a single tag. -/
structure TagChecks where
  expression : Tag → Except ParseError Unit
  statement : String → Tag → Except ParseError Unit
  closing : BlockFrame → String → Tag → Except ParseError Unit

namespace BlockMachine

def statementWords : List String :=
  ["if", "for", "set", "macro", "call", "with", "filter", "block", "extends", "include",
    "import", "from", "do", "break", "continue"]

variable (checks : TagChecks)

/-- A block tag that the frame on top of the stack does not accept. -/
def otherTag (stack : List BlockFrame) (word : String) (tag : Tag) :
    Except ParseError (List BlockFrame) :=
  if isClosingWord word then
    .error (Parser.strayTag (stack.map BlockFrame.toOpenTag) word tag.span)
  else if (word = "break" ∨ word = "continue") ∧
      stack.all (fun frame => frame.name != "for") then
    .error (.invalidSyntax (.outsideLoop word) tag.span)
  else if word ∈ statementWords then do
    checks.statement word tag
    return if tag.opensBlock word then BlockFrame.opened word tag :: stack else stack
  else if word = "raw" then .error (tag.noArguments word)
  else .error (.unknownTag word tag.span)

def blockTag (stack : List BlockFrame) (tag : Tag) : Except ParseError (List BlockFrame) := do
  let word ← tag.expectName
  match stack with
  | [] => otherTag checks [] word tag
  | top :: below =>
      if word ∈ top.accepted then
        checks.closing top word tag
        return top.advance word below
      else otherTag checks (top :: below) word tag

def step (stack : List BlockFrame) : Token → Except ParseError (List BlockFrame)
  | .expression tag => do
      checks.expression tag
      return stack
  | .block tag => blockTag checks stack tag
  | _ => .ok stack

/-- The end of the template, where no block may be open. -/
def finish : List BlockFrame → Except ParseError Unit
  | [] => .ok ()
  | top :: _ => .error (.unclosedTag top.name top.closer top.span)

def run : List BlockFrame → List Token → Except ParseError Unit
  | stack, [] => finish stack
  | stack, .eof _ :: _ => finish stack
  | stack, token :: rest => do
      let stack ← step checks stack token
      run stack rest

end BlockMachine

/-- An accepted tag stands alone, or repeats the name of a macro or a block. -/
def BlockFrame.expectEnd (frame : BlockFrame) (tag : Tag) : Except ParseError Unit :=
  match frame.repeatable? with
  | some name => Parser.expectRepeatedName frame.toOpenTag name tag
  | none => tag.expectBare

/-- The checks of the grammar. -/
def TagChecks.ofGrammar : TagChecks where
  expression tag := do
    let _ ← Parser.expressionNode tag
    return ()
  statement word tag := do
    let _ ← Statement.ofTag tag word
    return ()
  closing frame word tag :=
    if word = "elif" ∨ word = "elseif" then do
      let _ ← tag.condition
      return ()
    else frame.expectEnd tag

/-! ## Tags that are not accepted -/

def Header.frame (header : Header) (tag : Tag) : BlockFrame where
  name := header.tagName
  span := tag.span
  afterElse := false
  repeatable? := header.repeatedName?

/-- The stack after a statement. -/
def Statement.push (statement : Statement) (tag : Tag) (stack : List BlockFrame) :
    List BlockFrame :=
  match statement with
  | .complete _ => stack
  | .opens header => header.frame tag :: stack

theorem Statement.push_of_announced {statement : Statement} {tag : Tag} {word : String}
    (hstatement : Announced tag word statement) (stack : List BlockFrame) :
    statement.push tag stack =
      if tag.opensBlock word then BlockFrame.opened word tag :: stack else stack := by
  cases statement with
  | complete node =>
      have hopens : tag.opensBlock word = false := hstatement
      rw [hopens]
      rfl
  | opens header =>
      obtain ⟨hopens, hname, hrepeated⟩ := hstatement
      rw [hopens, Statement.push, Header.frame, hname, hrepeated]
      rfl

namespace BlockMachine

open TemplateVariables.Parser

theorem ofTag_of_not_mem {word : String} (hword : word ∉ statementWords) (tag : Tag) :
    Statement.ofTag tag word =
      if word = "raw" then .error (tag.noArguments word)
      else .error (.unknownTag word tag.span) := by
  unfold Statement.ofTag
  split
  case h_16 => rfl
  case h_17 hraw => rw [if_neg hraw]
  all_goals exact absurd (by decide) hword

theorem otherTag_eq (stack : List BlockFrame) (word : String) (tag : Tag) :
    otherTag .ofGrammar stack word tag = do
      let statement ← statement (stack.map BlockFrame.toOpenTag) word tag
      return statement.push tag stack := by
  have hloop : ((stack.map BlockFrame.toOpenTag).all fun outer => outer.name != "for") =
      stack.all fun frame => frame.name != "for" := List.all_map
  rw [otherTag, Parser.statement, hloop]
  by_cases hclosing : isClosingWord word = true
  · rw [if_pos hclosing, if_pos hclosing]
    rfl
  rw [if_neg hclosing, if_neg hclosing]
  by_cases houtside : (word = "break" ∨ word = "continue") ∧
      (stack.all fun frame => frame.name != "for") = true
  · rw [if_pos houtside, if_pos houtside]
    rfl
  rw [if_neg houtside, if_neg houtside]
  by_cases hword : word ∈ statementWords
  · rw [if_pos hword]
    change (Statement.ofTag tag word >>= fun _ => pure ()) >>= _ = _
    rw [bind_assoc]
    apply (Statement.ofTag_ensures tag word).bind_congr
    intro statement hstatement
    rw [pure_bind, Statement.push_of_announced hstatement]
  · rw [if_neg hword, ofTag_of_not_mem hword]
    by_cases hraw : word = "raw"
    · rw [if_pos hraw, if_pos hraw]
      rfl
    · rw [if_neg hraw, if_neg hraw]
      rfl

end BlockMachine

/-! ## Accepted tags -/

theorem Tag.name?_of_expectName {tag : Tag} {word : String} (hword : tag.expectName = .ok word) :
    tag.name? = some word := by
  obtain ⟨lexemes, span, inside, left, right⟩ := tag
  cases lexemes with
  | nil => contradiction
  | cons lexeme rest =>
      obtain ⟨kind, lexemeSpan⟩ := lexeme
      cases kind with
      | name text =>
          obtain rfl : text = word := Except.ok.inj hword
          rfl
      | _ => contradiction

theorem OpenTag.closer_ne (opened : OpenTag) {word : String}
    (hword : word ∈ ["elif", "elseif", "else"]) : opened.closer ≠ word := by
  intro hcloser
  have hchars := congrArg String.toList hcloser
  simp only [List.mem_cons, List.not_mem_nil, or_false] at hword
  rcases hword with rfl | rfl | rfl <;> simp [OpenTag.closer] at hchars

theorem OpenTag.closer_ne_elif (opened : OpenTag) :
    ¬(opened.closer = "elif" ∨ opened.closer = "elseif") := by
  rw [not_or]
  exact ⟨opened.closer_ne (by decide), opened.closer_ne (by decide)⟩

theorem TagChecks.closing_of_not_elif {frame : BlockFrame} {word : String} (tag : Tag)
    (hword : ¬(word = "elif" ∨ word = "elseif")) :
    TagChecks.ofGrammar.closing frame word tag = frame.expectEnd tag := by
  change ite _ _ _ = _
  rw [if_neg hword]

namespace BlockFrame

/-- The frames after a tag that the frame accepts. -/
def closed (frame : BlockFrame) (below : List BlockFrame) (word : String) (tag : Tag) :
    Except ParseError (List BlockFrame) := do
  TagChecks.ofGrammar.closing frame word tag
  return frame.advance word below

variable (frame : BlockFrame) (below : List BlockFrame) (tag : Tag)

theorem closed_closer :
    frame.closed below frame.closer tag = frame.expectEnd tag >>= fun _ => pure below := by
  rw [closed, TagChecks.closing_of_not_elif tag frame.closer_ne_elif, advance, if_pos rfl]

theorem closed_else :
    frame.closed below "else" tag =
      frame.expectEnd tag >>= fun _ => pure ({ frame with afterElse := true } :: below) := by
  have hcloser : "else" ≠ frame.closer := (frame.closer_ne (by decide)).symm
  rw [closed, TagChecks.closing_of_not_elif tag (by decide), advance, if_neg hcloser, if_pos rfl]

theorem closed_elif {word : String} (hword : word = "elif" ∨ word = "elseif") :
    frame.closed below word tag = tag.condition >>= fun _ => pure (frame :: below) := by
  have hcloser : word ≠ frame.closer := by
    rcases hword with rfl | rfl <;> exact (frame.closer_ne (by decide)).symm
  have helse : word ≠ "else" := by
    rcases hword with rfl | rfl <;> decide
  have hchecks : TagChecks.ofGrammar.closing frame word tag = tag.condition >>= fun _ => pure () :=
    if_pos hword
  rw [closed, hchecks, advance, if_neg hcloser, if_neg helse, bind_assoc]
  rfl

end BlockFrame

/-! ## The frames of a tree -/

namespace Unfinished

def tagName : Unfinished → String
  | .branch .. => "if"
  | .otherwise .. => "if"
  | .loop .. => "for"
  | .loopOtherwise .. => "for"
  | .plain header => header.tagName

def afterElse : Unfinished → Bool
  | .otherwise .. => true
  | .loopOtherwise .. => true
  | _ => false

def repeatedName? : Unfinished → Option String
  | .plain header => header.repeatedName?
  | _ => none

end Unfinished

namespace OpenBlock

/-- What the machine of open blocks knows of a block. -/
def frame (block : OpenBlock) : BlockFrame where
  toOpenTag := block.toOpenTag
  afterElse := block.unfinished.afterElse
  repeatable? := block.unfinished.repeatedName?

/-- The tag that opens the block is one for what is read of the block. -/
def Named (block : OpenBlock) : Prop :=
  block.name = block.unfinished.tagName

theorem accepted_frame {block : OpenBlock} (hnamed : block.Named) :
    block.frame.accepted = block.accepted := by
  obtain ⟨⟨name, span⟩, before, unfinished⟩ := block
  obtain rfl : name = unfinished.tagName := hnamed
  cases unfinished with
  | plain header => cases header <;> rfl
  | _ => rfl

end OpenBlock

namespace Building

def frames (building : Building) : List BlockFrame :=
  building.blocks.map OpenBlock.frame

def Named (building : Building) : Prop :=
  ∀ block ∈ building.blocks, block.Named

end Building

/-- A tag that ends a list does to the frames what it does to the tree. -/
theorem OpenBlock.frames_close {block : OpenBlock} {tag : Tag} {word : String}
    (hname : tag.expectName = .ok word) (hword : word ∈ block.accepted) (below : List OpenBlock)
    (nodes : List Node) :
    (block.close below nodes tag >>= fun building => pure building.frames) =
      block.frame.closed (below.map OpenBlock.frame) word tag := by
  have hclosing : tag.name? = some word := Tag.name?_of_expectName hname
  obtain ⟨opened, before, unfinished⟩ := block
  have helif := opened.closer_ne_elif
  have helse : ¬opened.closer = "else" := opened.closer_ne (by decide)
  cases unfinished with
  | branch earlier condition =>
      have hwords : (word = "elif" ∨ word = "elseif") ∨ word = "else" ∨ word = opened.closer := by
        simpa [accepted, or_assoc] using hword
      rcases hwords with hword | rfl | rfl
      · refine Eq.trans ?_ (BlockFrame.closed_elif _ _ _ hword).symm
        simp only [close, hclosing, Option.some.injEq, hword, if_true, bind_assoc, pure_bind]
        rfl
      · have hword : ¬("else" = "elif" ∨ "else" = "elseif") := by decide
        refine Eq.trans ?_ (BlockFrame.closed_else _ _ _).symm
        simp only [close, hclosing, Option.some.injEq, hword, if_false, if_true, bind_assoc,
          pure_bind]
        rfl
      · refine Eq.trans ?_ (BlockFrame.closed_closer _ _ _).symm
        simp only [close, hclosing, Option.some.injEq, helif, helse, if_false, bind_assoc,
          pure_bind]
        rfl
  | loop names iterable condition recursive =>
      have hwords : word = "else" ∨ word = opened.closer := by
        simpa [accepted] using hword
      rcases hwords with rfl | rfl
      · refine Eq.trans ?_ (BlockFrame.closed_else _ _ _).symm
        simp only [close, hclosing, if_true, bind_assoc, pure_bind]
        rfl
      · refine Eq.trans ?_ (BlockFrame.closed_closer _ _ _).symm
        simp only [close, hclosing, Option.some.injEq, helse, if_false, bind_assoc, pure_bind]
        rfl
  | _ =>
      obtain rfl := List.mem_singleton.1 hword
      refine Eq.trans ?_ (BlockFrame.closed_closer _ _ _).symm
      simp only [close, bind_assoc, pure_bind]
      rfl

/-! ## The two machines -/

namespace Building

open TemplateVariables.Parser

variable {building : Building}

/-- A block that a tag divides goes on as the same block. -/
theorem named_close {block : OpenBlock} {below : List OpenBlock} {nodes : List Node}
    (hnamed : Named ⟨block :: below, nodes⟩) (closing : Tag) :
    Ensures (block.close below nodes closing) Named := by
  obtain ⟨hblock, hbelow⟩ := List.forall_mem_cons.1 hnamed
  have hdivide {unfinished : Unfinished} (hsame : block.unfinished.tagName = unfinished.tagName) :
      (block.divide below unfinished).Named :=
    List.forall_mem_cons.2 ⟨hblock.trans hsame, hbelow⟩
  unfold OpenBlock.close
  split
  case h_1 hunfinished =>
    split
    · apply Ensures.trivial.bind
      intro next _
      exact Ensures.ok (hdivide (by rw [hunfinished]; rfl))
    · apply Ensures.trivial.bind
      intro _ _
      split
      · exact Ensures.ok (hdivide (by rw [hunfinished]; rfl))
      · exact Ensures.ok hbelow
  case h_3 hunfinished =>
    apply Ensures.trivial.bind
    intro _ _
    split
    · exact Ensures.ok (hdivide (by rw [hunfinished]; rfl))
    · exact Ensures.ok hbelow
  all_goals
    apply Ensures.trivial.bind
    intro _ _
    exact Ensures.ok hbelow

theorem named_apply (hnamed : building.Named) (tag : Tag) (statement : Statement) :
    (building.apply tag statement).Named := by
  cases statement with
  | complete node => exact hnamed
  | opens header =>
      refine List.forall_mem_cons.2 ⟨?_, hnamed⟩
      cases header <;> rfl

theorem named_step (hnamed : building.Named) (token : Token) :
    Ensures (building.step token) Named := by
  cases token with
  | expression tag =>
      apply Ensures.trivial.bind
      intro node _
      exact Ensures.ok hnamed
  | block tag =>
      apply Ensures.trivial.bind
      intro word _
      obtain ⟨_ | ⟨block, below⟩, nodes⟩ := building
      · apply Ensures.trivial.bind
        intro statement _
        exact Ensures.ok (named_apply hnamed tag statement)
      · change Ensures (ite _ _ _) _
        split
        · exact named_close hnamed tag
        · apply Ensures.trivial.bind
          intro statement _
          exact Ensures.ok (named_apply hnamed tag statement)
  | _ => exact Ensures.ok hnamed

theorem frames_apply (building : Building) (tag : Tag) (statement : Statement) :
    (building.apply tag statement).frames = statement.push tag building.frames := by
  cases statement with
  | complete node => rfl
  | opens header => cases header <;> rfl

theorem frames_blockTag (hnamed : building.Named) (tag : Tag) :
    (building.blockTag tag >>= fun next => pure next.frames) =
      BlockMachine.blockTag .ofGrammar building.frames tag := by
  have hopened : building.frames.map BlockFrame.toOpenTag = building.opened := List.map_map
  cases hname : tag.expectName with
  | error error =>
      rw [blockTag_of_error hname, BlockMachine.blockTag, hname]
      rfl
  | ok word =>
      have hother (hword : word ∉ building.awaited) :
          (building.blockTag tag >>= fun next => pure next.frames) =
            BlockMachine.otherTag .ofGrammar building.frames word tag := by
        rw [blockTag_of_not_mem hname hword, BlockMachine.otherTag_eq, hopened]
        simp only [bind_assoc, pure_bind, frames_apply]
      obtain ⟨_ | ⟨block, below⟩, nodes⟩ := building
      · rw [hother List.not_mem_nil, BlockMachine.blockTag, hname]
        rfl
      · have haccepted : block.frame.accepted = block.accepted :=
          OpenBlock.accepted_frame (hnamed block List.mem_cons_self)
        by_cases hword : word ∈ block.accepted
        · rw [blockTag_of_mem hname hword, OpenBlock.frames_close hname hword,
            BlockMachine.blockTag, hname]
          exact (if_pos (haccepted ▸ hword)).symm
        · rw [hother hword, BlockMachine.blockTag, hname]
          exact (if_neg (haccepted ▸ hword)).symm

/-- The machine of open blocks does with a token what the machine of the tree does with it,
and sees the frames alone. -/
theorem frames_step (hnamed : building.Named) (token : Token) :
    (building.step token >>= fun next => pure next.frames) =
      BlockMachine.step .ofGrammar building.frames token := by
  cases token with
  | expression tag =>
      change ((expressionNode tag >>= fun node => pure (building.add node)) >>= fun next =>
        pure next.frames) = (expressionNode tag >>= fun _ => pure ()) >>= fun _ =>
          pure building.frames
      simp only [bind_assoc, pure_bind]
      rfl
  | block tag => exact frames_blockTag hnamed tag
  | _ => rfl

theorem frames_finish (building : Building) :
    (building.finish >>= fun _ => pure ()) = BlockMachine.finish building.frames := by
  obtain ⟨_ | ⟨block, below⟩, nodes⟩ := building <;> rfl

theorem frames_run (hnamed : building.Named) (tokens : List Token) :
    (building.run tokens >>= fun _ => pure ()) =
      BlockMachine.run .ofGrammar building.frames tokens := by
  induction tokens generalizing building with
  | nil => exact frames_finish building
  | cons token rest ih =>
      have hstep : ((building.step token >>= fun next => next.run rest) >>= fun _ => pure ()) =
          BlockMachine.step .ofGrammar building.frames token >>= fun frames =>
            BlockMachine.run .ofGrammar frames rest := by
        rw [← frames_step hnamed, bind_assoc, bind_assoc]
        apply (named_step hnamed token).bind_congr
        intro next hnext
        rw [ih hnext, pure_bind]
      cases token with
      | eof offset => exact frames_finish building
      | _ => exact hstep

end Building

/-- The parser accepts what the machine accepts, and reports the same error otherwise. -/
theorem Node.ofTokens_eq_run (tokens : List Token) :
    (Node.ofTokens tokens).map (fun _ => ()) = BlockMachine.run .ofGrammar [] tokens := by
  have hempty : Building.empty.Named := List.forall_mem_nil _
  rw [Node.ofTokens_eq_build, ← show Building.empty.frames = [] from rfl,
    ← Building.frames_run hempty]
  cases Building.empty.run tokens <;> rfl

end TemplateVariables
