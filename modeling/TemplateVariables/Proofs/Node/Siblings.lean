import TemplateVariables.Node.Parser
import TemplateVariables.Proofs.Node.Statements

/-!
# Lists of nodes and blocks that are read

A list of nodes is read in front of a closing tag or of the end of the template,
and what stands behind the closing tag is left.  The lemmas of this file put a
node in front of the ones after it, and a block together from the lists of nodes
between its tags.
-/

namespace TemplateVariables

open Segment (Spell word)

section Tag

variable {tag : Tag} {text : String} {segments : List Segment}

theorem Tag.expectName_spelled (htag : Spell (word text :: segments) tag.lexemes) :
    tag.expectName = .ok text := by
  rw [Tag.expectName]
  generalize tag.lexemes = lexemes at htag
  cases htag with
  | lexeme => rfl

theorem Tag.name?_spelled (htag : Spell (word text :: segments) tag.lexemes) :
    tag.name? = some text := by
  rw [Tag.name?]
  generalize tag.lexemes = lexemes at htag
  cases htag with
  | lexeme => rfl

theorem Tag.expectBare_spelled (htag : Spell [word text] tag.lexemes) :
    tag.expectBare = .ok () := by
  rw [Tag.expectBare]
  generalize tag.lexemes = lexemes at htag
  cases htag with
  | lexeme span hrest =>
      cases hrest
      rfl

end Tag

/-- Reading the tokens gives the nodes up to spans.  It stops at a closing tag with further
tokens behind it, or else at the end of the tokens. -/
def Parser.ReadsNodes (closers : List String) (opened : List OpenTag) (tokens : List Token)
    (nodes : List Node) (ending : Option (Tag × List Token)) : Prop :=
  ∃ siblings, Parser.nodes closers opened tokens = .ok siblings ∧
    siblings.nodes.map Node.spanless = nodes.map Node.spanless ∧
    siblings.closing.map (fun closing => (closing.tag, closing.rest)) = ending

/-- Only closing words end the list, and a loop is open where one has to be. -/
structure Parser.Admits (closers : List String) (opened : List OpenTag) (inLoop : Bool) : Prop where
  closing : ∀ text ∈ closers, isClosingWord text = true
  loop : inLoop = true → ∃ outer ∈ opened, outer.name = "for"

namespace Parser

variable {closers : List String} {opened : List OpenTag} {rest : List Token} {nodes : List Node}
  {ending : Option (Tag × List Token)}

theorem ReadsNodes.eof (offset : UInt32) : ReadsNodes closers opened [.eof offset] [] none := by
  refine ⟨{ nodes := [], closing := none }, ?_, rfl, rfl⟩
  rw [Parser.nodes]

theorem Admits.inside {inLoop : Bool} (hadmits : Admits closers opened inLoop)
    (innermost : OpenTag) {inner : List String}
    (hinner : ∀ text ∈ inner, isClosingWord text = true) :
    Admits inner (innermost :: opened) inLoop where
  closing := hinner
  loop hinLoop := by
    obtain ⟨outer, houter, hname⟩ := hadmits.loop hinLoop
    exact ⟨outer, List.mem_cons_of_mem _ houter, hname⟩

/-- The node is put in front of the ones after it. -/
theorem ReadsNodes.prepend (hrest : ReadsNodes closers opened rest nodes ending)
    {tokens : List Token} (hle : rest.length ≤ tokens.length) (read : Node) {node : Node}
    (hread : Parser.nodes closers opened tokens = do
      let siblings ← Parser.nodes closers opened rest
      return siblings.prepend hle read)
    (hnode : read.spanless = node.spanless) :
    ReadsNodes closers opened tokens (node :: nodes) ending := by
  obtain ⟨siblings, hsiblings, hnodes, hclosing⟩ := hrest
  refine ⟨siblings.prepend hle read, ?_, ?_, ?_⟩
  · rw [hread, hsiblings]
    rfl
  · rw [Siblings.prepend, List.map_cons, List.map_cons, hnode, hnodes]
  · rw [Siblings.prepend, Option.map_map]
    exact hclosing

/-- Behind a closing word that is waited for, the list of nodes is at its end. -/
theorem ReadsNodes.closing {tag : Tag} {text : String} {segments : List Segment}
    (htag : Spell (word text :: segments) tag.lexemes) (htext : text ∈ closers) :
    ReadsNodes closers opened (.block tag :: rest) [] (some (tag, rest)) := by
  refine ⟨{ nodes := [], closing := some ⟨tag, rest, Nat.lt_succ_self _⟩ }, ?_, rfl, rfl⟩
  rw [Parser.nodes, Tag.expectName_spelled htag]
  exact if_pos (List.contains_iff_mem.2 htext)

/-- The reading succeeds with a value of which `holds` is true, and the tokens `rest` are
left. -/
def Reaches {α : Type} {bound : Nat} (reading : Except ParseError (Part α bound))
    (holds : α → Prop) (rest : List Token) : Prop :=
  ∃ value hsize, reading = .ok ⟨value, rest, hsize⟩ ∧ holds value

section Reaches

variable {α β : Type} {bound bound' : Nat} {holds : α → Prop} {after : β → Prop}
  {tokens final : List Token}

theorem Reaches.ok {value : α} {hsize : rest.length < bound} (hvalue : holds value) :
    Reaches (.ok ⟨value, rest, hsize⟩ : Except ParseError (Part α bound)) holds rest :=
  ⟨value, hsize, rfl, hvalue⟩

theorem Reaches.bind {reading : Except ParseError (Part α bound)}
    {continuation : Part α bound → Except ParseError (Part β bound')}
    (hreading : Reaches reading holds rest)
    (hcontinuation : ∀ value hsize, holds value →
      Reaches (continuation ⟨value, rest, hsize⟩) after final) :
    Reaches (reading >>= continuation) after final := by
  obtain ⟨value, hsize, rfl, hvalue⟩ := hreading
  exact hcontinuation value hsize hvalue

theorem Reaches.check {reading : Except ParseError Unit}
    {continuation : Unit → Except ParseError (Part β bound')} (hreading : reading = .ok ())
    (hcontinuation : Reaches (continuation ()) after final) :
    Reaches (reading >>= continuation) after final := by
  rw [hreading]
  exact hcontinuation

/-- The body in front of a closing tag. -/
theorem ReadsNodes.bind_body {innermost : OpenTag} {tag : Tag}
    {continuation : Part (List Node × Tag) tokens.length → Except ParseError (Part β bound')}
    (hnodes : ReadsNodes closers (innermost :: opened) tokens nodes (some (tag, rest)))
    (hcontinuation : ∀ body hsize, body.map Node.spanless = nodes.map Node.spanless →
      Reaches (continuation ⟨(body, tag), rest, hsize⟩) after final) :
    Reaches (Parser.nodes closers (innermost :: opened) tokens >>= fun siblings =>
      siblings.body innermost >>= continuation) after final := by
  obtain ⟨⟨body, closing⟩, hsiblings, hbody, hclosing⟩ := hnodes
  obtain ⟨closing, rfl, hends⟩ := Option.map_eq_some_iff.1 hclosing
  obtain ⟨closingTag, closingRest, hsize⟩ := closing
  cases hends
  rw [hsiblings]
  exact hcontinuation body hsize hbody

end Reaches

theorem block_plain {header : PlainHeader} {tag endTag : Tag} {tokens : List Token}
    (hnodes : ReadsNodes ["end" ++ header.tagName] (⟨header.tagName, tag.span⟩ :: opened) tokens
      nodes (some (endTag, rest)))
    (hend : expectPlainEnd ⟨header.tagName, tag.span⟩ header endTag = .ok ()) {written : Node}
    (hwritten : ∀ body span, body.map Node.spanless = nodes.map Node.spanless →
      (header.node body span).spanless = written.spanless) :
    Reaches (block opened (.plain header) tag tokens)
      (fun node => node.spanless = written.spanless) rest := by
  rw [block]
  apply hnodes.bind_body
  intro body hsize hbody
  apply Reaches.check hend
  exact Reaches.ok (hwritten body _ hbody)

/-- What stands behind a body that the tag `closing` ends: an `else` part and the end tag, or
nothing if this is the end tag. -/
inductive ReadsElse (closer : String) (opened : List OpenTag) (closing : Tag)
    (middle : List Token) : Option (List Node) → List Token → Prop where
  | none (hname : closing.name? = some closer) : ReadsElse closer opened closing middle none middle
  | some {endTag : Tag} {nodes : List Node} {rest : List Token}
      (hname : closing.name? = some "else")
      (hnodes : ReadsNodes [closer] opened middle nodes (some (endTag, rest)))
      (hbare : endTag.expectBare = .ok ()) :
      ReadsElse closer opened closing middle (some nodes) rest

/-- The branches and the `else` part are those that were written, up to spans. -/
def MatchesBranches (written : List Branch) (otherwise : Option (List Node))
    (found : List Branch × Option (List Node) × Tag) : Prop :=
  found.1.map Branch.spanless = written.map Branch.spanless ∧
    found.2.1.map (List.map Node.spanless) = otherwise.map (List.map Node.spanless)

section Divided

variable {tag closing : Tag} {tokens middle : List Token} {otherwise : Option (List Node)}
  (hbare : closing.expectBare = .ok ())

include hbare

theorem block_loop {names : List String} {iterable writtenIterable : Expr}
    {condition writtenCondition : Option Expr} {recursive : Bool}
    (hiterable : iterable.spanless = writtenIterable.spanless)
    (hcondition : condition.map Expr.spanless = writtenCondition.map Expr.spanless)
    (hnodes : ReadsNodes ["else", "endfor"] (⟨"for", tag.span⟩ :: opened) tokens nodes
      (some (closing, middle)))
    (helse : ReadsElse "endfor" (⟨"for", tag.span⟩ :: opened) closing middle otherwise rest)
    (span : Span) :
    Reaches (block opened (.loop names iterable condition recursive) tag tokens)
      (fun node => node.spanless =
        (Node.loop names writtenIterable writtenCondition recursive nodes otherwise
          span).spanless) rest := by
  rw [block]
  apply hnodes.bind_body
  intro body hsize hbody
  apply Reaches.check hbare
  cases helse with
  | none hname =>
      simp only [hname]
      exact Reaches.ok (by simp [Node.spanless, hiterable, hcondition, hbody])
  | some hname hothers hend =>
      simp only [hname, if_true]
      apply hothers.bind_body
      intro others hothersSize hothersBody
      apply Reaches.check hend
      exact Reaches.ok (by simp [Node.spanless, hiterable, hcondition, hbody, hothersBody])

/-- The last branch of a conditional and its `else` part. -/
theorem branches_last {span : Span} {condition writtenCondition : Expr}
    (hcondition : condition.spanless = writtenCondition.spanless)
    (hnodes : ReadsNodes ["elif", "elseif", "else", "endif"] (⟨"if", span⟩ :: opened) tokens
      nodes (some (closing, middle)))
    (helse : ReadsElse "endif" (⟨"if", span⟩ :: opened) closing middle otherwise rest) :
    Reaches (branches ⟨"if", span⟩ opened condition tokens)
      (MatchesBranches [⟨writtenCondition, nodes⟩] otherwise) rest := by
  rw [branches]
  apply hnodes.bind_body
  intro body hsize hbody
  cases helse with
  | none hname =>
      simp only [hname]
      apply Reaches.check hbare
      exact Reaches.ok (by simp [MatchesBranches, Branch.spanless, hcondition, hbody])
  | some hname hothers hend =>
      simp only [hname]
      apply Reaches.check hbare
      apply hothers.bind_body
      intro others hothersSize hothersBody
      apply Reaches.check hend
      exact Reaches.ok (by simp [MatchesBranches, Branch.spanless, hcondition, hbody, hothersBody])

end Divided

theorem branches_more {span : Span} {tag : Tag} {tokens middle : List Token}
    {condition : Expr} {written : Branch} {others : List Branch}
    {otherwise : Option (List Node)}
    (hcondition : condition.spanless = written.condition.spanless)
    (hnodes : ReadsNodes ["elif", "elseif", "else", "endif"] (⟨"if", span⟩ :: opened) tokens
      written.body (some (tag, middle)))
    (hname : tag.name? = some "elif" ∨ tag.name? = some "elseif")
    {next : Expr} (hnext : tag.condition = .ok next)
    (hothers : Reaches (branches ⟨"if", span⟩ opened next middle)
      (MatchesBranches others otherwise) rest) :
    Reaches (branches ⟨"if", span⟩ opened condition tokens)
      (MatchesBranches (written :: others) otherwise) rest := by
  rw [branches]
  apply hnodes.bind_body
  intro body hsize hbody
  simp only [hname, if_true, hnext]
  apply hothers.bind
  intro found hfoundSize hfound
  obtain ⟨hbranches, hotherwise⟩ := hfound
  exact Reaches.ok
    (by simp [MatchesBranches, Branch.spanless, hcondition, hbody, hbranches, hotherwise])

theorem block_conditional {tag : Tag} {tokens : List Token} {condition : Expr}
    {written : List Branch} {otherwise : Option (List Node)}
    (hbranches : Reaches (branches ⟨"if", tag.span⟩ opened condition tokens)
      (MatchesBranches written otherwise) rest) (span : Span) :
    Reaches (block opened (.conditional condition) tag tokens)
      (fun node => node.spanless = (Node.conditional written otherwise span).spanless) rest := by
  rw [block]
  apply hbranches.bind
  intro found hfoundSize hfound
  obtain ⟨hfound, hotherwise⟩ := hfound
  exact Reaches.ok (by simp [Node.spanless, hfound, hotherwise])

section Block

variable {tag : Tag} {text : String} {segments : List Segment} {inLoop : Bool} {node : Node}

theorem nodes_block (htag : Spell (word text :: segments) tag.lexemes)
    (hadmits : Admits closers opened inLoop) (hword : isClosingWord text = false)
    (hloop : text = "break" ∨ text = "continue" → inLoop = true) :
    Parser.nodes closers opened (.block tag :: rest) = do
      match ← Statement.ofTag tag text with
      | .complete node =>
          let siblings ← Parser.nodes closers opened rest
          return siblings.prepend (Nat.le_succ _) node
      | .opens header =>
          let ⟨node, after, hafter⟩ ← block opened header tag rest
          let siblings ← Parser.nodes closers opened after
          return siblings.prepend (Nat.le_of_lt (Nat.lt_succ_of_lt hafter)) node := by
  have hnotMem : ¬closers.contains text = true := by
    intro hmem
    have hclosing := hadmits.closing text (List.contains_iff_mem.1 hmem)
    rw [hword] at hclosing
    contradiction
  have houtside : ¬((text = "break" ∨ text = "continue") ∧
      opened.all (fun outer => outer.name != "for") = true) := by
    rintro ⟨hcontrol, hall⟩
    obtain ⟨outer, houter, hname⟩ := hadmits.loop (hloop hcontrol)
    have hne := List.all_eq_true.1 hall outer houter
    simp [hname] at hne
  have hstatement : statement opened text tag = Statement.ofTag tag text := by
    rw [statement, if_neg (by simp [hword]), if_neg houtside]
  rw [Parser.nodes, Tag.expectName_spelled htag]
  change ite _ _ _ = _
  rw [if_neg hnotMem]
  exact congrArg (fun reading => reading >>= _) hstatement

theorem ReadsNodes.complete (htag : Spell (word text :: segments) tag.lexemes)
    (hadmits : Admits closers opened inLoop) (hword : isClosingWord text = false)
    (hloop : text = "break" ∨ text = "continue" → inLoop = true)
    (hread : Succeeds (Statement.ofTag tag text)
      (fun read => read.spanless = (Statement.complete node).spanless))
    (hrest : ReadsNodes closers opened rest nodes ending) :
    ReadsNodes closers opened (.block tag :: rest) (node :: nodes) ending := by
  obtain ⟨read, hok, hspanless⟩ := hread
  cases read with
  | opens header => simp [Statement.spanless] at hspanless
  | complete read =>
      have hnode : read.spanless = node.spanless := by simpa [Statement.spanless] using hspanless
      apply hrest.prepend (Nat.le_succ _) read _ hnode
      rw [nodes_block htag hadmits hword hloop, hok]
      rfl

/-- The block that the tag opens is read as the node, and `after` is left behind it. -/
theorem ReadsNodes.opens {header : Header} {after : List Token} (hheader : header.WellFormed)
    (htag : Spell header.segments tag.lexemes) (hadmits : Admits closers opened inLoop)
    (hblock : ∀ read : Header, read.spanless = header.spanless →
      Reaches (block opened read tag rest) (fun found => found.spanless = node.spanless) after)
    (hafter : ReadsNodes closers opened after nodes ending) :
    ReadsNodes closers opened (.block tag :: rest) (node :: nodes) ending := by
  obtain ⟨read, hok, hspanless⟩ := hheader.ofTag_succeeds htag
  obtain ⟨segments, hsegments⟩ := header.segments_eq
  rw [hsegments] at htag
  have hopeners : ∀ text ∈ ["if", "for", "set", "macro", "call", "with", "filter", "block"],
      isClosingWord text = false ∧ ¬(text = "break" ∨ text = "continue") := by decide
  obtain ⟨hword, hcontrol⟩ := hopeners header.tagName header.tagName_mem
  cases read with
  | complete read => simp [Statement.spanless] at hspanless
  | opens read =>
      have hread : read.spanless = header.spanless := by
        simpa [Statement.spanless] using hspanless
      obtain ⟨found, hsize, hfound, hnode⟩ := hblock read hread
      have hle : after.length ≤ (Token.block tag :: rest).length :=
        Nat.le_of_lt (Nat.lt_succ_of_lt hsize)
      apply hafter.prepend hle found _ hnode
      rw [nodes_block htag hadmits hword (fun hword => absurd hword hcontrol), hok]
      change block opened read tag rest >>= _ = _
      rw [hfound]
      rfl

end Block

end Parser

end TemplateVariables
