import TemplateVariables.Node.Statement
import TemplateVariables.Text.Blank
import TemplateVariables.Token.Piece

/-!
# Reading the tree of a template

A list of nodes ends where the tokens end, or at a tag that closes the block it
is the body of.  The open tags are kept, innermost first: the innermost one is
blamed for an end tag that does not fit and for the end of the template.
-/

namespace TemplateVariables

/-- A block tag that has not been closed yet. -/
structure OpenTag where
  name : String
  span : Span
deriving DecidableEq, Repr

/-- The word that closes an open tag. -/
def OpenTag.closer (opened : OpenTag) : String :=
  "end" ++ opened.name

/-- Whether a word can only begin a tag that closes or divides a block. -/
def isClosingWord (word : String) : Bool :=
  "end".toList.isPrefixOf word.toList || word == "elif" || word == "elseif" || word == "else"

namespace Parser

/-- The tag that ends a body, and the tokens after it. -/
structure Closing (bound : Nat) where
  tag : Tag
  rest : List Token
  shorter : rest.length < bound

/-- Nodes up to the end of the tokens, or up to a closing tag. -/
structure Siblings (bound : Nat) where
  nodes : List Node
  closing : Option (Closing bound)

/-- Something read from tokens, and the tokens after it. -/
structure Part (α : Type) (bound : Nat) where
  value : α
  rest : List Token
  shorter : rest.length < bound

def Closing.weaken {small large : Nat} (hle : small ≤ large) (closing : Closing small) :
    Closing large :=
  { closing with shorter := Nat.lt_of_lt_of_le closing.shorter hle }

/-- Puts a node in front of the siblings after it. -/
def Siblings.prepend {small large : Nat} (hle : small ≤ large) (node : Node)
    (siblings : Siblings small) : Siblings large where
  nodes := node :: siblings.nodes
  closing := siblings.closing.map (Closing.weaken hle)

/-- The body of the innermost open tag.  Without a closing tag the open tag is
unclosed. -/
def Siblings.body {bound : Nat} (innermost : OpenTag) (siblings : Siblings bound) :
    Except ParseError (Part (List Node × Tag) bound) :=
  match siblings.closing with
  | none =>
      .error (.unclosedTag innermost.name innermost.closer innermost.span)
  | some closing =>
      .ok ⟨(siblings.nodes, closing.tag), closing.rest, closing.shorter⟩

/-- The error for a closing word that the innermost open tag does not accept. -/
def strayTag (opened : List OpenTag) (word : String) (span : Span) : ParseError :=
  match opened with
  | [] => .unexpectedTag word span
  | innermost :: _ =>
      .mismatchedTag word innermost.closer innermost.name innermost.span span

/-- An end tag may repeat the name of the block it closes. -/
def expectRepeatedName (innermost : OpenTag) (name : String) (closing : Tag) :
    Except ParseError Unit :=
  match closing.arguments.next? with
  | none => .ok ()
  | some ⟨lexeme, next, _⟩ =>
      if lexeme.kind = .name name then next.expectEnd
      else
        let found :=
          match lexeme.kind with
          | .name other => other
          | kind => kind.describe
        .error (.mismatchedTag (innermost.closer ++ " " ++ found)
          (innermost.closer ++ " " ++ name) (innermost.name ++ " " ++ name)
          innermost.span lexeme.span)

/-- The node of an expression tag. -/
def expressionNode (tag : Tag) : Except ParseError Node :=
  if tag.lexemes = [] then .error (.emptyExpression tag.span)
  else do
    let expr ← Expr.ofLexemes tag.lexemes tag.endSpan
    return .expression expr tag.span

/-- What a block tag outside of the accepted closing tags says, when the tags
around it allow it. -/
def statement (opened : List OpenTag) (word : String) (tag : Tag) :
    Except ParseError Statement :=
  if isClosingWord word then .error (strayTag opened word tag.span)
  else if (word = "break" ∨ word = "continue") ∧
      opened.all (fun outer => outer.name != "for") then
    .error (.invalidSyntax (.outsideLoop word) tag.span)
  else Statement.ofTag tag word

/-- The end tag of a plain block stands alone or repeats the block's name. -/
def expectPlainEnd (innermost : OpenTag) (header : PlainHeader) (closing : Tag) :
    Except ParseError Unit :=
  match header.repeatedName? with
  | some name => expectRepeatedName innermost name closing
  | none => closing.expectBare

mutual

/-- Reads nodes up to a block tag that begins with one of the words `closers`. -/
def nodes (closers : List String) (opened : List OpenTag) (tokens : List Token) :
    Except ParseError (Siblings tokens.length) :=
  match tokens with
  | [] => .ok { nodes := [], closing := none }
  | .eof _ :: _ => .ok { nodes := [], closing := none }
  | .text content span :: rest => do
      let siblings ← nodes closers opened rest
      return siblings.prepend (Nat.le_succ _) (.text content span)
  | .raw content span :: rest => do
      let siblings ← nodes closers opened rest
      return siblings.prepend (Nat.le_succ _) (.raw content span)
  | .comment span :: rest => do
      let siblings ← nodes closers opened rest
      return siblings.prepend (Nat.le_succ _) (.comment span)
  | .expression tag :: rest => do
      let node ← expressionNode tag
      let siblings ← nodes closers opened rest
      return siblings.prepend (Nat.le_succ _) node
  | .block tag :: rest => do
      let word ← tag.expectName
      if closers.contains word then
        return { nodes := [], closing := some ⟨tag, rest, Nat.lt_succ_self _⟩ }
      match ← statement opened word tag with
      | .complete node =>
          let siblings ← nodes closers opened rest
          return siblings.prepend (Nat.le_succ _) node
      | .opens header =>
          let ⟨node, after, hafter⟩ ← block opened header tag rest
          let siblings ← nodes closers opened after
          return siblings.prepend (Nat.le_of_lt (Nat.lt_succ_of_lt hafter)) node
termination_by (tokens.length, 0)

/-- Reads the rest of the block that `tag` opens. -/
def block (outer : List OpenTag) (header : Header) (tag : Tag) (tokens : List Token) :
    Except ParseError (Part Node tokens.length) := do
  let innermost : OpenTag := { name := header.tagName, span := tag.span }
  match header with
  | .conditional condition =>
      let ⟨(branches, otherwise, closing), rest, hrest⟩ ←
        branches innermost outer condition tokens
      return ⟨.conditional branches otherwise (tag.span.cover closing.span), rest, hrest⟩
  | .loop names iterable condition recursive =>
      let siblings ← nodes ["else", innermost.closer] (innermost :: outer) tokens
      let ⟨(body, closing), rest, hrest⟩ ← siblings.body innermost
      closing.expectBare
      if closing.name? = some "else" then
        let siblings ← nodes [innermost.closer] (innermost :: outer) rest
        let ⟨(otherwise, closing), rest, helse⟩ ← siblings.body innermost
        closing.expectBare
        let span := tag.span.cover closing.span
        return ⟨.loop names iterable condition recursive body (some otherwise) span, rest,
          by omega⟩
      else
        let span := tag.span.cover closing.span
        return ⟨.loop names iterable condition recursive body none span, rest, hrest⟩
  | .plain header =>
      let siblings ← nodes [innermost.closer] (innermost :: outer) tokens
      let ⟨(body, closing), rest, hrest⟩ ← siblings.body innermost
      expectPlainEnd innermost header closing
      return ⟨header.node body (tag.span.cover closing.span), rest, hrest⟩
termination_by (tokens.length, 2)

/-- Reads the branches of an `if` block from the body under `condition` on, up to
its end tag. -/
def branches (innermost : OpenTag) (outer : List OpenTag) (condition : Expr)
    (tokens : List Token) :
    Except ParseError (Part (List Branch × Option (List Node) × Tag) tokens.length) := do
  let siblings ←
    nodes ["elif", "elseif", "else", innermost.closer] (innermost :: outer) tokens
  let ⟨(body, closing), rest, hrest⟩ ← siblings.body innermost
  if closing.name? = some "elif" ∨ closing.name? = some "elseif" then
    let next ← closing.condition
    let ⟨(others, otherwise, closing), rest, hothers⟩ ← branches innermost outer next rest
    return ⟨({ condition, body } :: others, otherwise, closing), rest, by omega⟩
  closing.expectBare
  if closing.name? = some "else" then
    let siblings ← nodes [innermost.closer] (innermost :: outer) rest
    let ⟨(otherwise, closing), rest, helse⟩ ← siblings.body innermost
    closing.expectBare
    return ⟨([{ condition, body }], some otherwise, closing), rest, by omega⟩
  else
    return ⟨([{ condition, body }], none, closing), rest, hrest⟩
termination_by (tokens.length, 1)

end

end Parser

/-- The nodes that the tokens of a template spell. -/
def Node.ofTokens (tokens : List Token) : Except ParseError (List Node) := do
  return (← Parser.nodes [] [] tokens).nodes

/-- The nodes of a template.  A blank template has none. -/
def Node.ofSource (source : List Char) : Except ParseError (List Node) :=
  if source.all Text.isBlank then .ok []
  else do
    Node.ofTokens (← Token.ofChars source)

end TemplateVariables
