import TemplateVariables.Expr.Parser
import TemplateVariables.Node
import TemplateVariables.Token

/-!
# Statements of block tags

What a block tag says by itself, before any other tag is looked at: either a
complete node, or the header of a block whose body follows.
-/

namespace TemplateVariables

/-- The opener of a block that has a single body. -/
inductive PlainHeader where
  | setBlock (name : String) (filters : List FilterCall)
  | macroBlock (name : String) (params : List Parameter)
  | callBlock (params : List Parameter) (call : Expr)
  | withBlock (bindings : List (String × Expr))
  | filterBlock (filters : List FilterCall)
  | block (name : String)

/-- The opener of a block. -/
inductive Header where
  | conditional (condition : Expr)
  | loop (names : List String) (iterable : Expr) (condition : Option Expr)
      (recursive : Bool)
  | plain (header : PlainHeader)

inductive Statement where
  | complete (node : Node)
  | opens (header : Header)

/-- The word that the opener begins with. -/
def PlainHeader.tagName : PlainHeader → String
  | .setBlock .. => "set"
  | .macroBlock .. => "macro"
  | .callBlock .. => "call"
  | .withBlock .. => "with"
  | .filterBlock .. => "filter"
  | .block .. => "block"

/-- The name that the end tag of the block may repeat. -/
def PlainHeader.repeatedName? : PlainHeader → Option String
  | .macroBlock name _ => some name
  | .block name => some name
  | _ => none

/-- The block with its body. -/
def PlainHeader.node (header : PlainHeader) (body : List Node) (span : Span) : Node :=
  match header with
  | .setBlock name filters => .setBlock name filters body span
  | .macroBlock name params => .macroBlock name params body span
  | .callBlock params call => .callBlock params call body span
  | .withBlock bindings => .withBlock bindings body span
  | .filterBlock filters => .filterBlock filters body span
  | .block name => .block name body span

/-- The word that the opener begins with. -/
def Header.tagName : Header → String
  | .conditional .. => "if"
  | .loop .. => "for"
  | .plain header => header.tagName

namespace Tag

/-- The cursor after the word that a block tag begins with. -/
def arguments (tag : Tag) : Cursor :=
  Cursor.ofLexemes tag.lexemes.tail

/-- The word that a block tag must begin with. -/
def expectName (tag : Tag) : Except ParseError String :=
  match tag.lexemes with
  | [] => .error (.emptyTag tag.span)
  | { kind := .name word, .. } :: _ => .ok word
  | lexeme :: _ => .error (.invalidSyntax (.expectedTagName lexeme.kind) lexeme.span)

/-- The error for arguments of a tag that takes none. -/
def noArguments (tag : Tag) (name : String) : ParseError :=
  .invalidSyntax (.noArguments name) ((tag.lexemes[1]?.map (·.span)).getD tag.span)

/-- Requires that nothing follows the word that a block tag begins with. -/
def expectBare (tag : Tag) : Except ParseError Unit :=
  if tag.lexemes.length > 1 then .error (tag.noArguments (tag.name?.getD ""))
  else .ok ()

/-- The condition of an `if` or `elif` tag. -/
def condition (tag : Tag) : Except ParseError Expr := do
  let ⟨condition, next, _⟩ ← Expr.readTuple tag.endSpan (.above 0) tag.arguments
  next.expectEnd
  return condition

end Tag

namespace Statement

variable (tagEnd : Span)

/-! ## Names -/

/-- The names that a `for` or `set` tag binds: names and parenthesised groups of
names, separated by commas. -/
def readTargets (cursor : Cursor) : Reading (List String) cursor.size := do
  let ⟨names, afterItem, hitem⟩ ← show Reading (List String) cursor.size from
    match cursor.take? (.punct .lparen) with
    | some ⟨opened, inside, hinside⟩ => do
        let ⟨names, afterNames, hnames⟩ ← readTargets inside
        let ⟨_, next, hnext⟩ ← afterNames.expectInside tagEnd .lparen opened .rparen
        return ⟨names, next, Cursor.lt_trans_trans hinside hnames hnext⟩
    | none => do
        let ⟨(name, span), next, hnext⟩ ← cursor.expectName tagEnd .variableName
        if reservedWords.contains name then
          throw (.invalidSyntax (.reservedTarget name) span)
        return ⟨[name], next, hnext⟩
  match afterItem.take? (.punct .comma) with
  | none => return ⟨names, afterItem, hitem⟩
  | some ⟨_, afterComma, hcomma⟩ =>
      if afterComma.kind? = some (.name "in") ∨ afterComma.atListEnd = true then
        return ⟨names, afterComma, Cursor.lt_trans hitem hcomma⟩
      let ⟨others, next, hnext⟩ ← readTargets afterComma
      return ⟨names ++ others, next, Cursor.lt_trans_trans hitem hcomma hnext⟩
termination_by cursor.size

/-- The cursor after a word, if the word is there. -/
def skipWord (word : String) (cursor : Cursor) : Step Unit (cursor.size + 1) :=
  match cursor.take? (.name word) with
  | some ⟨_, next, hnext⟩ => ⟨(), next, Cursor.lt_succ hnext⟩
  | none => ⟨(), cursor, cursor.size_lt_succ⟩

/-! ## Parameters and bindings -/

/-- A parameter with its default, if it has one. -/
def readParameter (cursor : Cursor) : Reading Parameter cursor.size := do
  let ⟨(name, _), afterName, hname⟩ ← cursor.expectName tagEnd .parameter
  match afterName.take? (.punct .assign) with
  | none => return ⟨{ name, default := none }, afterName, hname⟩
  | some ⟨_, afterAssign, hassign⟩ =>
      let ⟨value, next, hnext⟩ ← Expr.read tagEnd .full afterAssign
      return ⟨{ name, default := some value }, next,
        Cursor.lt_trans_trans hname hassign hnext⟩

/-- The parameters after the first, up to and including the closing bracket. -/
def readParametersTail (cursor : Cursor) : Reading (List Parameter) cursor.size := do
  match cursor.take? (.punct .rparen) with
  | some ⟨_, next, hnext⟩ => return ⟨[], next, hnext⟩
  | none =>
      let ⟨_, afterComma, hcomma⟩ ← cursor.expect tagEnd (.punct .comma)
      match afterComma.take? (.punct .rparen) with
      | some ⟨_, next, hnext⟩ => return ⟨[], next, Cursor.lt_trans hcomma hnext⟩
      | none =>
          let ⟨first, afterFirst, hfirst⟩ ← readParameter tagEnd afterComma
          let ⟨others, next, hnext⟩ ← readParametersTail afterFirst
          return ⟨first :: others, next, Cursor.lt_trans_trans hcomma hfirst hnext⟩
termination_by cursor.size

/-- The parameter list of a macro or a call block, with its brackets. -/
def readParameters (cursor : Cursor) : Reading (List Parameter) cursor.size := do
  let ⟨_, inside, hinside⟩ ← cursor.expect tagEnd (.punct .lparen)
  match inside.take? (.punct .rparen) with
  | some ⟨_, next, hnext⟩ => return ⟨[], next, Cursor.lt_trans hinside hnext⟩
  | none =>
      let ⟨first, afterFirst, hfirst⟩ ← readParameter tagEnd inside
      let ⟨others, next, hnext⟩ ← readParametersTail tagEnd afterFirst
      return ⟨first :: others, next, Cursor.lt_trans_trans hinside hfirst hnext⟩

/-- A binding `name = value` of a `with` tag. -/
def readBinding (cursor : Cursor) : Reading (String × Expr) cursor.size := do
  let ⟨(name, _), afterName, hname⟩ ← cursor.expectName tagEnd .variableName
  let ⟨_, afterAssign, hassign⟩ ← afterName.expect tagEnd (.punct .assign)
  let ⟨value, next, hnext⟩ ← Expr.read tagEnd .full afterAssign
  return ⟨(name, value), next, Cursor.lt_trans_trans hname hassign hnext⟩

/-- The bindings after the first, each behind a comma, up to the end of the tag. -/
def readBindingsTail (cursor : Cursor) : Except ParseError (List (String × Expr)) := do
  if cursor.rest = [] then
    return []
  let ⟨_, afterComma, _hcomma⟩ ← cursor.expect tagEnd (.punct .comma)
  let ⟨first, afterFirst, _hfirst⟩ ← readBinding tagEnd afterComma
  let others ← readBindingsTail afterFirst
  return first :: others
termination_by cursor.size

/-- The bindings of a `with` tag, up to its end. -/
def readBindings (cursor : Cursor) : Except ParseError (List (String × Expr)) := do
  if cursor.rest = [] then
    return []
  let ⟨first, afterFirst, _⟩ ← readBinding tagEnd cursor
  let others ← readBindingsTail tagEnd afterFirst
  return first :: others

/-- Filters, each behind a bar. -/
def readFilters (cursor : Cursor) : Reading (List FilterCall) (cursor.size + 1) := do
  match cursor.take? (.punct .pipe) with
  | none => return ⟨[], cursor, cursor.size_lt_succ⟩
  | some ⟨_, afterBar, hbar⟩ =>
      let ⟨first, afterFirst, hfirst⟩ ← Expr.readFilter tagEnd afterBar
      let ⟨others, next, hnext⟩ ← readFilters afterFirst
      return ⟨first :: others, next, Cursor.lt_succ_of_lt_succ hbar hfirst hnext⟩
termination_by cursor.size

/-! ## Imports -/

/-- Whether `with context` or `without context` stands at a cursor. -/
def atContext (cursor : Cursor) : Bool :=
  match cursor.rest with
  | { kind := .name first, .. } :: { kind := .name second, .. } :: _ =>
      (first == "with" || first == "without") && second == "context"
  | _ => false

/-- The cursor after `with context` or `without context`, if it is there. -/
def skipContext (cursor : Cursor) : Step Unit (cursor.size + 1) :=
  if atContext cursor then
    match cursor.next? with
    | none => ⟨(), cursor, cursor.size_lt_succ⟩
    | some ⟨_, afterFirst, hfirst⟩ =>
        match afterFirst.next? with
        | none => ⟨(), afterFirst, Cursor.lt_succ hfirst⟩
        | some ⟨_, next, hnext⟩ => ⟨(), next, Cursor.lt_succ_trans hfirst hnext⟩
  else ⟨(), cursor, cursor.size_lt_succ⟩

/-- A name to import with its other name, if it has one. -/
def readImportedName (cursor : Cursor) : Reading ImportedName cursor.size := do
  let ⟨(name, _), afterName, hname⟩ ← cursor.expectName tagEnd .importedName
  match afterName.take? (.name "as") with
  | none => return ⟨{ name, otherName := none }, afterName, hname⟩
  | some ⟨_, afterAs, has⟩ =>
      let ⟨(other, _), next, hnext⟩ ← afterAs.expectName tagEnd .importAlias
      return ⟨{ name, otherName := some other }, next,
        Cursor.lt_trans_trans hname has hnext⟩

/-- The names to import, separated by commas.  A comma may stand before the
context modifier. -/
def readImportedNames (cursor : Cursor) : Reading (List ImportedName) (cursor.size + 1) := do
  if atContext cursor then
    return ⟨[], cursor, cursor.size_lt_succ⟩
  let ⟨first, afterFirst, hfirst⟩ ← readImportedName tagEnd cursor
  match afterFirst.take? (.punct .comma) with
  | none => return ⟨[first], afterFirst, Cursor.lt_succ hfirst⟩
  | some ⟨_, afterComma, hcomma⟩ =>
      let ⟨others, next, hnext⟩ ← readImportedNames afterComma
      return ⟨first :: others, next, Cursor.lt_succ_of_lt_succ hfirst hcomma hnext⟩
termination_by cursor.size

/-! ## Statements -/

/-- What a `set` tag assigns to: a single attribute, or one or more names. -/
def readSetTargets (cursor : Cursor) : Reading (List SetTarget) cursor.size := do
  match cursor.name? with
  | some ⟨(space, _), afterSpace, hspace⟩ =>
      match afterSpace.take? (.punct .dot) with
      | some ⟨_, afterDot, hdot⟩ =>
          let ⟨(name, _), next, hnext⟩ ← afterDot.expectName tagEnd .attributeName
          return ⟨[.attribute space name], next, Cursor.lt_trans_trans hspace hdot hnext⟩
      | none =>
          let ⟨names, next, hnext⟩ ← readTargets tagEnd cursor
          return ⟨names.map .name, next, hnext⟩
  | none =>
      let ⟨names, next, hnext⟩ ← readTargets tagEnd cursor
      return ⟨names.map .name, next, hnext⟩

variable (tag : Tag)

def readIf : Except ParseError Statement := do
  let condition ← tag.condition
  return .opens (.conditional condition)

def readLoop : Except ParseError Statement := do
  let ⟨names, afterNames, _⟩ ← readTargets tag.endSpan tag.arguments
  let ⟨_, afterIn, _⟩ ← afterNames.expect tag.endSpan (.name "in")
  let ⟨iterable, afterIterable, _⟩ ← Expr.readTuple tag.endSpan (.above 0) afterIn
  match afterIterable.take? (.name "if") with
  | some ⟨_, afterIf, _⟩ =>
      let ⟨condition, afterCondition, _⟩ ← Expr.read tag.endSpan .full afterIf
      let ⟨_, next, _⟩ := skipWord "recursive" afterCondition
      next.expectEnd
      return .opens (.loop names iterable (some condition)
        (afterCondition.kind? = some (.name "recursive")))
  | none =>
      let ⟨_, next, _⟩ := skipWord "recursive" afterIterable
      next.expectEnd
      return .opens (.loop names iterable none
        (afterIterable.kind? = some (.name "recursive")))

def readSet : Except ParseError Statement := do
  let ⟨targets, afterTargets, _⟩ ← readSetTargets tag.endSpan tag.arguments
  match afterTargets.take? (.punct .assign) with
  | some ⟨_, afterAssign, _⟩ =>
      let ⟨value, next, _⟩ ← Expr.readTuple tag.endSpan .full afterAssign
      next.expectEnd
      return .complete (.set targets value tag.span)
  | none =>
      match targets with
      | [.name name] =>
          let ⟨filters, next, _⟩ ← readFilters tag.endSpan afterTargets
          next.expectEnd
          return .opens (.plain (.setBlock name filters))
      | _ => throw (.invalidSyntax .missingAssignment tag.endSpan)

def readMacro : Except ParseError Statement := do
  let ⟨(name, _), afterName, _⟩ ← tag.arguments.expectName tag.endSpan .macroName
  let ⟨params, next, _⟩ ← readParameters tag.endSpan afterName
  next.expectEnd
  return .opens (.plain (.macroBlock name params))

/-- The call of a call block, up to the end of its tag. -/
def readBlockCall (params : List Parameter) (cursor : Cursor) :
    Except ParseError Statement := do
  let ⟨call, next, _⟩ ← Expr.read tag.endSpan .full cursor
  match call with
  | .call .. =>
      next.expectEnd
      return .opens (.plain (.callBlock params call))
  | _ => throw (.invalidSyntax .notMacroCall call.span)

def readCall : Except ParseError Statement := do
  if tag.arguments.kind? = some (.punct .lparen) then
    let ⟨params, afterParams, _⟩ ← readParameters tag.endSpan tag.arguments
    readBlockCall tag params afterParams
  else
    readBlockCall tag [] tag.arguments

def readWith : Except ParseError Statement := do
  let bindings ← readBindings tag.endSpan tag.arguments
  return .opens (.plain (.withBlock bindings))

def readFilterBlock : Except ParseError Statement := do
  let ⟨first, afterFirst, _⟩ ← Expr.readFilter tag.endSpan tag.arguments
  let ⟨others, next, _⟩ ← readFilters tag.endSpan afterFirst
  next.expectEnd
  return .opens (.plain (.filterBlock (first :: others)))

def readBlock : Except ParseError Statement := do
  let ⟨(name, _), afterName, _⟩ ← tag.arguments.expectName tag.endSpan .blockName
  let ⟨_, afterScoped, _⟩ := skipWord "scoped" afterName
  let ⟨_, next, _⟩ := skipWord "required" afterScoped
  next.expectEnd
  return .opens (.plain (.block name))

def readExtends : Except ParseError Statement := do
  let ⟨template, next, _⟩ ← Expr.read tag.endSpan .full tag.arguments
  next.expectEnd
  return .complete (.extendTemplate template tag.span)

def readInclude : Except ParseError Statement := do
  let ⟨template, afterTemplate, _⟩ ← Expr.read tag.endSpan .full tag.arguments
  match afterTemplate.take? (.name "ignore") with
  | some ⟨_, afterIgnore, _⟩ =>
      let ⟨_, afterMissing, _⟩ ← afterIgnore.expect tag.endSpan (.name "missing")
      let ⟨_, next, _⟩ := skipContext afterMissing
      next.expectEnd
      return .complete (.includeTemplate template tag.span)
  | none =>
      let ⟨_, next, _⟩ := skipContext afterTemplate
      next.expectEnd
      return .complete (.includeTemplate template tag.span)

def readImport : Except ParseError Statement := do
  let ⟨template, afterTemplate, _⟩ ← Expr.read tag.endSpan .full tag.arguments
  let ⟨_, afterAs, _⟩ ← afterTemplate.expect tag.endSpan (.name "as")
  let ⟨(name, _), afterName, _⟩ ← afterAs.expectName tag.endSpan .importAlias
  let ⟨_, next, _⟩ := skipContext afterName
  next.expectEnd
  return .complete (.importTemplate template name tag.span)

def readFrom : Except ParseError Statement := do
  let ⟨template, afterTemplate, _⟩ ← Expr.read tag.endSpan .full tag.arguments
  let ⟨_, afterImport, _⟩ ← afterTemplate.expect tag.endSpan (.name "import")
  let ⟨names, afterNames, _⟩ ← readImportedNames tag.endSpan afterImport
  if names.isEmpty then
    throw (.invalidSyntax .nothingImported tag.endSpan)
  let ⟨_, next, _⟩ := skipContext afterNames
  next.expectEnd
  return .complete (.importNames template names tag.span)

def readDo : Except ParseError Statement := do
  let ⟨expr, next, _⟩ ← Expr.readTuple tag.endSpan .full tag.arguments
  next.expectEnd
  return .complete (.evaluate expr tag.span)

/-- What a block tag that begins with the given word says. -/
def ofTag (word : String) : Except ParseError Statement :=
  match word with
  | "if" => readIf tag
  | "for" => readLoop tag
  | "set" => readSet tag
  | "macro" => readMacro tag
  | "call" => readCall tag
  | "with" => readWith tag
  | "filter" => readFilterBlock tag
  | "block" => readBlock tag
  | "extends" => readExtends tag
  | "include" => readInclude tag
  | "import" => readImport tag
  | "from" => readFrom tag
  | "do" => readDo tag
  | "break" => do
      tag.expectBare
      return .complete (.loopControl .break tag.span)
  | "continue" => do
      tag.expectBare
      return .complete (.loopControl .continue tag.span)
  | "raw" => .error (tag.noArguments "raw")
  | _ => .error (.unknownTag word tag.span)

end Statement

end TemplateVariables
