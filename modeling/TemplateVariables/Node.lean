import TemplateVariables.Expr

/-!
# Nodes of a template

The tree that a template is read into: text, expressions, and block tags with
the bodies between them and their end tags.
-/

namespace TemplateVariables

/-- What a `set` tag assigns to. -/
inductive SetTarget where
  | name (name : String)
  /-- `set namespace.attribute = …` -/
  | attribute (space name : String)
deriving DecidableEq, Repr

/-- A parameter of a macro or a call block. -/
structure Parameter where
  name : String
  default : Option Expr
deriving Repr

/-- A name imported from another template. -/
structure ImportedName where
  name : String
  /-- The name given to it in this template, if it is not its own. -/
  otherName : Option String
deriving DecidableEq, Repr

/-- The name that the import binds. -/
def ImportedName.bound (imported : ImportedName) : String :=
  imported.otherName.getD imported.name

inductive LoopControl where
  | break
  | continue
deriving DecidableEq, Repr

mutual

inductive Node where
  | text (content : String) (span : Span)
  | raw (content : String) (span : Span)
  | comment (span : Span)
  | expression (expr : Expr) (span : Span)
  /-- A `do` tag: an expression evaluated for its effect. -/
  | evaluate (expr : Expr) (span : Span)
  | conditional (branches : List Branch) (otherwise : Option (List Node)) (span : Span)
  /-- A `for` loop; `names` are all names of its possibly nested targets. -/
  | loop (names : List String) (iterable : Expr) (condition : Option Expr)
      (recursive : Bool) (body : List Node) (otherwise : Option (List Node)) (span : Span)
  | set (targets : List SetTarget) (value : Expr) (span : Span)
  | setBlock (name : String) (filters : List FilterCall) (body : List Node) (span : Span)
  | macroBlock (name : String) (params : List Parameter) (body : List Node) (span : Span)
  | callBlock (params : List Parameter) (call : Expr) (body : List Node) (span : Span)
  | withBlock (bindings : List (String × Expr)) (body : List Node) (span : Span)
  | filterBlock (filters : List FilterCall) (body : List Node) (span : Span)
  | block (name : String) (body : List Node) (span : Span)
  | extendTemplate (template : Expr) (span : Span)
  | includeTemplate (template : Expr) (span : Span)
  | importTemplate (template : Expr) (name : String) (span : Span)
  | importNames (template : Expr) (names : List ImportedName) (span : Span)
  | loopControl (kind : LoopControl) (span : Span)
deriving Repr

/-- An `if` or `elif` condition and the body under it. -/
structure Branch where
  condition : Expr
  body : List Node
deriving Repr

end

def Node.span : Node → Span
  | .text _ span => span
  | .raw _ span => span
  | .comment span => span
  | .expression _ span => span
  | .evaluate _ span => span
  | .conditional _ _ span => span
  | .loop _ _ _ _ _ _ span => span
  | .set _ _ span => span
  | .setBlock _ _ _ span => span
  | .macroBlock _ _ _ span => span
  | .callBlock _ _ _ span => span
  | .withBlock _ _ span => span
  | .filterBlock _ _ span => span
  | .block _ _ span => span
  | .extendTemplate _ span => span
  | .includeTemplate _ span => span
  | .importTemplate _ _ span => span
  | .importNames _ _ span => span
  | .loopControl _ span => span

end TemplateVariables
