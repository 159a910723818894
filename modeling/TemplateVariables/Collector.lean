import TemplateVariables.Scope
import TemplateVariables.Walk

/-!
# Collecting free variables

A variable is free when an expression reads it where no frame and no global
binds it.  Every list of nodes is walked in a frame of its own, so that what a
node binds holds for the nodes after it and ends with the list.
-/

namespace TemplateVariables

/-- The free variables of a template, in the order of their first reading. -/
abbrev FreeVariables := NameSet

/-- The frames in force and the free variables found so far. -/
structure Collector where
  scopes : ScopeStack
  free : FreeVariables
deriving DecidableEq

/-- Names that every macro body can use. -/
def macroNames : List String :=
  ["caller", "varargs", "kwargs"]

namespace Collector

def new (globals : Globals) : Collector where
  scopes := ScopeStack.new globals
  free := NameSet.empty

/-- Reads a name. -/
def reference (collector : Collector) (name : String) : Collector :=
  if collector.scopes.isBound name then collector
  else { collector with free := (collector.free.insert name).1 }

/-- Binds a name for the nodes that follow in the same list. -/
def bind (collector : Collector) (name : String) : Collector :=
  { collector with scopes := collector.scopes.bind name }

/-- Does something inside a new frame that binds some names. -/
def within (names : List String) (inside : Collector → Collector)
    (collector : Collector) : Collector :=
  let collector := inside { collector with scopes := collector.scopes.push names }
  { collector with scopes := collector.scopes.pop }

/-- Reads the variables of an expression. -/
def expr (collector : Collector) (expr : Expr) : Collector :=
  expr.identifiers.foldl reference collector

def exprs (collector : Collector) (exprs : List Expr) : Collector :=
  exprs.foldl expr collector

/-- Reads the variables in the arguments of filters. -/
def filters (collector : Collector) (filters : List FilterCall) : Collector :=
  filters.foldl (fun collector filter =>
    collector.exprs (filter.args.map (·.value))) collector

def defaults (collector : Collector) (params : List Parameter) : Collector :=
  collector.exprs (params.filterMap (·.default))

/-- Assigns to a target.  Assigning to an attribute reads the namespace. -/
def assign (collector : Collector) : SetTarget → Collector
  | .name name => collector.bind name
  | .attribute space _ => collector.reference space

end Collector

mutual

/-- Walks a node. -/
def Node.collect : Node → Collector → Collector
  | .text .., collector => collector
  | .raw .., collector => collector
  | .comment .., collector => collector
  | .expression expr _, collector => collector.expr expr
  | .evaluate expr _, collector => collector.expr expr
  | .conditional branches none _, collector => Branch.collectAll branches collector
  | .conditional branches (some otherwise) _, collector =>
      (Branch.collectAll branches collector).within [] (Node.collectAll otherwise)
  | .loop names iterable condition _ body none _, collector =>
      (collector.expr iterable).within names fun collector =>
        (collector.exprs condition.toList).within [] (Node.collectAll body)
  | .loop names iterable condition _ body (some otherwise) _, collector =>
      let afterBody := (collector.expr iterable).within names fun collector =>
        (collector.exprs condition.toList).within [] (Node.collectAll body)
      afterBody.within [] (Node.collectAll otherwise)
  | .set targets value _, collector =>
      targets.foldl Collector.assign (collector.expr value)
  | .setBlock name filters body _, collector =>
      ((collector.filters filters).within [] (Node.collectAll body)).bind name
  | .macroBlock _ params body _, collector =>
      (collector.defaults params).within (params.map (·.name) ++ macroNames)
        fun collector => collector.within [] (Node.collectAll body)
  | .callBlock params call body _, collector =>
      ((collector.expr call).defaults params).within (params.map (·.name))
        fun collector => collector.within [] (Node.collectAll body)
  | .withBlock bindings body _, collector =>
      (collector.exprs (bindings.map Prod.snd)).within (bindings.map Prod.fst)
        fun collector => collector.within [] (Node.collectAll body)
  | .filterBlock filters body _, collector =>
      (collector.filters filters).within [] (Node.collectAll body)
  | .block _ body _, collector => collector.within [] (Node.collectAll body)
  | .extendTemplate template _, collector => collector.expr template
  | .includeTemplate template _, collector => collector.expr template
  | .importTemplate template name _, collector => (collector.expr template).bind name
  | .importNames template names _, collector =>
      (names.map (·.bound)).foldl Collector.bind (collector.expr template)
  | .loopControl .., collector => collector

/-- Walks the nodes of a list in the frame that is open. -/
def Node.collectAll : List Node → Collector → Collector
  | [], collector => collector
  | node :: rest, collector => Node.collectAll rest (node.collect collector)

/-- Walks the branches of an `if` block. -/
def Branch.collectAll : List Branch → Collector → Collector
  | [], collector => collector
  | ⟨condition, body⟩ :: rest, collector =>
      Branch.collectAll rest ((collector.expr condition).within [] (Node.collectAll body))

end

/-- The free variables of a list of nodes. -/
def freeVariables (globals : Globals) (nodes : List Node) : FreeVariables :=
  ((Collector.new globals).within [] (Node.collectAll nodes)).free

end TemplateVariables
