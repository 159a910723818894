import TemplateVariables.Node.Statement
import TemplateVariables.Proofs.Expr.Spanless

/-!
# Nodes and statements without their spans
-/

namespace TemplateVariables

def Parameter.spanless (param : Parameter) : Parameter where
  name := param.name
  default := param.default.map Expr.spanless

def bindingSpanless (binding : String × Expr) : String × Expr :=
  (binding.1, binding.2.spanless)

mutual

/-- The node with the empty span at the start everywhere. -/
def Node.spanless : Node → Node
  | .text content _ => .text content default
  | .raw content _ => .raw content default
  | .comment _ => .comment default
  | .expression expr _ => .expression expr.spanless default
  | .evaluate expr _ => .evaluate expr.spanless default
  | .conditional branches otherwise _ =>
      .conditional (Branch.spanlessList branches) (Node.spanlessOption otherwise) default
  | .loop names iterable condition recursive body otherwise _ =>
      .loop names iterable.spanless (condition.map Expr.spanless) recursive
        (Node.spanlessList body) (Node.spanlessOption otherwise) default
  | .set targets value _ => .set targets value.spanless default
  | .setBlock name filters body _ =>
      .setBlock name (filters.map FilterCall.spanless) (Node.spanlessList body) default
  | .macroBlock name params body _ =>
      .macroBlock name (params.map Parameter.spanless) (Node.spanlessList body) default
  | .callBlock params call body _ =>
      .callBlock (params.map Parameter.spanless) call.spanless (Node.spanlessList body) default
  | .withBlock bindings body _ =>
      .withBlock (bindings.map bindingSpanless) (Node.spanlessList body) default
  | .filterBlock filters body _ =>
      .filterBlock (filters.map FilterCall.spanless) (Node.spanlessList body) default
  | .block name body _ => .block name (Node.spanlessList body) default
  | .extendTemplate template _ => .extendTemplate template.spanless default
  | .includeTemplate template _ => .includeTemplate template.spanless default
  | .importTemplate template name _ => .importTemplate template.spanless name default
  | .importNames template names _ => .importNames template.spanless names default
  | .loopControl kind _ => .loopControl kind default

def Node.spanlessList : List Node → List Node
  | [] => []
  | node :: rest => node.spanless :: Node.spanlessList rest

def Node.spanlessOption : Option (List Node) → Option (List Node)
  | none => none
  | some nodes => some (Node.spanlessList nodes)

def Branch.spanlessList : List Branch → List Branch
  | [] => []
  | ⟨condition, body⟩ :: rest =>
      ⟨condition.spanless, Node.spanlessList body⟩ :: Branch.spanlessList rest

end

def Branch.spanless (branch : Branch) : Branch where
  condition := branch.condition.spanless
  body := branch.body.map Node.spanless

@[simp] theorem Node.spanlessList_eq_map (nodes : List Node) :
    Node.spanlessList nodes = nodes.map Node.spanless := by
  induction nodes with
  | nil => rfl
  | cons node rest ih => rw [Node.spanlessList, ih, List.map_cons]

@[simp] theorem Node.spanlessOption_eq_map (option : Option (List Node)) :
    Node.spanlessOption option = option.map (List.map Node.spanless) := by
  cases option with
  | none => rfl
  | some nodes => rw [Node.spanlessOption, Node.spanlessList_eq_map, Option.map_some]

@[simp] theorem Branch.spanlessList_eq_map (branches : List Branch) :
    Branch.spanlessList branches = branches.map Branch.spanless := by
  induction branches with
  | nil => rfl
  | cons branch rest ih =>
      obtain ⟨condition, body⟩ := branch
      rw [Branch.spanlessList, ih, Node.spanlessList_eq_map, List.map_cons, Branch.spanless]

/-! ## Statements -/

def PlainHeader.spanless : PlainHeader → PlainHeader
  | .setBlock name filters => .setBlock name (filters.map FilterCall.spanless)
  | .macroBlock name params => .macroBlock name (params.map Parameter.spanless)
  | .callBlock params call => .callBlock (params.map Parameter.spanless) call.spanless
  | .withBlock bindings => .withBlock (bindings.map bindingSpanless)
  | .filterBlock filters => .filterBlock (filters.map FilterCall.spanless)
  | .block name => .block name

def Header.spanless : Header → Header
  | .conditional condition => .conditional condition.spanless
  | .loop names iterable condition recursive =>
      .loop names iterable.spanless (condition.map Expr.spanless) recursive
  | .plain header => .plain header.spanless

def Statement.spanless : Statement → Statement
  | .complete node => .complete node.spanless
  | .opens header => .opens header.spanless

theorem PlainHeader.tagName_of_spanless {header other : PlainHeader}
    (hspanless : header.spanless = other.spanless) : header.tagName = other.tagName := by
  cases header <;> cases other <;> simp_all [PlainHeader.spanless, PlainHeader.tagName]

theorem PlainHeader.repeatedName?_of_spanless {header other : PlainHeader}
    (hspanless : header.spanless = other.spanless) :
    header.repeatedName? = other.repeatedName? := by
  cases header <;> cases other <;> simp_all [PlainHeader.spanless, PlainHeader.repeatedName?]

theorem PlainHeader.spanless_node {header other : PlainHeader} {body others : List Node}
    (hheader : header.spanless = other.spanless)
    (hbody : body.map Node.spanless = others.map Node.spanless) (span otherSpan : Span) :
    (header.node body span).spanless = (other.node others otherSpan).spanless := by
  cases header <;> cases other <;>
    simp_all [PlainHeader.spanless, PlainHeader.node, Node.spanless]

end TemplateVariables
