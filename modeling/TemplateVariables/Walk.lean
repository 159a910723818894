import TemplateVariables.Node

/-!
# Walking a tree

The parts of a tree in the order of a walk: every part before the parts inside
it, and those in the order in which they are written.  The default of a
parameter counts as written before the call of its call block.
-/

namespace TemplateVariables

/-- A part of a tree that a walk comes to. -/
inductive Visit where
  /-- A list of nodes, of the given length. -/
  | nodes (count : Nat)
  | node (node : Node)
  | expr (expr : Expr)
  | filter (filter : FilterCall)

mutual

/-- The visits of a walk over an expression. -/
def Expr.visits : Expr → List Visit
  | expr@(.literal ..) => [.expr expr]
  | expr@(.identifier ..) => [.expr expr]
  | expr@(.attribute base _ _) => .expr expr :: base.visits
  | expr@(.subscript base index _) => .expr expr :: (base.visits ++ index.visits)
  | expr@(.slice start stop step _) =>
      .expr expr ::
        (Expr.optionVisits start ++ Expr.optionVisits stop ++ Expr.optionVisits step)
  | expr@(.call callee args _) => .expr expr :: (callee.visits ++ Expr.argumentVisits args)
  | expr@(.filter value filter _) => .expr expr :: (value.visits ++ filter.visits)
  | expr@(.test value _ args _ _) => .expr expr :: (value.visits ++ Expr.argumentVisits args)
  | expr@(.unary _ operand _) => .expr expr :: operand.visits
  | expr@(.binary _ left right _) => .expr expr :: (left.visits ++ right.visits)
  | expr@(.conditional value condition otherwise _) =>
      .expr expr :: (value.visits ++ condition.visits ++ Expr.optionVisits otherwise)
  | expr@(.list items _) => .expr expr :: Expr.listVisits items
  | expr@(.tuple items _) => .expr expr :: Expr.listVisits items
  | expr@(.dict entries _) => .expr expr :: Expr.entryVisits entries

/-- The visits of a walk over a filter stage: the stage and its arguments. -/
def FilterCall.visits : FilterCall → List Visit
  | filter@⟨_, args, _⟩ => .filter filter :: Expr.argumentVisits args

def Expr.optionVisits : Option Expr → List Visit
  | none => []
  | some expr => expr.visits

def Expr.listVisits : List Expr → List Visit
  | [] => []
  | expr :: rest => expr.visits ++ Expr.listVisits rest

def Expr.argumentVisits : List Argument → List Visit
  | [] => []
  | ⟨_, value⟩ :: rest => value.visits ++ Expr.argumentVisits rest

def Expr.entryVisits : List (Expr × Expr) → List Visit
  | [] => []
  | (key, value) :: rest => key.visits ++ value.visits ++ Expr.entryVisits rest

end

/-- The visits of the defaults of parameters. -/
def Parameter.defaultVisits (params : List Parameter) : List Visit :=
  params.flatMap fun param => Expr.optionVisits param.default

mutual

/-- The visits of a walk over a node. -/
def Node.visits : Node → List Visit
  | node@(.text ..) => [.node node]
  | node@(.raw ..) => [.node node]
  | node@(.comment ..) => [.node node]
  | node@(.expression expr _) => .node node :: expr.visits
  | node@(.evaluate expr _) => .node node :: expr.visits
  | node@(.conditional branches none _) => .node node :: Branch.listVisits branches
  | node@(.conditional branches (some otherwise) _) =>
      .node node ::
        (Branch.listVisits branches ++
          .nodes otherwise.length :: Node.listVisits otherwise)
  | node@(.loop _ iterable condition _ body none _) =>
      .node node ::
        (iterable.visits ++ Expr.optionVisits condition ++
          .nodes body.length :: Node.listVisits body)
  | node@(.loop _ iterable condition _ body (some otherwise) _) =>
      .node node ::
        (iterable.visits ++ Expr.optionVisits condition ++
          .nodes body.length :: (Node.listVisits body ++
            .nodes otherwise.length :: Node.listVisits otherwise))
  | node@(.set _ value _) => .node node :: value.visits
  | node@(.setBlock _ filters body _) =>
      .node node ::
        (filters.flatMap FilterCall.visits ++
          .nodes body.length :: Node.listVisits body)
  | node@(.macroBlock _ params body _) =>
      .node node ::
        (Parameter.defaultVisits params ++ .nodes body.length :: Node.listVisits body)
  | node@(.callBlock params call body _) =>
      .node node ::
        (Parameter.defaultVisits params ++ call.visits ++
          .nodes body.length :: Node.listVisits body)
  | node@(.withBlock bindings body _) =>
      .node node ::
        (bindings.flatMap (fun binding => binding.2.visits) ++
          .nodes body.length :: Node.listVisits body)
  | node@(.filterBlock filters body _) =>
      .node node ::
        (filters.flatMap FilterCall.visits ++
          .nodes body.length :: Node.listVisits body)
  | node@(.block _ body _) => .node node :: .nodes body.length :: Node.listVisits body
  | node@(.extendTemplate template _) => .node node :: template.visits
  | node@(.includeTemplate template _) => .node node :: template.visits
  | node@(.importTemplate template _ _) => .node node :: template.visits
  | node@(.importNames template _ _) => .node node :: template.visits
  | node@(.loopControl ..) => [.node node]

/-- The visits of the nodes of a list, without the visit of the list itself. -/
def Node.listVisits : List Node → List Visit
  | [] => []
  | node :: rest => node.visits ++ Node.listVisits rest

def Branch.listVisits : List Branch → List Visit
  | [] => []
  | ⟨condition, body⟩ :: rest =>
      condition.visits ++ .nodes body.length :: (Node.listVisits body ++ Branch.listVisits rest)

end

/-- The visits of a walk over a list of nodes. -/
def visits (nodes : List Node) : List Visit :=
  .nodes nodes.length :: Node.listVisits nodes

/-- The variable read at a visit, and where. -/
def Visit.identifier? : Visit → Option (String × Span)
  | .expr (.identifier name span) => some (name, span)
  | _ => none

/-- The variables that an expression reads, in order and with repetitions. -/
def Expr.identifiers (expr : Expr) : List String :=
  (expr.visits.filterMap Visit.identifier?).map Prod.fst

/-- The variables read anywhere in a list of nodes, in order and with
repetitions. -/
def identifiers (nodes : List Node) : List String :=
  ((visits nodes).filterMap Visit.identifier?).map Prod.fst

end TemplateVariables
