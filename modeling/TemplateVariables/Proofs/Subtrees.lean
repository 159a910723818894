import TemplateVariables.Walk

/-!
# The trees inside a tree

The nodes, expressions and filter calls of a template are trees inside its tree.  The
children of a tree are those that it holds itself, in the order in which a template has
them: a condition stands before its body, and the defaults of parameters stand before the
call of their block.  The walk comes to all of them, to every tree before its children.
-/

namespace TemplateVariables

inductive Subtree where
  | node (node : Node)
  | expr (expr : Expr)
  | filter (call : FilterCall)

def Subtree.span : Subtree → Span
  | .node inner => inner.span
  | .expr value => value.span
  | .filter stage => stage.span

/-! ## Children -/

def Expr.children : Expr → List Subtree
  | .literal .. => []
  | .identifier .. => []
  | .attribute base _ _ => [.expr base]
  | .subscript base index _ => [.expr base, .expr index]
  | .slice start stop step _ => (start.toList ++ stop.toList ++ step.toList).map .expr
  | .call callee args _ => .expr callee :: args.map (.expr ·.value)
  | .filter value stage _ => [.expr value, .filter stage]
  | .test value _ args _ _ => .expr value :: args.map (.expr ·.value)
  | .unary _ operand _ => [.expr operand]
  | .binary _ left right _ => [.expr left, .expr right]
  | .conditional value condition otherwise _ =>
      .expr value :: .expr condition :: otherwise.toList.map .expr
  | .list items _ => items.map .expr
  | .tuple items _ => items.map .expr
  | .dict entries _ => entries.flatMap fun entry => [.expr entry.1, .expr entry.2]

def FilterCall.children (call : FilterCall) : List Subtree :=
  call.args.map (.expr ·.value)

def Parameter.children (params : List Parameter) : List Subtree :=
  params.flatMap fun param => param.default.toList.map .expr

/-- The conditions of branches, each with its body behind it. -/
def Branch.children (branches : List Branch) : List Subtree :=
  branches.flatMap fun branch => .expr branch.condition :: branch.body.map .node

def Node.children : Node → List Subtree
  | .text .. => []
  | .raw .. => []
  | .comment .. => []
  | .expression expr _ => [.expr expr]
  | .evaluate expr _ => [.expr expr]
  | .conditional branches otherwise _ =>
      Branch.children branches ++ (otherwise.getD []).map .node
  | .loop _ iterable condition _ body otherwise _ =>
      (.expr iterable :: condition.toList.map .expr) ++ body.map .node ++
        (otherwise.getD []).map .node
  | .set _ value _ => [.expr value]
  | .setBlock _ filters body _ => filters.map .filter ++ body.map .node
  | .macroBlock _ params body _ => Parameter.children params ++ body.map .node
  | .callBlock params call body _ =>
      Parameter.children params ++ [.expr call] ++ body.map .node
  | .withBlock bindings body _ => bindings.map (.expr ·.2) ++ body.map .node
  | .filterBlock filters body _ => filters.map .filter ++ body.map .node
  | .block _ body _ => body.map .node
  | .extendTemplate template _ => [.expr template]
  | .includeTemplate template _ => [.expr template]
  | .importTemplate template _ _ => [.expr template]
  | .importNames template _ _ => [.expr template]
  | .loopControl .. => []

namespace Subtree

def children : Subtree → List Subtree
  | .node inner => inner.children
  | .expr value => value.children
  | .filter stage => stage.children

end Subtree

/-! ## The visits of a walk -/

theorem Expr.optionVisits_eq_flatMap (option : Option Expr) :
    Expr.optionVisits option = option.toList.flatMap Expr.visits := by
  cases option with
  | none => rfl
  | some expr => exact (List.flatMap_singleton Expr.visits expr).symm

theorem Expr.listVisits_eq_flatMap (exprs : List Expr) :
    Expr.listVisits exprs = exprs.flatMap Expr.visits := by
  induction exprs with
  | nil => rfl
  | cons expr rest ih => rw [Expr.listVisits, ih, List.flatMap_cons]

theorem Expr.argumentVisits_eq_flatMap (args : List Argument) :
    Expr.argumentVisits args = args.flatMap (·.value.visits) := by
  induction args with
  | nil => rfl
  | cons arg rest ih =>
      obtain ⟨name, value⟩ := arg
      rw [Expr.argumentVisits, ih, List.flatMap_cons]

theorem Expr.entryVisits_eq_flatMap (entries : List (Expr × Expr)) :
    Expr.entryVisits entries = entries.flatMap fun entry => entry.1.visits ++ entry.2.visits := by
  induction entries with
  | nil => rfl
  | cons entry rest ih =>
      obtain ⟨key, value⟩ := entry
      rw [Expr.entryVisits, ih, List.flatMap_cons]

theorem Node.listVisits_eq_flatMap (nodes : List Node) :
    Node.listVisits nodes = nodes.flatMap Node.visits := by
  induction nodes with
  | nil => rfl
  | cons node rest ih => rw [Node.listVisits, ih, List.flatMap_cons]

theorem Branch.listVisits_eq_flatMap (branches : List Branch) :
    Branch.listVisits branches = branches.flatMap fun branch =>
      branch.condition.visits ++ .nodes branch.body.length :: Node.listVisits branch.body := by
  induction branches with
  | nil => rfl
  | cons branch rest ih =>
      obtain ⟨condition, body⟩ := branch
      rw [Branch.listVisits, ih, List.flatMap_cons, List.append_assoc, List.cons_append]

/-- The tree that a visit comes to; the visit of a list comes to none. -/
def Visit.subtree? : Visit → Option Subtree
  | .nodes _ => none
  | .node inner => some (.node inner)
  | .expr value => some (.expr value)
  | .filter stage => some (.filter stage)

theorem Visit.filterMap_nodes (count : Nat) (visits : List Visit) :
    (Visit.nodes count :: visits).filterMap Visit.subtree? = visits.filterMap Visit.subtree? :=
  rfl

namespace Subtree

def visits : Subtree → List Visit
  | .node inner => inner.visits
  | .expr value => value.visits
  | .filter stage => stage.visits

/-- The tree and all trees inside it, in the order of the walk. -/
def all (tree : Subtree) : List Subtree :=
  tree.visits.filterMap Visit.subtree?

section All

attribute [local simp] Expr.optionVisits_eq_flatMap Expr.listVisits_eq_flatMap
  Expr.argumentVisits_eq_flatMap Expr.entryVisits_eq_flatMap Node.listVisits_eq_flatMap
  Branch.listVisits_eq_flatMap Visit.subtree? Visit.filterMap_nodes all visits children
  List.filterMap_flatMap List.flatMap_map List.map_flatMap List.flatMap_assoc

/-- The walk comes to a tree once, and then to all trees inside its children, child by
child. -/
theorem all_eq (tree : Subtree) : tree.all = tree :: tree.children.flatMap all := by
  cases tree with
  | expr value => cases value <;> simp [Expr.visits, Expr.children]
  | filter stage =>
      obtain ⟨name, args, span⟩ := stage
      simp [FilterCall.visits, FilterCall.children]
  | node inner =>
      cases inner with
      | conditional branches otherwise span =>
          cases otherwise <;> simp [Node.visits, Node.children, Branch.children]
      | loop names iterable condition recursive body otherwise span =>
          cases otherwise <;> simp [Node.visits, Node.children]
      | _ =>
          simp [Node.visits, Node.children, Parameter.children, Parameter.defaultVisits]

end All

/-- What holds of a tree and of all trees inside its children holds of all trees inside it. -/
theorem forall_mem_all {tree : Subtree} {property : Subtree → Prop} (htree : property tree)
    (hchildren : ∀ child ∈ tree.children, ∀ inner ∈ child.all, property inner) :
    ∀ inner ∈ tree.all, property inner := by
  rw [all_eq, List.forall_mem_cons]
  refine ⟨htree, fun inner hinner => ?_⟩
  obtain ⟨child, hchild, hmem⟩ := List.mem_flatMap.1 hinner
  exact hchildren child hchild inner hmem

end Subtree

/-- The trees of a template, in the order of the walk. -/
theorem filterMap_visits (nodes : List Node) :
    (visits nodes).filterMap Visit.subtree? = (nodes.map Subtree.node).flatMap Subtree.all := by
  rw [visits, Visit.filterMap_nodes, Node.listVisits_eq_flatMap, List.filterMap_flatMap,
    List.flatMap_map]
  rfl

/-! ## Variables that are read -/

/-- The namespace that an assignment to an attribute reads. -/
def SetTarget.space? : SetTarget → Option String
  | .name _ => none
  | .attribute space _ => some space

def Node.spaces : Node → List String
  | .set targets _ _ => targets.filterMap SetTarget.space?
  | _ => []

/-- A variable and the place where it is read. -/
abbrev Occurrence : Type := String × Span

namespace Subtree

def occurrence? : Subtree → Option Occurrence
  | .expr (.identifier name span) => some (name, span)
  | _ => none

/-- The variables that are read inside the tree, in the order of the walk. -/
def occurrences (tree : Subtree) : List Occurrence :=
  tree.all.filterMap occurrence?

theorem occurrences_eq (tree : Subtree) :
    tree.occurrences = tree.occurrence?.toList ++ tree.children.flatMap occurrences := by
  have hchildren : (tree.children.flatMap all).filterMap occurrence? =
      tree.children.flatMap occurrences := List.filterMap_flatMap
  rw [occurrences, all_eq, ← hchildren]
  cases htree : tree.occurrence? with
  | none => rw [List.filterMap_cons_none htree, Option.toList_none, List.nil_append]
  | some occurrence =>
      rw [List.filterMap_cons_some htree, Option.toList_some, List.singleton_append]

/-- A tree that is no variable by itself reads what its children read. -/
theorem occurrences_of_children {tree : Subtree} {trees : List Subtree}
    (hnone : tree.occurrence? = none) (hchildren : tree.children = trees) :
    tree.occurrences = trees.flatMap occurrences := by
  rw [occurrences_eq, hnone, hchildren, Option.toList_none, List.nil_append]

end Subtree

theorem Visit.identifier?_eq (visit : Visit) :
    visit.identifier? = visit.subtree?.bind Subtree.occurrence? := by
  cases visit with
  | expr value => cases value <;> rfl
  | _ => rfl

/-- The walk over a template comes to the variables of its nodes, node by node. -/
theorem filterMap_identifier?_visits (nodes : List Node) :
    (visits nodes).filterMap Visit.identifier? =
      (nodes.map Subtree.node).flatMap Subtree.occurrences := by
  rw [funext Visit.identifier?_eq, ← List.filterMap_filterMap, filterMap_visits,
    List.filterMap_flatMap]
  rfl

end TemplateVariables
