import TemplateVariables.Proofs.LexicalScope
import TemplateVariables.Proofs.Node.Spanless

/-!
# Collecting without spans

The collector does not look at spans, so trees that differ in nothing else have the same
free variables.
-/

namespace TemplateVariables

/-! ## Expressions -/

section Unbound

variable (bound : Finset String)

mutual

theorem Expr.unbound_spanless : (expr : Expr) → expr.spanless.unbound bound = expr.unbound bound
  | .literal value span => rfl
  | .identifier name span => rfl
  | .attribute base name span => base.unbound_spanless
  | .subscript base index span => by
      rw [Expr.spanless, Expr.unbound, Expr.unbound, base.unbound_spanless,
        index.unbound_spanless]
  | .slice start stop step span => by
      rw [Expr.spanless, Expr.unbound, Expr.unbound, Expr.unboundOption_spanless start,
        Expr.unboundOption_spanless stop, Expr.unboundOption_spanless step]
  | .call callee args span => by
      rw [Expr.spanless, Expr.unbound, Expr.unbound, callee.unbound_spanless,
        Expr.unboundArguments_spanless args]
  | .filter value filter span => by
      rw [Expr.spanless, Expr.unbound, Expr.unbound, value.unbound_spanless,
        filter.unbound_spanless]
  | .test value name args negated span => by
      rw [Expr.spanless, Expr.unbound, Expr.unbound, value.unbound_spanless,
        Expr.unboundArguments_spanless args]
  | .unary op operand span => operand.unbound_spanless
  | .binary op left right span => by
      rw [Expr.spanless, Expr.unbound, Expr.unbound, left.unbound_spanless,
        right.unbound_spanless]
  | .conditional value condition otherwise span => by
      rw [Expr.spanless, Expr.unbound, Expr.unbound, value.unbound_spanless,
        condition.unbound_spanless, Expr.unboundOption_spanless otherwise]
  | .list items span => Expr.unboundList_spanless items
  | .tuple items span => Expr.unboundList_spanless items
  | .dict entries span => Expr.unboundEntries_spanless entries

theorem FilterCall.unbound_spanless :
    (filter : FilterCall) → filter.spanless.unbound bound = filter.unbound bound
  | ⟨_, args, _⟩ => Expr.unboundArguments_spanless args

theorem Expr.unboundOption_spanless :
    (option : Option Expr) →
      Expr.unboundOption bound (Expr.spanlessOption option) = Expr.unboundOption bound option
  | none => rfl
  | some expr => expr.unbound_spanless

theorem Expr.unboundList_spanless :
    (exprs : List Expr) →
      Expr.unboundList bound (Expr.spanlessList exprs) = Expr.unboundList bound exprs
  | [] => rfl
  | expr :: rest => by
      rw [Expr.spanlessList, Expr.unboundList, Expr.unboundList, expr.unbound_spanless,
        Expr.unboundList_spanless rest]

theorem Expr.unboundArguments_spanless :
    (args : List Argument) →
      Expr.unboundArguments bound (Argument.spanlessList args) = Expr.unboundArguments bound args
  | [] => rfl
  | ⟨name, value⟩ :: rest => by
      rw [Argument.spanlessList, Expr.unboundArguments, Expr.unboundArguments,
        value.unbound_spanless, Expr.unboundArguments_spanless rest]

theorem Expr.unboundEntries_spanless :
    (entries : List (Expr × Expr)) →
      Expr.unboundEntries bound (Expr.spanlessEntries entries) =
        Expr.unboundEntries bound entries
  | [] => rfl
  | (key, value) :: rest => by
      rw [Expr.spanlessEntries, Expr.unboundEntries, Expr.unboundEntries,
        key.unbound_spanless, value.unbound_spanless, Expr.unboundEntries_spanless rest]

end

end Unbound

theorem Expr.identifiers_spanless (expr : Expr) : expr.spanless.identifiers = expr.identifiers := by
  have hempty (expr : Expr) : expr.identifiers = expr.unbound ∅ := by
    rw [← Expr.unbound_visits, Visit.unbound_empty]
    rfl
  rw [hempty, hempty, Expr.unbound_spanless]

namespace Collector

theorem expr_spanless (collector : Collector) (value : Expr) :
    collector.expr value.spanless = collector.expr value := by
  rw [expr, expr, Expr.identifiers_spanless]

theorem exprs_spanless (collector : Collector) (values : List Expr) :
    collector.exprs (values.map Expr.spanless) = collector.exprs values := by
  rw [exprs, exprs, List.foldl_map]
  simp only [expr_spanless]

theorem filters_spanless (collector : Collector) (calls : List FilterCall) :
    collector.filters (calls.map FilterCall.spanless) = collector.filters calls := by
  have hargs (collector : Collector) (call : FilterCall) :
      collector.exprs (call.spanless.args.map (·.value)) =
        collector.exprs (call.args.map (·.value)) := by
    obtain ⟨name, args, span⟩ := call
    rw [← exprs_spanless _ (args.map _)]
    simp only [FilterCall.spanless, Argument.spanlessList_eq_map, List.map_map]
    rfl
  rw [filters, filters, List.foldl_map]
  simp only [hargs]

theorem defaults_spanless (collector : Collector) (params : List Parameter) :
    collector.defaults (params.map Parameter.spanless) = collector.defaults params := by
  have hdefaults : (params.map Parameter.spanless).filterMap (·.default) =
      (params.filterMap (·.default)).map Expr.spanless := by
    rw [List.filterMap_map, List.map_filterMap]
    rfl
  rw [defaults, defaults, hdefaults, exprs_spanless]

theorem condition_spanless (collector : Collector) (condition : Option Expr) :
    collector.exprs (condition.map Expr.spanless).toList = collector.exprs condition.toList := by
  cases condition with
  | none => rfl
  | some condition => exact exprs_spanless collector [condition]

theorem bindings_spanless (collector : Collector) (bindings : List (String × Expr)) :
    collector.exprs ((bindings.map bindingSpanless).map Prod.snd) =
      collector.exprs (bindings.map Prod.snd) := by
  rw [← exprs_spanless _ (bindings.map _), List.map_map, List.map_map]
  rfl

end Collector

/-! ## Nodes -/

mutual

theorem Node.collect_spanless : (node : Node) → node.spanless.collect = node.collect
  | .text content span => rfl
  | .raw content span => rfl
  | .comment span => rfl
  | .expression expr span => funext fun collector => collector.expr_spanless expr
  | .evaluate expr span => funext fun collector => collector.expr_spanless expr
  | .conditional branches none span => by
      funext collector
      rw [Node.spanless, Node.spanlessOption, Node.collect, Node.collect,
        Branch.collectAll_spanless branches]
  | .conditional branches (some otherwise) span => by
      funext collector
      rw [Node.spanless, Node.spanlessOption, Node.collect, Node.collect,
        Branch.collectAll_spanless branches, Node.collectAll_spanless otherwise]
  | .loop names iterable condition recursive body none span => by
      funext collector
      rw [Node.spanless, Node.spanlessOption, Node.collect, Node.collect,
        Node.collectAll_spanless body]
      simp only [Collector.expr_spanless, Collector.condition_spanless]
  | .loop names iterable condition recursive body (some otherwise) span => by
      funext collector
      rw [Node.spanless, Node.spanlessOption, Node.collect, Node.collect,
        Node.collectAll_spanless body, Node.collectAll_spanless otherwise]
      simp only [Collector.expr_spanless, Collector.condition_spanless]
  | .set targets value span => by
      funext collector
      rw [Node.spanless, Node.collect, Node.collect, Collector.expr_spanless]
  | .setBlock name filters body span => by
      funext collector
      rw [Node.spanless, Node.collect, Node.collect, Collector.filters_spanless,
        Node.collectAll_spanless body]
  | .macroBlock name params body span => by
      funext collector
      rw [Node.spanless, Node.collect, Node.collect, Collector.defaults_spanless,
        Node.collectAll_spanless body, List.map_map]
      rfl
  | .callBlock params call body span => by
      funext collector
      rw [Node.spanless, Node.collect, Node.collect, Collector.expr_spanless,
        Collector.defaults_spanless, Node.collectAll_spanless body, List.map_map]
      rfl
  | .withBlock bindings body span => by
      funext collector
      rw [Node.spanless, Node.collect, Node.collect, Collector.bindings_spanless,
        Node.collectAll_spanless body, List.map_map]
      rfl
  | .filterBlock filters body span => by
      funext collector
      rw [Node.spanless, Node.collect, Node.collect, Collector.filters_spanless,
        Node.collectAll_spanless body]
  | .block name body span => by
      funext collector
      rw [Node.spanless, Node.collect, Node.collect, Node.collectAll_spanless body]
  | .extendTemplate template span => funext fun collector => collector.expr_spanless template
  | .includeTemplate template span => funext fun collector => collector.expr_spanless template
  | .importTemplate template name span => by
      funext collector
      rw [Node.spanless, Node.collect, Node.collect, Collector.expr_spanless]
  | .importNames template names span => by
      funext collector
      rw [Node.spanless, Node.collect, Node.collect, Collector.expr_spanless]
  | .loopControl kind span => rfl

theorem Node.collectAll_spanless :
    (nodes : List Node) → Node.collectAll (Node.spanlessList nodes) = Node.collectAll nodes
  | [] => rfl
  | node :: rest => by
      funext collector
      rw [Node.spanlessList, Node.collectAll, Node.collectAll, node.collect_spanless,
        Node.collectAll_spanless rest]

theorem Branch.collectAll_spanless :
    (branches : List Branch) →
      Branch.collectAll (Branch.spanlessList branches) = Branch.collectAll branches
  | [] => rfl
  | ⟨condition, body⟩ :: rest => by
      funext collector
      rw [Branch.spanlessList, Branch.collectAll, Branch.collectAll, Collector.expr_spanless,
        Node.collectAll_spanless body, Branch.collectAll_spanless rest]

end

end TemplateVariables
