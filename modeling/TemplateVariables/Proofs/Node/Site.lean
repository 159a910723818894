import TemplateVariables.Proofs.SiblingScope
import TemplateVariables.Node.Statement

/-!
# A node in its template

A site is a list of nodes with a place for one more, in the list itself or in a body at any
depth.  Every node that a walk comes to stands at a site, and what a template reads unbound
depends on the node there only by what the node reads unbound and by what it binds.
-/

namespace TemplateVariables

/-! ## No node in an expression -/

section

variable {node : Node}

mutual

theorem Expr.node_notMem_visits : (expr : Expr) → Visit.node node ∉ expr.visits
  | .literal value span => by simp [Expr.visits]
  | .identifier name span => by simp [Expr.visits]
  | .attribute base name span => by simp [Expr.visits, base.node_notMem_visits]
  | .subscript base index span => by
      simp [Expr.visits, base.node_notMem_visits, index.node_notMem_visits]
  | .slice start stop step span => by
      simp [Expr.visits, Expr.node_notMem_optionVisits start, Expr.node_notMem_optionVisits stop,
        Expr.node_notMem_optionVisits step]
  | .call callee args span => by
      simp [Expr.visits, callee.node_notMem_visits, Expr.node_notMem_argumentVisits args]
  | .filter value filter span => by
      simp [Expr.visits, value.node_notMem_visits, filter.node_notMem_visits]
  | .test value name args negated span => by
      simp [Expr.visits, value.node_notMem_visits, Expr.node_notMem_argumentVisits args]
  | .unary op operand span => by simp [Expr.visits, operand.node_notMem_visits]
  | .binary op left right span => by
      simp [Expr.visits, left.node_notMem_visits, right.node_notMem_visits]
  | .conditional value condition otherwise span => by
      simp [Expr.visits, value.node_notMem_visits, condition.node_notMem_visits,
        Expr.node_notMem_optionVisits otherwise]
  | .list items span => by simp [Expr.visits, Expr.node_notMem_listVisits items]
  | .tuple items span => by simp [Expr.visits, Expr.node_notMem_listVisits items]
  | .dict entries span => by simp [Expr.visits, Expr.node_notMem_entryVisits entries]

theorem FilterCall.node_notMem_visits : (filter : FilterCall) → Visit.node node ∉ filter.visits
  | ⟨name, args, span⟩ => by simp [FilterCall.visits, Expr.node_notMem_argumentVisits args]

theorem Expr.node_notMem_optionVisits :
    (option : Option Expr) → Visit.node node ∉ Expr.optionVisits option
  | none => by simp [Expr.optionVisits]
  | some expr => by simp [Expr.optionVisits, expr.node_notMem_visits]

theorem Expr.node_notMem_listVisits :
    (exprs : List Expr) → Visit.node node ∉ Expr.listVisits exprs
  | [] => by simp [Expr.listVisits]
  | expr :: rest => by
      simp [Expr.listVisits, expr.node_notMem_visits, Expr.node_notMem_listVisits rest]

theorem Expr.node_notMem_argumentVisits :
    (args : List Argument) → Visit.node node ∉ Expr.argumentVisits args
  | [] => by simp [Expr.argumentVisits]
  | ⟨name, value⟩ :: rest => by
      simp [Expr.argumentVisits, value.node_notMem_visits, Expr.node_notMem_argumentVisits rest]

theorem Expr.node_notMem_entryVisits :
    (entries : List (Expr × Expr)) → Visit.node node ∉ Expr.entryVisits entries
  | [] => by simp [Expr.entryVisits]
  | (key, value) :: rest => by
      simp [Expr.entryVisits, key.node_notMem_visits, value.node_notMem_visits,
        Expr.node_notMem_entryVisits rest]

end

end

/-! ## Sites -/

/-- A node with a place for one of its bodies. -/
inductive Holder where
  | ifBody (earlier : List Branch) (condition : Expr) (later : List Branch)
      (otherwise : Option (List Node)) (span : Span)
  | ifElse (branches : List Branch) (span : Span)
  | loopBody (names : List String) (iterable : Expr) (condition : Option Expr) (recursive : Bool)
      (otherwise : Option (List Node)) (span : Span)
  | loopElse (names : List String) (iterable : Expr) (condition : Option Expr)
      (recursive : Bool) (body : List Node) (span : Span)
  | plain (header : PlainHeader) (span : Span)

def Holder.node (holder : Holder) (body : List Node) : Node :=
  match holder with
  | .ifBody earlier condition later otherwise span =>
      .conditional (earlier ++ ⟨condition, body⟩ :: later) otherwise span
  | .ifElse branches span => .conditional branches (some body) span
  | .loopBody names iterable condition recursive otherwise span =>
      .loop names iterable condition recursive body otherwise span
  | .loopElse names iterable condition recursive first span =>
      .loop names iterable condition recursive first (some body) span
  | .plain header span => header.node body span

/-- A list of nodes with a place for one node, at any depth. -/
inductive Site where
  | here (before after : List Node)
  | inside (before : List Node) (holder : Holder) (site : Site) (after : List Node)

namespace Site

/-- The list with a node at the place for it. -/
def fill : Site → Node → List Node
  | .here before after, node => before ++ node :: after
  | .inside before holder site after, node => before ++ holder.node (site.fill node) :: after

/-! ## Every node has a site -/

/-- A node stands somewhere in a list, at any depth. -/
def Holds (nodes : List Node) (node : Node) : Prop :=
  ∃ site : Site, site.fill node = nodes

theorem holds_head (node : Node) (rest : List Node) : Holds (node :: rest) node :=
  ⟨.here [] rest, rfl⟩

theorem holds_inside {body : List Node} {node : Node} (hbody : Holds body node)
    (holder : Holder) (rest : List Node) : Holds (holder.node body :: rest) node := by
  obtain ⟨site, rfl⟩ := hbody
  exact ⟨.inside [] holder site rest, rfl⟩

theorem holds_tail {rest : List Node} {node : Node} (hrest : Holds rest node) (first : Node) :
    Holds (first :: rest) node := by
  obtain ⟨site, rfl⟩ := hrest
  cases site with
  | here before after => exact ⟨.here (first :: before) after, rfl⟩
  | inside before holder site after => exact ⟨.inside (first :: before) holder site after, rfl⟩

section

variable {node : Node}

theorem holds_of_visits (holder : Holder) {body : List Node} (rest : List Node)
    (hbody : Visit.node node ∈ Node.listVisits body → Holds body node)
    (hmem : node = holder.node body ∨ Visit.node node ∈ Node.listVisits body) :
    Holds (holder.node body :: rest) node := by
  rcases hmem with heq | hmem
  · rw [heq]
    exact holds_head _ rest
  · exact holds_inside (hbody hmem) holder rest

theorem holds_of_visits_self {outer : Node} (rest : List Node) (hmem : node = outer) :
    Holds (outer :: rest) node := by
  rw [hmem]
  exact holds_head outer rest

theorem mem_visits_plain {header : PlainHeader} {body : List Node} {span : Span}
    (hmem : Visit.node node ∈ (header.node body span).visits) :
    node = header.node body span ∨ Visit.node node ∈ Node.listVisits body := by
  cases header <;>
    simpa [PlainHeader.node, Node.visits, Parameter.defaultVisits, Expr.node_notMem_visits,
      Expr.node_notMem_optionVisits, FilterCall.node_notMem_visits] using hmem

theorem holds_of_plainVisits (header : PlainHeader) {body : List Node} {span : Span}
    (rest : List Node) (hbody : Visit.node node ∈ Node.listVisits body → Holds body node)
    (hmem : Visit.node node ∈ (header.node body span).visits) :
    Holds (header.node body span :: rest) node :=
  holds_of_visits (.plain header span) rest hbody (mem_visits_plain hmem)

mutual

theorem holds_of_mem_visits :
    (outer : Node) → Visit.node node ∈ outer.visits → (rest : List Node) →
      Holds (outer :: rest) node
  | .text .., hmem, rest | .raw .., hmem, rest | .comment _, hmem, rest
  | .loopControl .., hmem, rest | .expression .., hmem, rest | .evaluate .., hmem, rest
  | .set .., hmem, rest | .extendTemplate .., hmem, rest | .includeTemplate .., hmem, rest
  | .importTemplate .., hmem, rest | .importNames .., hmem, rest => by
      apply holds_of_visits_self rest
      simpa [Node.visits, Expr.node_notMem_visits] using hmem
  | .setBlock name filters body span, hmem, rest =>
      holds_of_plainVisits (.setBlock name filters) rest (holds_of_mem_listVisits body) hmem
  | .macroBlock name params body span, hmem, rest =>
      holds_of_plainVisits (.macroBlock name params) rest (holds_of_mem_listVisits body) hmem
  | .callBlock params call body span, hmem, rest =>
      holds_of_plainVisits (.callBlock params call) rest (holds_of_mem_listVisits body) hmem
  | .withBlock bindings body span, hmem, rest =>
      holds_of_plainVisits (.withBlock bindings) rest (holds_of_mem_listVisits body) hmem
  | .filterBlock filters body span, hmem, rest =>
      holds_of_plainVisits (.filterBlock filters) rest (holds_of_mem_listVisits body) hmem
  | .block name body span, hmem, rest =>
      holds_of_plainVisits (.block name) rest (holds_of_mem_listVisits body) hmem
  | .loop names iterable condition recursive body none span, hmem, rest => by
      apply holds_of_visits (.loopBody names iterable condition recursive none span) rest
        (holds_of_mem_listVisits body)
      simpa [Holder.node, Node.visits, Expr.node_notMem_visits, Expr.node_notMem_optionVisits]
        using hmem
  | .loop names iterable condition recursive body (some otherwise) span, hmem, rest => by
      simp only [Node.visits, List.mem_cons, List.mem_append, Visit.node.injEq, reduceCtorEq,
        Expr.node_notMem_visits, Expr.node_notMem_optionVisits, false_or] at hmem
      rcases hmem with hmem | hmem | hmem
      · exact holds_of_visits_self rest hmem
      · exact holds_inside (holds_of_mem_listVisits body hmem)
          (.loopBody names iterable condition recursive (some otherwise) span) rest
      · exact holds_inside (holds_of_mem_listVisits otherwise hmem)
          (.loopElse names iterable condition recursive body span) rest
  | .conditional branches none span, hmem, rest => by
      simp only [Node.visits, List.mem_cons, Visit.node.injEq] at hmem
      rcases hmem with hmem | hmem
      · exact holds_of_visits_self rest hmem
      · exact holds_of_mem_branchVisits none span rest [] branches hmem
  | .conditional branches (some otherwise) span, hmem, rest => by
      simp only [Node.visits, List.mem_cons, List.mem_append, Visit.node.injEq, reduceCtorEq,
        false_or] at hmem
      rcases hmem with hmem | hmem | hmem
      · exact holds_of_visits_self rest hmem
      · exact holds_of_mem_branchVisits (some otherwise) span rest [] branches hmem
      · exact holds_inside (holds_of_mem_listVisits otherwise hmem) (.ifElse branches span) rest

theorem holds_of_mem_listVisits :
    (nodes : List Node) → Visit.node node ∈ Node.listVisits nodes → Holds nodes node
  | [], hmem => absurd hmem List.not_mem_nil
  | outer :: rest, hmem => by
      rw [Node.listVisits, List.mem_append] at hmem
      rcases hmem with hmem | hmem
      · exact holds_of_mem_visits outer hmem rest
      · exact holds_tail (holds_of_mem_listVisits rest hmem) outer

theorem holds_of_mem_branchVisits (otherwise : Option (List Node)) (span : Span)
    (rest : List Node) :
    (earlier later : List Branch) → Visit.node node ∈ Branch.listVisits later →
      Holds (.conditional (earlier ++ later) otherwise span :: rest) node
  | _, [], hmem => absurd hmem List.not_mem_nil
  | earlier, ⟨condition, body⟩ :: later, hmem => by
      simp only [Branch.listVisits, List.mem_append, List.mem_cons,
        condition.node_notMem_visits, reduceCtorEq, false_or] at hmem
      rcases hmem with hmem | hmem
      · exact holds_inside (holds_of_mem_listVisits body hmem)
          (.ifBody earlier condition later otherwise span) rest
      · have hlater := holds_of_mem_branchVisits otherwise span rest
          (earlier ++ [⟨condition, body⟩]) later hmem
        rwa [List.append_assoc, List.singleton_append] at hlater

end

theorem holds_of_mem (nodes : List Node) (hmem : Visit.node node ∈ visits nodes) :
    Holds nodes node := by
  apply holds_of_mem_listVisits nodes
  simpa [visits] using hmem

end

/-! ## What the node at a site decides -/

section

variable {body body' : List Node}

theorem unbound_holder (holder : Holder) (bound : Finset String)
    (hbody : ∀ bound, Node.unboundAll bound body' = Node.unboundAll bound body) :
    (holder.node body').unbound bound = (holder.node body).unbound bound := by
  cases holder with
  | ifBody earlier condition later otherwise span =>
      rw [Holder.node, Holder.node, Node.unbound, Node.unbound, Branch.unboundAll_append,
        Branch.unboundAll_append, Branch.unboundAll, Branch.unboundAll, hbody]
  | plain header span =>
      cases header <;> simp only [Holder.node, PlainHeader.node, Node.unbound, hbody]
  | _ => simp only [Holder.node, Node.unbound, Node.unboundOption, hbody]

theorem binds_holder (holder : Holder) :
    (holder.node body').binds = (holder.node body).binds := by
  cases holder with
  | plain header span => cases header <;> rfl
  | _ => rfl

end

/-- A node may be replaced where it stands by one that reads the same names unbound and binds
the same names. -/
theorem unboundAll_fill_congr {node node' : Node}
    (hunbound : ∀ bound, node'.unbound bound = node.unbound bound)
    (hbinds : node'.binds = node.binds) (site : Site) (bound : Finset String) :
    Node.unboundAll bound (site.fill node') = Node.unboundAll bound (site.fill node) := by
  induction site generalizing bound with
  | here before after =>
      rw [fill, fill, Node.unboundAll_append, Node.unboundAll_append, Node.unboundAll,
        Node.unboundAll, hunbound, hbinds]
  | inside before holder site after ih =>
      rw [fill, fill, Node.unboundAll_append, Node.unboundAll_append, Node.unboundAll,
        Node.unboundAll, unbound_holder holder bound ih, binds_holder holder]

end Site

end TemplateVariables
