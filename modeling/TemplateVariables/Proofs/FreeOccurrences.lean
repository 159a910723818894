import TemplateVariables.Proofs.LexicalScope
import TemplateVariables.Proofs.Subtrees

/-!
# Where variables are free

The walk with the names that are bound at each variable: those of the scopes around it, and
those that the nodes in front of it bind in the lists that it is in.  What the collector finds
are the variables that are not among these names.  It finds them in the order of the walk, but
for two kinds of nodes: it reads the call of a call block before the defaults, which the walk
comes to first, and it reads the namespaces that are assigned to, which the walk leaves out.
-/

namespace TemplateVariables

/-- A variable that is read, and the names that are bound there. -/
structure ScopedRead where
  occurrence : Occurrence
  bound : Finset String

namespace ScopedRead

/-- The variables that are read where their name is not bound. -/
def free (reads : List ScopedRead) : List Occurrence :=
  (reads.filter fun read => read.occurrence.1 ∉ read.bound).map (·.occurrence)

@[simp] theorem free_append (first second : List ScopedRead) :
    free (first ++ second) = free first ++ free second := by
  simp [free]

theorem free_sublist (reads : List ScopedRead) :
    List.Sublist (free reads) (reads.map (·.occurrence)) :=
  List.filter_sublist.map _

end ScopedRead

/-- The variables of a walk through one scope. -/
def Visit.reads (bound : Finset String) (visits : List Visit) : List ScopedRead :=
  (visits.filterMap Visit.identifier?).map fun occurrence => ⟨occurrence, bound⟩

mutual

/-- The variables that the walk over a node comes to, with the names that are bound there. -/
def Node.reads (bound : Finset String) : Node → List ScopedRead
  | .text .. => []
  | .raw .. => []
  | .comment .. => []
  | .expression expr _ => Visit.reads bound expr.visits
  | .evaluate expr _ => Visit.reads bound expr.visits
  | .conditional branches otherwise _ =>
      Branch.readsAll bound branches ++ Node.readsOption bound otherwise
  | .loop names iterable condition _ body otherwise _ =>
      Visit.reads bound iterable.visits ++
        Visit.reads (bound ∪ names.toFinset) (Expr.optionVisits condition) ++
        Node.readsAll (bound ∪ names.toFinset) body ++ Node.readsOption bound otherwise
  | .set _ value _ => Visit.reads bound value.visits
  | .setBlock _ filters body _ =>
      Visit.reads bound (filters.flatMap FilterCall.visits) ++ Node.readsAll bound body
  | .macroBlock _ params body _ =>
      Visit.reads bound (Parameter.defaultVisits params) ++
        Node.readsAll
          (bound ∪ (params.map (·.name)).toFinset ∪ {"caller", "varargs", "kwargs"}) body
  | .callBlock params call body _ =>
      Visit.reads bound (Parameter.defaultVisits params) ++ Visit.reads bound call.visits ++
        Node.readsAll (bound ∪ (params.map (·.name)).toFinset) body
  | .withBlock bindings body _ =>
      Visit.reads bound (bindings.flatMap fun binding => binding.2.visits) ++
        Node.readsAll (bound ∪ (bindings.map Prod.fst).toFinset) body
  | .filterBlock filters body _ =>
      Visit.reads bound (filters.flatMap FilterCall.visits) ++ Node.readsAll bound body
  | .block _ body _ => Node.readsAll bound body
  | .extendTemplate template _ => Visit.reads bound template.visits
  | .includeTemplate template _ => Visit.reads bound template.visits
  | .importTemplate template _ _ => Visit.reads bound template.visits
  | .importNames template _ _ => Visit.reads bound template.visits
  | .loopControl .. => []

/-- The variables that the walk over a list of nodes comes to; what a node binds holds for the
nodes after it. -/
def Node.readsAll (bound : Finset String) : List Node → List ScopedRead
  | [] => []
  | node :: rest => node.reads bound ++ Node.readsAll (bound ∪ node.binds) rest

def Node.readsOption (bound : Finset String) : Option (List Node) → List ScopedRead
  | none => []
  | some nodes => Node.readsAll bound nodes

def Branch.readsAll (bound : Finset String) : List Branch → List ScopedRead
  | [] => []
  | ⟨condition, body⟩ :: rest =>
      Visit.reads bound condition.visits ++ Node.readsAll bound body ++
        Branch.readsAll bound rest

end

/-! ## The variables of the walk -/

theorem Visit.map_occurrence_reads (bound : Finset String) (visits : List Visit) :
    (Visit.reads bound visits).map (·.occurrence) = visits.filterMap Visit.identifier? := by
  rw [Visit.reads, List.map_map]
  exact List.map_id' _

section Walk

theorem Visit.filterMap_identifier?_node (node : Node) (visits : List Visit) :
    (Visit.node node :: visits).filterMap Visit.identifier? =
      visits.filterMap Visit.identifier? := rfl

theorem Visit.filterMap_identifier?_nodes (count : Nat) (visits : List Visit) :
    (Visit.nodes count :: visits).filterMap Visit.identifier? =
      visits.filterMap Visit.identifier? := rfl

attribute [local simp] Visit.map_occurrence_reads Visit.filterMap_identifier?_node
  Visit.filterMap_identifier?_nodes

mutual

theorem Node.map_occurrence_reads (bound : Finset String) :
    (node : Node) →
      (node.reads bound).map (·.occurrence) = node.visits.filterMap Visit.identifier?
  | .text .. => rfl
  | .raw .. => rfl
  | .comment .. => rfl
  | .loopControl .. => rfl
  | .expression expr span => Visit.map_occurrence_reads bound expr.visits
  | .evaluate expr span => Visit.map_occurrence_reads bound expr.visits
  | .set targets value span => Visit.map_occurrence_reads bound value.visits
  | .extendTemplate template span => Visit.map_occurrence_reads bound template.visits
  | .includeTemplate template span => Visit.map_occurrence_reads bound template.visits
  | .importTemplate template name span => Visit.map_occurrence_reads bound template.visits
  | .importNames template names span => Visit.map_occurrence_reads bound template.visits
  | .conditional branches none span => by
      simp [Node.reads, Node.visits, Node.readsOption,
        Branch.map_occurrence_readsAll bound branches]
  | .conditional branches (some otherwise) span => by
      simp [Node.reads, Node.visits, Node.readsOption,
        Branch.map_occurrence_readsAll bound branches, Node.map_occurrence_readsAll _ otherwise]
  | .loop names iterable condition recursive body none span => by
      simp [Node.reads, Node.visits, Node.readsOption, Node.map_occurrence_readsAll _ body]
  | .loop names iterable condition recursive body (some otherwise) span => by
      simp [Node.reads, Node.visits, Node.readsOption, Node.map_occurrence_readsAll _ body,
        Node.map_occurrence_readsAll _ otherwise]
  | .setBlock name filters body span => by
      simp [Node.reads, Node.visits, Node.map_occurrence_readsAll _ body]
  | .macroBlock name params body span => by
      simp [Node.reads, Node.visits, Node.map_occurrence_readsAll _ body]
  | .callBlock params call body span => by
      simp [Node.reads, Node.visits, Node.map_occurrence_readsAll _ body]
  | .withBlock bindings body span => by
      simp [Node.reads, Node.visits, Node.map_occurrence_readsAll _ body]
  | .filterBlock filters body span => by
      simp [Node.reads, Node.visits, Node.map_occurrence_readsAll _ body]
  | .block name body span => by
      simp [Node.reads, Node.visits, Node.map_occurrence_readsAll _ body]

theorem Node.map_occurrence_readsAll (bound : Finset String) :
    (nodes : List Node) →
      (Node.readsAll bound nodes).map (·.occurrence) =
        (Node.listVisits nodes).filterMap Visit.identifier?
  | [] => rfl
  | node :: rest => by
      rw [Node.readsAll, Node.listVisits, List.map_append, List.filterMap_append,
        node.map_occurrence_reads bound, Node.map_occurrence_readsAll _ rest]

theorem Branch.map_occurrence_readsAll (bound : Finset String) :
    (branches : List Branch) →
      (Branch.readsAll bound branches).map (·.occurrence) =
        (Branch.listVisits branches).filterMap Visit.identifier?
  | [] => rfl
  | ⟨condition, body⟩ :: rest => by
      simp [Branch.readsAll, Branch.listVisits, Node.map_occurrence_readsAll _ body,
        Branch.map_occurrence_readsAll bound rest]

end

end Walk

/-! ## The variables that are collected -/

def SetTarget.isName : SetTarget → Bool
  | .name _ => true
  | .attribute _ _ => false

/-- The node assigns to no attribute and, if it is a call block, its parameters have no
defaults. -/
def Node.readsInOrder : Node → Bool
  | .set targets _ _ => targets.all SetTarget.isName
  | .callBlock params _ _ _ => params.all (·.default.isNone)
  | _ => true

theorem SetTarget.unboundAll_of_names {targets : List SetTarget}
    (htargets : targets.all SetTarget.isName = true) (bound : Finset String) :
    SetTarget.unboundAll bound targets = [] := by
  induction targets generalizing bound with
  | nil => rfl
  | cons target rest ih =>
      obtain ⟨htarget, hrest⟩ := Bool.and_eq_true_iff.1 htargets
      cases target with
      | name target => exact ih hrest _
      | «attribute» space name => cases htarget

theorem Visit.unbound_flatMap {α : Type} (bound : Finset String) (items : List α)
    (visits : α → List Visit) :
    Visit.unbound bound (items.flatMap visits) =
      items.flatMap fun item => Visit.unbound bound (visits item) := by
  induction items with
  | nil => rfl
  | cons item rest ih => rw [List.flatMap_cons, List.flatMap_cons, Visit.unbound_append, ih]

theorem ScopedRead.map_fst_free_reads (bound : Finset String) (visits : List Visit) :
    (free (Visit.reads bound visits)).map Prod.fst = Visit.unbound bound visits := by
  rw [free, Visit.reads, Visit.unbound, List.filter_map, List.filter_map, List.map_map,
    List.map_map]
  rfl

section Collected

attribute [local simp] ScopedRead.map_fst_free_reads Visit.unbound_flatMap Expr.unbound_visits
  FilterCall.unbound_visits Expr.unbound_optionVisits

theorem Parameter.unbound_defaultVisits (bound : Finset String) (params : List Parameter) :
    Visit.unbound bound (Parameter.defaultVisits params) =
      params.flatMap fun param => Expr.unboundOption bound param.default := by
  simp [Parameter.defaultVisits]

theorem Parameter.flatMap_unbound_of_none {params : List Parameter}
    (hparams : params.all (·.default.isNone) = true) (bound : Finset String) :
    (params.flatMap fun param => Expr.unboundOption bound param.default) = [] := by
  rw [List.flatMap_eq_nil_iff]
  intro param hparam
  rw [Option.isNone_iff_eq_none.1 (List.all_eq_true.1 hparams param hparam), Expr.unboundOption]

attribute [local simp] Parameter.unbound_defaultVisits

mutual

theorem Node.unbound_eq_free (bound : Finset String) :
    (node : Node) → (∀ inner, .node inner ∈ node.visits → inner.readsInOrder = true) →
      node.unbound bound = (ScopedRead.free (node.reads bound)).map Prod.fst
  | .text .., _ => rfl
  | .raw .., _ => rfl
  | .comment .., _ => rfl
  | .loopControl .., _ => rfl
  | .expression expr span, _ => by simp [Node.unbound, Node.reads]
  | .evaluate expr span, _ => by simp [Node.unbound, Node.reads]
  | .extendTemplate template span, _ => by simp [Node.unbound, Node.reads]
  | .includeTemplate template span, _ => by simp [Node.unbound, Node.reads]
  | .importTemplate template name span, _ => by simp [Node.unbound, Node.reads]
  | .importNames template names span, _ => by simp [Node.unbound, Node.reads]
  | .set targets value span, hinOrder => by
      have htargets : Node.readsInOrder (.set targets value span) = true :=
        hinOrder _ (by simp [Node.visits])
      simp [Node.unbound, Node.reads, SetTarget.unboundAll_of_names htargets]
  | .conditional branches none span, hinOrder => by
      have hbranches := Branch.unboundAll_eq_free bound branches fun inner hinner =>
        hinOrder inner (by simp [Node.visits, hinner])
      simp [Node.unbound, Node.reads, Node.unboundOption, Node.readsOption, hbranches]
  | .conditional branches (some otherwise) span, hinOrder => by
      have hbranches := Branch.unboundAll_eq_free bound branches fun inner hinner =>
        hinOrder inner (by simp [Node.visits, hinner])
      have hotherwise := Node.unboundAll_eq_free bound otherwise fun inner hinner =>
        hinOrder inner (by simp [Node.visits, hinner])
      simp [Node.unbound, Node.reads, Node.unboundOption, Node.readsOption, hbranches, hotherwise]
  | .loop names iterable condition recursive body none span, hinOrder => by
      have hbody := Node.unboundAll_eq_free (bound ∪ names.toFinset) body fun inner hinner =>
        hinOrder inner (by simp [Node.visits, hinner])
      simp [Node.unbound, Node.reads, Node.unboundOption, Node.readsOption, hbody]
  | .loop names iterable condition recursive body (some otherwise) span, hinOrder => by
      have hbody := Node.unboundAll_eq_free (bound ∪ names.toFinset) body fun inner hinner =>
        hinOrder inner (by simp [Node.visits, hinner])
      have hotherwise := Node.unboundAll_eq_free bound otherwise fun inner hinner =>
        hinOrder inner (by simp [Node.visits, hinner])
      simp [Node.unbound, Node.reads, Node.unboundOption, Node.readsOption, hbody, hotherwise]
  | .setBlock name filters body span, hinOrder => by
      have hbody := Node.unboundAll_eq_free bound body fun inner hinner =>
        hinOrder inner (by simp [Node.visits, hinner])
      simp [Node.unbound, Node.reads, hbody]
  | .macroBlock name params body span, hinOrder => by
      have hbody := Node.unboundAll_eq_free
        (bound ∪ (params.map (·.name)).toFinset ∪ {"caller", "varargs", "kwargs"}) body
        fun inner hinner => hinOrder inner (by simp [Node.visits, hinner])
      simp only [Node.unbound, Node.reads, hbody, ScopedRead.free_append, List.map_append,
        ScopedRead.map_fst_free_reads, Parameter.unbound_defaultVisits]
  | .callBlock params call body span, hinOrder => by
      have hparams : Node.readsInOrder (.callBlock params call body span) = true :=
        hinOrder _ (by simp [Node.visits])
      have hbody := Node.unboundAll_eq_free (bound ∪ (params.map (·.name)).toFinset) body
        fun inner hinner => hinOrder inner (by simp [Node.visits, hinner])
      -- Without defaults it does not matter that the call is read before them.
      simp only [Node.unbound, Node.reads, hbody, ScopedRead.free_append, List.map_append,
        ScopedRead.map_fst_free_reads, Parameter.unbound_defaultVisits,
        Parameter.flatMap_unbound_of_none hparams, List.append_nil, List.nil_append,
        Expr.unbound_visits]
  | .withBlock bindings body span, hinOrder => by
      have hbody := Node.unboundAll_eq_free (bound ∪ (bindings.map Prod.fst).toFinset) body
        fun inner hinner => hinOrder inner (by simp [Node.visits, hinner])
      simp only [Node.unbound, Node.reads, hbody, ScopedRead.free_append, List.map_append,
        ScopedRead.map_fst_free_reads, Visit.unbound_flatMap, Expr.unbound_visits]
  | .filterBlock filters body span, hinOrder => by
      have hbody := Node.unboundAll_eq_free bound body fun inner hinner =>
        hinOrder inner (by simp [Node.visits, hinner])
      simp [Node.unbound, Node.reads, hbody]
  | .block name body span, hinOrder => by
      have hbody := Node.unboundAll_eq_free bound body fun inner hinner =>
        hinOrder inner (by simp [Node.visits, hinner])
      simp [Node.unbound, Node.reads, hbody]

theorem Node.unboundAll_eq_free (bound : Finset String) :
    (nodes : List Node) →
      (∀ inner, .node inner ∈ Node.listVisits nodes → inner.readsInOrder = true) →
        Node.unboundAll bound nodes = (ScopedRead.free (Node.readsAll bound nodes)).map Prod.fst
  | [], _ => rfl
  | node :: rest, hinOrder => by
      have hnode := node.unbound_eq_free bound fun inner hinner =>
        hinOrder inner (List.mem_append_left _ hinner)
      have hrest := Node.unboundAll_eq_free (bound ∪ node.binds) rest fun inner hinner =>
        hinOrder inner (List.mem_append_right _ hinner)
      rw [Node.unboundAll, Node.readsAll, ScopedRead.free_append, List.map_append, hnode, hrest]

theorem Branch.unboundAll_eq_free (bound : Finset String) :
    (branches : List Branch) →
      (∀ inner, .node inner ∈ Branch.listVisits branches → inner.readsInOrder = true) →
        Branch.unboundAll bound branches =
          (ScopedRead.free (Branch.readsAll bound branches)).map Prod.fst
  | [], _ => rfl
  | ⟨condition, body⟩ :: rest, hinOrder => by
      have hbody := Node.unboundAll_eq_free bound body fun inner hinner =>
        hinOrder inner (by simp [Branch.listVisits, hinner])
      have hrest := Branch.unboundAll_eq_free bound rest fun inner hinner =>
        hinOrder inner (by simp [Branch.listVisits, hinner])
      simp [Branch.unboundAll, Branch.readsAll, hbody, hrest]

end

end Collected

end TemplateVariables
