import TemplateVariables.Proofs.Node.Identifiers
import TemplateVariables.Proofs.Renaming
import Mathlib.Data.Set.Basic

/-!
# The walk and the collector read the same names

The collector has a recursion of its own over the tree, since it keeps frames where the walk
keeps nothing.  Both come to the same names: what is collected is read on the walk, as a
variable or as a namespace that is assigned to, and is no global; and what is read on the walk is
collected, unless it is a global or some node of the template binds it, at whatever place.

One inclusion forgets the frames.  For the other, a name is followed down to where it is read:
if it is not unbound there, then it was bound before, or a node on the way has bound it.
-/

namespace TemplateVariables

/-- The names that a node binds in its body without naming them. -/
def Node.impliedNames : Node → List String
  | .macroBlock .. => macroNames
  | _ => []

/-- All names that a node binds: for the nodes after it, or in a scope of its own. -/
def Node.bindsSomewhere (node : Node) : Finset String :=
  node.binds ∪ (node.boundNames ++ node.impliedNames).toFinset

theorem Node.mem_bindsSomewhere {node : Node} {name : String} :
    name ∈ node.bindsSomewhere ↔
      name ∈ node.binds ∨ name ∈ node.boundNames ∨ name ∈ node.impliedNames := by
  rw [Node.bindsSomewhere, Finset.mem_union, List.mem_toFinset, List.mem_append]

/-! ## What is read and what is bound on a walk -/

namespace Visit

/-- The name is read at one of the visits. -/
def Reads (visits : List Visit) (name : String) : Prop :=
  name ∈ visits.flatMap mentions

/-- One of the nodes that are visited binds the name. -/
def Binds (visits : List Visit) (name : String) : Prop :=
  ∃ node, .node node ∈ visits ∧ name ∈ node.bindsSomewhere

section Walk

variable {first second visits : List Visit} {node : Node} {count : Nat} {name : String}

theorem reads_append : Reads (first ++ second) name ↔ Reads first name ∨ Reads second name := by
  rw [Reads, List.flatMap_append, List.mem_append]
  rfl

theorem reads_cons_node :
    Reads (.node node :: visits) name ↔ name ∈ node.spaces ∨ Reads visits name := by
  rw [Reads, List.flatMap_cons, List.mem_append]
  rfl

theorem reads_cons_nodes : Reads (.nodes count :: visits) name ↔ Reads visits name := Iff.rfl

theorem binds_append : Binds (first ++ second) name ↔ Binds first name ∨ Binds second name := by
  simp only [Binds, List.mem_append, or_and_right, exists_or]

theorem binds_cons_node :
    Binds (.node node :: visits) name ↔ name ∈ node.bindsSomewhere ∨ Binds visits name := by
  simp [Binds, or_and_right, exists_or]

theorem binds_cons_nodes : Binds (.nodes count :: visits) name ↔ Binds visits name := by
  simp [Binds]

theorem reads_iff :
    Reads visits name ↔ name ∈ (visits.filterMap identifier?).map Prod.fst ∨
      ∃ node, .node node ∈ visits ∧ name ∈ node.spaces := by
  induction visits with
  | nil => simp [Reads]
  | cons visit rest ih =>
      cases visit with
      | node node =>
          rw [reads_cons_node, ih]
          simp [identifier?, or_and_right, exists_or, or_left_comm]
      | nodes count =>
          rw [reads_cons_nodes, ih]
          simp [identifier?]
      | filter stage => simpa [Reads, mentions, identifier?] using ih
      | expr value =>
          cases value with
          | identifier other span =>
              rw [Reads, List.flatMap_cons, List.mem_append, ← Reads, ih]
              simp [mentions, identifier?, or_assoc]
          | _ => simpa [Reads, mentions, identifier?] using ih

/-- Where no node is visited, only variables are read, and all in one scope. -/
theorem Reads.mem_unbound (hread : Reads visits name) (hvisits : ∀ node, .node node ∉ visits)
    (bound : Finset String) : name ∈ unbound bound visits ∨ name ∈ bound := by
  rcases reads_iff.1 hread with hvariable | ⟨node, hmem, -⟩
  · by_cases hbound : name ∈ bound
    · exact .inr hbound
    · exact .inl (List.mem_filter.2 ⟨hvariable, decide_eq_true hbound⟩)
  · exact absurd hmem (hvisits node)

end Walk

end Visit

/-! ## Each node in turn -/

theorem toFinset_macroNames : macroNames.toFinset = {"caller", "varargs", "kwargs"} := rfl

theorem Node.mem_visits (node : Node) : .node node ∈ node.visits := by
  cases node with
  | conditional branches otherwise span => cases otherwise <;> exact List.mem_cons_self
  | loop names iterable condition recursive body otherwise span =>
      cases otherwise <;> exact List.mem_cons_self
  | _ => exact List.mem_cons_self

section Scope

variable (bound : Finset String)

theorem Expr.mem_unbound_of_reads (value : Expr) (name : String)
    (hread : Visit.Reads value.visits name) : name ∈ value.unbound bound ∨ name ∈ bound := by
  rw [← value.unbound_visits]
  exact hread.mem_unbound (fun _ => value.node_notMem_visits) bound

theorem Expr.mem_unboundOption_of_reads (option : Option Expr) (name : String)
    (hread : Visit.Reads (Expr.optionVisits option) name) :
    name ∈ Expr.unboundOption bound option ∨ name ∈ bound := by
  rw [← Expr.unbound_optionVisits]
  exact hread.mem_unbound (fun _ => Expr.node_notMem_optionVisits option) bound

theorem FilterCall.mem_unbound_of_reads (filters : List FilterCall) (name : String)
    (hread : Visit.Reads (filters.flatMap FilterCall.visits) name) :
    name ∈ filters.flatMap (FilterCall.unbound bound) ∨ name ∈ bound := by
  have hunbound := hread.mem_unbound (by simp [FilterCall.node_notMem_visits]) bound
  simpa only [Visit.unbound_flatMap, FilterCall.unbound_visits] using hunbound

theorem Parameter.mem_unbound_of_reads (params : List Parameter) (name : String)
    (hread : Visit.Reads (Parameter.defaultVisits params) name) :
    name ∈ (params.flatMap fun param => Expr.unboundOption bound param.default) ∨
      name ∈ bound := by
  rw [← Parameter.unbound_defaultVisits]
  exact hread.mem_unbound (by simp [Parameter.defaultVisits, Expr.node_notMem_optionVisits]) bound

theorem Expr.mem_unbound_of_reads_bindings (bindings : List (String × Expr)) (name : String)
    (hread : Visit.Reads (bindings.flatMap fun binding => binding.2.visits) name) :
    name ∈ (bindings.flatMap fun binding => binding.2.unbound bound) ∨ name ∈ bound := by
  have hunbound := hread.mem_unbound (by simp [Expr.node_notMem_visits]) bound
  simpa only [Visit.unbound_flatMap, Expr.unbound_visits] using hunbound

/-- A namespace may be the name that an earlier target of the same tag binds. -/
theorem SetTarget.mem_unboundAll_of_space (targets : List SetTarget) (name : String)
    (hspace : name ∈ targets.filterMap SetTarget.space?) :
    name ∈ SetTarget.unboundAll bound targets ∨ name ∈ bound ∨
      name ∈ SetTarget.names targets := by
  induction targets generalizing bound with
  | nil => cases hspace
  | cons target rest ih =>
      cases target with
      | name target =>
          have hrest := ih (insert target bound) hspace
          rw [Finset.mem_insert] at hrest
          rw [SetTarget.unboundAll, SetTarget.names, Finset.mem_insert]
          tauto
      | «attribute» space other =>
          rw [SetTarget.unboundAll, SetTarget.names, List.mem_append]
          rcases List.mem_cons.1 hspace with rfl | hrest
          · by_cases hbound : name ∈ bound <;> simp [hbound]
          · have hrest := ih bound hrest
            tauto

end Scope

section Walk

attribute [local grind =] List.mem_toFinset
  Visit.reads_append Visit.reads_cons_node Visit.reads_cons_nodes
  Visit.binds_append Visit.binds_cons_node Visit.binds_cons_nodes
  Node.mem_bindsSomewhere Node.binds Node.boundNames Node.impliedNames Node.spaces
  Node.visits Node.listVisits Branch.listVisits
  Node.unbound Node.unboundAll Node.unboundOption Branch.unboundAll

mutual

/-- What is read in a node is unbound there, or bound before, or one of the nodes that the walk
comes to binds it. -/
theorem Node.mem_unbound_of_reads (bound : Finset String) :
    (node : Node) → (name : String) → Visit.Reads node.visits name →
      name ∈ node.unbound bound ∨ name ∈ bound ∨ Visit.Binds node.visits name
  | .text .., _, hread => by cases hread
  | .raw .., _, hread => by cases hread
  | .comment .., _, hread => by cases hread
  | .loopControl .., _, hread => by cases hread
  | .expression expr _, name, hread => (expr.mem_unbound_of_reads bound name hread).imp_right .inl
  | .evaluate expr _, name, hread => (expr.mem_unbound_of_reads bound name hread).imp_right .inl
  | .extendTemplate template _, name, hread =>
      (template.mem_unbound_of_reads bound name hread).imp_right .inl
  | .includeTemplate template _, name, hread =>
      (template.mem_unbound_of_reads bound name hread).imp_right .inl
  | .importTemplate template _ _, name, hread =>
      (template.mem_unbound_of_reads bound name hread).imp_right .inl
  | .importNames template _ _, name, hread =>
      (template.mem_unbound_of_reads bound name hread).imp_right .inl
  | .set targets value span, name, hread => by
      have htargets := SetTarget.mem_unboundAll_of_space bound targets name
      have hvalue := value.mem_unbound_of_reads bound name
      grind
  | .conditional branches none span, name, hread => by
      have hbranches := Branch.mem_unboundAll_of_reads bound branches name
      grind
  | .conditional branches (some otherwise) span, name, hread => by
      have hbranches := Branch.mem_unboundAll_of_reads bound branches name
      have hotherwise := Node.mem_unboundAll_of_reads bound otherwise name
      grind
  | .loop names iterable condition recursive body none span, name, hread => by
      have hiterable := iterable.mem_unbound_of_reads bound name
      have hcondition :=
        Expr.mem_unboundOption_of_reads (bound ∪ names.toFinset) condition name
      have hbody := Node.mem_unboundAll_of_reads (bound ∪ names.toFinset) body name
      grind
  | .loop names iterable condition recursive body (some otherwise) span, name, hread => by
      have hiterable := iterable.mem_unbound_of_reads bound name
      have hcondition :=
        Expr.mem_unboundOption_of_reads (bound ∪ names.toFinset) condition name
      have hbody := Node.mem_unboundAll_of_reads (bound ∪ names.toFinset) body name
      have hotherwise := Node.mem_unboundAll_of_reads bound otherwise name
      grind
  | .setBlock other filters body span, name, hread => by
      have hfilters := FilterCall.mem_unbound_of_reads bound filters name
      have hbody := Node.mem_unboundAll_of_reads bound body name
      grind
  | .macroBlock other params body span, name, hread => by
      have hparams := Parameter.mem_unbound_of_reads bound params name
      have hbody := Node.mem_unboundAll_of_reads
        (bound ∪ (params.map (·.name)).toFinset ∪ macroNames.toFinset) body name
      rw [Node.unbound, ← toFinset_macroNames]
      grind
  | .callBlock params call body span, name, hread => by
      have hparams := Parameter.mem_unbound_of_reads bound params name
      have hcall := call.mem_unbound_of_reads bound name
      have hbody :=
        Node.mem_unboundAll_of_reads (bound ∪ (params.map (·.name)).toFinset) body name
      grind
  | .withBlock bindings body span, name, hread => by
      have hbindings := Expr.mem_unbound_of_reads_bindings bound bindings name
      have hbody :=
        Node.mem_unboundAll_of_reads (bound ∪ (bindings.map Prod.fst).toFinset) body name
      grind
  | .filterBlock filters body span, name, hread => by
      have hfilters := FilterCall.mem_unbound_of_reads bound filters name
      have hbody := Node.mem_unboundAll_of_reads bound body name
      grind
  | .block other body span, name, hread => by
      have hbody := Node.mem_unboundAll_of_reads bound body name
      grind

theorem Node.mem_unboundAll_of_reads (bound : Finset String) :
    (nodes : List Node) → (name : String) → Visit.Reads (Node.listVisits nodes) name →
      name ∈ Node.unboundAll bound nodes ∨ name ∈ bound ∨ Visit.Binds (Node.listVisits nodes) name
  | [], _, hread => by cases hread
  | node :: rest, name, hread => by
      have hnode := node.mem_unbound_of_reads bound name
      have hrest := Node.mem_unboundAll_of_reads (bound ∪ node.binds) rest name
      have hbinds (hmem : name ∈ node.binds) : Visit.Binds node.visits name :=
        ⟨node, node.mem_visits, Finset.mem_union_left _ hmem⟩
      grind

theorem Branch.mem_unboundAll_of_reads (bound : Finset String) :
    (branches : List Branch) → (name : String) → Visit.Reads (Branch.listVisits branches) name →
      name ∈ Branch.unboundAll bound branches ∨ name ∈ bound ∨
        Visit.Binds (Branch.listVisits branches) name
  | [], _, hread => by cases hread
  | ⟨condition, body⟩ :: rest, name, hread => by
      have hcondition := condition.mem_unbound_of_reads bound name
      have hbody := Node.mem_unboundAll_of_reads bound body name
      have hrest := Branch.mem_unboundAll_of_reads bound rest name
      grind

end

end Walk

/-! ## The collector beside the walk -/

/-- What is collected is read on the walk and is no global.  Conversely, whatever the walk comes
to, as a variable or as the namespace of an assignment, is collected unless it is a global or
some node binds it. -/
theorem freeVariables_between_walks (globals : Globals) (nodes : List Node) :
    let inside : Set Node := {node | .node node ∈ visits nodes}
    let read : Set String := {name | name ∈ identifiers nodes}
    let assigned : Set String := {name | ∃ node ∈ inside, name ∈ node.spaces}
    let bound : Set String := {name | ∃ node ∈ inside, name ∈ node.bindsSomewhere}
    let global : Set String := {name | globals.contains name = true}
    let collected : Set String := {name | name ∈ (freeVariables globals nodes).toList}
    (read ∪ assigned) \ (global ∪ bound) ⊆ collected ∧ collected ⊆ (read ∪ assigned) \ global := by
  intro inside read assigned bound global collected
  have hwalked (name : String) :
      name ∈ read ∪ assigned ↔ Visit.Reads (Node.listVisits nodes) name :=
    Visit.reads_iff.symm.trans Visit.reads_cons_nodes
  have hcollected (name : String) :
      name ∈ collected ↔ name ∈ Node.unboundAll ∅ nodes ∧ name ∉ global := by
    change name ∈ (freeVariables globals nodes).toList ↔ _
    rw [freeVariables_eq_ofList, NameSet.toList_ofList, List.mem_eraseDups, List.mem_filter,
      Bool.not_eq_true', ← Bool.not_eq_true]
    rfl
  constructor
  · rintro name ⟨hread, hother⟩
    obtain ⟨hglobal, hbound⟩ := not_or.1 hother
    rcases Node.mem_unboundAll_of_reads ∅ nodes name ((hwalked name).1 hread) with
      hunbound | hnone | hbinds
    · exact (hcollected name).2 ⟨hunbound, hglobal⟩
    · cases hnone
    · exact absurd (Visit.binds_cons_nodes.2 hbinds) hbound
  · intro name hname
    obtain ⟨hunbound, hglobal⟩ := (hcollected name).1 hname
    exact ⟨(hwalked name).2 (Node.unboundAll_subset_mentions ∅ nodes hunbound), hglobal⟩

end TemplateVariables
