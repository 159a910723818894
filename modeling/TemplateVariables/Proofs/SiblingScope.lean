import TemplateVariables.Proofs.LexicalScope

/-!
# Free variables of nodes in a row

More bound names only hide variables: under them, a template reads unbound what it reads
without them, less those names.  The variables of two lists of nodes in a row are therefore
those of the first list, and behind them those of the second that are new and that the
first does not bind.

What a list binds for the nodes behind it is bound by its own nodes.  No binding inside a
body counts.
-/

namespace TemplateVariables

/-! ## More bound names -/

section Union

variable (bound extra : Finset String)

theorem Expr.unbound_union (expr : Expr) :
    expr.unbound (bound ∪ extra) = (expr.unbound bound).filter fun name => name ∉ extra := by
  have hvisits (names : Finset String) : expr.unbound names = Visit.unbound names expr.visits :=
    (Expr.unbound_visits names expr).symm
  rw [hvisits, hvisits, Visit.unbound, Visit.unbound, List.filter_filter]
  apply List.filter_congr
  intro name _
  by_cases hbound : name ∈ bound <;> by_cases hextra : name ∈ extra <;> simp [hbound, hextra]

theorem Expr.unboundOption_union (option : Option Expr) :
    Expr.unboundOption (bound ∪ extra) option =
      (Expr.unboundOption bound option).filter fun name => name ∉ extra := by
  cases option with
  | none => rfl
  | some expr => exact expr.unbound_union bound extra

theorem FilterCall.flatMap_unbound_union (filters : List FilterCall) :
    filters.flatMap (FilterCall.unbound (bound ∪ extra)) =
      (filters.flatMap (FilterCall.unbound bound)).filter fun name => name ∉ extra := by
  have hexpr : Expr.unbound (bound ∪ extra) =
      fun expr => (expr.unbound bound).filter fun name => name ∉ extra :=
    funext (Expr.unbound_union bound extra)
  rw [List.filter_flatMap]
  congr 1
  funext filter
  rw [FilterCall.unbound_eq_flatMap, FilterCall.unbound_eq_flatMap, hexpr, List.filter_flatMap]

theorem SetTarget.unboundAll_union (targets : List SetTarget) :
    SetTarget.unboundAll (bound ∪ extra) targets =
      (SetTarget.unboundAll bound targets).filter fun name => name ∉ extra := by
  induction targets generalizing bound with
  | nil => rfl
  | cons target rest ih =>
      cases target with
      | name target =>
          rw [SetTarget.unboundAll, SetTarget.unboundAll, ← Finset.insert_union, ih]
      | «attribute» space name =>
          rw [SetTarget.unboundAll, SetTarget.unboundAll, ih, List.filter_append]
          congr 1
          by_cases hbound : space ∈ bound <;> by_cases hextra : space ∈ extra <;>
            simp [hbound, hextra]

end Union

section Union

variable (extra : Finset String)

mutual

theorem Node.unbound_union (bound : Finset String) :
    (node : Node) →
      node.unbound (bound ∪ extra) = (node.unbound bound).filter fun name => name ∉ extra
  | .text content span => rfl
  | .raw content span => rfl
  | .comment span => rfl
  | .loopControl kind span => rfl
  | .expression expr span => expr.unbound_union bound extra
  | .evaluate expr span => expr.unbound_union bound extra
  | .extendTemplate template span => template.unbound_union bound extra
  | .includeTemplate template span => template.unbound_union bound extra
  | .importTemplate template name span => template.unbound_union bound extra
  | .importNames template names span => template.unbound_union bound extra
  | .set targets value span => by
      rw [Node.unbound, Node.unbound, List.filter_append, value.unbound_union,
        SetTarget.unboundAll_union]
  | .conditional branches otherwise span => by
      rw [Node.unbound, Node.unbound, List.filter_append, Branch.unboundAll_union bound branches,
        Node.unboundOption_union bound otherwise]
  | .loop names iterable condition recursive body otherwise span => by
      rw [Node.unbound, Node.unbound, Finset.union_right_comm, iterable.unbound_union,
        Expr.unboundOption_union, Node.unboundAll_union _ body,
        Node.unboundOption_union bound otherwise]
      simp only [List.filter_append]
  | .setBlock name filters body span => by
      rw [Node.unbound, Node.unbound, Node.unboundAll_union bound body, List.filter_append,
        FilterCall.flatMap_unbound_union]
  | .macroBlock name params body span => by
      rw [Node.unbound, Node.unbound, Finset.union_right_comm bound extra,
        Finset.union_right_comm _ extra, Node.unboundAll_union _ body, List.filter_append,
        List.filter_flatMap]
      simp only [Expr.unboundOption_union]
  | .callBlock params call body span => by
      rw [Node.unbound, Node.unbound, Finset.union_right_comm, call.unbound_union,
        Node.unboundAll_union _ body, List.filter_append, List.filter_append,
        List.filter_flatMap]
      simp only [Expr.unboundOption_union]
  | .withBlock bindings body span => by
      rw [Node.unbound, Node.unbound, Finset.union_right_comm, Node.unboundAll_union _ body,
        List.filter_append, List.filter_flatMap]
      simp only [Expr.unbound_union]
  | .filterBlock filters body span => by
      rw [Node.unbound, Node.unbound, Node.unboundAll_union bound body, List.filter_append,
        FilterCall.flatMap_unbound_union]
  | .block name body span => Node.unboundAll_union bound body

theorem Node.unboundAll_union (bound : Finset String) :
    (nodes : List Node) →
      Node.unboundAll (bound ∪ extra) nodes =
        (Node.unboundAll bound nodes).filter fun name => name ∉ extra
  | [] => rfl
  | node :: rest => by
      rw [Node.unboundAll, Node.unboundAll, node.unbound_union bound, Finset.union_right_comm,
        Node.unboundAll_union _ rest, List.filter_append]

theorem Node.unboundOption_union (bound : Finset String) :
    (option : Option (List Node)) →
      Node.unboundOption (bound ∪ extra) option =
        (Node.unboundOption bound option).filter fun name => name ∉ extra
  | none => rfl
  | some nodes => Node.unboundAll_union bound nodes

theorem Branch.unboundAll_union (bound : Finset String) :
    (branches : List Branch) →
      Branch.unboundAll (bound ∪ extra) branches =
        (Branch.unboundAll bound branches).filter fun name => name ∉ extra
  | [] => rfl
  | ⟨condition, body⟩ :: rest => by
      rw [Branch.unboundAll, Branch.unboundAll, condition.unbound_union,
        Node.unboundAll_union bound body, Branch.unboundAll_union bound rest,
        List.filter_append, List.filter_append]

end

theorem Expr.unboundOption_subset (bound : Finset String) (option : Option Expr) :
    Expr.unboundOption bound option ⊆ Expr.unboundOption ∅ option := by
  rw [← Finset.empty_union bound, Expr.unboundOption_union]
  exact List.filter_subset_self _

theorem Node.unboundAll_subset (bound : Finset String) (nodes : List Node) :
    Node.unboundAll bound nodes ⊆ Node.unboundAll ∅ nodes := by
  rw [← Finset.empty_union bound, Node.unboundAll_union]
  exact List.filter_subset_self _

end Union

/-! ## Lists in a row -/

/-- The names that a list of nodes binds for the nodes behind it. -/
def Node.bindsAll : List Node → Finset String
  | [] => ∅
  | node :: rest => node.binds ∪ Node.bindsAll rest

theorem Node.unboundAll_append (bound : Finset String) (first second : List Node) :
    Node.unboundAll bound (first ++ second) =
      Node.unboundAll bound first ++
        (Node.unboundAll bound second).filter fun name => name ∉ Node.bindsAll first := by
  rw [← Node.unboundAll_union]
  induction first generalizing bound with
  | nil => rw [List.nil_append, Node.bindsAll, Finset.union_empty, Node.unboundAll, List.nil_append]
  | cons node rest ih =>
      rw [List.cons_append, Node.unboundAll, Node.unboundAll, ih, Node.bindsAll,
        Finset.union_assoc, List.append_assoc]

theorem Branch.unboundAll_append (bound : Finset String) (first second : List Branch) :
    Branch.unboundAll bound (first ++ second) =
      Branch.unboundAll bound first ++ Branch.unboundAll bound second := by
  induction first with
  | nil => rfl
  | cons branch rest ih =>
      obtain ⟨condition, body⟩ := branch
      rw [List.cons_append, Branch.unboundAll, Branch.unboundAll, ih, List.append_assoc,
        List.append_assoc, List.append_assoc]

theorem eraseDups_filter (keep : String → Bool) (names : List String) :
    (names.filter keep).eraseDups = names.eraseDups.filter keep := by
  cases names with
  | nil => rfl
  | cons name rest =>
      -- The search goes on in the rest without the first name, hence no structural recursion.
      have hrest := eraseDups_filter keep (rest.filter fun other => !other == name)
      rw [List.eraseDups_cons, List.filter_cons, List.filter_cons, ← hrest, List.filter_comm]
      by_cases hkeep : keep name = true
      · rw [if_pos hkeep, if_pos hkeep, List.eraseDups_cons]
      · have hkept : (rest.filter keep).filter (fun other => !other == name) =
            rest.filter keep := by
          apply List.filter_eq_self.2
          intro other hother
          have hne : other ≠ name := by
            rintro rfl
            exact hkeep (List.mem_filter.1 hother).2
          simpa using hne
        rw [if_neg hkeep, if_neg hkeep, hkept]
termination_by names.length
decreasing_by exact Nat.lt_succ_of_le (List.length_filter_le _ _)

theorem Node.mem_bindsAll {name : String} {nodes : List Node} :
    name ∈ Node.bindsAll nodes ↔ ∃ node ∈ nodes, name ∈ node.binds := by
  induction nodes with
  | nil => simp [Node.bindsAll]
  | cons node rest ih => simp [Node.bindsAll, ih]

theorem toList_freeVariables_append_eq (globals : Globals) (first second : List Node) :
    (freeVariables globals (first ++ second)).toList =
      (freeVariables globals first).toList ++
        (freeVariables globals second).toList.filter fun name =>
          name ∉ (freeVariables globals first).toList ∧ name ∉ Node.bindsAll first := by
  simp only [freeVariables_eq_ofList, NameSet.toList_ofList]
  rw [Node.unboundAll_append, List.filter_append, List.eraseDups_append, List.removeAll,
    ← eraseDups_filter, List.filter_filter, List.filter_filter, List.filter_filter]
  congr 2
  apply List.filter_congr
  intro name _
  by_cases hglobal : globals.contains name = true <;>
    by_cases hbinds : name ∈ Node.bindsAll first <;> simp [hglobal, hbinds]

/-- The free variables of two lists in a row are those of the first and, behind them, those of
the second that the first neither has nor binds.  So the free variables grow at their end with
every node, and a name is hidden only by nodes of the list itself, never by what is bound in
their bodies. -/
theorem toList_freeVariables_append (globals : Globals) :
    (∀ first second : List Node,
      (freeVariables globals (first ++ second)).toList =
        (freeVariables globals first).toList ++
          (freeVariables globals second).toList.filter fun name =>
            name ∉ (freeVariables globals first).toList ∧ name ∉ Node.bindsAll first) ∧
    (∀ (nodes : List Node) (short long : Nat), short ≤ long →
      (freeVariables globals (nodes.take short)).toList <+:
        (freeVariables globals (nodes.take long)).toList) ∧
    ∀ first second : List Node, ∀ name ∈ (freeVariables globals second).toList,
      (∀ node ∈ first, name ∉ node.binds) →
        name ∈ (freeVariables globals (first ++ second)).toList := by
  refine ⟨toList_freeVariables_append_eq globals, ?_, ?_⟩
  · intro nodes short long hle
    have htake : nodes.take long = nodes.take short ++ (nodes.take long).drop short := by
      conv_lhs => rw [← List.take_append_drop short (nodes.take long), List.take_take,
        Nat.min_eq_left hle]
    rw [htake, toList_freeVariables_append_eq]
    exact List.prefix_append _ _
  · intro first second name hname hbinds
    have hfirst : name ∉ Node.bindsAll first := by
      rw [Node.mem_bindsAll]
      rintro ⟨node, hnode, hmem⟩
      exact hbinds node hnode hmem
    rw [toList_freeVariables_append_eq, List.mem_append, List.mem_filter]
    by_cases hold : name ∈ (freeVariables globals first).toList
    · exact .inl hold
    · exact .inr ⟨hname, by simp [hold, hfirst]⟩

/-- What is assigned in a loop body hides nothing behind the loop, unlike what is assigned
beside it. -/
theorem toList_freeVariables_append_bodies :
    let span : Span := ⟨0, 1⟩
    let read (name : String) : Node := .expression (.identifier name span) span
    let assign (name value : String) : Node := .set [.name name] (.identifier value span) span
    let first : List Node :=
      [.loop ["x"] (.identifier "items" span) none false [assign "y" "x"] none span,
        assign "z" "items"]
    let second : List Node := [read "x", read "y", read "z", read "items"]
    let globals := Globals.ofNames []
    (freeVariables globals first).toList = ["items"] ∧
      (freeVariables globals second).toList = ["x", "y", "z", "items"] ∧
      (freeVariables globals (first ++ second)).toList = ["items", "x", "y"] ∧
      (1 ≤ 5 ∧ (freeVariables globals ((first ++ second).take 1)).toList <+:
        (freeVariables globals ((first ++ second).take 5)).toList) ∧
      "y" ∈ (freeVariables globals second).toList ∧ (∀ node ∈ first, "y" ∉ node.binds) ∧
      "y" ∈ (freeVariables globals (first ++ second)).toList := by
  intro span read assign first second globals
  have hfirst : (freeVariables globals first).toList = ["items"] := by decide +kernel
  have hsecond : (freeVariables globals second).toList = ["x", "y", "z", "items"] := by
    decide +kernel
  have hmem : "y" ∈ (freeVariables globals second).toList := by
    rw [hsecond]
    decide
  have hbinds : ∀ node ∈ first, "y" ∉ node.binds := by
    simp [first, assign, Node.binds, SetTarget.names]
  obtain ⟨happend, hprefix, hkept⟩ := toList_freeVariables_append globals
  have hboth : (freeVariables globals (first ++ second)).toList = ["items", "x", "y"] := by
    rw [happend, hfirst, hsecond]
    decide +kernel
  have hle : 1 ≤ 5 := by decide
  exact ⟨hfirst, hsecond, hboth, ⟨hle, hprefix (first ++ second) 1 5 hle⟩, hmem, hbinds,
    hkept first second "y" hmem hbinds⟩

end TemplateVariables
