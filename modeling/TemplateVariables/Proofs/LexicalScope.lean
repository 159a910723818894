import TemplateVariables.Collector
import Mathlib.Data.Finset.Basic
import Mathlib.Data.Finset.Union

/-!
# Lexical scoping of the free variables

The collector keeps a stack of frames, which its hooks push, extend and pop.
This file compares it with a definition in which the bound names are passed
down as an immutable set: a list of nodes hands the set on from sibling to
sibling, and a body gets a set of its own which nobody else sees.

The comparison is an invariant.  It says which names the frames bind, which
frames lie below the innermost one, and what has been found so far.  Reading,
binding and leaving a frame each move the invariant by one step, and the walk
over a tree moves it by what the definition by sets says.
-/

namespace TemplateVariables

/-! ## Unbound names, by sets -/

mutual

/-- The variables that an expression reads and that `bound` lacks, in order. -/
def Expr.unbound (bound : Finset String) : Expr → List String
  | .literal .. => []
  | .identifier name _ => if name ∈ bound then [] else [name]
  | .attribute base _ _ => base.unbound bound
  | .subscript base index _ => base.unbound bound ++ index.unbound bound
  | .slice start stop step _ =>
      Expr.unboundOption bound start ++ Expr.unboundOption bound stop ++
        Expr.unboundOption bound step
  | .call callee args _ => callee.unbound bound ++ Expr.unboundArguments bound args
  | .filter value filter _ => value.unbound bound ++ filter.unbound bound
  | .test value _ args _ _ => value.unbound bound ++ Expr.unboundArguments bound args
  | .unary _ operand _ => operand.unbound bound
  | .binary _ left right _ => left.unbound bound ++ right.unbound bound
  | .conditional value condition otherwise _ =>
      value.unbound bound ++ condition.unbound bound ++ Expr.unboundOption bound otherwise
  | .list items _ => Expr.unboundList bound items
  | .tuple items _ => Expr.unboundList bound items
  | .dict entries _ => Expr.unboundEntries bound entries

def FilterCall.unbound (bound : Finset String) : FilterCall → List String
  | ⟨_, args, _⟩ => Expr.unboundArguments bound args

def Expr.unboundOption (bound : Finset String) : Option Expr → List String
  | none => []
  | some expr => expr.unbound bound

def Expr.unboundList (bound : Finset String) : List Expr → List String
  | [] => []
  | expr :: rest => expr.unbound bound ++ Expr.unboundList bound rest

def Expr.unboundArguments (bound : Finset String) : List Argument → List String
  | [] => []
  | ⟨_, value⟩ :: rest => value.unbound bound ++ Expr.unboundArguments bound rest

def Expr.unboundEntries (bound : Finset String) : List (Expr × Expr) → List String
  | [] => []
  | (key, value) :: rest =>
      key.unbound bound ++ value.unbound bound ++ Expr.unboundEntries bound rest

end

/-- The names among the targets of a `set` tag. -/
def SetTarget.names : List SetTarget → Finset String
  | [] => ∅
  | .name target :: rest => insert target (SetTarget.names rest)
  | .attribute _ _ :: rest => SetTarget.names rest

/-- The names that a node binds for the nodes after it in the same list. -/
def Node.binds : Node → Finset String
  | .set targets _ _ => SetTarget.names targets
  | .setBlock name _ _ _ => {name}
  | .importTemplate _ name _ => {name}
  | .importNames _ names _ => (names.map (·.bound)).toFinset
  | .text .. | .raw .. | .comment .. | .expression .. | .evaluate .. | .conditional ..
  | .loop .. | .macroBlock .. | .callBlock .. | .withBlock .. | .filterBlock .. | .block ..
  | .extendTemplate .. | .includeTemplate .. | .loopControl .. => ∅

/-- The namespaces that assignments read, where a target may be a name that an
earlier target of the same tag has bound. -/
def SetTarget.unboundAll (bound : Finset String) : List SetTarget → List String
  | [] => []
  | .name target :: rest => SetTarget.unboundAll (insert target bound) rest
  | .attribute space _ :: rest =>
      (if space ∈ bound then [] else [space]) ++ SetTarget.unboundAll bound rest

mutual

/-- The variables that a node reads where neither `bound` nor the node itself
binds them, in order. -/
def Node.unbound (bound : Finset String) : Node → List String
  | .text .. => []
  | .raw .. => []
  | .comment .. => []
  | .expression expr _ => expr.unbound bound
  | .evaluate expr _ => expr.unbound bound
  | .conditional branches otherwise _ =>
      Branch.unboundAll bound branches ++ Node.unboundOption bound otherwise
  | .loop names iterable condition _ body otherwise _ =>
      iterable.unbound bound ++
        Expr.unboundOption (bound ∪ names.toFinset) condition ++
        Node.unboundAll (bound ∪ names.toFinset) body ++
        Node.unboundOption bound otherwise
  | .set targets value _ => value.unbound bound ++ SetTarget.unboundAll bound targets
  | .setBlock _ filters body _ =>
      filters.flatMap (FilterCall.unbound bound) ++ Node.unboundAll bound body
  | .macroBlock _ params body _ =>
      params.flatMap (fun param => Expr.unboundOption bound param.default) ++
        Node.unboundAll
          (bound ∪ (params.map (·.name)).toFinset ∪ {"caller", "varargs", "kwargs"}) body
  | .callBlock params call body _ =>
      call.unbound bound ++
        params.flatMap (fun param => Expr.unboundOption bound param.default) ++
        Node.unboundAll (bound ∪ (params.map (·.name)).toFinset) body
  | .withBlock bindings body _ =>
      bindings.flatMap (fun binding => binding.2.unbound bound) ++
        Node.unboundAll (bound ∪ (bindings.map Prod.fst).toFinset) body
  | .filterBlock filters body _ =>
      filters.flatMap (FilterCall.unbound bound) ++ Node.unboundAll bound body
  | .block _ body _ => Node.unboundAll bound body
  | .extendTemplate template _ => template.unbound bound
  | .includeTemplate template _ => template.unbound bound
  | .importTemplate template _ _ => template.unbound bound
  | .importNames template _ _ => template.unbound bound
  | .loopControl .. => []

/-- The variables that a list of nodes reads unbound; what a node binds holds
for the nodes after it. -/
def Node.unboundAll (bound : Finset String) : List Node → List String
  | [] => []
  | node :: rest => node.unbound bound ++ Node.unboundAll (bound ∪ node.binds) rest

def Node.unboundOption (bound : Finset String) : Option (List Node) → List String
  | none => []
  | some nodes => Node.unboundAll bound nodes

def Branch.unboundAll (bound : Finset String) : List Branch → List String
  | [] => []
  | ⟨condition, body⟩ :: rest =>
      condition.unbound bound ++ Node.unboundAll bound body ++ Branch.unboundAll bound rest

end

/-- The names of the variables among some visits that `bound` lacks. -/
def Visit.unbound (bound : Finset String) (visits : List Visit) : List String :=
  ((visits.filterMap Visit.identifier?).map Prod.fst).filter fun name => name ∉ bound

@[simp] theorem Visit.unbound_nil (bound : Finset String) : Visit.unbound bound [] = [] := rfl

@[simp] theorem Visit.unbound_append (bound : Finset String) (first second : List Visit) :
    Visit.unbound bound (first ++ second) =
      Visit.unbound bound first ++ Visit.unbound bound second := by
  simp [Visit.unbound]

theorem Visit.unbound_cons_of_none {bound : Finset String} {visit : Visit}
    (hvisit : visit.identifier? = none) (rest : List Visit) :
    Visit.unbound bound (visit :: rest) = Visit.unbound bound rest := by
  simp [Visit.unbound, hvisit]

theorem Visit.unbound_identifier (bound : Finset String) (name : String) (span : Span) :
    Visit.unbound bound [.expr (.identifier name span)] =
      if name ∈ bound then [] else [name] := by
  by_cases hmem : name ∈ bound <;> simp [Visit.unbound, Visit.identifier?, hmem]

theorem Visit.unbound_empty (visits : List Visit) :
    Visit.unbound ∅ visits = (visits.filterMap Visit.identifier?).map Prod.fst := by
  rw [Visit.unbound, List.filter_eq_self]
  intro name _
  exact decide_eq_true (Finset.notMem_empty name)

theorem Visit.unbound_eq_flatMap (bound : Finset String) (visits : List Visit) :
    Visit.unbound bound visits =
      ((visits.filterMap Visit.identifier?).map Prod.fst).flatMap fun name =>
        if name ∈ bound then [] else [name] := by
  unfold Visit.unbound
  induction (visits.filterMap Visit.identifier?).map Prod.fst with
  | nil => rfl
  | cons name rest ih =>
      rw [List.filter_cons, List.flatMap_cons, ih]
      by_cases hmem : name ∈ bound <;> simp [hmem]

mutual

theorem Expr.unbound_visits (bound : Finset String) :
    (expr : Expr) → Visit.unbound bound expr.visits = expr.unbound bound
  | .literal value span => by
      rw [Expr.visits, Visit.unbound_cons_of_none rfl, Expr.unbound, Visit.unbound_nil]
  | .identifier name span => by
      rw [Expr.visits, Visit.unbound_identifier, Expr.unbound]
  | .attribute base name span => by
      rw [Expr.visits, Visit.unbound_cons_of_none rfl, Expr.unbound, base.unbound_visits]
  | .subscript base index span => by
      rw [Expr.visits, Visit.unbound_cons_of_none rfl, Visit.unbound_append, Expr.unbound,
        base.unbound_visits, index.unbound_visits]
  | .slice start stop step span => by
      rw [Expr.visits, Visit.unbound_cons_of_none rfl, Visit.unbound_append,
        Visit.unbound_append, Expr.unbound, Expr.unbound_optionVisits bound start,
        Expr.unbound_optionVisits bound stop, Expr.unbound_optionVisits bound step]
  | .call callee args span => by
      rw [Expr.visits, Visit.unbound_cons_of_none rfl, Visit.unbound_append, Expr.unbound,
        callee.unbound_visits, Expr.unbound_argumentVisits bound args]
  | .filter value filter span => by
      rw [Expr.visits, Visit.unbound_cons_of_none rfl, Visit.unbound_append, Expr.unbound,
        value.unbound_visits, filter.unbound_visits]
  | .test value name args negated span => by
      rw [Expr.visits, Visit.unbound_cons_of_none rfl, Visit.unbound_append, Expr.unbound,
        value.unbound_visits, Expr.unbound_argumentVisits bound args]
  | .unary op operand span => by
      rw [Expr.visits, Visit.unbound_cons_of_none rfl, Expr.unbound, operand.unbound_visits]
  | .binary op left right span => by
      rw [Expr.visits, Visit.unbound_cons_of_none rfl, Visit.unbound_append, Expr.unbound,
        left.unbound_visits, right.unbound_visits]
  | .conditional value condition otherwise span => by
      rw [Expr.visits, Visit.unbound_cons_of_none rfl, Visit.unbound_append,
        Visit.unbound_append, Expr.unbound, value.unbound_visits, condition.unbound_visits,
        Expr.unbound_optionVisits bound otherwise]
  | .list items span => by
      rw [Expr.visits, Visit.unbound_cons_of_none rfl, Expr.unbound,
        Expr.unbound_listVisits bound items]
  | .tuple items span => by
      rw [Expr.visits, Visit.unbound_cons_of_none rfl, Expr.unbound,
        Expr.unbound_listVisits bound items]
  | .dict entries span => by
      rw [Expr.visits, Visit.unbound_cons_of_none rfl, Expr.unbound,
        Expr.unbound_entryVisits bound entries]

theorem FilterCall.unbound_visits (bound : Finset String) :
    (filter : FilterCall) → Visit.unbound bound filter.visits = filter.unbound bound
  | ⟨name, args, span⟩ => by
      rw [FilterCall.visits, Visit.unbound_cons_of_none rfl, FilterCall.unbound,
        Expr.unbound_argumentVisits bound args]

theorem Expr.unbound_optionVisits (bound : Finset String) :
    (option : Option Expr) →
      Visit.unbound bound (Expr.optionVisits option) = Expr.unboundOption bound option
  | none => rfl
  | some expr => by
      rw [Expr.optionVisits, Expr.unboundOption, expr.unbound_visits]

theorem Expr.unbound_listVisits (bound : Finset String) :
    (exprs : List Expr) →
      Visit.unbound bound (Expr.listVisits exprs) = Expr.unboundList bound exprs
  | [] => rfl
  | expr :: rest => by
      rw [Expr.listVisits, Visit.unbound_append, Expr.unboundList, expr.unbound_visits,
        Expr.unbound_listVisits bound rest]

theorem Expr.unbound_argumentVisits (bound : Finset String) :
    (args : List Argument) →
      Visit.unbound bound (Expr.argumentVisits args) = Expr.unboundArguments bound args
  | [] => rfl
  | ⟨name, value⟩ :: rest => by
      rw [Expr.argumentVisits, Visit.unbound_append, Expr.unboundArguments,
        value.unbound_visits, Expr.unbound_argumentVisits bound rest]

theorem Expr.unbound_entryVisits (bound : Finset String) :
    (entries : List (Expr × Expr)) →
      Visit.unbound bound (Expr.entryVisits entries) = Expr.unboundEntries bound entries
  | [] => rfl
  | (key, value) :: rest => by
      rw [Expr.entryVisits, Visit.unbound_append, Visit.unbound_append, Expr.unboundEntries,
        key.unbound_visits, value.unbound_visits, Expr.unbound_entryVisits bound rest]

end

theorem Expr.unboundArguments_eq_flatMap (bound : Finset String) (args : List Argument) :
    Expr.unboundArguments bound args = (args.map (·.value)).flatMap (Expr.unbound bound) := by
  induction args with
  | nil => rfl
  | cons arg rest ih =>
      obtain ⟨keyword, value⟩ := arg
      rw [Expr.unboundArguments, ih, List.map_cons, List.flatMap_cons]

theorem FilterCall.unbound_eq_flatMap (bound : Finset String) (filter : FilterCall) :
    filter.unbound bound = (filter.args.map (·.value)).flatMap (Expr.unbound bound) := by
  obtain ⟨name, args, span⟩ := filter
  rw [FilterCall.unbound, Expr.unboundArguments_eq_flatMap]

theorem Parameter.flatMap_unbound_default (bound : Finset String) (params : List Parameter) :
    (params.filterMap (·.default)).flatMap (Expr.unbound bound) =
      params.flatMap fun param => Expr.unboundOption bound param.default := by
  induction params with
  | nil => rfl
  | cons param rest ih =>
      rw [List.flatMap_cons, ← ih]
      cases hdefault : param.default <;> simp [hdefault, Expr.unboundOption]

/-! ## The invariant of a walk -/

namespace NameSet

theorem toList_insert_of_eraseDups {set : NameSet} {names : List String}
    (hset : set.toList = names.eraseDups) (name : String) :
    (set.insert name).1.toList = (names ++ [name]).eraseDups := by
  rw [List.eraseDups_append, ← hset]
  by_cases hmem : name ∈ set.toList
  · have hold : name ∈ names := by
      rw [hset] at hmem
      exact List.mem_eraseDups.mp hmem
    rw [insert_of_mem hmem]
    simp [List.removeAll, hold]
  · have hnew : name ∉ names := by
      intro hold
      apply hmem
      rw [hset]
      exact List.mem_eraseDups.mpr hold
    rw [toList_insert_of_not_mem hmem]
    simp [List.removeAll, hnew, List.eraseDups_cons]

theorem toList_ofList (names : List String) :
    (NameSet.ofList names).toList = names.eraseDups := by
  induction names using List.reverseRecOn with
  | nil => rfl
  | append_singleton names name ih =>
      have hlast : NameSet.ofList (names ++ [name]) = ((NameSet.ofList names).insert name).1 := by
        rw [NameSet.ofList, List.foldl_append]
        rfl
      rw [hlast, NameSet.toList_insert_of_eraseDups ih]

end NameSet

/-- The frames of a collector bind `bound` on top of the frames `outer`, and
`found` has been read unbound, of which the collector keeps the first reading
of every name that is not global. -/
structure Collector.Mirrors (globals : Globals) (outer : List (List String))
    (bound : Finset String) (found : List String) (collector : Collector) : Prop where
  globals_eq : collector.scopes.globals = globals
  frames_eq : ∃ innermost, collector.scopes.frames = innermost :: outer
  mem_frames : ∀ name, (∃ frame ∈ collector.scopes.frames, name ∈ frame) ↔ name ∈ bound
  free_eq : collector.free.toList =
    (found.filter fun name => !globals.contains name).eraseDups

namespace Collector.Mirrors

variable {globals : Globals} {outer : List (List String)} {bound : Finset String}
  {found : List String} {collector : Collector}

theorem isBound_iff (hmirrors : collector.Mirrors globals outer bound found) (name : String) :
    collector.scopes.isBound name = true ↔
      name ∈ bound ∨ globals.contains name = true := by
  rw [← hmirrors.mem_frames name, ← hmirrors.globals_eq]
  simp [ScopeStack.isBound]

theorem reference (hmirrors : collector.Mirrors globals outer bound found) (name : String) :
    (collector.reference name).Mirrors globals outer bound
      (found ++ if name ∈ bound then [] else [name]) := by
  have hbound := hmirrors.isBound_iff name
  unfold Collector.reference
  by_cases hmem : name ∈ bound
  · simpa [hbound.mpr (Or.inl hmem), hmem] using hmirrors
  · by_cases hglobal : globals.contains name = true
    · rw [if_pos (hbound.mpr (Or.inr hglobal)), if_neg hmem]
      refine ⟨hmirrors.globals_eq, hmirrors.frames_eq, hmirrors.mem_frames, ?_⟩
      simpa [hglobal] using hmirrors.free_eq
    · have hfree : ¬ collector.scopes.isBound name = true := by
        rw [hbound]
        exact not_or.mpr ⟨hmem, hglobal⟩
      rw [if_neg hfree, if_neg hmem]
      refine ⟨hmirrors.globals_eq, hmirrors.frames_eq, hmirrors.mem_frames, ?_⟩
      rw [NameSet.toList_insert_of_eraseDups hmirrors.free_eq]
      simp [hglobal]

theorem bind (hmirrors : collector.Mirrors globals outer bound found) (name : String) :
    (collector.bind name).Mirrors globals outer (insert name bound) found := by
  obtain ⟨innermost, hframes⟩ := hmirrors.frames_eq
  have hbind : (collector.bind name).scopes.frames = (name :: innermost) :: outer := by
    simp [Collector.bind, ScopeStack.bind, hframes]
  refine ⟨?_, ⟨_, hbind⟩, ?_, hmirrors.free_eq⟩
  · simpa [Collector.bind, ScopeStack.bind, hframes] using hmirrors.globals_eq
  · intro other
    rw [Finset.mem_insert, ← hmirrors.mem_frames other, hbind, hframes]
    simp [or_assoc]

/-- Leaving a frame undoes every binding made in it: the frames below are the
ones from before. -/
theorem within {inside : Collector → Collector} {found' : List String} {names : List String}
    (hmirrors : collector.Mirrors globals outer bound found)
    (hinside : ∀ {frames : List (List String)} {inner : Collector},
      inner.Mirrors globals frames (bound ∪ names.toFinset) found →
        ∃ bound', (inside inner).Mirrors globals frames bound' found') :
    (collector.within names inside).Mirrors globals outer bound found' := by
  have hpush : ({ collector with scopes := collector.scopes.push names } : Collector).Mirrors
      globals collector.scopes.frames (bound ∪ names.toFinset) found := by
    refine ⟨hmirrors.globals_eq, ⟨names, rfl⟩, ?_, hmirrors.free_eq⟩
    intro name
    rw [Finset.mem_union, ← hmirrors.mem_frames name, List.mem_toFinset]
    simp [ScopeStack.push, or_comm]
  obtain ⟨bound', hafter⟩ := hinside hpush
  obtain ⟨innermost, hframes⟩ := hafter.frames_eq
  have hpop : (collector.within names inside).scopes.frames = collector.scopes.frames := by
    simp [Collector.within, ScopeStack.pop, hframes]
  refine ⟨hafter.globals_eq, ?_, ?_, hafter.free_eq⟩
  · rw [hpop]
    exact hmirrors.frames_eq
  · rw [hpop]
    exact hmirrors.mem_frames

/-- A fold whose steps bind nothing finds what its steps find, one after the
other. -/
theorem foldl {α : Type} {step : Collector → α → Collector} {finds : α → List String}
    (hstep : ∀ {found : List String} {collector : Collector} (item : α),
      collector.Mirrors globals outer bound found →
        (step collector item).Mirrors globals outer bound (found ++ finds item))
    (hmirrors : collector.Mirrors globals outer bound found) (items : List α) :
    (items.foldl step collector).Mirrors globals outer bound
      (found ++ items.flatMap finds) := by
  induction items generalizing collector found with
  | nil => simpa using hmirrors
  | cons item rest ih =>
      rw [List.foldl_cons, List.flatMap_cons, ← List.append_assoc]
      exact ih (hstep item hmirrors)

theorem expr (hmirrors : collector.Mirrors globals outer bound found) (expr : Expr) :
    (collector.expr expr).Mirrors globals outer bound (found ++ expr.unbound bound) := by
  rw [← Expr.unbound_visits, Visit.unbound_eq_flatMap]
  exact hmirrors.foldl (fun name hmirrors => hmirrors.reference name) expr.identifiers

theorem exprs (hmirrors : collector.Mirrors globals outer bound found) (exprs : List Expr) :
    (collector.exprs exprs).Mirrors globals outer bound
      (found ++ exprs.flatMap (Expr.unbound bound)) :=
  hmirrors.foldl (fun value hmirrors => hmirrors.expr value) exprs

theorem filters (hmirrors : collector.Mirrors globals outer bound found)
    (filters : List FilterCall) :
    (collector.filters filters).Mirrors globals outer bound
      (found ++ filters.flatMap (FilterCall.unbound bound)) := by
  apply hmirrors.foldl
  intro found collector filter hmirrors
  rw [FilterCall.unbound_eq_flatMap]
  exact hmirrors.exprs (filter.args.map (·.value))

theorem defaults (hmirrors : collector.Mirrors globals outer bound found)
    (params : List Parameter) :
    (collector.defaults params).Mirrors globals outer bound
      (found ++ params.flatMap fun param => Expr.unboundOption bound param.default) := by
  rw [← Parameter.flatMap_unbound_default]
  exact hmirrors.exprs (params.filterMap (·.default))

theorem binds (hmirrors : collector.Mirrors globals outer bound found) (names : List String) :
    (names.foldl Collector.bind collector).Mirrors globals outer
      (bound ∪ names.toFinset) found := by
  induction names generalizing collector bound with
  | nil => simpa using hmirrors
  | cons name rest ih =>
      have hunion : bound ∪ (name :: rest).toFinset = insert name bound ∪ rest.toFinset := by
        rw [List.toFinset_cons, Finset.union_insert, Finset.insert_union]
      rw [List.foldl_cons, hunion]
      exact ih (hmirrors.bind name)

theorem assigns (hmirrors : collector.Mirrors globals outer bound found)
    (targets : List SetTarget) :
    (targets.foldl Collector.assign collector).Mirrors globals outer
      (bound ∪ SetTarget.names targets) (found ++ SetTarget.unboundAll bound targets) := by
  induction targets generalizing collector bound found with
  | nil => simpa [SetTarget.names, SetTarget.unboundAll] using hmirrors
  | cons target rest ih =>
      rw [List.foldl_cons]
      rcases target with target | ⟨space, attr⟩
      · have hunion : bound ∪ SetTarget.names (.name target :: rest) =
            insert target bound ∪ SetTarget.names rest := by
          rw [SetTarget.names, Finset.union_insert, Finset.insert_union]
        rw [hunion, SetTarget.unboundAll]
        exact ih (hmirrors.bind target)
      · rw [SetTarget.names, SetTarget.unboundAll, ← List.append_assoc]
        exact ih (hmirrors.reference space)

end Collector.Mirrors

/-! ## The walk -/

/-- Walking the nodes in an open frame finds what they read unbound. -/
def Node.FindsUnbound (globals : Globals) (nodes : List Node) : Prop :=
  ∀ {outer : List (List String)} {bound : Finset String} {found : List String}
    {collector : Collector}, collector.Mirrors globals outer bound found →
      ∃ bound', (Node.collectAll nodes collector).Mirrors globals outer bound'
        (found ++ Node.unboundAll bound nodes)

namespace Collector.Mirrors

variable {globals : Globals} {outer : List (List String)} {bound : Finset String}
  {found : List String} {collector : Collector}

theorem body (hmirrors : collector.Mirrors globals outer bound found) {nodes : List Node}
    (hnodes : Node.FindsUnbound globals nodes) :
    (collector.within [] (Node.collectAll nodes)).Mirrors globals outer bound
      (found ++ Node.unboundAll bound nodes) := by
  apply hmirrors.within
  intro frames inner hinner
  rw [List.toFinset_nil, Finset.union_empty] at hinner
  exact hnodes hinner

theorem scopedBody (hmirrors : collector.Mirrors globals outer bound found)
    (names : List String) {nodes : List Node} (hnodes : Node.FindsUnbound globals nodes) :
    (collector.within names fun collector =>
        collector.within [] (Node.collectAll nodes)).Mirrors globals outer bound
      (found ++ Node.unboundAll (bound ∪ names.toFinset) nodes) := by
  apply hmirrors.within
  intro frames inner hinner
  exact ⟨_, hinner.body hnodes⟩

theorem loopBody (hmirrors : collector.Mirrors globals outer bound found)
    (names : List String) (condition : Option Expr) {nodes : List Node}
    (hnodes : Node.FindsUnbound globals nodes) :
    (collector.within names fun collector =>
        (collector.exprs condition.toList).within [] (Node.collectAll nodes)).Mirrors
      globals outer bound
      (found ++ Expr.unboundOption (bound ∪ names.toFinset) condition ++
        Node.unboundAll (bound ∪ names.toFinset) nodes) := by
  apply hmirrors.within
  intro frames inner hinner
  have hcondition : condition.toList.flatMap (Expr.unbound (bound ∪ names.toFinset)) =
      Expr.unboundOption (bound ∪ names.toFinset) condition := by
    cases condition <;> simp [Expr.unboundOption]
  rw [← hcondition]
  exact ⟨_, (hinner.exprs condition.toList).body hnodes⟩

end Collector.Mirrors

section Walk

variable {globals : Globals}

mutual

theorem Node.collect_mirrors {outer : List (List String)} {bound : Finset String}
    {found : List String} {collector : Collector}
    (hmirrors : collector.Mirrors globals outer bound found) :
    (node : Node) →
      (node.collect collector).Mirrors globals outer (bound ∪ node.binds)
        (found ++ node.unbound bound)
  | .text content span => by
      simpa [Node.collect, Node.binds, Node.unbound] using hmirrors
  | .raw content span => by
      simpa [Node.collect, Node.binds, Node.unbound] using hmirrors
  | .comment span => by
      simpa [Node.collect, Node.binds, Node.unbound] using hmirrors
  | .loopControl kind span => by
      simpa [Node.collect, Node.binds, Node.unbound] using hmirrors
  | .expression expr span => by
      simpa [Node.collect, Node.binds, Node.unbound] using hmirrors.expr expr
  | .evaluate expr span => by
      simpa [Node.collect, Node.binds, Node.unbound] using hmirrors.expr expr
  | .extendTemplate template span => by
      simpa [Node.collect, Node.binds, Node.unbound] using hmirrors.expr template
  | .includeTemplate template span => by
      simpa [Node.collect, Node.binds, Node.unbound] using hmirrors.expr template
  | .importTemplate template name span => by
      rw [Node.collect, Node.binds, Node.unbound, Finset.union_comm]
      exact (hmirrors.expr template).bind name
  | .importNames template names span => by
      rw [Node.collect, Node.binds, Node.unbound]
      exact (hmirrors.expr template).binds (names.map (·.bound))
  | .set targets value span => by
      rw [Node.collect, Node.binds, Node.unbound, ← List.append_assoc]
      exact (hmirrors.expr value).assigns targets
  | .setBlock name filters body span => by
      have hbody := (hmirrors.filters filters).body (Node.collectAll_findsUnbound body)
      rw [Node.collect, Node.binds, Node.unbound, ← List.append_assoc, Finset.union_comm]
      exact hbody.bind name
  | .filterBlock filters body span => by
      have hbody := (hmirrors.filters filters).body (Node.collectAll_findsUnbound body)
      rw [Node.collect, Node.binds, Node.unbound, ← List.append_assoc, Finset.union_empty]
      exact hbody
  | .block name body span => by
      have hbody := hmirrors.body (Node.collectAll_findsUnbound body)
      rw [Node.collect, Node.binds, Node.unbound, Finset.union_empty]
      exact hbody
  | .macroBlock name params body span => by
      have hbody := (hmirrors.defaults params).scopedBody (params.map (·.name) ++ macroNames)
        (Node.collectAll_findsUnbound body)
      rw [List.toFinset_append, ← Finset.union_assoc, List.append_assoc] at hbody
      rw [Node.collect, Node.binds, Node.unbound, Finset.union_empty]
      exact hbody
  | .callBlock params call body span => by
      have hbody := ((hmirrors.expr call).defaults params).scopedBody (params.map (·.name))
        (Node.collectAll_findsUnbound body)
      rw [Node.collect, Node.binds, Node.unbound, Finset.union_empty, ← List.append_assoc,
        ← List.append_assoc]
      exact hbody
  | .withBlock bindings body span => by
      have hbody := (hmirrors.exprs (bindings.map Prod.snd)).scopedBody (bindings.map Prod.fst)
        (Node.collectAll_findsUnbound body)
      rw [List.flatMap_map] at hbody
      rw [Node.collect, Node.binds, Node.unbound, Finset.union_empty, ← List.append_assoc]
      exact hbody
  | .loop names iterable condition recursive body none span => by
      have hbody := (hmirrors.expr iterable).loopBody names condition
        (Node.collectAll_findsUnbound body)
      rw [Node.collect, Node.binds, Node.unbound, Node.unboundOption, Finset.union_empty,
        List.append_nil, ← List.append_assoc, ← List.append_assoc]
      exact hbody
  | .loop names iterable condition recursive body (some otherwise) span => by
      have hbody := (hmirrors.expr iterable).loopBody names condition
        (Node.collectAll_findsUnbound body)
      have hotherwise := hbody.body (Node.collectAll_findsUnbound otherwise)
      rw [Node.collect, Node.binds, Node.unbound, Node.unboundOption, Finset.union_empty,
        ← List.append_assoc, ← List.append_assoc, ← List.append_assoc]
      exact hotherwise
  | .conditional branches none span => by
      have hbranches := Branch.collectAll_mirrors hmirrors branches
      rw [Node.collect, Node.binds, Node.unbound, Node.unboundOption, Finset.union_empty,
        List.append_nil]
      exact hbranches
  | .conditional branches (some otherwise) span => by
      have hbranches := Branch.collectAll_mirrors hmirrors branches
      have hotherwise := hbranches.body (Node.collectAll_findsUnbound otherwise)
      rw [Node.collect, Node.binds, Node.unbound, Node.unboundOption, Finset.union_empty,
        ← List.append_assoc]
      exact hotherwise

theorem Node.collectAll_findsUnbound : (nodes : List Node) → Node.FindsUnbound globals nodes
  | [], _, bound, _, _, hmirrors =>
      ⟨bound, by simpa [Node.collectAll, Node.unboundAll] using hmirrors⟩
  | node :: rest, _, _, _, _, hmirrors => by
      rw [Node.collectAll, Node.unboundAll, ← List.append_assoc]
      exact Node.collectAll_findsUnbound rest (Node.collect_mirrors hmirrors node)

theorem Branch.collectAll_mirrors {outer : List (List String)} {bound : Finset String}
    {found : List String} {collector : Collector}
    (hmirrors : collector.Mirrors globals outer bound found) :
    (branches : List Branch) →
      (Branch.collectAll branches collector).Mirrors globals outer bound
        (found ++ Branch.unboundAll bound branches)
  | [] => by simpa [Branch.collectAll, Branch.unboundAll] using hmirrors
  | ⟨condition, body⟩ :: rest => by
      have hbody := (hmirrors.expr condition).body (Node.collectAll_findsUnbound body)
      rw [Branch.collectAll, Branch.unboundAll, ← List.append_assoc, ← List.append_assoc]
      exact Branch.collectAll_mirrors hbody rest

end

end Walk

theorem freeVariables_eq_ofList (globals : Globals) (nodes : List Node) :
    freeVariables globals nodes =
      NameSet.ofList ((Node.unboundAll ∅ nodes).filter fun name => !globals.contains name) := by
  have hstart : ({ Collector.new globals with
      scopes := (Collector.new globals).scopes.push [] } : Collector).Mirrors
      globals [] ∅ [] := by
    refine ⟨rfl, ⟨[], rfl⟩, ?_, rfl⟩
    intro name
    simp [Collector.new, ScopeStack.new, ScopeStack.push]
  obtain ⟨bound', hafter⟩ := Node.collectAll_findsUnbound nodes hstart
  apply NameSet.eq_of_toList_eq
  rw [NameSet.toList_ofList]
  exact hafter.free_eq

/-- The free variables of a template are those that lexical scoping leaves
unbound and that are not global, each at its first reading. -/
theorem toList_freeVariables (globals : Globals) (nodes : List Node) :
    (freeVariables globals nodes).toList =
      ((Node.unboundAll ∅ nodes).filter fun name => !globals.contains name).eraseDups := by
  rw [freeVariables_eq_ofList, NameSet.toList_ofList]

end TemplateVariables
