import TemplateVariables.Proofs.Addresses
import TemplateVariables.Proofs.FreeOccurrences
import TemplateVariables.Proofs.Node.Occurrences

/-!
# Reading order

The walk over a template comes to its variables in the order in which they are written, and to
each of them once.  The free variables are listed in that order as well: every one of them by
the first place where its name is not bound.
-/

namespace TemplateVariables

open Text

/-! ## First occurrences -/

/-- Occurrences of other names do not matter to the search for a name. -/
theorem Occurrence.find?_filter_of_name {occurrence : Occurrence} {keep : Occurrence → Bool}
    (occurrences : List Occurrence)
    (hkeep : ∀ other : Occurrence, other.1 = occurrence.1 → keep other = true) :
    (occurrences.filter keep).find? (·.1 == occurrence.1) =
      occurrences.find? (·.1 == occurrence.1) := by
  rw [List.find?_filter]
  congr 1
  funext other
  by_cases hother : other.1 = occurrence.1
  · simp [hother, hkeep other hother]
  · simp [hother]

/-- The first occurrences of all names stand in the order of the names without repetitions. -/
theorem Occurrence.exists_firsts (occurrences : List Occurrence) :
    ∃ firsts, List.Sublist firsts occurrences ∧
      firsts.map Prod.fst = (occurrences.map Prod.fst).eraseDups ∧
      ∀ first ∈ firsts, occurrences.find? (·.1 == first.1) = some first := by
  cases occurrences with
  | nil => exact ⟨[], List.Sublist.refl _, rfl, List.forall_mem_nil _⟩
  | cons occurrence rest =>
      -- The search goes on in the rest without the first name, hence no structural recursion.
      obtain ⟨firsts, hsublist, hnames, hfirst⟩ :=
        exists_firsts (rest.filter fun other => !other.1 == occurrence.1)
      refine ⟨occurrence :: firsts, (hsublist.trans List.filter_sublist).cons_cons _, ?_, ?_⟩
      · rw [List.map_cons, List.map_cons, List.eraseDups_cons, hnames, List.filter_map]
        rfl
      · refine List.forall_mem_cons.2 ⟨by simp, fun first hmem => ?_⟩
        have hother : first.1 ≠ occurrence.1 := by
          simpa using (List.mem_filter.1 (hsublist.subset hmem)).2
        rw [List.find?_cons, beq_false_of_ne hother.symm, ← hfirst first hmem]
        apply (find?_filter_of_name rest _).symm
        intro other hname
        simpa [hname] using hother
termination_by occurrences.length
decreasing_by exact Nat.lt_succ_of_le (List.length_filter_le _ _)

/-- The variables are written in this order, and so their spans begin in it as well, unless the
source is longer than spans can tell. -/
structure Occurrence.InReadingOrder (source : List Char) (occurrences : List Occurrence) :
    Prop where
  ascend : Ascend source occurrences
  starts : byteLength source < 2 ^ 32 →
    occurrences.Pairwise fun first second => first.2.start.toNat < second.2.start.toNat

theorem Occurrence.Ascend.inReadingOrder {source : List Char} {occurrences : List Occurrence}
    (hascend : Ascend source occurrences) : InReadingOrder source occurrences :=
  ⟨hascend, fun hsize => hascend.starts (Nat.le_sub_one_of_lt hsize)⟩

/-! ## Free variables -/

/-- Every free variable is listed by its first occurrence where its name is not bound, in the
order of these. -/
theorem exists_firsts_of_freeVariables (globals : Globals) {nodes : List Node}
    (hinOrder : ∀ node, .node node ∈ visits nodes → node.readsInOrder = true) :
    ∃ firsts, List.Sublist firsts (ScopedRead.free (Node.readsAll ∅ nodes)) ∧
      firsts.map Prod.fst = (freeVariables globals nodes).toList ∧
      ∀ first ∈ firsts,
        (ScopedRead.free (Node.readsAll ∅ nodes)).find? (·.1 == first.1) = some first := by
  have hunbound := Node.unboundAll_eq_free ∅ nodes fun inner hinner =>
    hinOrder inner (List.mem_cons_of_mem _ hinner)
  let free := ScopedRead.free (Node.readsAll ∅ nodes)
  let wanted (occurrence : Occurrence) : Bool := !globals.contains occurrence.1
  obtain ⟨firsts, hsublist, hnames, hfirst⟩ := Occurrence.exists_firsts (free.filter wanted)
  refine ⟨firsts, hsublist.trans List.filter_sublist, ?_, fun first hmem => ?_⟩
  · rw [hnames, freeVariables_eq_ofList, NameSet.toList_ofList, hunbound, List.filter_map]
    rfl
  · have hwanted := (List.mem_filter.1 (hsublist.subset hmem)).2
    rw [← hfirst first hmem]
    apply (Occurrence.find?_filter_of_name free _).symm
    intro other hother
    simpa [wanted, hother] using hwanted

/-- The walk over a template comes to the variable at every address of its tree once, in the
order in which the variables are written, and each of them is the name that its span marks in a
tag of the template.  If no node assigns to an attribute and no call block has defaults, then the
free variables are listed in this order too, each by its first occurrence that no scope around
it binds and no node in front of it in a list that it is in. -/
theorem Node.ofSource_readingOrder {source : List Char} {nodes : List Node}
    (hok : Node.ofSource source = .ok nodes) :
    let occurrences := (TemplateVariables.visits nodes).filterMap Visit.identifier?
    let reads := Node.readsAll ∅ nodes
    (∃ addresses, Subtree.Numbers (nodes.map .node) addresses ∧
      addresses.filterMap (Subtree.occurrenceAt? (nodes.map .node)) = occurrences) ∧
    (∃ tokens, Token.ofChars source = .ok tokens ∧
      List.Sublist (occurrences.map Occurrence.lexeme) (tokens.flatMap Token.lexemes)) ∧
    Occurrence.InReadingOrder source occurrences ∧
    reads.map (·.occurrence) = occurrences ∧
    ∀ globals, (∀ node, .node node ∈ TemplateVariables.visits nodes → node.readsInOrder = true) →
      ∃ firsts, firsts.map Prod.fst = (freeVariables globals nodes).toList ∧
        (∀ first ∈ firsts, (ScopedRead.free reads).find? (·.1 == first.1) = some first) ∧
        Occurrence.InReadingOrder source firsts := by
  intro occurrences reads
  obtain ⟨htokens, hascend⟩ := Node.exists_occurrences_of_ofSource hok
  have hreads : reads.map (·.occurrence) = occurrences :=
    Node.map_occurrence_readsAll ∅ nodes
  refine ⟨?_, htokens, hascend.inReadingOrder, hreads, fun globals hinOrder => ?_⟩
  · obtain ⟨addresses, hnumbers⟩ := Subtree.exists_numbers (nodes.map .node)
    refine ⟨addresses, hnumbers, ?_⟩
    rw [hnumbers.filterMap_occurrenceAt?, ← filterMap_identifier?_visits]
  · obtain ⟨firsts, hsublist, hnames, hfirst⟩ := exists_firsts_of_freeVariables globals hinOrder
    have hwalk : List.Sublist firsts occurrences := by
      rw [← hreads]
      exact hsublist.trans (ScopedRead.free_sublist reads)
    exact ⟨firsts, hnames, hfirst, (hascend.sublist hwalk).inReadingOrder⟩

/-- A loop with a condition, an assignment that hides a name, a filter with an argument and a
condition that is written behind its value. -/
theorem Node.ofSource_readingOrder_scopes :
    let source := ("\x7b% for x in xs if x > y %\x7d\x7b\x7b x ~ y \x7d\x7d\x7b% endfor %\x7d" ++
      "\x7b% set z = y|f(w) %\x7d\x7b\x7b z ~ (x if b else z) \x7d\x7d").toList
    let globals := Globals.ofNames ["w"]
    ∃ nodes, Node.ofSource source = .ok nodes ∧
      (∀ node, .node node ∈ TemplateVariables.visits nodes → node.readsInOrder = true) ∧
      (freeVariables globals nodes).toList = ["xs", "y", "x", "b"] ∧
      ∃ firsts, firsts.map Prod.fst = ["xs", "y", "x", "b"] ∧
        Occurrence.InReadingOrder source firsts := by
  intro source globals
  let inOrder : Visit → Bool
    | .node node => node.readsInOrder
    | _ => true
  have hread : (Node.ofSource source).map (fun nodes =>
      ((TemplateVariables.visits nodes).all inOrder, (freeVariables globals nodes).toList)) =
        .ok (true, ["xs", "y", "x", "b"]) := by
    rw [Node.ofSource_eq_build]
    decide +kernel
  obtain ⟨nodes, hok, hfacts⟩ := exists_of_map_eq_ok hread
  obtain ⟨hall, hfree⟩ := Prod.mk.inj hfacts
  have hinOrder : ∀ node, .node node ∈ TemplateVariables.visits nodes →
      node.readsInOrder = true := fun node hmem => List.all_eq_true.1 hall _ hmem
  obtain ⟨-, -, -, -, hcollected⟩ := Node.ofSource_readingOrder hok
  obtain ⟨firsts, hnames, -, hordered⟩ := hcollected globals hinOrder
  exact ⟨nodes, hok, hinOrder, hfree, firsts, hnames.trans hfree, hordered⟩

end TemplateVariables
