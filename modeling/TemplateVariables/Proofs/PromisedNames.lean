import TemplateVariables.Proofs.ExtractedNames
import TemplateVariables.Proofs.SiblingScope

/-!
# Names that a caller promises to provide

Promised names lie below all frames, so that a frame may bind such a name again.  They are asked
for only where a name would be found free, and so they delete names from what is found without
them: every promise takes its own name away and leaves the others as they are, in their order.
-/

namespace TemplateVariables

namespace Globals

theorem contains_ofNames_append (promised more : List String) (name : String) :
    (ofNames (promised ++ more)).contains name =
      ((ofNames promised).contains name || decide (name ∈ more)) := by
  rw [Bool.eq_iff_iff, ← not_iff_not, Bool.not_eq_true, Bool.not_eq_true, Bool.or_eq_false_iff,
    contains_ofNames_eq_false, contains_ofNames_eq_false, List.mem_append, decide_eq_false_iff_not]
  tauto

theorem contains_ofNames_congr {first second : List String}
    (hnames : ∀ name, name ∈ first ↔ name ∈ second) :
    (ofNames first).contains = (ofNames second).contains := by
  funext name
  rw [Bool.eq_iff_iff, ← not_iff_not, Bool.not_eq_true, Bool.not_eq_true,
    contains_ofNames_eq_false, contains_ofNames_eq_false, hnames]

end Globals

/-- Globals matter only by the names that they contain. -/
theorem freeVariables_congr {first second : Globals} (hcontains : first.contains = second.contains)
    (nodes : List Node) : freeVariables first nodes = freeVariables second nodes := by
  rw [freeVariables_eq_ofList, freeVariables_eq_ofList, hcontains]

theorem extractWith_congr {first second : Globals} (hcontains : first.contains = second.contains)
    (template : String) : extractWith first template = extractWith second template := by
  unfold extractWith freeVariablesOf
  rw [funext (freeVariables_congr hcontains)]

theorem toList_freeVariables_ofNames_append (nodes : List Node) (promised more : List String) :
    (freeVariables (Globals.ofNames (promised ++ more)) nodes).toList =
      (freeVariables (Globals.ofNames promised) nodes).toList.filter fun name => name ∉ more := by
  rw [freeVariables_eq_ofList, freeVariables_eq_ofList, NameSet.toList_ofList,
    NameSet.toList_ofList, ← eraseDups_filter, List.filter_filter]
  congr 1
  apply List.filter_congr
  intro name _
  rw [Globals.contains_ofNames_append, Bool.not_or, decide_not, Bool.and_comm]

/-- Promising more names deletes them from the free variables and changes nothing else, whatever
binds them inside the nodes.  It depends only on which names are promised, not on their order or
on how often they are.  The same holds for extraction, where the error stays too. -/
theorem freeVariables_promised :
    (∀ (nodes : List Node) (promised more : List String),
      (freeVariables (Globals.ofNames (promised ++ more)) nodes).toList =
        (freeVariables (Globals.ofNames promised) nodes).toList.filter fun name =>
          name ∉ more) ∧
    (∀ (template : String) (promised more : List String),
      let before := extractWith (Globals.ofNames promised) template
      let after := extractWith (Globals.ofNames (promised ++ more)) template
      after.names.toList = (before.names.toList.filter fun name => name ∉ more) ∧
        after.error = before.error) ∧
    ∀ first second : List String, (∀ name, name ∈ first ↔ name ∈ second) →
      (∀ nodes, freeVariables (Globals.ofNames first) nodes =
        freeVariables (Globals.ofNames second) nodes) ∧
      ∀ template, extractWith (Globals.ofNames first) template =
        extractWith (Globals.ofNames second) template := by
  refine ⟨toList_freeVariables_ofNames_append, fun template promised more => ?_,
    fun first second hnames => ?_⟩
  · cases hnodes : Node.ofSource template.toList with
    | error error =>
        rw [extractWith_of_error hnodes, extractWith_of_error hnodes]
        exact ⟨rfl, rfl⟩
    | ok nodes =>
        rw [extractWith_of_ok hnodes, extractWith_of_ok hnodes]
        exact ⟨toList_freeVariables_ofNames_append nodes promised more, rfl⟩
  · have hcontains := Globals.contains_ofNames_congr hnames
    exact ⟨freeVariables_congr hcontains, extractWith_congr hcontains⟩

/-- Promised names that the template itself binds in a loop and by an assignment. -/
theorem freeVariables_promised_rebound :
    let template := "\x7b% for x in xs %\x7d\x7b\x7b x ~ y \x7d\x7d\x7b% endfor %\x7d" ++
      "\x7b\x7b x \x7d\x7d\x7b% set y = z %\x7d\x7b\x7b y ~ x \x7d\x7d"
    (extractWith (Globals.ofNames ["w"]) template).names.toList = ["xs", "y", "x", "z"] ∧
    (extractWith (Globals.ofNames ["w", "x", "y"]) template).names.toList = ["xs", "z"] ∧
    (∀ name, name ∈ ["w", "x", "y"] ↔ name ∈ ["y", "w", "x", "y"]) ∧
    (extractWith (Globals.ofNames ["y", "w", "x", "y"]) template).names.toList = ["xs", "z"] := by
  intro template
  obtain ⟨-, hmore, hsame⟩ := freeVariables_promised
  have hbefore :
      (extractWith (Globals.ofNames ["w"]) template).names.toList = ["xs", "y", "x", "z"] := by
    unfold extractWith freeVariablesOf
    rw [Node.ofSource_eq_build]
    decide +kernel
  have hafter := (hmore template ["w"] ["x", "y"]).1
  rw [hbefore] at hafter
  have hnames : ∀ name, name ∈ ["w", "x", "y"] ↔ name ∈ ["y", "w", "x", "y"] := by
    intro name
    simp only [List.mem_cons, List.not_mem_nil, or_false]
    tauto
  refine ⟨hbefore, hafter, hnames, ?_⟩
  rw [← (hsame _ _ hnames).2 template]
  exact hafter

end TemplateVariables
