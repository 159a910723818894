import TemplateVariables.Extraction
import TemplateVariables.Proofs.Node.Identifiers

/-!
# What a caller is asked for

A name that is extracted from a template is written in one of its tags and is no global.  No
operator word is extracted but as the namespace of an assignment to an attribute.
-/

namespace TemplateVariables

namespace Globals

theorem sameUpToCase_iff {a b : String} : sameUpToCase a b = true ↔ a.toLower = b.toLower := by
  unfold sameUpToCase String.toLower
  rw [beq_iff_eq, ← String.toList_inj, String.toList_map, String.toList_map]

/-- A name is left to the caller when it is no built-in one, does not spell a literal in any
letter case and is not promised. -/
theorem contains_ofNames_eq_false {extra : List String} {name : String} :
    (Globals.ofNames extra).contains name = false ↔
      name ∉ builtins ∧ name.toLower ∉ literals ∧ name ∉ extra := by
  have hextra : (Globals.ofNames extra).extra.contains name = true ↔ name ∈ extra := by
    rw [Globals.ofNames, NameSet.contains_iff, NameSet.toList_ofList, List.mem_eraseDups]
  have hliterals : literals.any (sameUpToCase name) = true ↔ name.toLower ∈ literals := by
    rw [List.any_eq_true]
    simp only [sameUpToCase_iff]
    have hlower : ∀ literal ∈ literals, literal.toLower = literal := by decide +kernel
    constructor
    · rintro ⟨literal, hmem, hname⟩
      rwa [hname, hlower literal hmem]
    · intro hmem
      exact ⟨name.toLower, hmem, (hlower _ hmem).symm⟩
  rw [← Bool.not_eq_true, Globals.contains, Bool.or_eq_true, Bool.or_eq_true, hextra, hliterals,
    List.contains_iff_mem]
  tauto

end Globals

theorem extractWith_of_ok {template : String} {nodes : List Node}
    (hok : Node.ofSource template.toList = .ok nodes) (globals : Globals) :
    extractWith globals template = ⟨freeVariables globals nodes, none⟩ := by
  unfold extractWith freeVariablesOf
  rw [hok]
  rfl

theorem extractWith_of_error {template : String} {error : ParseError}
    (herror : Node.ofSource template.toList = .error error) (globals : Globals) :
    extractWith globals template = ⟨NameSet.empty, some error.message⟩ := by
  unfold extractWith freeVariablesOf
  rw [herror]
  rfl

theorem exists_nodes_of_mem_extractWith {globals : Globals} {template name : String}
    (hname : name ∈ (extractWith globals template).names.toList) :
    ∃ nodes, Node.ofSource template.toList = .ok nodes ∧
      name ∈ (freeVariables globals nodes).toList := by
  cases hnodes : Node.ofSource template.toList with
  | error error =>
      rw [extractWith_of_error hnodes] at hname
      cases hname
  | ok nodes =>
      rw [extractWith_of_ok hnodes] at hname
      exact ⟨nodes, rfl, hname⟩

/-- An extracted name is no global, and it is written in some token of the template: as an
operator word only where an attribute of it is assigned to. -/
theorem offers_of_mem_extractWith {extra : List String} {template name : String}
    (hname : name ∈ (extractWith (Globals.ofNames extra) template).names.toList) :
    name ∉ Globals.builtins ∧ name.toLower ∉ Globals.literals ∧ name ∉ extra ∧
      ∃ tokens, Token.ofChars template.toList = .ok tokens ∧
        ∃ token ∈ tokens, token.Offers name := by
  obtain ⟨nodes, hnodes, hfree⟩ := exists_nodes_of_mem_extractWith hname
  rw [freeVariables_eq_ofList, NameSet.toList_ofList, List.mem_eraseDups, List.mem_filter,
    Bool.not_eq_true'] at hfree
  obtain ⟨hunbound, hglobal⟩ := hfree
  obtain ⟨hbuiltin, hliteral, hextra⟩ := Globals.contains_ofNames_eq_false.1 hglobal
  exact ⟨hbuiltin, hliteral, hextra, Node.exists_offers_of_ofSource hnodes hunbound⟩

/-- A literal in capitals is not extracted, a built-in name in other letters is, and so is an
operator word that has an attribute assigned to. -/
theorem offers_of_mem_extractWith_letterCase :
    let template := "\x7b% set in.x = Loop, TRUE %\x7d\x7b\x7b a if range is b else c \x7d\x7d"
    let names := (extractWith (Globals.ofNames ["c"]) template).names.toList
    names = ["Loop", "in", "a"] ∧ "in" ∈ names ∧
      "in" ∉ Globals.builtins ∧ "in".toLower ∉ Globals.literals ∧ "in" ∉ ["c"] ∧
        ∃ tokens, Token.ofChars template.toList = .ok tokens ∧
          ∃ token ∈ tokens, token.Offers "in" := by
  intro template names
  have hnames : names = ["Loop", "in", "a"] := by
    unfold names extractWith freeVariablesOf
    rw [Node.ofSource_eq_build]
    decide +kernel
  have hmem : "in" ∈ names := by
    rw [hnames]
    decide
  exact ⟨hnames, hmem, offers_of_mem_extractWith hmem⟩

/-- An operator word is extracted as a namespace, although it cannot be assigned to itself. -/
theorem extract_reserved_namespace :
    "and" ∈ reservedWords ∧
      extract "\x7b% set and.x = 1 %\x7d" = ⟨NameSet.ofList ["and"], none⟩ ∧
      extract "\x7b% set and = 1 %\x7d" = ⟨NameSet.empty, some "Cannot assign to 'and'"⟩ := by
  unfold extract extractWith freeVariablesOf
  rw [Node.ofSource_eq_build, Node.ofSource_eq_build]
  decide +kernel

end TemplateVariables
