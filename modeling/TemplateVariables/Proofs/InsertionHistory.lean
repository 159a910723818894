import TemplateVariables.Proofs.LexicalScope

/-!
# Histories of insertions

A set of names comes about by collecting names and by inserting further ones.  Its list and its
test stay in step over every such history: the list holds the first occurrences of the history in
their order, and the test tells what occurs in it.  Whatever else the set answers, and whether it
is equal to another one, follows from these first occurrences.
-/

namespace TemplateVariables

namespace NameSet

/-- The set has come about by inserting the names of the history in their order.  It was empty at
first, or some names were collected at once. -/
inductive Arises : List String → NameSet → Prop
  | empty : Arises [] empty
  | ofList (names : List String) : Arises names (ofList names)
  | insert {history : List String} {set : NameSet} (harises : Arises history set)
      (name : String) : Arises (history ++ [name]) (set.insert name).1

namespace Arises

variable {history history' : List String} {set other : NameSet} {name : String}

theorem toList_eq (harises : Arises history set) : set.toList = history.eraseDups := by
  induction harises with
  | empty => rfl
  | ofList names => exact toList_ofList names
  | insert _ name ih => exact toList_insert_of_eraseDups ih name

theorem mem_toList_iff (harises : Arises history set) : name ∈ set.toList ↔ name ∈ history := by
  rw [harises.toList_eq]
  exact List.mem_eraseDups

theorem insert_answers_iff (harises : Arises history set) :
    (set.insert name).2 = true ↔ name ∉ history := by
  rw [NameSet.insert_answers_iff, harises.mem_toList_iff]

theorem eq_iff (harises : Arises history set) (hother : Arises history' other) :
    set = other ↔ history.eraseDups = history'.eraseDups := by
  rw [← harises.toList_eq, ← hother.toList_eq]
  exact ⟨congrArg toList, eq_of_toList_eq⟩

/-- The list has no repetitions and the names that the test knows; it is the history with later
repetitions dropped.  An insertion tells whether the name is new to the history, and one that is
not leaves the set as it is.  All other answers are read off the list, and sets are equal exactly
when their histories have the same first occurrences. -/
theorem insertionOrder (harises : Arises history set) :
    set.toList.Nodup ∧ (∀ name, set.seen name = true ↔ name ∈ set.toList) ∧
      set.toList = history.eraseDups ∧
      (∀ name, ((set.insert name).2 = true ↔ name ∉ history) ∧
        ((set.insert name).2 = false → (set.insert name).1 = set)) ∧
      (∀ name, set.contains name = true ↔ name ∈ history) ∧
      set.size = history.eraseDups.length ∧ (set.isEmpty = true ↔ history = []) ∧
      ∀ history' other, Arises history' other →
        (set = other ↔ history.eraseDups = history'.eraseDups) := by
  refine ⟨set.nodup, set.seen_iff, harises.toList_eq, fun name => ⟨harises.insert_answers_iff, ?_⟩,
    fun name => contains_iff.trans harises.mem_toList_iff, ?_, ?_,
    fun history' other hother => harises.eq_iff hother⟩
  · intro hold
    have hmem : name ∈ set.toList := by
      by_contra hnew
      rw [NameSet.insert_answers_iff.mpr hnew] at hold
      contradiction
    rw [insert_of_mem hmem]
  · rw [size, harises.toList_eq]
  · have hnil : history.eraseDups = [] ↔ history = [] := by
      simp only [List.eq_nil_iff_forall_not_mem, List.mem_eraseDups]
    rw [isEmpty, List.isEmpty_iff, harises.toList_eq, hnil]

end Arises

/-- Names that are collected and inserted again, in two histories with the same first
occurrences. -/
theorem insertionOrder_repeated :
    let set := ((ofList ["b", "a", "b"]).insert "a").1
    let history := ["b", "a", "b"] ++ ["a"]
    Arises history set ∧ set.toList = ["b", "a"] ∧ set.size = 2 ∧
      (set.insert "b").2 = false ∧ (set.insert "b").1 = set ∧ (set.insert "c").2 = true ∧
      Arises ["b", "a"] (ofList ["b", "a"]) ∧ set = ofList ["b", "a"] ∧
      set ≠ ofList ["a", "b"] := by
  intro set history
  have harises : Arises history set := (Arises.ofList ["b", "a", "b"]).insert "a"
  obtain ⟨-, -, hlist, hinsert, -, hsize, -, hequal⟩ := Arises.insertionOrder harises
  have hfirsts : history.eraseDups = ["b", "a"] := by decide
  have hold : (set.insert "b").2 = false := by
    rw [Bool.eq_false_iff, ne_eq, (hinsert "b").1]
    decide
  refine ⟨harises, hlist.trans hfirsts, ?_, hold, (hinsert "b").2 hold,
    (hinsert "c").1.mpr (by decide), Arises.ofList _, ?_, ?_⟩
  · rw [hsize, hfirsts]
    rfl
  · exact (hequal _ _ (Arises.ofList ["b", "a"])).mpr (by decide)
  · rw [ne_eq, hequal _ _ (Arises.ofList ["a", "b"])]
    decide

end NameSet

end TemplateVariables
