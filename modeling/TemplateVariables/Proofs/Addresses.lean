import TemplateVariables.Proofs.Subtrees

/-!
# Addresses of trees

A tree inside other trees has an address: its index among them, or that of the tree it is in
with its own address among the children of that one.  The walk goes through all addresses in
ascending order, where an address stands before those that go on from it.
-/

namespace TemplateVariables.Subtree

/-- The tree at an address.  The empty address is that of no tree. -/
def at? (trees : List Subtree) : List Nat → Option Subtree
  | [] => none
  | [index] => trees[index]?
  | index :: next :: path => trees[index]?.bind fun tree => at? tree.children (next :: path)

/-- The addresses are those of all trees inside the trees, in ascending order, and the walk
comes to the trees in this order. -/
structure Numbers (trees : List Subtree) (addresses : List (List Nat)) : Prop where
  ascend : addresses.Pairwise (· < ·)
  complete : ∀ address tree, at? trees address = some tree → address ∈ addresses
  walk : addresses.map (at? trees) = (trees.flatMap all).map some

variable {tree : Subtree} {trees : List Subtree} {addresses inner outer : List (List Nat)}

theorem Numbers.ne_nil (hnumbers : Numbers trees addresses) {address : List Nat}
    (haddress : address ∈ addresses) : address ≠ [] := by
  rintro rfl
  have hmem : none ∈ addresses.map (at? trees) := List.mem_map.2 ⟨[], haddress, rfl⟩
  rw [hnumbers.walk] at hmem
  obtain ⟨tree, -, hnone⟩ := List.mem_map.1 hmem
  cases hnone

theorem at?_zero {path : List Nat} (hpath : path ≠ []) :
    at? (tree :: trees) (0 :: path) = at? tree.children path := by
  cases path with
  | nil => exact absurd rfl hpath
  | cons next path => rfl

theorem at?_modifyHead (tree : Subtree) (trees : List Subtree) (address : List Nat) :
    at? (tree :: trees) (address.modifyHead Nat.succ) = at? trees address := by
  rcases address with _ | ⟨index, _ | ⟨next, path⟩⟩ <;> rfl

theorem Numbers.nil : Numbers [] [] := by
  refine ⟨List.Pairwise.nil, ?_, rfl⟩
  intro address tree htree
  rcases address with _ | ⟨index, _ | ⟨next, path⟩⟩ <;> cases htree

/-- The addresses inside a tree and those of the trees behind it. -/
theorem Numbers.cons (hinner : Numbers tree.children inner) (houter : Numbers trees outer) :
    Numbers (tree :: trees)
      ([0] :: (inner.map (0 :: ·) ++ outer.map (·.modifyHead Nat.succ))) where
  ascend := by
    have hroot : ∀ address ∈ inner.map (0 :: ·) ++ outer.map (·.modifyHead Nat.succ),
        [0] < address := by
      intro address haddress
      rcases List.mem_append.1 haddress with hmem | hmem
      · obtain ⟨path, hpath, rfl⟩ := List.mem_map.1 hmem
        obtain ⟨next, rest, rfl⟩ := List.exists_cons_of_ne_nil (hinner.ne_nil hpath)
        exact List.cons_lt_cons_iff.2 (.inr ⟨rfl, List.nil_lt_cons next rest⟩)
      · obtain ⟨other, hother, rfl⟩ := List.mem_map.1 hmem
        obtain ⟨index, rest, rfl⟩ := List.exists_cons_of_ne_nil (houter.ne_nil hother)
        exact List.cons_lt_cons_iff.2 (.inl (Nat.succ_pos index))
    refine List.pairwise_cons.2 ⟨hroot, List.pairwise_append.2 ⟨?_, ?_, ?_⟩⟩
    · rw [List.pairwise_map]
      exact hinner.ascend.imp fun hlt => List.cons_lt_cons_iff.2 (.inr ⟨rfl, hlt⟩)
    · rw [List.pairwise_map]
      apply houter.ascend.imp_of_mem
      intro first second hfirst hsecond hlt
      obtain ⟨index, path, rfl⟩ := List.exists_cons_of_ne_nil (houter.ne_nil hfirst)
      obtain ⟨other, rest, rfl⟩ := List.exists_cons_of_ne_nil (houter.ne_nil hsecond)
      rcases List.cons_lt_cons_iff.1 hlt with hindex | ⟨rfl, hpath⟩
      · exact List.cons_lt_cons_iff.2 (.inl (Nat.succ_lt_succ hindex))
      · exact List.cons_lt_cons_iff.2 (.inr ⟨rfl, hpath⟩)
    · intro first hfirst second hsecond
      obtain ⟨path, -, rfl⟩ := List.mem_map.1 hfirst
      obtain ⟨other, hother, rfl⟩ := List.mem_map.1 hsecond
      obtain ⟨index, rest, rfl⟩ := List.exists_cons_of_ne_nil (houter.ne_nil hother)
      exact List.cons_lt_cons_iff.2 (.inl (Nat.succ_pos index))
  complete := by
    intro address found hfound
    rcases address with _ | ⟨_ | index, path⟩
    · cases hfound
    · by_cases hpath : path = []
      · rw [hpath]
        exact List.mem_cons_self
      · rw [at?_zero hpath] at hfound
        have hmem := List.mem_map_of_mem (f := (0 :: ·)) (hinner.complete path found hfound)
        exact List.mem_cons_of_mem _ (List.mem_append_left _ hmem)
    · have hother : at? trees (index :: path) = some found := by
        rw [← at?_modifyHead tree]
        exact hfound
      have hmem := List.mem_map_of_mem (f := (·.modifyHead Nat.succ))
        (houter.complete _ found hother)
      exact List.mem_cons_of_mem _ (List.mem_append_right _ hmem)
  walk := by
    have hchildren : (inner.map (0 :: ·)).map (at? (tree :: trees)) =
        (tree.children.flatMap all).map some := by
      rw [← hinner.walk, List.map_map]
      apply List.map_congr_left
      intro path hpath
      exact at?_zero (hinner.ne_nil hpath)
    have hothers : (outer.map (·.modifyHead Nat.succ)).map (at? (tree :: trees)) =
        (trees.flatMap all).map some := by
      rw [← houter.walk, List.map_map]
      exact List.map_congr_left fun address _ => at?_modifyHead tree trees address
    rw [List.map_cons, List.map_append, hchildren, hothers, List.flatMap_cons, all_eq,
      List.cons_append, List.map_cons, List.map_append]
    rfl

/-- The walk comes to every tree inside the trees once, in the order of the addresses. -/
theorem exists_numbers (trees : List Subtree) : ∃ addresses, Numbers trees addresses := by
  cases trees with
  | nil => exact ⟨[], Numbers.nil⟩
  | cons tree trees =>
      -- The trees that the walk comes to inside the tree, and behind it, are fewer.
      obtain ⟨inner, hinner⟩ := exists_numbers tree.children
      obtain ⟨outer, houter⟩ := exists_numbers trees
      exact ⟨_, hinner.cons houter⟩
termination_by (trees.flatMap all).length
decreasing_by
  all_goals
    rw [List.flatMap_cons, all_eq, List.length_append, List.length_cons]
    omega

def occurrenceAt? (trees : List Subtree) (address : List Nat) : Option Occurrence :=
  (at? trees address).bind occurrence?

/-- The variables at the addresses are those of the walk, each at an address of its own. -/
theorem Numbers.filterMap_occurrenceAt? (hnumbers : Numbers trees addresses) :
    addresses.filterMap (occurrenceAt? trees) = trees.flatMap occurrences := by
  have hfound := congrArg (List.filterMap (·.bind occurrence?)) hnumbers.walk
  rw [List.filterMap_map, List.filterMap_map, List.filterMap_flatMap] at hfound
  exact hfound

end TemplateVariables.Subtree
