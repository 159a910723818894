/-!
# Sets of names

A set of names that remembers the order in which they were first inserted.  The order is a
list, and beside it stands a test that tells whether a name was inserted, so that nothing has
to be looked for in the list.
-/

namespace TemplateVariables

structure NameSet where
  /-- The names in the order of their first insertion. -/
  toList : List String
  /-- Whether a name was inserted. -/
  seen : String → Bool
  nodup : toList.Nodup
  seen_iff : ∀ name, seen name = true ↔ name ∈ toList

namespace NameSet

def empty : NameSet where
  toList := []
  seen _ := false
  nodup := List.nodup_nil
  seen_iff := by simp

def contains (set : NameSet) (name : String) : Bool :=
  set.seen name

def size (set : NameSet) : Nat :=
  set.toList.length

def isEmpty (set : NameSet) : Bool :=
  set.toList.isEmpty

/-- The set with a name put at its end, and whether the name is new.  A name that
is already there stays where it is. -/
def insert (set : NameSet) (name : String) : NameSet × Bool :=
  if hseen : set.seen name = true then (set, false)
  else
    ({ toList := set.toList ++ [name]
       seen := fun other => other == name || set.seen other
       nodup := by
        have hnew : name ∉ set.toList := fun hmem => hseen ((set.seen_iff name).mpr hmem)
        rw [List.nodup_append]
        refine ⟨set.nodup, by simp, ?_⟩
        intro a ha b hb hab
        rw [List.mem_singleton] at hb
        exact hnew (hb ▸ hab ▸ ha)
       seen_iff := fun other => by
        simp [set.seen_iff other, or_comm] }, true)

/-- The names of a list, inserted one by one. -/
def ofList (names : List String) : NameSet :=
  names.foldl (fun set name => (set.insert name).1) empty

variable {set first second : NameSet} {name : String}

theorem contains_iff : set.contains name = true ↔ name ∈ set.toList :=
  set.seen_iff name

theorem insert_of_mem (hmem : name ∈ set.toList) : set.insert name = (set, false) :=
  dif_pos ((set.seen_iff name).mpr hmem)

theorem toList_insert_of_not_mem (hnew : name ∉ set.toList) :
    (set.insert name).1.toList = set.toList ++ [name] := by
  have hseen : ¬ set.seen name = true := fun hseen => hnew ((set.seen_iff name).mp hseen)
  simp [insert, hseen]

theorem insert_answers_iff : (set.insert name).2 = true ↔ name ∉ set.toList := by
  rw [← set.seen_iff]
  unfold insert
  split <;> simp [*]

/-- The order alone tells two sets apart. -/
theorem eq_of_toList_eq (heq : first.toList = second.toList) : first = second := by
  have hseen : first.seen = second.seen := by
    funext name
    rw [Bool.eq_iff_iff, first.seen_iff, second.seen_iff, heq]
  cases first
  cases second
  cases heq
  cases hseen
  rfl

instance : DecidableEq NameSet := fun first second =>
  decidable_of_decidable_of_iff (p := first.toList = second.toList)
    ⟨eq_of_toList_eq, congrArg toList⟩

end NameSet

end TemplateVariables
