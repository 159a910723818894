import TemplateVariables.Scope
import Mathlib.Data.Finset.Card
import Mathlib.Data.List.Forall2

/-!
# Histories of scope stacks

What a scope stack answers follows from the calls that were made on it, without a look
at its frames.  A frame is known by the number of calls that came before the one that
made it, so the innermost of some frames is the greatest.  It is open until a `pop`
finds it innermost, and a name is bound as long as some frame is open into which a call
has put it.

The proof carries along, call by call, the list of the numbers of the frames on the stack.
-/

namespace TemplateVariables

namespace ScopeStack

/-! ## Runs -/

/-- A call on a scope stack. -/
inductive Call where
  | push
  | pushWith (names : List String)
  | pop
  | bind (name : String)
  | isBound (name : String)
deriving DecidableEq, Repr

/-- The stack after a call.  A question changes nothing. -/
def call (scopes : ScopeStack) : Call → ScopeStack
  | .push => scopes.push []
  | .pushWith names => scopes.push names
  | .pop => scopes.pop
  | .bind name => scopes.bind name
  | .isBound _ => scopes

/-- The stack after some calls. -/
def run (scopes : ScopeStack) (calls : List Call) : ScopeStack :=
  calls.foldl call scopes

theorem run_append (scopes : ScopeStack) (first second : List Call) :
    scopes.run (first ++ second) = (scopes.run first).run second :=
  List.foldl_append

theorem run_take_succ {calls : List Call} {count : Nat} {next : Call} (scopes : ScopeStack)
    (hnext : calls[count]? = some next) :
    scopes.run (calls.take (count + 1)) = (scopes.run (calls.take count)).call next := by
  rw [List.take_add_one, hnext, run_append]
  rfl

theorem globals_call (scopes : ScopeStack) (next : Call) :
    (scopes.call next).globals = scopes.globals := by
  cases next with
  | bind name =>
      rw [call, bind]
      split <;> rfl
  | _ => rfl

theorem globals_run (scopes : ScopeStack) (calls : List Call) :
    (scopes.run calls).globals = scopes.globals := by
  induction calls generalizing scopes with
  | nil => rfl
  | cons next calls ih => exact (ih (scopes.call next)).trans (globals_call scopes next)

theorem isBound_iff (scopes : ScopeStack) (name : String) :
    scopes.isBound name = true ↔
      (∃ frame ∈ scopes.frames, name ∈ frame) ∨ scopes.globals.contains name = true := by
  simp [isBound]

/-! ## Frames of a history -/

/-- The frames that are open after the first `count` calls. -/
def openFrames (calls : List Call) : Nat → Finset Nat
  | 0 => ∅
  | count + 1 =>
      let before := openFrames calls count
      match calls[count]? with
      | some .push => insert count before
      | some (.pushWith _) => insert count before
      | some .pop => before.filter fun frame => ∃ inner ∈ before, frame < inner
      | some (.bind _) => if before = ∅ then {count} else before
      | some (.isBound _) => before
      | none => before

/-- The frame is open, and no open frame is further in. -/
def Innermost (opened : Finset Nat) (frame : Nat) : Prop :=
  frame ∈ opened ∧ ∀ other ∈ opened, other ≤ frame

/-- The call with `count` calls before it puts the name into the frame. -/
def Introduces (calls : List Call) (count frame : Nat) (name : String) : Prop :=
  (∃ names, calls[count]? = some (.pushWith names) ∧ name ∈ names ∧ frame = count) ∨
    (calls[count]? = some (.bind name) ∧ Innermost (openFrames calls (count + 1)) frame)

section History

variable {calls : List Call} {count frame : Nat} {name : String} {next : Call}

/-- A frame that is open now was open before, unless the last call has made it. -/
theorem mem_openFrames_of_succ (hframe : frame ∈ openFrames calls (count + 1)) :
    frame = count ∨ frame ∈ openFrames calls count := by
  rw [openFrames] at hframe
  split at hframe
  · exact Finset.mem_insert.1 hframe
  · exact Finset.mem_insert.1 hframe
  · exact .inr (Finset.mem_filter.1 hframe).1
  · split_ifs at hframe
    · exact .inl (Finset.mem_singleton.1 hframe)
    · exact .inr hframe
  · exact .inr hframe
  · exact .inr hframe

theorem lt_of_mem_openFrames (hframe : frame ∈ openFrames calls count) : frame < count := by
  induction count with
  | zero => exact absurd hframe (Finset.notMem_empty frame)
  | succ count ih =>
      rcases mem_openFrames_of_succ hframe with rfl | hbefore
      · exact Nat.lt_succ_self frame
      · exact Nat.lt_succ_of_lt (ih hbefore)

/-- Once removed, a frame never comes back. -/
theorem mem_openFrames_of_le {later : Nat} (hframe : frame ∈ openFrames calls later)
    (hmade : frame < count) (hle : count ≤ later) : frame ∈ openFrames calls count := by
  induction later, hle using Nat.le_induction with
  | base => exact hframe
  | succ later hle ih =>
      rcases mem_openFrames_of_succ hframe with rfl | hbefore
      · exact absurd hle (Nat.not_le_of_lt hmade)
      · exact ih hbefore

theorem Introduces.lt_length (hname : Introduces calls count frame name) :
    count < calls.length := by
  rcases hname with ⟨names, hcall, -⟩ | ⟨hcall, -⟩ <;>
    exact (List.getElem?_eq_some_iff.1 hcall).1

/-- A name goes into a frame that is there. -/
theorem Introduces.le (hname : Introduces calls count frame name) : frame ≤ count := by
  rcases hname with ⟨names, -, -, rfl⟩ | ⟨-, hframe, -⟩
  · exact Nat.le_refl frame
  · exact Nat.le_of_lt_succ (lt_of_mem_openFrames hframe)

/-! ## The numbers of the frames on the stack -/

/-- The frame of the stack has the names that the first `count` calls have put into the frame
of that number. -/
def Contains (calls : List Call) (count number : Nat) (frame : List String) : Prop :=
  ∀ name, name ∈ frame ↔ ∃ earlier < count, Introduces calls earlier number name

theorem exists_introduces_succ_iff {number : Nat} :
    (∃ earlier < count + 1, Introduces calls earlier number name) ↔
      (∃ earlier < count, Introduces calls earlier number name) ∨
        Introduces calls count number name := by
  simp only [Nat.lt_succ_iff_lt_or_eq, or_and_right, exists_or, exists_eq_left]

theorem Contains.succ {number : Nat} {names : List String}
    (hnames : Contains calls count number names)
    (hnone : ∀ name, ¬Introduces calls count number name) :
    Contains calls (count + 1) number names := by
  intro name
  rw [exists_introduces_succ_iff, hnames name]
  simp only [hnone name, or_false]

/-- No call before the one that makes a frame has put a name into it. -/
theorem contains_new {names : List String}
    (hnames : ∀ name, name ∈ names ↔ Introduces calls count count name) :
    Contains calls (count + 1) count names := by
  intro name
  rw [exists_introduces_succ_iff, hnames name]
  constructor
  · exact .inr
  · rintro (⟨earlier, hearlier, hname⟩ | hname)
    · exact absurd hname.le (Nat.not_le_of_lt hearlier)
    · exact hname

/-- Where a call puts no name into some frames, they keep their names. -/
theorem forall₂_contains_succ {numbers : List Nat} {frames : List (List String)}
    (hcontents : List.Forall₂ (Contains calls count) numbers frames)
    (hnone : ∀ number ∈ numbers, ∀ name, ¬Introduces calls count number name) :
    List.Forall₂ (Contains calls (count + 1)) numbers frames := by
  have hboth := (List.forall₂_and_left numbers frames).2 ⟨hnone, hcontents⟩
  exact hboth.imp fun _ _ hnames => hnames.2.succ hnames.1

theorem exists_mem_iff_of_contains {numbers : List Nat} {frames : List (List String)}
    (hcontents : List.Forall₂ (Contains calls count) numbers frames) :
    (∃ frame ∈ frames, name ∈ frame) ↔
      ∃ number ∈ numbers, ∃ earlier < count, Introduces calls earlier number name := by
  induction hcontents with
  | nil => simp
  | cons hframe _ ih => simp only [List.mem_cons, exists_eq_or_imp, hframe name, ih]

/-- After `count` calls the frames of the stack, innermost first, have these numbers. -/
structure Numbered (calls : List Call) (count : Nat) (numbers : List Nat)
    (scopes : ScopeStack) : Prop where
  descending : numbers.Pairwise (· > ·)
  mem_iff : ∀ number, number ∈ numbers ↔ number ∈ openFrames calls count
  contents : List.Forall₂ (Contains calls count) numbers scopes.frames

namespace Numbered

variable {numbers : List Nat} {scopes : ScopeStack}

theorem lt (hnumbered : Numbered calls count numbers scopes) :
    ∀ number ∈ numbers, number < count :=
  fun number hnumber => lt_of_mem_openFrames ((hnumbered.mem_iff number).1 hnumber)

theorem innermost_iff {inner number : Nat}
    (hnumbered : Numbered calls count (inner :: numbers) scopes) :
    Innermost (openFrames calls count) number ↔ number = inner := by
  obtain ⟨hinner, -⟩ := List.pairwise_cons.1 hnumbered.descending
  simp only [Innermost, ← hnumbered.mem_iff]
  constructor
  · rintro ⟨hnumber, hgreatest⟩
    have hle := hgreatest inner List.mem_cons_self
    rcases List.mem_cons.1 hnumber with rfl | hothers
    · rfl
    · exact absurd (hinner number hothers) (Nat.not_lt_of_ge hle)
  · rintro rfl
    refine ⟨List.mem_cons_self, fun other hother => ?_⟩
    rcases List.mem_cons.1 hother with rfl | hothers
    · exact Nat.le_refl other
    · exact Nat.le_of_lt (hinner other hothers)

theorem openFrames_eq_empty_iff (hnumbered : Numbered calls count numbers scopes) :
    openFrames calls count = ∅ ↔ numbers = [] := by
  rw [Finset.eq_empty_iff_forall_notMem, List.eq_nil_iff_forall_not_mem]
  exact forall_congr' fun number => not_congr (hnumbered.mem_iff number).symm

/-- A call that opens a frame puts a number in front of the others. -/
theorem opening (hnumbered : Numbered calls count numbers scopes) {names : List String}
    (hopen : openFrames calls (count + 1) = insert count (openFrames calls count))
    (hnames : ∀ number name,
      Introduces calls count number name ↔ number = count ∧ name ∈ names) :
    Numbered calls (count + 1) (count :: numbers) (scopes.push names) where
  descending := List.pairwise_cons.2 ⟨hnumbered.lt, hnumbered.descending⟩
  mem_iff number := by rw [List.mem_cons, hopen, Finset.mem_insert, hnumbered.mem_iff]
  contents := by
    refine .cons (contains_new fun name => ?_) (forall₂_contains_succ hnumbered.contents ?_)
    · rw [hnames, and_iff_right rfl]
    · intro number hnumber name hname
      obtain ⟨rfl, -⟩ := (hnames number name).1 hname
      exact Nat.lt_irrefl number (hnumbered.lt number hnumber)

theorem popping (hnumbered : Numbered calls count numbers scopes)
    (hcall : calls[count]? = some .pop) :
    Numbered calls (count + 1) numbers.tail scopes.pop := by
  have hopen : openFrames calls (count + 1) = (openFrames calls count).filter
      fun frame => ∃ inner ∈ openFrames calls count, frame < inner := by
    rw [openFrames, hcall]
  have hnone : ∀ number name, ¬Introduces calls count number name := by
    simp [Introduces, hcall]
  have hcontents := forall₂_contains_succ hnumbered.contents fun number _ => hnone number
  obtain ⟨globals, frames⟩ := scopes
  cases hnumbered.contents with
  | nil =>
      refine ⟨hnumbered.descending, fun number => ?_, hcontents⟩
      rw [hopen, hnumbered.openFrames_eq_empty_iff.2 rfl]
      simp
  | @cons inner _ others outer _ _ =>
      obtain ⟨hinner, hdescending⟩ := List.pairwise_cons.1 hnumbered.descending
      cases hcontents with
      | cons _ houter =>
          refine ⟨hdescending, fun number => ?_, houter⟩
          simp only [List.tail_cons, hopen, Finset.mem_filter, ← hnumbered.mem_iff,
            List.mem_cons, exists_eq_or_imp]
          constructor
          · intro hnumber
            exact ⟨.inr hnumber, .inl (hinner number hnumber)⟩
          · rintro ⟨rfl | hnumber, hlt⟩
            · rcases hlt with hlt | ⟨other, hother, hlt⟩
              · exact absurd hlt (Nat.lt_irrefl number)
              · exact absurd (hinner other hother) (Nat.not_lt_of_gt hlt)
            · exact hnumber

theorem binding (hnumbered : Numbered calls count numbers scopes) {bound : String}
    (hcall : calls[count]? = some (.bind bound)) :
    ∃ numbers', Numbered calls (count + 1) numbers' (scopes.bind bound) := by
  have hintroduces : ∀ number name, Introduces calls count number name ↔
      name = bound ∧ Innermost (openFrames calls (count + 1)) number := by
    simp [Introduces, hcall, eq_comm]
  have hopen : openFrames calls (count + 1) =
      if openFrames calls count = ∅ then {count} else openFrames calls count := by
    rw [openFrames, hcall]
  obtain ⟨globals, frames⟩ := scopes
  cases hnumbered.contents with
  | nil =>
      -- The call makes the first frame itself.
      rw [if_pos (hnumbered.openFrames_eq_empty_iff.2 rfl)] at hopen
      refine ⟨[count], List.pairwise_singleton _ _, fun number => by simp [hopen], ?_⟩
      refine .cons (contains_new fun name => ?_) .nil
      simp [hintroduces, hopen, Innermost]
  | @cons inner names others outer hinner houter =>
      have hsome : openFrames calls count ≠ ∅ := by simp [hnumbered.openFrames_eq_empty_iff]
      rw [if_neg hsome] at hopen
      refine ⟨inner :: others, hnumbered.descending, fun number => ?_, .cons ?_ ?_⟩
      · rw [hopen, hnumbered.mem_iff]
      · intro name
        rw [exists_introduces_succ_iff, List.mem_cons, hinner name, hintroduces, hopen,
          hnumbered.innermost_iff, and_iff_left rfl]
        exact or_comm
      · refine forall₂_contains_succ houter fun number hnumber name hname => ?_
        rw [hintroduces, hopen, hnumbered.innermost_iff] at hname
        obtain ⟨-, rfl⟩ := hname
        have hdescending := (List.pairwise_cons.1 hnumbered.descending).1
        exact Nat.lt_irrefl number (hdescending number hnumber)

theorem asking (hnumbered : Numbered calls count numbers scopes) {asked : String}
    (hcall : calls[count]? = some (.isBound asked)) :
    Numbered calls (count + 1) numbers scopes where
  descending := hnumbered.descending
  mem_iff number := by rw [hnumbered.mem_iff, openFrames, hcall]
  contents := forall₂_contains_succ hnumbered.contents (by simp [Introduces, hcall])

/-- After each call the stack has frames with the numbers of the open ones. -/
theorem call (hnumbered : Numbered calls count numbers scopes) (hcall : calls[count]? = some next) :
    ∃ numbers', Numbered calls (count + 1) numbers' (scopes.call next) := by
  cases next with
  | push =>
      refine ⟨_, hnumbered.opening ?_ ?_⟩
      · rw [openFrames, hcall]
      · simp [Introduces, hcall]
  | pushWith names =>
      refine ⟨_, hnumbered.opening ?_ fun number name => ?_⟩
      · rw [openFrames, hcall]
      · simp [Introduces, hcall, and_comm]
  | pop => exact ⟨_, hnumbered.popping hcall⟩
  | bind name => exact hnumbered.binding hcall
  | isBound name => exact ⟨_, hnumbered.asking hcall⟩

end Numbered

theorem exists_numbered (globals : Globals) (hcount : count ≤ calls.length) :
    ∃ numbers, Numbered calls count numbers ((new globals).run (calls.take count)) := by
  induction count with
  | zero => exact ⟨[], .nil, fun number => by simp [openFrames], .nil⟩
  | succ count ih =>
      obtain ⟨numbers, hnumbered⟩ := ih (Nat.le_of_succ_le hcount)
      have hcall := List.getElem?_eq_getElem hcount
      rw [run_take_succ _ hcall]
      exact hnumbered.call hcall

end History

/-! ## Balanced calls -/

def Call.isPush : Call → Bool
  | .push => true
  | .pushWith _ => true
  | _ => false

def Call.isBind : Call → Bool
  | .bind _ => true
  | _ => false

/-- Number of frames that the calls push. -/
def pushes (calls : List Call) : Nat :=
  calls.countP (·.isPush)

def pops (calls : List Call) : Nat :=
  calls.count .pop

/-- Every `pop` removes a frame that was pushed before it, every frame that is pushed is
removed, and names are bound only while a frame is there that was pushed. -/
structure Balanced (calls : List Call) : Prop where
  pops_le : ∀ count ≤ calls.length, pops (calls.take count) ≤ pushes (calls.take count)
  pops_eq : pops calls = pushes calls
  pops_lt : ∀ count, (hcount : count < calls.length) → calls[count].isBind = true →
    pops (calls.take count) < pushes (calls.take count)

section Balanced

variable {calls : List Call} {count : Nat}

theorem pushes_take_succ {next : Call} (hnext : calls[count]? = some next) :
    pushes (calls.take (count + 1)) = pushes (calls.take count) + if next.isPush then 1 else 0 := by
  simp [pushes, List.take_add_one, hnext, List.countP_append, List.countP_singleton]

theorem pops_take_succ {next : Call} (hnext : calls[count]? = some next) :
    pops (calls.take (count + 1)) = pops (calls.take count) + if next = .pop then 1 else 0 := by
  simp [pops, List.take_add_one, hnext, List.count_append, List.count_singleton]

/-- The frames at the start stay below those that were pushed since. -/
theorem Balanced.exists_pushed (hbalanced : Balanced calls) (scopes : ScopeStack)
    (hcount : count ≤ calls.length) :
    ∃ pushed, (scopes.run (calls.take count)).frames = pushed ++ scopes.frames ∧
      pushed.length + pops (calls.take count) = pushes (calls.take count) := by
  induction count with
  | zero => exact ⟨[], rfl, rfl⟩
  | succ count ih =>
      obtain ⟨pushed, hframes, hlength⟩ := ih (Nat.le_of_succ_le hcount)
      have hnext := List.getElem?_eq_getElem hcount
      have hle := hbalanced.pops_le (count + 1) hcount
      have hlt := hbalanced.pops_lt count hcount
      rw [run_take_succ _ hnext]
      rw [pushes_take_succ hnext, pops_take_succ hnext] at hle ⊢
      generalize calls[count] = next at hle hlt ⊢
      generalize scopes.run (calls.take count) = reached at hframes ⊢
      cases next with
      | push => exact ⟨[] :: pushed, congrArg _ hframes, by simp [Call.isPush]; omega⟩
      | pushWith names => exact ⟨names :: pushed, congrArg _ hframes, by simp [Call.isPush]; omega⟩
      | isBound name => exact ⟨pushed, hframes, by simpa [Call.isPush] using hlength⟩
      | pop =>
          cases pushed with
          | nil => simp [Call.isPush] at hle hlength; omega
          | cons inner outer =>
              refine ⟨outer, congrArg List.tail hframes, ?_⟩
              simp [Call.isPush] at hlength ⊢
              omega
      | bind name =>
          cases pushed with
          | nil => simp [Call.isBind] at hlt hlength; omega
          | cons inner outer =>
              refine ⟨(name :: inner) :: outer, ?_, by simpa [Call.isPush] using hlength⟩
              simp [call, bind, hframes]

theorem Balanced.frames_run (hbalanced : Balanced calls) (scopes : ScopeStack) :
    (scopes.run calls).frames = scopes.frames := by
  obtain ⟨pushed, hframes, hlength⟩ := hbalanced.exists_pushed scopes (Nat.le_refl _)
  rw [List.take_length] at hframes hlength
  have hnone : pushed.length = 0 := by
    have hpops := hbalanced.pops_eq
    omega
  rw [hframes, List.length_eq_zero_iff.1 hnone, List.nil_append]

end Balanced

/-! ## What a stack answers -/

theorem isBound_of_global {scopes : ScopeStack} {name : String}
    (hname : scopes.globals.contains name = true) (calls : List Call) :
    (scopes.run calls).isBound name = true := by
  rw [isBound_iff, globals_run]
  exact .inr hname

theorem isBound_run_iff (globals : Globals) (calls : List Call) (name : String) :
    ((new globals).run calls).isBound name = true ↔
      globals.contains name = true ∨
        ∃ count frame, Introduces calls count frame name ∧
          ∀ later, count < later → later ≤ calls.length → frame ∈ openFrames calls later := by
  obtain ⟨numbers, hnumbered⟩ := exists_numbered globals (Nat.le_refl calls.length)
  rw [List.take_length] at hnumbered
  rw [isBound_iff, globals_run, or_comm, exists_mem_iff_of_contains hnumbered.contents]
  apply or_congr Iff.rfl
  constructor
  · rintro ⟨frame, hframe, count, -, hname⟩
    refine ⟨count, frame, hname, fun later hlt hle => ?_⟩
    have hopen := (hnumbered.mem_iff frame).1 hframe
    exact mem_openFrames_of_le hopen (Nat.lt_of_le_of_lt hname.le hlt) hle
  · rintro ⟨count, frame, hname, hopen⟩
    have hlast := hopen calls.length hname.lt_length (Nat.le_refl _)
    exact ⟨frame, (hnumbered.mem_iff frame).2 hlast, count, hname.lt_length, hname⟩

theorem depth_run (globals : Globals) (calls : List Call) :
    ((new globals).run calls).depth = (openFrames calls calls.length).card := by
  obtain ⟨numbers, hnumbered⟩ := exists_numbered globals (Nat.le_refl calls.length)
  rw [List.take_length] at hnumbered
  have hnodup : numbers.Nodup := hnumbered.descending.imp fun hlt => Nat.ne_of_gt hlt
  have hnumbers : openFrames calls calls.length = numbers.toFinset := by
    ext number
    rw [List.mem_toFinset, hnumbered.mem_iff]
  rw [hnumbers, List.toFinset_card_of_nodup hnodup, depth, hnumbered.contents.length_eq]

/-- A name is bound exactly if it is a global or some call has put it into a frame that has
not been removed since, and the depth is the number of frames that have not been removed.
Balanced calls leave the frames of any stack as they were, and no calls unbind a global. -/
theorem run_nested (globals : Globals) (calls : List Call) :
    (∀ name, ((new globals).run calls).isBound name = true ↔
      globals.contains name = true ∨
        ∃ count frame, Introduces calls count frame name ∧
          ∀ later, count < later → later ≤ calls.length → frame ∈ openFrames calls later) ∧
    ((new globals).run calls).depth = (openFrames calls calls.length).card ∧
    ∀ scopes : ScopeStack,
      (Balanced calls → (scopes.run calls).frames = scopes.frames) ∧
      ∀ name, scopes.globals.contains name = true → (scopes.run calls).isBound name = true :=
  ⟨isBound_run_iff globals calls, depth_run globals calls, fun scopes =>
    ⟨fun hbalanced => hbalanced.frames_run scopes, fun _ hname => isBound_of_global hname calls⟩⟩

/-- Calls that shadow a bound name and a global, on a stack that binds both. -/
theorem run_nested_shadowed :
    let calls : List Call :=
      [.push, .bind "site", .pushWith ["page"], .bind "loop", .pop, .isBound "page", .pop]
    let scopes : ScopeStack := { globals := Globals.ofNames ["site"], frames := [["page"]] }
    Balanced calls ∧ (scopes.run calls).frames = [["page"]] ∧
      scopes.globals.contains "site" = true ∧ (scopes.run calls).isBound "site" = true := by
  intro calls scopes
  have hbalanced : Balanced calls := ⟨by decide, by decide, by decide⟩
  have hsite : scopes.globals.contains "site" = true := by decide
  obtain ⟨-, -, hscopes⟩ := run_nested scopes.globals calls
  exact ⟨hbalanced, (hscopes scopes).1 hbalanced, hsite, (hscopes scopes).2 "site" hsite⟩

/-- A `bind` on the empty stack makes a frame, which only the second `pop` removes. -/
example :
    let calls : List Call := [.pop, .bind "site", .push, .bind "site", .pop]
    openFrames calls 5 = {1} ∧ openFrames (calls ++ [.pop]) 6 = ∅ := by
  decide

end ScopeStack

end TemplateVariables
