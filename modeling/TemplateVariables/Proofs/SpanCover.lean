import TemplateVariables.Proofs.SpanOrder

/-!
# Spans at the limit

Offsets and lengths may be as large as they like: a span that is built from its bounds reaches
from one to the other, both cut at the limit.  Two spans are covered by the span from the smaller
start to the larger end, also where their own lengths go past the limit, so covering is the
least upper bound of intervals.
-/

namespace TemplateVariables

namespace Span

theorem start_ofBounds_eq_min (start stop : Nat) :
    (ofBounds start stop).start.toNat = min start limit :=
  toNat_clamp start

theorem toNat_length_ofParts (start length : Nat) :
    (ofParts start length).length.toNat =
      if length ≤ limit then length else limit - min start limit := by
  have hsize : limit < 2 ^ 32 := by decide
  unfold ofParts
  split
  · rw [UInt32.toNat_ofNat', Nat.mod_eq_of_lt (by omega)]
  · rw [UInt32.toNat_ofNat', Nat.mod_eq_of_lt (by omega)]

theorem stop_ofBounds_eq_min (start stop : Nat) :
    (ofBounds start stop).stop = min (max start stop) limit := by
  unfold Span.stop
  rw [start_ofBounds_eq_min, ofBounds, toNat_length_ofParts]
  split <;> omega

section cover

variable (a b c : Span)

theorem min_start_le_max_stop : min a.start.toNat b.start.toNat ≤ max a.stop b.stop := by
  have ha := a.start_le_stop
  omega

theorem start_cover : (a.cover b).start.toNat = min a.start.toNat b.start.toNat := by
  have ha := a.start_le_limit
  rw [cover_eq_ofBounds, start_ofBounds_eq_min]
  omega

theorem stop_cover : (a.cover b).stop = max a.stop b.stop := by
  have hle := min_start_le_max_stop a b
  have ha := a.stop_le_limit
  have hb := b.stop_le_limit
  rw [cover_eq_ofBounds, stop_ofBounds_eq_min]
  omega

/-- The length of a covering span is not cut. -/
theorem length_cover :
    (a.cover b).length.toNat = max a.stop b.stop - min a.start.toNat b.start.toNat := by
  have ha := a.stop_le_limit
  have hb := b.stop_le_limit
  rw [cover_eq_ofBounds]
  exact toNat_length_ofBounds (by omega)

theorem cover_comm : a.cover b = b.cover a := by
  rw [cover_eq_ofBounds, cover_eq_ofBounds, Nat.min_comm, Nat.max_comm]

theorem cover_assoc : (a.cover b).cover c = a.cover (b.cover c) := by
  rw [cover_eq_ofBounds (a.cover b), cover_eq_ofBounds a (b.cover c), start_cover, start_cover,
    stop_cover, stop_cover, Nat.min_assoc, Nat.max_assoc]

/-- Only a span that stays within the limit covers itself. -/
theorem cover_self_iff : a.cover a = a ↔ a.start.toNat + a.length.toNat ≤ limit := by
  have hstart := start_cover a a
  have hlength := length_cover a a
  rw [Nat.min_self] at hstart hlength
  rw [Nat.max_self] at hlength
  unfold Span.stop at hlength
  constructor
  · intro hself
    have hlimit := a.start_le_limit
    rw [hself] at hlength
    omega
  · intro hle
    have hsame : (a.cover a).length.toNat = a.length.toNat := by omega
    calc
      a.cover a = ⟨(a.cover a).start, (a.cover a).length⟩ := rfl
      _ = ⟨a.start, a.length⟩ := by
        rw [UInt32.toNat_inj.mp hstart, UInt32.toNat_inj.mp hsame]

end cover

/-- Bounds of any size are cut at the limit.  Of any spans, also of those that go past it, the
covering one begins at the smaller start and ends at the larger end; it lies between two offsets
exactly when both spans do. -/
theorem bounds_and_cover_exact :
    (∀ start stop : Nat, (ofBounds start stop).start.toNat = min start limit ∧
      (ofBounds start stop).stop = min (max start stop) limit) ∧
    (∀ a b : Span, min a.start.toNat b.start.toNat ≤ max a.stop b.stop ∧
      (a.cover b).length.toNat = max a.stop b.stop - min a.start.toNat b.start.toNat ∧
      (a.cover b).start.toNat = min a.start.toNat b.start.toNat ∧
      (a.cover b).stop = max a.stop b.stop) ∧
    (∀ a b : Span, a.cover b = b.cover a) ∧
    (∀ a b c : Span, (a.cover b).cover c = a.cover (b.cover c)) ∧
    (∀ (a b : Span) (low high : Nat),
      (low ≤ (a.cover b).start.toNat ∧ (a.cover b).stop ≤ high) ↔
        (low ≤ a.start.toNat ∧ a.stop ≤ high) ∧ low ≤ b.start.toNat ∧ b.stop ≤ high) ∧
    ∀ a : Span, a.cover a = a ↔ a.start.toNat + a.length.toNat ≤ limit := by
  refine ⟨fun start stop => ⟨start_ofBounds_eq_min start stop, stop_ofBounds_eq_min start stop⟩,
    fun a b => ⟨min_start_le_max_stop a b, length_cover a b, start_cover a b, stop_cover a b⟩,
    cover_comm, cover_assoc, fun a b low high => ?_, cover_self_iff⟩
  rw [start_cover, stop_cover]
  omega

/-- A span that goes past the limit is cut when it is covered. -/
example : (⟨4294967290, 10⟩ : Span).cover ⟨3, 2⟩ = ⟨3, 4294967292⟩ := by decide

end Span

end TemplateVariables
