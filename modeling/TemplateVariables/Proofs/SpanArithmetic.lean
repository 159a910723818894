import TemplateVariables.Span
import TemplateVariables.Text.Bytes

/-!
# Spans within the limit

As long as no offset is larger than a span can hold, spans are what their bounds
say, and a span stands for the characters of the source that it covers.
-/

namespace TemplateVariables

namespace Span

@[simp] theorem toNat_clamp (offset : Nat) : (clamp offset).toNat = min offset limit := by
  have hlt : min offset limit < 2 ^ 32 := by
    unfold limit
    omega
  unfold clamp
  rw [UInt32.toNat_ofNat', Nat.mod_eq_of_lt hlt]

variable {start stop : Nat}

theorem toNat_start_ofBounds (hstart : start ≤ limit) (stop : Nat) :
    (ofBounds start stop).start.toNat = start := by
  unfold ofBounds ofParts
  rw [toNat_clamp, Nat.min_eq_left hstart]

theorem toNat_length_ofBounds (hstop : stop ≤ limit) :
    (ofBounds start stop).length.toNat = stop - start := by
  have hle : stop - start ≤ limit := by omega
  have hlt : stop - start < 2 ^ 32 := by
    unfold limit at hle
    omega
  unfold ofBounds ofParts
  rw [if_pos hle, UInt32.toNat_ofNat', Nat.mod_eq_of_lt hlt]

theorem stop_ofBounds (hle : start ≤ stop) (hstop : stop ≤ limit) :
    (ofBounds start stop).stop = stop := by
  unfold Span.stop
  rw [toNat_start_ofBounds (by omega), toNat_length_ofBounds hstop]
  omega

/-! ## The characters of a span -/

end Span

open Text

theorem Text.byteLength_pos {text : List Char} (htext : text ≠ []) : 0 < byteLength text := by
  obtain ⟨c, rest, rfl⟩ := List.exists_cons_of_ne_nil htext
  have hsize := Char.utf8Size_pos c
  rw [byteLength_cons]
  omega

/-- Two parts of one text that begin it and have as many bytes are the same. -/
theorem Text.append_inj_of_byteLength {a b a' b' : List Char} (happend : a ++ b = a' ++ b')
    (hlength : byteLength a = byteLength a') : a = a' ∧ b = b' := by
  induction a generalizing a' with
  | nil =>
      cases a' with
      | nil => exact ⟨rfl, happend⟩
      | cons d others =>
          have hsize := Char.utf8Size_pos d
          simp only [byteLength_cons, byteLength_nil] at hlength
          omega
  | cons c rest ih =>
      cases a' with
      | nil =>
          have hsize := Char.utf8Size_pos c
          simp only [byteLength_cons, byteLength_nil] at hlength
          omega
      | cons d others =>
          simp only [List.cons_append, List.cons.injEq] at happend
          obtain ⟨rfl, happend⟩ := happend
          simp only [byteLength_cons, Nat.add_left_cancel_iff] at hlength
          obtain ⟨rfl, rfl⟩ := ih happend hlength
          exact ⟨rfl, rfl⟩

namespace Span

/-- The characters that a span covers in a source.  It begins and ends between characters. -/
def Covers (span : Span) (source written : List Char) : Prop :=
  ∃ before after, source = before ++ (written ++ after) ∧
    byteLength before = span.start.toNat ∧ byteLength written = span.length.toNat

theorem Covers.unique {span : Span} {source written other : List Char}
    (hwritten : span.Covers source written) (hother : span.Covers source other) :
    written = other := by
  obtain ⟨before, after, rfl, hstart, hlength⟩ := hwritten
  obtain ⟨before', after', happend, hstart', hlength'⟩ := hother
  have hbefore : byteLength before = byteLength before' := by rw [hstart, hstart']
  have hlengths : byteLength written = byteLength other := by rw [hlength, hlength']
  have hrest := (append_inj_of_byteLength happend hbefore).2
  exact (append_inj_of_byteLength hrest hlengths).1

/-- What is written at a place within the limit is covered by its span. -/
theorem covers_of_append {source before written rest : List Char}
    (hlimit : byteLength source ≤ limit) (happend : source = before ++ (written ++ rest))
    {span : Span} (hspan : span = ofParts (byteLength before) (byteLength written)) :
    span.Covers source written ∧ span.start.toNat = byteLength before ∧
      span.stop = byteLength (before ++ written) := by
  have hlength := congrArg byteLength happend
  simp only [byteLength_append] at hlength ⊢
  have hbounds : span =
      ofBounds (byteLength before) (byteLength before + byteLength written) := by
    rw [hspan, ofBounds, Nat.add_sub_cancel_left]
  have hstart : span.start.toNat = byteLength before := by
    rw [hbounds]
    exact toNat_start_ofBounds (by omega) _
  have hwritten : span.length.toNat = byteLength written := by
    rw [hbounds, toNat_length_ofBounds (by omega), Nat.add_sub_cancel_left]
  have hstop : span.stop = byteLength before + byteLength written := by
    rw [hbounds]
    exact stop_ofBounds (Nat.le_add_right _ _) (by omega)
  exact ⟨⟨before, rest, happend, hstart.symm, hwritten.symm⟩, hstart, hstop⟩

theorem Covers.stop_le {span : Span} {source written : List Char}
    (hcovers : span.Covers source written) (hlimit : byteLength source ≤ limit) :
    span.stop ≤ byteLength source := by
  obtain ⟨before, after, rfl, hstart, hlength⟩ := hcovers
  simp only [byteLength_append] at hlimit ⊢
  unfold stop
  omega

theorem Covers.start_lt_stop {span : Span} {source written : List Char}
    (hcovers : span.Covers source written) (hne : written ≠ [])
    (hlimit : byteLength source ≤ limit) : span.start.toNat < span.stop := by
  obtain ⟨before, after, rfl, hstart, hlength⟩ := hcovers
  have hpos := byteLength_pos hne
  simp only [byteLength_append] at hlimit
  unfold stop
  omega

end Span

end TemplateVariables
