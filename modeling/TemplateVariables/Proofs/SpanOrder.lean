import TemplateVariables.Proofs.SpanArithmetic

/-!
# Spans in a row

A span marks characters of a source when it is not empty and both its ends stand
between characters.  Spans stand in a row between two offsets when each begins
where the one before it ends, or behind that place.
-/

namespace TemplateVariables

open Text

/-! ## Places between characters -/

/-- The offset is the place between two characters of the source, or one of its ends. -/
def Text.Edge (source : List Char) (offset : Nat) : Prop :=
  ∃ before after, source = before ++ after ∧ byteLength before = offset

namespace Text

theorem edge_zero (source : List Char) : Edge source 0 :=
  ⟨[], source, rfl, rfl⟩

theorem Edge.le {source : List Char} {offset : Nat} (hedge : Edge source offset) :
    offset ≤ byteLength source := by
  obtain ⟨before, after, rfl, rfl⟩ := hedge
  rw [byteLength_append]
  exact Nat.le_add_right _ _

/-- The characters between two places. -/
theorem Edge.exists_between {source : List Char} {start stop : Nat} (hstart : Edge source start)
    (hstop : Edge source stop) (hle : start ≤ stop) :
    ∃ before written after, source = before ++ (written ++ after) ∧
      byteLength before = start ∧ byteLength written = stop - start := by
  obtain ⟨before, after, hsource, rfl⟩ := hstart
  obtain ⟨before', after', hsource', rfl⟩ := hstop
  rw [hsource] at hsource'
  rcases List.append_eq_append_iff.1 hsource' with ⟨written, rfl, rfl⟩ | ⟨extra, rfl, rfl⟩
  · refine ⟨before, written, after', hsource, rfl, ?_⟩
    rw [byteLength_append, Nat.add_sub_cancel_left]
  · have hextra : byteLength extra = 0 := by
      rw [byteLength_append] at hle
      omega
    refine ⟨before' ++ extra, [], after, hsource, rfl, ?_⟩
    rw [byteLength_append, hextra]
    simp

end Text

namespace Span

/-! ## Spans that mark characters -/

theorem start_le_limit (span : Span) : span.start.toNat ≤ limit := by
  have hlt := span.start.toNat_lt
  unfold limit
  omega

theorem stop_le_limit (span : Span) : span.stop ≤ limit :=
  Nat.min_le_right _ _

theorem start_le_stop (span : Span) : span.start.toNat ≤ span.stop := by
  have hlimit := span.start_le_limit
  unfold stop
  omega

/-- Two spans are covered by the one from the first of their starts to the last of their
ends. -/
theorem cover_eq_ofBounds (a b : Span) :
    a.cover b = ofBounds (min a.start.toNat b.start.toNat) (max a.stop b.stop) := by
  have ha := a.start_le_limit
  have hastop := a.stop_le_limit
  have hbstop := b.stop_le_limit
  have hlength : max a.stop b.stop - min a.start.toNat b.start.toNat ≤ limit := by omega
  unfold cover ofBounds ofParts clamp
  rw [if_pos hlength, Nat.min_eq_left (by omega : min a.start.toNat b.start.toNat ≤ limit)]

theorem cover_eq_of_le {a b : Span} (hle : a.stop ≤ b.start.toNat) :
    a.cover b = ofBounds a.start.toNat b.stop := by
  have ha := a.start_le_stop
  have hb := b.start_le_stop
  rw [cover_eq_ofBounds, Nat.min_eq_left (by omega), Nat.max_eq_right (by omega)]

/-- The span covers at least one character of the source. -/
def Marks (span : Span) (source : List Char) : Prop :=
  ∃ written, written ≠ [] ∧ span.Covers source written

section Marks

variable {source : List Char} {span : Span} {start stop : Nat}

theorem Marks.edge_start (hmarks : span.Marks source) : Edge source span.start.toNat := by
  obtain ⟨written, -, before, after, hsource, hstart, -⟩ := hmarks
  exact ⟨before, written ++ after, hsource, hstart⟩

variable (hlimit : byteLength source ≤ limit)

include hlimit

theorem Marks.edge_stop (hmarks : span.Marks source) : Edge source span.stop := by
  obtain ⟨written, -, before, after, hsource, hstart, hlength⟩ := hmarks
  refine ⟨before ++ written, after, by rw [hsource, List.append_assoc], ?_⟩
  have hbytes := congrArg byteLength hsource
  simp only [byteLength_append] at hbytes ⊢
  unfold Span.stop
  omega

theorem Marks.start_lt_stop (hmarks : span.Marks source) : span.start.toNat < span.stop := by
  obtain ⟨written, hne, hcovers⟩ := hmarks
  exact hcovers.start_lt_stop hne hlimit

/-- A span between two different places of the source. -/
theorem marks_ofBounds (hstart : Edge source start) (hstop : Edge source stop)
    (hlt : start < stop) :
    (ofBounds start stop).Marks source ∧ (ofBounds start stop).start.toNat = start ∧
      (ofBounds start stop).stop = stop := by
  have hle := hstop.le
  have hstartEq := toNat_start_ofBounds (by omega : start ≤ limit) stop
  obtain ⟨before, written, after, hsource, hbefore, hwritten⟩ :=
    hstart.exists_between hstop (Nat.le_of_lt hlt)
  refine ⟨⟨written, ?_, before, after, hsource, ?_, ?_⟩, hstartEq, ?_⟩
  · rintro rfl
    rw [byteLength_nil] at hwritten
    omega
  · rw [hbefore, hstartEq]
  · rw [hwritten, toNat_length_ofBounds (by omega)]
  · exact stop_ofBounds (Nat.le_of_lt hlt) (by omega)

end Marks

/-! ## Spans that may be empty -/

/-- Both ends of the span stand between characters of the source. -/
structure Fits (source : List Char) (span : Span) : Prop where
  start : Edge source span.start.toNat
  stop : Edge source span.stop

section Fits

variable {source : List Char} (hlimit : byteLength source ≤ limit)

include hlimit

theorem Marks.fits {span : Span} (hmarks : span.Marks source) : span.Fits source :=
  ⟨hmarks.edge_start, hmarks.edge_stop hlimit⟩

theorem fits_point {offset : Nat} (hedge : Edge source offset) : (point offset).Fits source := by
  have hle := hedge.le
  have hstart : (point offset).start.toNat = offset := by
    rw [point, toNat_clamp, Nat.min_eq_left (by omega)]
  have hstop : (point offset).stop = offset := by
    unfold stop
    rw [hstart]
    exact Nat.min_eq_left (Nat.le_trans hle hlimit)
  refine ⟨?_, ?_⟩
  · rwa [hstart]
  · rwa [hstop]

theorem fits_ofParts {before written after : List Char}
    (hsource : source = before ++ (written ++ after)) :
    (ofParts (byteLength before) (byteLength written)).Fits source := by
  obtain ⟨-, hstart, hstop⟩ := covers_of_append hlimit hsource rfl
  refine ⟨?_, ?_⟩
  · rw [hstart]
    exact ⟨before, written ++ after, hsource, rfl⟩
  · rw [hstop]
    exact ⟨before ++ written, after, hsource.trans (List.append_assoc ..).symm, rfl⟩

end Fits

/-! ## Spans in a row -/

/-- The spans stand one behind the other between the two offsets. -/
def InOrder (low : Nat) : List Span → Nat → Prop
  | [], high => low ≤ high
  | span :: rest, high => low ≤ span.start.toNat ∧ InOrder span.stop rest high

namespace InOrder

variable {low low' middle high high' : Nat} {span : Span} {spans others : List Span}

theorem le (horder : InOrder low spans high) : low ≤ high := by
  induction spans generalizing low with
  | nil => exact horder
  | cons span rest ih =>
      have hrest := ih horder.2
      have hstart := horder.1
      have hspan := span.start_le_stop
      omega

theorem mono_low (horder : InOrder low spans high) (hle : low' ≤ low) :
    InOrder low' spans high := by
  cases spans with
  | nil => exact Nat.le_trans hle horder
  | cons span rest => exact ⟨Nat.le_trans hle horder.1, horder.2⟩

theorem append (horder : InOrder low spans middle) (hothers : InOrder middle others high) :
    InOrder low (spans ++ others) high := by
  induction spans generalizing low with
  | nil => exact hothers.mono_low horder
  | cons span rest ih => exact ⟨horder.1, ih horder.2⟩

theorem mono_high (horder : InOrder low spans high) (hle : high ≤ high') :
    InOrder low spans high' := by
  have hnil : InOrder high [] high' := hle
  simpa using horder.append hnil

theorem tail (horder : InOrder low spans high) : InOrder low spans.tail high := by
  cases spans with
  | nil => exact horder
  | cons span rest =>
      have hspan := span.start_le_stop
      exact mono_low horder.2 (Nat.le_trans horder.1 hspan)

theorem bounds_of_mem (horder : InOrder low spans high) (hspan : span ∈ spans) :
    low ≤ span.start.toNat ∧ span.stop ≤ high := by
  induction spans generalizing low with
  | nil => cases hspan
  | cons first rest ih =>
      cases hspan with
      | head => exact ⟨horder.1, le horder.2⟩
      | tail _ hmem =>
          have hfirst := first.start_le_stop
          have hlow := horder.1
          have hrest := ih horder.2 hmem
          omega

end InOrder

end Span

end TemplateVariables
