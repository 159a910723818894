import Mathlib.Algebra.Group.Nat.Defs
import Mathlib.Data.List.Induction
import Mathlib.Tactic.SplitIfs
import TemplateVariables.LineIndex
import TemplateVariables.Proofs.SpanArithmetic

/-!
# Looking up lines and columns

The index of a text lists the places just behind its newlines, whatever stands between them: no
byte of another character is a newline.  The list rises, so the search finds the line that holds
an offset whether or not the offset begins it, and the line begins at or before the offset.
-/

namespace TemplateVariables

/-! ## Newlines among the bytes of a text -/

namespace Text

/-- The bytes of a text in UTF-8. -/
def bytes (text : List Char) : List UInt8 :=
  text.flatMap String.utf8EncodeChar

def newline : UInt8 := 10

/-- The last line of some bytes begins at `start`. -/
structure BeginsLastLine (seen : List UInt8) (start : Nat) : Prop where
  le : start ≤ seen.length
  begins : start = 0 ∨ (seen.take start).getLast? = some newline
  unbroken : newline ∉ seen.drop start

theorem length_bytes (text : List Char) : (bytes text).length = byteLength text := by
  induction text with
  | nil => rfl
  | cons c rest ih =>
      rw [bytes, List.flatMap_cons, List.length_append, String.length_utf8EncodeChar,
        byteLength_cons, ← ih]
      rfl

theorem newline_notMem_utf8EncodeChar {c : Char} (hc : c ≠ '\n') :
    newline ∉ String.utf8EncodeChar c := by
  have hvalue : c.val.toNat ≠ 10 := by
    intro heq
    apply hc
    rw [Char.ext_iff, ← UInt32.toNat_inj, heq]
    rfl
  have hten : newline.toNat = 10 := rfl
  unfold String.utf8EncodeChar
  intro hmem
  dsimp only at hmem
  -- The bytes of the longer forms are 128 or more.
  split_ifs at hmem <;>
    simp only [List.mem_cons, List.not_mem_nil, or_false, ← UInt8.toNat_inj, hten,
      UInt8.toNat_ofNat'] at hmem <;>
    omega

/-- Offsets just behind the newlines of some bytes that begin at `offset`. -/
def behindNewlines (offset : Nat) : List UInt8 → List Nat
  | [] => []
  | byte :: rest =>
      if byte = newline then (offset + 1) :: behindNewlines (offset + 1) rest
      else behindNewlines (offset + 1) rest

section behindNewlines

theorem behindNewlines_append (offset : Nat) (seen more : List UInt8) :
    behindNewlines offset (seen ++ more) =
      behindNewlines offset seen ++ behindNewlines (offset + seen.length) more := by
  induction seen generalizing offset with
  | nil => simp [behindNewlines]
  | cons byte rest ih =>
      have hoffset : offset + 1 + rest.length = offset + (rest.length + 1) := by omega
      by_cases hbyte : byte = newline <;>
        simp [behindNewlines, hbyte, ih, hoffset]

variable {offset place : Nat} {seen : List UInt8}

theorem behindNewlines_eq_nil (hnone : newline ∉ seen) : behindNewlines offset seen = [] := by
  induction seen generalizing offset with
  | nil => rfl
  | cons byte rest ih =>
      rw [List.mem_cons, not_or] at hnone
      simp [behindNewlines, Ne.symm hnone.1, ih hnone.2]

theorem length_behindNewlines : (behindNewlines offset seen).length = seen.count newline := by
  induction seen generalizing offset with
  | nil => rfl
  | cons byte rest ih =>
      by_cases hbyte : byte = newline <;> simp [behindNewlines, hbyte, ih]

theorem lt_of_mem_behindNewlines (hplace : place ∈ behindNewlines offset seen) :
    offset < place ∧ place ≤ offset + seen.length := by
  induction seen generalizing offset with
  | nil => simp [behindNewlines] at hplace
  | cons byte rest ih =>
      rw [List.length_cons]
      have hlater : place ∈ behindNewlines (offset + 1) rest →
          offset < place ∧ place ≤ offset + (rest.length + 1) := by
        intro hmem
        have hbounds := ih hmem
        omega
      by_cases hbyte : byte = newline
      · simp only [behindNewlines, hbyte, if_true, List.mem_cons] at hplace
        cases hplace with
        | inl heq => omega
        | inr hmem => exact hlater hmem
      · simp only [behindNewlines, hbyte, if_false] at hplace
        exact hlater hplace

theorem pairwise_behindNewlines : (behindNewlines offset seen).Pairwise (· < ·) := by
  induction seen generalizing offset with
  | nil => exact List.Pairwise.nil
  | cons byte rest ih =>
      by_cases hbyte : byte = newline
      · simp only [behindNewlines, hbyte, if_true, List.pairwise_cons]
        exact ⟨fun place hplace => (lt_of_mem_behindNewlines hplace).1, ih⟩
      · simpa only [behindNewlines, hbyte, if_false] using ih

end behindNewlines

/-- The last line begins behind the last newline, or with the text. -/
theorem beginsLastLine_getLastD (seen : List UInt8) :
    BeginsLastLine seen ((behindNewlines 0 seen).getLastD 0) := by
  induction seen using List.reverseRecOn with
  | nil => exact ⟨Nat.le_refl _, Or.inl rfl, List.not_mem_nil⟩
  | append_singleton seen byte ih =>
      by_cases hbyte : byte = newline
      · have hlast : (behindNewlines 0 (seen ++ [byte])).getLastD 0 = (seen ++ [byte]).length := by
          simp [behindNewlines_append, behindNewlines, hbyte]
        rw [hlast]
        refine ⟨Nat.le_refl _, Or.inr ?_, by simp⟩
        rw [List.take_length]
        simp [hbyte]
      · have hsame : behindNewlines 0 (seen ++ [byte]) = behindNewlines 0 seen := by
          simp [behindNewlines_append, behindNewlines, hbyte]
        rw [hsame]
        refine ⟨?_, ?_, ?_⟩
        · rw [List.length_append]
          exact Nat.le_add_right_of_le ih.le
        · rw [List.take_append_of_le_length ih.le]
          exact ih.begins
        · rw [List.drop_append_of_le_length ih.le, List.mem_append, List.mem_singleton, not_or]
          exact ⟨ih.unbroken, Ne.symm hbyte⟩

end Text

/-! ## The list of the places where lines begin -/

namespace LineIndex

open Text

variable {text : List Char}

theorem map_toNat_startsAfterNewlines {offset : UInt32}
    (hlimit : offset.toNat + byteLength text < 2 ^ 32) :
    (startsAfterNewlines offset text).map UInt32.toNat =
      behindNewlines offset.toNat (bytes text) := by
  induction text generalizing offset with
  | nil => rfl
  | cons c rest ih =>
      rw [byteLength_cons] at hlimit
      have hnext : (offset + UInt32.ofNat c.utf8Size).toNat = offset.toNat + c.utf8Size := by
        rw [UInt32.toNat_add, UInt32.toNat_ofNat', Nat.mod_eq_of_lt (by omega),
          Nat.mod_eq_of_lt (by omega)]
      have hrest := @ih (offset + UInt32.ofNat c.utf8Size) (by omega)
      rw [hnext] at hrest
      rw [show bytes (c :: rest) = String.utf8EncodeChar c ++ bytes rest from rfl,
        behindNewlines_append, String.length_utf8EncodeChar, ← hrest]
      by_cases hc : c = '\n'
      · subst c
        rw [startsAfterNewlines, if_pos rfl, List.map_cons, hnext]
        rfl
      · rw [startsAfterNewlines, if_neg hc,
          behindNewlines_eq_nil (newline_notMem_utf8EncodeChar hc)]
        rfl

variable (hlimit : byteLength text < 2 ^ 32)

include hlimit

theorem map_toNat_lineStarts_ofText :
    (ofText text).lineStarts.toList.map UInt32.toNat = 0 :: behindNewlines 0 (bytes text) := by
  have hstarts := @map_toNat_startsAfterNewlines text 0 (by simpa using hlimit)
  simpa [ofText] using hstarts

theorem lineCount_ofText : (ofText text).lineCount = 1 + (bytes text).count newline := by
  have hlength := congrArg List.length (map_toNat_lineStarts_ofText hlimit)
  rw [List.length_map, List.length_cons, length_behindNewlines] at hlength
  rw [lineCount, ← Array.length_toList, hlength, Nat.add_comm]

theorem rising_lineStarts_ofText : (ofText text).lineStarts.toList.Pairwise (· < ·) := by
  have hrising : ((ofText text).lineStarts.toList.map UInt32.toNat).Pairwise (· < ·) := by
    rw [map_toNat_lineStarts_ofText hlimit, List.pairwise_cons]
    exact ⟨fun place hplace => (lt_of_mem_behindNewlines hplace).1, pairwise_behindNewlines⟩
  exact (List.pairwise_map.mp hrising).imp fun hlt => UInt32.lt_iff_toNat_lt.mpr hlt

end LineIndex

/-! ## The search -/

namespace Landing

/-- What a landing says of rising offsets: the one it is on is the offset that was searched for,
or it divides the smaller ones from the larger ones. -/
def Fits (offsets : Array UInt32) (offset : UInt32) : Landing → Prop
  | found index => offsets[index]? = some offset
  | missing index =>
      index ≤ offsets.size ∧ (∀ i, (hi : i < offsets.size) → i < index → offsets[i] < offset) ∧
        ∀ i, (hi : i < offsets.size) → index ≤ i → offset < offsets[i]

variable {offsets : Array UInt32} {offset : UInt32}

theorem getElem_lt (hrising : offsets.toList.Pairwise (· < ·)) {i j : Nat}
    (hj : j < offsets.size) (hlt : i < j) : offsets[i] < offsets[j] := by
  have hpair := List.pairwise_iff_getElem.mp hrising i j (by simp; omega) (by simpa using hj) hlt
  simpa using hpair

theorem fits_between (hrising : offsets.toList.Pairwise (· < ·)) {low high : Nat}
    (hle : low ≤ high) (hhigh : high ≤ offsets.size)
    (hbelow : ∀ i, (hi : i < offsets.size) → i < low → offsets[i] < offset)
    (habove : ∀ i, (hi : i < offsets.size) → high ≤ i → offset < offsets[i]) :
    (between offsets offset low high hhigh).Fits offsets offset := by
  fun_induction between offsets offset low high hhigh with
  | case1 low high hhigh hlow middle heq =>
      rw [Fits, ← heq]
      exact Array.getElem?_eq_getElem _
  | case2 low high hhigh hlow middle hne hless ih =>
      apply ih (by omega) _ habove
      intro i hi hiLow
      by_cases hmiddle : i = (low + high) / 2
      · subst hmiddle
        exact hless
      · exact UInt32.lt_trans (getElem_lt hrising (by omega) (by omega)) hless
  | case3 low high hhigh hlow middle hne hless ih =>
      have hmore : offset < middle := by
        rw [UInt32.lt_iff_toNat_lt] at hless ⊢
        rw [← UInt32.toNat_inj] at hne
        omega
      apply ih (by omega) hbelow
      intro i hi hiHigh
      by_cases hmiddle : i = (low + high) / 2
      · subst hmiddle
        exact hmore
      · exact UInt32.lt_trans hmore (getElem_lt hrising hi (by omega))
  | case4 low high hhigh hlow =>
      have heq : high = low := by omega
      subst heq
      exact ⟨hhigh, hbelow, habove⟩

theorem fits_search (hrising : offsets.toList.Pairwise (· < ·)) :
    (search offsets offset).Fits offsets offset :=
  fits_between hrising (Nat.zero_le _) (Nat.le_refl _)
    (fun _ _ hi => absurd hi (Nat.not_lt_zero _)) (fun _ hi hle => absurd hi (Nat.not_lt.mpr hle))

/-- The line is the last of those that begin at the offset or before it. -/
theorem Fits.line_eq {landing : Landing} (hfits : landing.Fits offsets offset)
    (hrising : offsets.toList.Pairwise (· < ·)) {last : Nat} (hlast : last < offsets.size)
    (hle : offsets[last] ≤ offset)
    (hafter : ∀ i, (hi : i < offsets.size) → last < i → offset < offsets[i]) :
    landing.line = last := by
  cases landing with
  | found index =>
      obtain ⟨hindex, heq⟩ := Array.getElem?_eq_some_iff.mp hfits
      subst heq
      rcases Nat.lt_trichotomy index last with hlt | hsame | hgt
      · exact absurd (getElem_lt hrising hlast hlt) (UInt32.not_lt.mpr hle)
      · exact hsame
      · exact absurd (hafter index hindex hgt) (UInt32.lt_irrefl _)
  | missing index =>
      obtain ⟨hindex, hbelow, habove⟩ := hfits
      have hbehind : last < index := by
        by_contra hnot
        exact absurd (habove last hlast (by omega)) (UInt32.not_lt.mpr hle)
      have hnext : ¬ last + 1 < index := by
        intro hlt
        have hin : last + 1 < offsets.size := by omega
        exact absurd (hbelow _ hin hlt)
          (UInt32.not_lt.mpr (UInt32.le_of_lt (hafter _ hin (Nat.lt_succ_self _))))
      show index - 1 = last
      omega

end Landing

/-! ## The line and the column of an offset -/

/-- Positions are ordered by their lines, and in a line by their columns. -/
instance : LE Position where
  le first second :=
    first.line < second.line ∨ first.line = second.line ∧ first.column ≤ second.column

namespace LineIndex

open Text

section Table

variable {text : List Char} (hlimit : byteLength text < 2 ^ 32) {offset : Nat}
  (hoffset : offset ≤ (bytes text).length)

include hlimit hoffset

/-- Up to an offset as many lines have begun as there are newlines, besides the first one. -/
theorem lineStarts_ofText_eq_append :
    (ofText text).lineStarts.toList.map UInt32.toNat =
      (0 :: behindNewlines 0 ((bytes text).take offset)) ++
        behindNewlines offset ((bytes text).drop offset) := by
  have hsplit := behindNewlines_append 0 ((bytes text).take offset) ((bytes text).drop offset)
  rw [List.take_append_drop, List.length_take_of_le hoffset, Nat.zero_add] at hsplit
  rw [map_toNat_lineStarts_ofText hlimit, hsplit, List.cons_append]

theorem exists_lineStart :
    ∃ start, (ofText text).lineStarts[((bytes text).take offset).count newline]? = some start ∧
      BeginsLastLine ((bytes text).take offset) start.toNat := by
  have hlast : (0 :: behindNewlines 0 ((bytes text).take offset))[
      ((bytes text).take offset).count newline]? =
        some ((behindNewlines 0 ((bytes text).take offset)).getLastD 0) := by
    have hget := List.getLast?_eq_getElem? (l := 0 :: behindNewlines 0 ((bytes text).take offset))
    rwa [List.getLast?_cons, List.length_cons, length_behindNewlines, Nat.add_sub_cancel, eq_comm,
      ← List.getLastD_eq_getLast?] at hget
  have hat := congrArg (·[((bytes text).take offset).count newline]?)
    (lineStarts_ofText_eq_append hlimit hoffset)
  rw [List.getElem?_append_left, hlast, List.getElem?_map, Array.getElem?_toList,
    Option.map_eq_some_iff] at hat
  · obtain ⟨start, hstart, heq⟩ := hat
    exact ⟨start, hstart, heq ▸ beginsLastLine_getLastD _⟩
  · rw [List.length_cons, length_behindNewlines]
    exact Nat.lt_succ_self _

theorem lt_lineStart {i : Nat} (hi : i < (ofText text).lineStarts.size)
    (hlt : ((bytes text).take offset).count newline < i) :
    offset < ((ofText text).lineStarts[i]).toNat := by
  have hat := congrArg (·[i]?) (lineStarts_ofText_eq_append hlimit hoffset)
  rw [List.getElem?_append_right, List.getElem?_map, Array.getElem?_toList,
    Array.getElem?_eq_getElem hi] at hat
  · exact (lt_of_mem_behindNewlines (List.mem_of_getElem? hat.symm)).1
  · rw [List.length_cons, length_behindNewlines]
    exact hlt

end Table

variable {text : List Char}

/-- The number of a line fits, since each line but the first has a newline in front of it. -/
theorem toNat_clamp_count (seen : List UInt8) (offset : UInt32) :
    (Span.clamp ((seen.take offset.toNat).count newline)).toNat =
      (seen.take offset.toNat).count newline := by
  have hcount := List.count_le_length (a := newline) (l := seen.take offset.toNat)
  have hlength := List.length_take_le offset.toNat seen
  have hoffset := offset.toNat_lt
  rw [Span.toNat_clamp, Nat.min_eq_left]
  unfold Span.limit
  omega

variable (hlimit : byteLength text < 2 ^ 32)

include hlimit

theorem toNat_min_length_ofText (offset : UInt32) :
    (min offset (ofText text).length).toNat = min offset.toNat (bytes text).length := by
  have hlength : (ofText text).length.toNat = (bytes text).length := by
    rw [length_bytes, ofText, UInt32.toNat_ofNat', Nat.mod_eq_of_lt hlimit]
  rw [← hlength]
  exact UInt32.toNat_min _ _

/-- An offset is found in the last line of the bytes in front of it. -/
theorem position?_ofText (offset : UInt32) :
    ∃ position start, (ofText text).position? offset = some position ∧
      position.line.toNat = ((bytes text).take offset.toNat).count newline ∧
      (ofText text).lineStarts[position.line.toNat]? = some start ∧
      BeginsLastLine ((bytes text).take offset.toNat) start.toNat ∧
      start.toNat + position.column.toNat = ((bytes text).take offset.toNat).length := by
  have hmin := toNat_min_length_ofText hlimit offset
  generalize hclamped : min offset (ofText text).length = clamped at hmin
  have hle : clamped.toNat ≤ (bytes text).length := by omega
  rw [List.take_eq_take_min (i := offset.toNat), ← hmin]
  obtain ⟨start, hstart, hbegins⟩ := exists_lineStart hlimit hle
  have hstartLe : start.toNat ≤ clamped.toNat := by
    rw [← List.length_take_of_le hle]
    exact hbegins.le
  have hline : (Landing.search (ofText text).lineStarts clamped).line =
      ((bytes text).take clamped.toNat).count newline := by
    have hrising := rising_lineStarts_ofText hlimit
    obtain ⟨hlast, hstartEq⟩ := Array.getElem?_eq_some_iff.mp hstart
    apply (Landing.fits_search hrising).line_eq hrising hlast
    · rw [hstartEq]
      exact UInt32.le_iff_toNat_le.mpr hstartLe
    · intro i hi hlt
      exact UInt32.lt_iff_toNat_lt.mpr (lt_lineStart hlimit hle hi hlt)
  have hcount := toNat_clamp_count (bytes text) clamped
  refine ⟨⟨Span.clamp (((bytes text).take clamped.toNat).count newline), clamped - start⟩, start,
    ?_, hcount, ?_, hbegins, ?_⟩
  · rw [position?, hclamped, hline]
    simp [hstart, UInt32.lt_iff_toNat_lt, hstartLe]
  · rw [hcount]
    exact hstart
  · rw [List.length_take_of_le hle]
    show start.toNat + (clamped - start).toNat = clamped.toNat
    rw [UInt32.toNat_sub_of_le _ _ (UInt32.le_iff_toNat_le.mpr hstartLe)]
    omega

theorem eq_of_position?_eq {offset offset' : UInt32} (hoffset : offset.toNat ≤ (bytes text).length)
    (hoffset' : offset'.toNat ≤ (bytes text).length)
    (heq : (ofText text).position? offset = (ofText text).position? offset') :
    offset = offset' := by
  obtain ⟨position, start, hposition, -, hstart, -, hsum⟩ := position?_ofText hlimit offset
  obtain ⟨position', start', hposition', -, hstart', -, hsum'⟩ := position?_ofText hlimit offset'
  rw [hposition, hposition', Option.some_inj] at heq
  subst position'
  rw [hstart, Option.some_inj] at hstart'
  subst start'
  rw [List.length_take_of_le hoffset] at hsum
  rw [List.length_take_of_le hoffset'] at hsum'
  exact UInt32.toNat_inj.mp (hsum.symm.trans hsum')

theorem position_le_of_le {offset offset' : UInt32} (hle : offset ≤ offset')
    {position position' : Position} (hposition : (ofText text).position? offset = some position)
    (hposition' : (ofText text).position? offset' = some position') :
    position ≤ position' := by
  obtain ⟨_, start, hfound, hline, hstart, -, hsum⟩ := position?_ofText hlimit offset
  obtain ⟨_, start', hfound', hline', hstart', -, hsum'⟩ := position?_ofText hlimit offset'
  rw [hposition, Option.some_inj] at hfound
  rw [hposition', Option.some_inj] at hfound'
  subst hfound hfound'
  have hseen := List.take_sublist_take_left (l := bytes text) (UInt32.le_iff_toNat_le.mp hle)
  have hcount := hseen.count_le newline
  rw [← hline, ← hline'] at hcount
  by_cases hsame : position.line = position'.line
  · rw [hsame, hstart', Option.some_inj] at hstart
    subst start'
    have hlength := hseen.length_le
    exact Or.inr ⟨hsame, UInt32.le_iff_toNat_le.mpr (by omega)⟩
  · have hne : position.line.toNat ≠ position'.line.toNat := fun heq =>
      hsame (UInt32.toNat_inj.mp heq)
    exact Or.inl (UInt32.lt_iff_toNat_lt.mpr (by omega))

/-- Every offset has a line and a column, also one inside a character and one past the end: the
newlines in front of it, and what stands between it and the last of them.  Offsets of the text
have positions of their own, in the same order. -/
theorem position?_exact :
    (ofText text).lineCount = 1 + (bytes text).count newline ∧
      (∀ offset : UInt32, ∃ position start,
        (ofText text).position? offset = some position ∧
          position.line.toNat = ((bytes text).take offset.toNat).count newline ∧
          position.line.toNat < (ofText text).lineCount ∧
          (ofText text).lineStarts[position.line.toNat]? = some start ∧
          BeginsLastLine ((bytes text).take offset.toNat) start.toNat ∧
          start.toNat + position.column.toNat = min offset.toNat (bytes text).length) ∧
      (∀ offset offset' : UInt32, offset.toNat ≤ (bytes text).length →
        offset'.toNat ≤ (bytes text).length →
        (ofText text).position? offset = (ofText text).position? offset' → offset = offset') ∧
      ∀ (offset offset' : UInt32) (position position' : Position), offset ≤ offset' →
        (ofText text).position? offset = some position →
        (ofText text).position? offset' = some position' → position ≤ position' := by
  refine ⟨lineCount_ofText hlimit, fun offset => ?_,
    fun offset offset' hoffset hoffset' => eq_of_position?_eq hlimit hoffset hoffset',
    fun offset offset' position position' hle => position_le_of_le hlimit hle⟩
  obtain ⟨position, start, hposition, hline, hstart, hbegins, hsum⟩ :=
    position?_ofText hlimit offset
  refine ⟨position, start, hposition, hline, ?_, hstart, hbegins, ?_⟩
  · exact (Array.getElem?_eq_some_iff.mp hstart).1
  · rw [hsum, List.length_take]

omit hlimit in
/-- Offsets inside a character, behind a newline and past the end. -/
theorem position?_exact_multibyte :
    let text := ['é', '\n', 'x']
    byteLength text < 2 ^ 32 ∧ (ofText text).lineCount = 2 ∧
      (ofText text).position? 1 = some ⟨0, 1⟩ ∧ (ofText text).position? 3 = some ⟨1, 0⟩ ∧
      (ofText text).position? 99 = some ⟨1, 1⟩ ∧ (⟨0, 1⟩ : Position) ≤ ⟨1, 0⟩ := by
  intro text
  have hlimit : byteLength text < 2 ^ 32 := by decide
  obtain ⟨hcount, -, -, hmono⟩ := position?_exact hlimit
  have hinside : (ofText text).position? 1 = some ⟨0, 1⟩ := by decide +kernel
  have hbehind : (ofText text).position? 3 = some ⟨1, 0⟩ := by decide +kernel
  exact ⟨hlimit, hcount, hinside, hbehind, by decide +kernel,
    hmono 1 3 _ _ (by decide) hinside hbehind⟩

end LineIndex

end TemplateVariables
