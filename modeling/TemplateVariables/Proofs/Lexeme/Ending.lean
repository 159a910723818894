import TemplateVariables.Proofs.Token.Markers

/-!
# Lexemes in front of the end of a tag

A lexeme is cut as long as it can be, so what stands behind it has a say in where it
ends.  The end of a tag has none: no lexeme goes on into a marker and a closer.  It
therefore does not matter for the lexemes of a tag which marker its closer carries, and
what follows the tag.
-/

namespace TemplateVariables

open Text

/-- The end of a tag as it is written, with what follows it. -/
def Delimiter.tail (delimiter : Delimiter) (marker : Marker) (rest : List Char) : List Char :=
  marker.chars ++ (delimiter.closer ++ rest)

section Tail

variable (delimiter : Delimiter) (marker : Marker) (rest : List Char)

theorem Delimiter.head?_tail :
    ∃ c, (delimiter.tail marker rest).head? = some c ∧ c ∈ ['-', '+', '%', '\x7d', '#'] := by
  cases marker <;> cases delimiter <;> simp [tail, Marker.chars, closer]

/-- A run of characters that cannot go on into the end of a tag. -/
theorem Text.takeWhile_append_tail {p : Char → Bool}
    (hp : ∀ c ∈ ['-', '+', '%', '\x7d', '#'], p c = false) (text : List Char) :
    (text ++ delimiter.tail marker rest).takeWhile p = text.takeWhile p ∧
      (text ++ delimiter.tail marker rest).dropWhile p =
        text.dropWhile p ++ delimiter.tail marker rest := by
  induction text with
  | nil =>
      obtain ⟨c, hhead, hmem⟩ := delimiter.head?_tail marker rest
      obtain ⟨others, htail⟩ := List.head?_eq_some_iff.1 hhead
      rw [List.nil_append, htail]
      simp [hp c hmem]
  | cons c text ih =>
      rw [List.cons_append, List.takeWhile_cons, List.takeWhile_cons, List.dropWhile_cons,
        List.dropWhile_cons]
      cases hc : p c with
      | false => exact ⟨rfl, rfl⟩
      | true => exact ⟨congrArg (c :: ·) ih.1, ih.2⟩

theorem Text.isDigitPart_tail : ∀ c ∈ ['-', '+', '%', '\x7d', '#'], isDigitPart c = false := by
  intro c hc
  simp only [List.mem_cons, List.not_mem_nil, or_false] at hc
  rcases hc with rfl | rfl | rfl | rfl | rfl <;> rfl

theorem Text.isNamePart_tail : ∀ c ∈ ['-', '+', '%', '\x7d', '#'], isNamePart c = false := by
  intro c hc
  simp only [List.mem_cons, List.not_mem_nil, or_false] at hc
  rcases hc with rfl | rfl | rfl | rfl | rfl <;> decide +kernel

theorem Text.isBlank_tail : ∀ c ∈ ['-', '+', '%', '\x7d', '#'], isBlank c = false := by
  intro c hc
  simp only [List.mem_cons, List.not_mem_nil, or_false] at hc
  rcases hc with rfl | rfl | rfl | rfl | rfl <;> rfl

namespace Cut

theorem fraction_of_head_ne {text : List Char} (htext : text.head? ≠ some '.') :
    fraction text = ([], text) := by
  unfold fraction
  split
  · exact absurd rfl htext
  · rfl

theorem head?_digit_append_tail (text : List Char) :
    (text ++ delimiter.tail marker rest).head?.any Char.isDigit =
      text.head?.any Char.isDigit := by
  cases text with
  | nil => cases marker <;> cases delimiter <;> rfl
  | cons c text => rfl

theorem fraction_append_tail (text : List Char) :
    fraction (text ++ delimiter.tail marker rest) =
      ((fraction text).1, (fraction text).2 ++ delimiter.tail marker rest) := by
  cases text with
  | nil => cases marker <;> cases delimiter <;> rfl
  | cons point text =>
      by_cases hpoint : point = '.'
      · subst hpoint
        cases text with
        | nil => cases marker <;> cases delimiter <;> rfl
        | cons c text =>
            obtain ⟨hrun, hdrop⟩ :=
              takeWhile_append_tail delimiter marker rest isDigitPart_tail (c :: text)
            rw [List.cons_append] at hrun hdrop
            simp only [List.cons_append, fraction, hrun, hdrop]
            split <;> rfl
      · rw [fraction_of_head_ne (by simpa using hpoint),
          fraction_of_head_ne (by simpa using hpoint)]

theorem sign_append_tail {text : List Char} (htext : text ≠ []) :
    sign (text ++ delimiter.tail marker rest) =
      ((sign text).1, (sign text).2 ++ delimiter.tail marker rest) := by
  obtain ⟨c, others, rfl⟩ := List.exists_cons_of_ne_nil htext
  unfold sign
  split <;> simp_all

/-- The marker of a closer is not the sign of an exponent, for no digit follows it. -/
theorem exponent_append_tail (text : List Char) :
    exponent (text ++ delimiter.tail marker rest) =
      ((exponent text).1, (exponent text).2 ++ delimiter.tail marker rest) := by
  cases text with
  | nil => cases marker <;> cases delimiter <;> rfl
  | cons mark text =>
      simp only [List.cons_append, exponent]
      by_cases hmark : (mark == 'e' || mark == 'E') = true
      · rw [if_pos hmark, if_pos hmark]
        by_cases htext : text = []
        · subst htext
          cases marker <;> cases delimiter <;> rfl
        · obtain ⟨hrun, hdrop⟩ :=
            takeWhile_append_tail delimiter marker rest isDigitPart_tail (sign text).2
          simp only [sign_append_tail delimiter marker rest htext, head?_digit_append_tail, hrun,
            hdrop]
          split <;> rfl
      · rw [if_neg hmark, if_neg hmark]
        rfl

theorem numeral_append_tail (afterDot : Bool) (text : List Char) :
    numeral afterDot (text ++ delimiter.tail marker rest) =
      ((numeral afterDot text).1, (numeral afterDot text).2 ++ delimiter.tail marker rest) := by
  obtain ⟨hwhole, hrest⟩ := takeWhile_append_tail delimiter marker rest isDigitPart_tail text
  unfold numeral
  dsimp only
  rw [hwhole, hrest]
  cases afterDot with
  | true => rfl
  | false => simp only [Bool.false_eq_true, if_false, fraction_append_tail, exponent_append_tail]

theorem double?_singleton (c : Char) : double? [c] = none := by
  unfold double?
  split <;> simp_all

theorem double?_append_tail {text : List Char} (htext : text ≠ []) :
    double? (text ++ delimiter.tail marker rest) = double? text := by
  match text with
  | [c] =>
      rw [double?_singleton]
      unfold double?
      cases marker <;> cases delimiter <;> simp [Delimiter.tail, Marker.chars, Delimiter.closer]
  | c :: d :: text =>
      simp only [List.cons_append]
      unfold double?
      split <;> simp_all

theorem punct?_append_tail {text : List Char} (htext : text ≠ []) :
    punct? (text ++ delimiter.tail marker rest) =
      (punct? text).map fun cut =>
        { cut with rest := cut.rest ++ delimiter.tail marker rest } := by
  have hdouble := double?_append_tail delimiter marker rest htext
  match text with
  | [c] =>
      rw [double?_singleton] at hdouble
      unfold punct?
      rw [hdouble, double?_singleton]
      cases hc : single? c <;> simp [hc]
  | c :: d :: text =>
      unfold punct?
      rw [hdouble]
      cases double? (c :: d :: text) with
      | some mark => rfl
      | none => cases hc : single? c <;> simp [hc]

theorem name_append_tail (text : List Char) :
    name (text ++ delimiter.tail marker rest) =
      { name text with rest := (name text).rest ++ delimiter.tail marker rest } := by
  obtain ⟨hrun, hdrop⟩ := takeWhile_append_tail delimiter marker rest isNamePart_tail text
  unfold name
  rw [hrun, hdrop]

theorem number_append_tail (afterDot : Bool) (text : List Char) :
    number afterDot (text ++ delimiter.tail marker rest) =
      { number afterDot text with
        rest := (number afterDot text).rest ++ delimiter.tail marker rest } := by
  unfold number
  rw [numeral_append_tail]

/-! ## Strings -/

/-- What stands behind the closing quote of a string is not looked at. -/
theorem quoted?_of_append {quote : Char} {text value used rest : List Char}
    (hquoted : quoted? quote text = some (value, used, rest)) (other : List Char) :
    quoted? quote (used ++ other) = some (value, used, other) := by
  fun_induction quoted? quote text generalizing value used rest with
  | case1 => cases hquoted
  | case2 c hquote =>
      cases hquoted
      cases other <;> simp [quoted?, hquote]
  | case3 => cases hquoted
  | case4 c next others hquote =>
      cases hquoted
      cases other <;> simp [quoted?, hquote]
  | case5 c next others hquote hescape ih =>
      obtain ⟨⟨inner, innerUsed, innerRest⟩, hinner, hpair⟩ := Option.map_eq_some_iff.1 hquoted
      cases hpair
      simp [quoted?, hquote, hescape, ih hinner]
  | case6 c next others hquote hescape ih =>
      obtain ⟨⟨inner, innerUsed, innerRest⟩, hinner, hpair⟩ := Option.map_eq_some_iff.1 hquoted
      cases hpair
      have hbelow := ih hinner
      obtain ⟨d, more, rfl⟩ := List.exists_cons_of_ne_nil (endsIn_quoted hinner).1
      rw [List.cons_append] at hbelow
      simp [quoted?, hquote, hescape, hbelow]

end Cut

end Tail

/-! ## Any lexeme -/

/-- A lexeme that ends before the end of its tag is cut in the same way whatever that end is. -/
theorem Cut.ofChars_append_tail {delimiter : Delimiter} {marker : Marker} {afterDot : Bool}
    {start : Nat} {c : Char} {used front rest : List Char} {cut : Cut}
    (hcut : Cut.ofChars afterDot start c (used ++ (front ++ delimiter.tail marker rest)) = .ok cut)
    (hused : cut.used = c :: used)
    (start' : Nat) (marker' : Marker) (rest' : List Char) :
    Cut.ofChars afterDot start' c (used ++ (front ++ delimiter.tail marker' rest')) =
      .ok { cut with rest := front ++ delimiter.tail marker' rest' } := by
  have hrest : cut.rest = front ++ delimiter.tail marker rest := by
    have happend := Cut.ofChars_append hcut
    rw [hused, List.cons_append] at happend
    exact List.append_cancel_left (List.cons.inj happend).2
  have hassoc (marker : Marker) (rest : List Char) :
      c :: (used ++ (front ++ delimiter.tail marker rest)) =
        (c :: (used ++ front)) ++ delimiter.tail marker rest := by
    rw [List.cons_append, List.append_assoc]
  -- The marker is cut away with the rest, so what is left of the lexeme is the same.
  have hsame {plain : Cut} (hplain : cut = { plain with
      rest := plain.rest ++ delimiter.tail marker rest }) :
      ({ plain with rest := plain.rest ++ delimiter.tail marker' rest' } : Cut) =
        { cut with rest := front ++ delimiter.tail marker' rest' } := by
    rw [hplain] at hrest ⊢
    rw [List.append_cancel_right hrest]
  unfold Cut.ofChars at hcut ⊢
  rw [hassoc] at hcut ⊢
  split at hcut
  · next hstart =>
      rw [if_pos hstart, name_append_tail, hsame]
      rw [← Except.ok.inj hcut, name_append_tail]
  next hstart =>
  split at hcut
  · next hdigit =>
      rw [if_neg hstart, if_pos hdigit, number_append_tail, hsame]
      rw [← Except.ok.inj hcut, number_append_tail]
  next hdigit =>
  split at hcut
  · next hquote =>
      rw [if_neg hstart, if_neg hdigit, if_pos hquote]
      split at hcut
      · next hstring =>
          cases hcut
          obtain ⟨⟨value, within, left⟩, hquoted, rfl⟩ := Option.map_eq_some_iff.1 hstring
          obtain rfl : within = used := (List.cons.inj hused).2
          rw [string?, quoted?_of_append hquoted]
          rfl
      · cases hcut
  · next hquote =>
      rw [if_neg hstart, if_neg hdigit, if_neg hquote]
      rw [punct?_append_tail _ _ _ (List.cons_ne_nil _ _)] at hcut ⊢
      cases hpunct : punct? (c :: (used ++ front)) with
      | none =>
          rw [hpunct] at hcut
          cases hcut
      | some plain =>
          rw [hpunct] at hcut
          exact congrArg Except.ok (hsame (Except.ok.inj hcut).symm)

end TemplateVariables
