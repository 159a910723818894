/-!
# Fixed pieces of text

Taking a fixed piece off the front of a text, and breaking a text at the first
occurrence of one.
-/

namespace TemplateVariables.Text

/-- The text after `piece`, when the text begins with it. -/
def strip? : List Char → List Char → Option (List Char)
  | [], text => some text
  | _ :: _, [] => none
  | p :: piece, c :: text => if p = c then strip? piece text else none

/-- The text before and the text after the first occurrence of `piece`. -/
def breakOn? (piece : List Char) : List Char → Option (List Char × List Char)
  | [] => (strip? piece []).map fun after => ([], after)
  | c :: text =>
      match strip? piece (c :: text) with
      | some after => some ([], after)
      | none => (breakOn? piece text).map fun (before, after) => (c :: before, after)

theorem strip?_eq_some_iff {piece text rest : List Char} :
    strip? piece text = some rest ↔ text = piece ++ rest := by
  fun_induction strip? piece text with
  | case1 text => simp
  | case2 p piece => simp
  | case3 c piece text ih => simp [ih]
  | case4 p piece c text hne => simp [Ne.symm hne]

theorem breakOn?_append {piece text before after : List Char}
    (hbreak : breakOn? piece text = some (before, after)) :
    text = before ++ piece ++ after := by
  induction text generalizing before after with
  | nil =>
      obtain ⟨_, hstrip, hpair⟩ := Option.map_eq_some_iff.1 hbreak
      cases hpair
      simpa using strip?_eq_some_iff.1 hstrip
  | cons c text ih =>
      simp only [breakOn?] at hbreak
      split at hbreak
      · next hstrip =>
          cases hbreak
          simpa using strip?_eq_some_iff.1 hstrip
      · obtain ⟨⟨_, _⟩, hrest, hpair⟩ := Option.map_eq_some_iff.1 hbreak
        cases hpair
        simp [ih hrest]

end TemplateVariables.Text
