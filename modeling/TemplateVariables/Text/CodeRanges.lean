/-!
# Sets of code points

A property of characters that has no short rule is kept as the increasing list
of its inclusive code point ranges.
-/

namespace TemplateVariables.Text

/-- Inclusive ranges of code points, in increasing order. -/
abbrev CodeRanges := List (Nat × Nat)

/-- Whether the code point lies in one of the ranges.  The search stops at the
first range that begins beyond the code point. -/
def CodeRanges.contains (ranges : CodeRanges) (code : Nat) : Bool :=
  match ranges with
  | [] => false
  | (first, last) :: rest =>
      if code < first then false
      else if code ≤ last then true
      else CodeRanges.contains rest code

end TemplateVariables.Text
