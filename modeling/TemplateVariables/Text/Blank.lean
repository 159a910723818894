import TemplateVariables.Text.CodeRanges

/-!
# Blank characters

White space is the Unicode property `White_Space`.  It separates the lexemes of
a tag and is what a whitespace marker trims from the text beside a tag.
-/

namespace TemplateVariables.Text

def blankRanges : CodeRanges :=
  [
    (0x9, 0xd), (0x20, 0x20), (0x85, 0x85), (0xa0, 0xa0), (0x1680, 0x1680), (0x2000, 0x200a),
    (0x2028, 0x2029), (0x202f, 0x202f), (0x205f, 0x205f), (0x3000, 0x3000)
  ]

/-- Whether a character has the Unicode property `White_Space`. -/
def isBlank (c : Char) : Bool :=
  blankRanges.contains c.toNat

def trimStart (text : List Char) : List Char :=
  text.dropWhile isBlank

def trimEnd (text : List Char) : List Char :=
  (text.reverse.dropWhile isBlank).reverse

theorem length_trimStart_le (text : List Char) :
    (trimStart text).length ≤ text.length := by
  unfold trimStart
  induction text with
  | nil => exact Nat.le_refl _
  | cons c rest ih =>
      rw [List.dropWhile_cons]
      split
      · exact Nat.le_succ_of_le ih
      · exact Nat.le_refl _

end TemplateVariables.Text
