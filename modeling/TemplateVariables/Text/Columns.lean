import TemplateVariables.Text.Width

/-!
# Columns of a text

Texts measured and cut by the terminal columns their characters take.
-/

namespace TemplateVariables.Text

/-- Terminal columns that a text takes. -/
def textWidth (text : List Char) : Nat :=
  text.foldr (fun c columns => columnWidth c + columns) 0

/-- The characters that begin in the first `count` columns, with those of no
width before the last of these columns is reached. -/
def headColumns : Nat → List Char → List Char
  | 0, _ => []
  | _, [] => []
  | count + 1, c :: rest => c :: headColumns (count + 1 - columnWidth c) rest

/-- What `headColumns` leaves over. -/
def dropColumns : Nat → List Char → List Char
  | 0, text => text
  | _, [] => []
  | count + 1, c :: rest => dropColumns (count + 1 - columnWidth c) rest

/-- The longest beginning of a text that fits in `room` columns. -/
def fitColumns (room : Nat) : List Char → List Char
  | [] => []
  | c :: rest =>
      if columnWidth c ≤ room then c :: fitColumns (room - columnWidth c) rest else []

end TemplateVariables.Text
