/-!
# Canvases

A drawing is made of strokes: short texts that are written on rows of characters
one after the other, each over what is there already.
-/

namespace TemplateVariables

/-- A text on a row, from a column on. -/
structure Stroke where
  row : Nat
  column : Nat
  text : List Char
deriving DecidableEq, Repr

/-- Rows of characters, from the top. -/
abbrev Canvas := List (List Char)

namespace Stroke

/-- A line of one character along a row, from a column up to another. -/
def across (row first stop : Nat) (c : Char) : Stroke :=
  { row, column := first, text := List.replicate (stop - first) c }

/-- A line of one character down a column, from a row up to another. -/
def down (column first stop : Nat) (c : Char) : List Stroke :=
  (List.range' first (stop - first)).map fun row => { row, column, text := [c] }

end Stroke

namespace Canvas

/-- Writes a text over a row.  A row that is too short is filled with blanks. -/
def writeRow (row : List Char) (column : Nat) (text : List Char) : List Char :=
  row.take column ++ List.replicate (column - row.length) ' ' ++ text ++
    row.drop (column + text.length)

/-- Adds a stroke.  One without text leaves no trace. -/
def add (canvas : Canvas) (stroke : Stroke) : Canvas :=
  if stroke.text = [] then canvas
  else
    let canvas := canvas ++ List.replicate (stroke.row + 1 - canvas.length) []
    canvas.modify stroke.row fun row => writeRow row stroke.column stroke.text

def ofStrokes (strokes : List Stroke) : Canvas :=
  strokes.foldl add []

end Canvas

end TemplateVariables
