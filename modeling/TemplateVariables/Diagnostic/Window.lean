import TemplateVariables.Diagnostic.Canvas
import TemplateVariables.Diagnostic.Place

/-!
# The part of the lines that is shown

Deep indentation is cut off, and lines that are too wide for a drawing are cut
around the marks.  Dots stand for what is cut.
-/

namespace TemplateVariables

open Text

/-- The columns of the source that are shown. -/
structure Window where
  left : Nat
  right : Nat
  /-- Columns there is room for. -/
  room : Nat
deriving DecidableEq, Repr

namespace Window

def dots : List Char :=
  ['.', '.', '.']

/-- Columns kept free beside the marks, where dots may stand. -/
def slack : Nat := 6

/-- The window on some marked lines.  An indentation of up to 26 columns is shown; of
a deeper one 22 columns are left.  When the lines are still too wide, the window is
the first of these that has room: all between the indentation and the ends of the
labels, all between the marks and the ends of the labels, the marks.  Lengths of
lines and labels are counted in bytes here, which are never fewer than columns. -/
def ofLines (room : Nat) (lines : List MarkedLine) : Window :=
  let texts := (lines.map MarkedLine.line).filter SourceLine.hasText
  let marks := lines.flatMap MarkedLine.marks
  let columns := marks.flatMap fun mark => [mark.start, mark.stop]
  let labels := marks.map fun mark =>
    mark.stop + if mark.hasLabel then byteLength mark.text + 1 else 0
  let longest := (lines.map fun line => byteLength line.line.text).max?.getD 0
  let indent := (texts.map SourceLine.indent).min?.getD 0 - slack
  let first := columns.min?.getD 0 - slack
  let last := columns.max?.getD 0 + slack
  let labelled := labels.max?.getD 0 + slack
  let left := if indent > 20 then indent - 16 else 0
  let right := max longest left
  if right - left ≤ room then { left, right, room }
  else if labelled - indent ≤ room then { left := indent, right := indent + room, room }
  else if labelled - first ≤ room then
    let left := first - (room - (labelled - first)) / 2
    { left, right := left + room, room }
  else if last - first ≤ room then
    let left := first - (room - (last - first)) / 5 * 2
    { left, right := left + room, room }
  else { left := first, right := last, room }

/-- Where a text of some columns is cut at the right. -/
def rightOf (window : Window) (width : Nat) : Nat :=
  if max width window.left - window.left ≤ window.room then width
  else min window.right width

/-- The strokes that show a line of source on the top row, and the number of columns
by which its marks move to the left. -/
def strokes (window : Window) (column : Nat) (text : List Char) : List Stroke × Nat :=
  let width := textWidth text
  let left := min window.left width
  let right := window.rightOf width
  let rest := dropColumns left text
  let shown := fitColumns (right - left) rest
  let left := max left (width - textWidth rest)
  let hidden := if window.left > 0 then headColumns dots.length shown else []
  let left := left - (textWidth hidden - dots.length)
  let shown := shown.drop hidden.length
  let begins := if window.left > 0 then [{ row := 0, column, text := dots }] else []
  let column := column + textWidth hidden
  let ends :=
    if right < width then
      let covered := headColumns dots.length (hidden ++ shown).reverse
      [{ row := 0, column := column + shown.length - covered.length, text := dots }]
    else []
  (begins ++ { row := 0, column, text := shown } :: ends, left)

end Window

end TemplateVariables
