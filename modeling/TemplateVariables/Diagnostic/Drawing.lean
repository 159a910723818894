import TemplateVariables.Diagnostic.Window

/-!
# Drawing diagnostics

A diagnostic is drawn as a title, the place of the error, the highlighted lines of
the source with marks under them, and notes.  Primary highlights are marked with `^`
and the others with `-`.
-/

namespace TemplateVariables

open Text

/-- The columns of a drawing: line numbers, a bar, the joins and the source. -/
structure Frame where
  /-- Columns for line numbers. -/
  digits : Nat
  /-- Joins side by side. -/
  joins : Nat
deriving DecidableEq, Repr

namespace Frame

def bar (frame : Frame) : Nat :=
  frame.digits + 1

/-- The column of a join; they are numbered from one. -/
def join (frame : Frame) (index : Nat) : Nat :=
  frame.digits + 2 + index

def source (frame : Frame) : Nat :=
  if frame.joins = 0 then frame.digits + 3 else frame.digits + frame.joins + 4

/-- Columns of the widest drawing. -/
def limit : Nat := 140

def room (frame : Frame) : Nat :=
  limit - frame.source

/-- The strokes of a line of source on the top row, and the number of columns by
which its marks move to the left. -/
def line (frame : Frame) (window : Window) (line : SourceLine) : List Stroke × Nat :=
  let (strokes, left) := window.strokes frame.source (SourceLine.shown line.text)
  let number := (toString line.number).toList
  let gutter : List Stroke :=
    [{ row := 0, column := frame.digits - number.length, text := number },
      { row := 0, column := frame.bar, text := ['|'] }]
  (strokes ++ gutter, left)

/-- Joins that pass by some rows. -/
def passing (frame : Frame) (rows : Nat) (joins : List Nat) : List Stroke :=
  joins.flatMap fun join => Stroke.down (frame.join join) 0 rows '|'

/-- Whether a line begins joins without a row of marks under it: nothing but white
space stands before the highlights that begin there. -/
def leads (line : MarkedLine) : Bool :=
  let text := SourceLine.shown line.line.text
  line.marks.all fun mark =>
    mark.isBetween || (mark.isFirst && (text.take mark.start).all isBlank)

/-- Where a column of the source stands when the source is moved to the left. -/
def column (frame : Frame) (left column : Nat) : Nat :=
  frame.source + column - left

/-- The part of a join that leads to a mark, on the row below its level. -/
def lead? (frame : Frame) (left level : Nat) (mark : Mark) : Option Stroke :=
  mark.join?.map fun join =>
    Stroke.across (level + 1) (frame.join join + 1) (frame.column left mark.start) '_'

/-- The bar under a mark whose join or label stands on a lower level. -/
def hanger (frame : Frame) (left level : Nat) (mark : Mark) : List Stroke :=
  if level > 0 && (mark.hasLabel || mark.isEnd) then
    Stroke.down (frame.column left mark.start) 1 (level + 2) '|'
  else []

/-- The part of a join beside the rows of its end, of which `height` follow the first. -/
def side (frame : Frame) (height level : Nat) (mark : Mark) : List Stroke :=
  match mark.shape with
  | .first join =>
      { row := level + 1, column := frame.join join, text := [' '] } ::
        Stroke.down (frame.join join) (level + 2) (height + 2) '|'
  | .last join => Stroke.down (frame.join join) 0 (level + 2) '|'
  | _ => []

/-- The label of a mark: behind it, or at the end of its bar. -/
def label (frame : Frame) (left level : Nat) (mark : Mark) : Stroke :=
  if level = 0 then
    let stop := mark.stop + if mark.stop = 0 then 2 else 1
    { row := 1, column := frame.source + (stop - left), text := mark.text }
  else
    { row := level + 2, column := frame.source + (mark.start - left), text := mark.text }

/-- The mark itself, on the row under its line. -/
def underline? (frame : Frame) (left : Nat) (mark : Mark) : Option Stroke :=
  if mark.isBetween then none
  else
    let start := frame.column left mark.start
    some (Stroke.across 1 start (max (frame.column left mark.stop) (start + 1)) mark.char)

/-- The strokes of the marks of a line whose source is moved to the left.  Where only
joins begin, the one furthest to the right is the lowest, so that they do not cross. -/
def marks (frame : Frame) (left : Nat) (marks : List Mark) : List Stroke :=
  let marks := marks.mergeSort Mark.isRightOf
  let levels := Mark.levelsFrom 0 marks
  let deepest := (levels.map Prod.fst).foldl max 0
  let height := if deepest = 0 then 0 else deepest + 1
  let (levels, height) :=
    if marks.all Mark.isFirst then
      (levels.map fun (level, mark) => (deepest - level, mark), height - 1)
    else (levels, height)
  Stroke.down frame.bar 1 (height + 2) '|' ++
    levels.filterMap (fun (level, mark) => frame.lead? left level mark) ++
    levels.flatMap (fun (level, mark) =>
      frame.hanger left level mark ++ frame.side height level mark) ++
    levels.map (fun (level, mark) => frame.label left level mark) ++
    (marks.mergeSort Mark.isDrawnBefore).filterMap (frame.underline? left)

/-- The rows of a marked line, without the joins that pass by. -/
def markedLine (frame : Frame) (window : Window) (line : MarkedLine) : Canvas :=
  let (source, left) := frame.line window line.line
  let marks :=
    if leads line then
      (line.marks.filterMap Mark.join?).map fun join =>
        ({ row := 0, column := frame.join join, text := ['/'] } : Stroke)
    else frame.marks left line.marks
  Canvas.ofStrokes (source ++ marks)

/-- The joins that go on beside a line where some joins have an end, and those that
come from there. -/
def turn (joins ends : List Nat) : List Nat × List Nat :=
  ends.foldl
    (fun (joins, begun) join =>
      if join ∈ joins then (joins.erase join, begun) else (joins, begun.insert join))
    (joins, [])

/-- What stands between two marked lines: a single other line, or dots for more. -/
def between (frame : Frame) (window : Window) (lines : List SourceLine)
    (line next : MarkedLine) : Canvas :=
  if next.line.number = line.line.number + 2 then
    match lines.find? fun other => other.number == line.line.number + 1 with
    | some other => Canvas.ofStrokes (frame.line window other).1
    | none => []
  else if next.line.number > line.line.number + 2 then [Window.dots]
  else []

/-- The rows of marked lines, where some joins come from above. -/
def rows (frame : Frame) (window : Window) (lines : List SourceLine) (joins : List Nat) :
    List MarkedLine → Canvas
  | [] => []
  | line :: rest =>
      let canvas := frame.markedLine window line
      let (joins, begun) := turn joins (line.marks.filterMap Mark.join?)
      let canvas := (frame.passing canvas.length joins).foldl Canvas.add canvas
      let gap := (rest.head?.map (frame.between window lines line)).getD []
      let beside := joins ++ line.marks.filterMap Mark.first?
      let gap := (frame.passing gap.length beside).foldl Canvas.add gap
      canvas ++ gap ++ frame.rows window lines (joins ++ begun) rest

end Frame

namespace Report

/-- A text behind another one.  Its further lines begin below its first one. -/
def hang (before text : String) : String :=
  let margin := String.ofList (List.replicate before.length ' ')
  before ++ String.intercalate ("\n" ++ margin) (text.splitOn "\n")

/-- The drawing of a report, without a line ending at its end. -/
def draw (report : Report) : String :=
  let lines := SourceLine.ofChars report.source
  let places := report.underlines.map (Place.ofUnderline lines)
  let (marked, joins) := MarkedLine.ofPlaces lines places
  let number := (marked.map fun line => line.line.number).foldl max 0
  let frame : Frame := { digits := (toString number).length, joins }
  let window := Window.ofLines frame.room marked
  let margin := String.ofList (List.replicate frame.digits ' ')
  let title := hang ("error[" ++ report.code ++ "]: ")
    (String.ofList (SourceLine.shown report.message.toList))
  let origin := (MarkedLine.origin? marked).toList.map fun (line, character) =>
    margin ++ "--> " ++ report.path ++ ":" ++ toString line ++ ":" ++ toString character
  let rows := (frame.rows window lines [] marked).map String.ofList
  let notes := report.notes.map (hang (margin ++ " = note: "))
  let bar := margin ++ " |"
  let notes := if notes.isEmpty then [] else bar :: notes
  String.intercalate "\n" (title :: origin ++ bar :: rows ++ notes)

end Report

/-- The drawing of a diagnostic. -/
def Diagnostic.render (diagnostic : Diagnostic) : String :=
  diagnostic.report.draw

end TemplateVariables
