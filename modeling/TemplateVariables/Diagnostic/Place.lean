import TemplateVariables.Diagnostic
import TemplateVariables.Diagnostic.Mark

/-!
# Highlights on the lines of a source

A highlight on one line has one mark.  A highlight over several lines has a mark
where it begins and one where it ends, and a join leads from the one to the other
at the left of the source.
-/

namespace TemplateVariables

open Text

/-- A highlight between two points of a source. -/
structure Place where
  first : Point
  last : Point
  label : String
  primary : Bool
deriving DecidableEq, Repr

/-- A highlight over several lines. -/
structure Join where
  place : Place
  /-- How many joins further right it has to stand to clear the others. -/
  depth : Nat
  /-- Whether a later highlight with the same ends has the join instead. -/
  shared : Bool
deriving DecidableEq, Repr

/-- A line with its marks. -/
structure MarkedLine where
  line : SourceLine
  marks : List Mark
deriving DecidableEq, Repr

namespace Place

/-- Places an underline on the lines of a source.  One on a single line covers at
least one column.  One that ends within the line ending of a later line than its
first covers a column of that ending. -/
def ofUnderline (lines : List SourceLine) (underline : Underline) : Place :=
  let start := underline.start
  let stop := underline.stop
  let firstLine := SourceLine.containing lines start
  let first := firstLine.point start
  let first :=
    if firstLine.textStop < start then { first with character := first.character + 1 }
    else first
  let lastLine := SourceLine.containing lines stop
  let last := if start = stop then first else lastLine.point stop
  let last :=
    if first.line = last.line then
      if first.column = last.column then { last with column := last.column + 1 } else last
    else if lastLine.textStop < stop then
      { last with character := last.character + 1, column := last.column + 1 }
    else last
  { first, last, label := underline.label, primary := underline.primary }

def isOneLine (place : Place) : Bool :=
  place.first.line == place.last.line

/-- The mark of a highlight on one line. -/
def mark (place : Place) : Mark where
  start := place.first.column
  stop := place.last.column
  character := place.first.character
  label := place.label
  primary := place.primary
  shape := .alone

/-- Whether two highlights have a line in common. -/
def meets (a b : Place) : Bool :=
  (b.first.line ≤ a.first.line && a.first.line ≤ b.last.line) ||
    (a.first.line ≤ b.first.line && b.first.line ≤ a.last.line)

def sameEnds (a b : Place) : Bool :=
  a.first == b.first && a.last == b.last

/-- Whether the join of a highlight is placed before that of another one: the one
that begins on an earlier line, or else ends on a later one. -/
def isJoinedBefore (a b : Place) : Bool :=
  a.first.line < b.first.line ||
    (a.first.line == b.first.line && b.last.line ≤ a.last.line)

end Place

namespace Join

/-- The join of a highlight before room is made for others. -/
def ofPlace (place : Place) : Join where
  place
  depth := 1
  shared := false

/-- Makes a join primary if one of some highlights with its ends is. -/
def promote (seen : List Place) (join : Join) : Join :=
  let primary := seen.any fun place => place.primary && place.sameEnds join.place
  { join with place.primary := join.place.primary || primary }

/-- Makes room for the last of the highlights seen: the joins before its own move by
one, up to the first that has no line in common with it. -/
def clear (seen : List Place) (place : Place) : List Join → List Join
  | [] => []
  | join :: rest =>
      if join = ofPlace place then promote seen join :: rest
      else if join.place.sameEnds place then
        { join with shared := true } :: clear seen place rest
      else if join.place.meets place then
        { join with depth := join.depth + 1 } :: clear seen place rest
      else promote seen join :: rest

/-- The joins of highlights.  Depths count from the right, beginning at one. -/
def ofPlaces (places : List Place) : List Join :=
  let places := (places.filter fun place => !place.isOneLine).mergeSort Place.isJoinedBefore
  let joins := places.map ofPlace
  (places.foldl
    (fun (joins, seen) place => (clear (place :: seen) place joins, place :: seen))
    (joins, [])).1

/-- The lines between the ends of a join that are shown with it: those of the first
three that are not followed by untelling lines alone, and the last one if it is
telling. -/
def linesBetween (lines : List SourceLine) (join : Join) : List SourceLine :=
  let first := join.place.first.line
  let last := join.place.last.line
  let middle := min (first + 4) last
  let early := lines.filter fun line => first < line.number && line.number < middle
  let late := lines.filter fun line =>
    middle < line.number && line.number + 1 == last && line.isTelling
  (early.reverse.dropWhile fun line => !line.isTelling).reverse ++ late

/-- The marks of a join, each with the number of its line.  A join that is shared
has only the mark at its end, as if it were the mark of a highlight there. -/
def marks (lines : List SourceLine) (deepest : Nat) (join : Join) : List (Nat × Mark) :=
  let place := join.place
  let index := deepest - join.depth + 1
  let first : Mark :=
    { start := place.first.column
      stop := place.first.column + 1
      character := place.first.character
      label := ""
      primary := place.primary
      shape := .first index }
  let between : Mark :=
    { start := 0
      stop := 0
      character := 0
      label := ""
      primary := place.primary
      shape := .between index }
  let last : Mark :=
    { start := place.last.column - 1
      stop := place.last.column
      character := place.last.character - 1
      label := place.label
      primary := place.primary
      shape := if join.shared then .alone else .last index }
  if join.shared then [(place.last.line, last)]
  else
    (place.first.line, first) ::
      ((linesBetween lines join).map fun line => (line.number, between)) ++
        [(place.last.line, last)]

end Join

namespace MarkedLine

/-- The lines that carry marks of some highlights, and how many joins stand side by
side. -/
def ofPlaces (lines : List SourceLine) (places : List Place) : List MarkedLine × Nat :=
  let joins := Join.ofPlaces places
  let deepest := (joins.map Join.depth).foldl max 0
  let marks :=
    ((places.filter Place.isOneLine).map fun place => (place.first.line, place.mark)) ++
      joins.flatMap (Join.marks lines deepest)
  let marked := lines.map fun line =>
    { line
      marks := (marks.filter fun (number, _) => number == line.number).map Prod.snd }
  (marked.filter fun line => !line.marks.isEmpty, deepest)

/-- The place that a diagnostic names, a line number and a one-based character: that
of the leftmost primary mark on the first line with one, or else on the first line. -/
def origin? (lines : List MarkedLine) : Option (Nat × Nat) :=
  let primary := lines.map fun line =>
    { line with marks := line.marks.filter Mark.primary }
  (primary ++ lines).findSome? fun line =>
    (line.marks.map Mark.character).min?.map fun character =>
      (line.line.number, character + 1)

end MarkedLine

end TemplateVariables
