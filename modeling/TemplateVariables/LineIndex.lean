import TemplateVariables.Span
import TemplateVariables.Text.Bytes

/-!
# Lines and columns

A line index lists the offsets at which the lines of a text begin, in rising order.  An offset
is looked up by a binary search: it is in the line that begins there, or else in the line
before the place where it would stand in the list.
-/

namespace TemplateVariables

/-- A zero-based line and a zero-based column in bytes. -/
structure Position where
  line : UInt32
  column : UInt32
deriving DecidableEq, Repr

/-- Where a search ends: at an index that holds the offset, or at the index at which the offset
would have to be put in. -/
inductive Landing where
  | found (index : Nat)
  | missing (index : Nat)
deriving DecidableEq, Repr

namespace Landing

/-- Searches rising offsets between two indices, the second one excluded. -/
def between (offsets : Array UInt32) (offset : UInt32) (low high : Nat)
    (hhigh : high ≤ offsets.size) : Landing :=
  if hlt : low < high then
    let middle := offsets[(low + high) / 2]
    if middle = offset then .found ((low + high) / 2)
    else if middle < offset then between offsets offset ((low + high) / 2 + 1) high hhigh
    else between offsets offset low ((low + high) / 2) (by omega)
  else .missing low
termination_by high - low

def search (offsets : Array UInt32) (offset : UInt32) : Landing :=
  between offsets offset 0 offsets.size (Nat.le_refl _)

/-- The line of the offset that was searched for among the starts of the lines. -/
def line : Landing → Nat
  | found index => index
  | missing index => index - 1

end Landing

structure LineIndex where
  lineStarts : Array UInt32
  length : UInt32
deriving DecidableEq, Repr

namespace LineIndex

/-- Offsets just past each newline of a text that begins at `offset`. -/
def startsAfterNewlines (offset : UInt32) : List Char → List UInt32
  | [] => []
  | c :: rest =>
      let next := offset + UInt32.ofNat c.utf8Size
      if c = '\n' then next :: startsAfterNewlines next rest
      else startsAfterNewlines next rest

def ofText (text : List Char) : LineIndex where
  lineStarts := (0 :: startsAfterNewlines 0 text).toArray
  length := UInt32.ofNat (Text.byteLength text)

def lineCount (index : LineIndex) : Nat :=
  index.lineStarts.size

/-- Line and column of an offset; an offset past the end counts as the end.  There is no answer
when the index has no such line, or has it begin behind the offset. -/
def position? (index : LineIndex) (offset : UInt32) : Option Position := do
  let offset := min offset index.length
  let line := (Landing.search index.lineStarts offset).line
  let start ← index.lineStarts[line]?
  if offset < start then none
  else return { line := Span.clamp line, column := offset - start }

/-- Positions of the two ends of a span. -/
def range? (index : LineIndex) (span : Span) : Option (Position × Position) := do
  return (← index.position? span.start, ← index.position? (UInt32.ofNat span.stop))

end LineIndex

end TemplateVariables
