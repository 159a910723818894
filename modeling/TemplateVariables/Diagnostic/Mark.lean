import TemplateVariables.Diagnostic.SourceLine

/-!
# Marks under a line

A highlight is marked under the line it stands on, or under the lines where it
begins and ends.  The label of a mark stands behind it if there is room, and
else on a level of its own further down, at the end of a bar.
-/

namespace TemplateVariables

open Text

/-- What a mark belongs to: a highlight on the line alone, or a highlight over
several lines that begins here, goes on here or ends here.  The joins of
highlights over several lines are numbered from the left. -/
inductive MarkShape where
  | alone
  | first (join : Nat)
  | between (join : Nat)
  | last (join : Nat)
deriving DecidableEq, Repr

/-- A mark from a column up to another. -/
structure Mark where
  start : Nat
  stop : Nat
  /-- Characters before the start. -/
  character : Nat
  label : String
  primary : Bool
  shape : MarkShape
deriving DecidableEq, Repr

namespace Mark

def char (mark : Mark) : Char :=
  if mark.primary then '^' else '-'

def text (mark : Mark) : List Char :=
  SourceLine.shown mark.label.toList

def hasLabel (mark : Mark) : Bool :=
  !mark.text.isEmpty

/-- The join that begins or ends at a mark. -/
def join? (mark : Mark) : Option Nat :=
  match mark.shape with
  | .first join => some join
  | .last join => some join
  | _ => none

def isEnd (mark : Mark) : Bool :=
  mark.join?.isSome

def isBetween (mark : Mark) : Bool :=
  match mark.shape with
  | .between _ => true
  | _ => false

/-- The join that begins at a mark. -/
def first? (mark : Mark) : Option Nat :=
  match mark.shape with
  | .first join => some join
  | _ => none

def isFirst (mark : Mark) : Bool :=
  mark.first?.isSome

/-- Whether two marks meet when some columns after the left one belong to it. -/
def meets (left right : Mark) (after : Nat) : Bool :=
  (right.start ≤ left.start && left.start < right.stop) ||
    (left.start ≤ right.start && right.start < left.stop + after)

/-- Room for the label of a mark behind it, in bytes, with a blank on either side. -/
def labelRoom (mark : Mark) : Nat :=
  byteLength mark.text + 2

/-- Whether the label of a mark cannot stand behind it, because another mark meets
it.  A mark without label at the same place does not count. -/
def isCrowded (mark : Mark) (others : List Mark) : Bool :=
  mark.hasLabel && others.any fun other =>
    other.meets mark 0 &&
      (other.start != mark.start || other.stop != mark.stop || other.hasLabel)

/-- Whether a mark needs a lower level than the mark to its right, which stands on
the given level. -/
def isBelow (left right : Mark) (level : Nat) : Bool :=
  let meets := left.meets right left.labelRoom
  (meets && right.hasLabel && left.hasLabel) ||
    (right.isEnd && left.hasLabel) ||
    (right.hasLabel && left.isEnd) ||
    (right.isEnd && left.isEnd) ||
    (meets && left.stop ≤ right.stop && left.hasLabel && level == 0)

/-- The levels of marks that are given from right to left, beginning at a level.
Level zero is the row of the marks themselves. -/
def levelsFrom (level : Nat) : List Mark → List (Nat × Mark)
  | [] => []
  | mark :: others =>
      let level := if level = 0 && mark.isCrowded others then 1 else level
      let below := others.any fun other => other.isBelow mark level
      (level, mark) :: levelsFrom (if below then level + 1 else level) others

/-- Whether a mark stands before another one in the order from right to left. -/
def isRightOf (a b : Mark) : Bool :=
  b.start < a.start || (b.start == a.start && b.character ≤ a.character)

/-- Whether a mark is drawn before another one, so that short marks and primary
ones can be seen. -/
def isDrawnBefore (a b : Mark) : Bool :=
  let width (mark : Mark) := mark.stop - mark.start
  width b < width a || (width b == width a && (!a.primary || b.primary))

end Mark

end TemplateVariables
