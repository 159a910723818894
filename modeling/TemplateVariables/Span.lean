/-!
# Spans

A span is a range of bytes of a template.  Its two fields are 32-bit numbers,
and every operation saturates at the largest one instead of wrapping around.
-/

namespace TemplateVariables

structure Span where
  start : UInt32
  length : UInt32
deriving DecidableEq, Repr, Inhabited

namespace Span

/-- The largest offset a span can hold. -/
def limit : Nat := 4294967295

/-- The offset itself, or the largest one that fits. -/
def clamp (offset : Nat) : UInt32 :=
  UInt32.ofNat (min offset limit)

/-- Offset just past the last byte of the span. -/
def stop (span : Span) : Nat :=
  min (span.start.toNat + span.length.toNat) limit

def isEmpty (span : Span) : Bool :=
  span.length == 0

/-- A span given by its start and its length.  A length that does not fit is
cut to the bytes that remain after the start. -/
def ofParts (start length : Nat) : Span where
  start := clamp start
  length :=
    if length ≤ limit then UInt32.ofNat length
    else UInt32.ofNat (limit - min start limit)

/-- A span given by its two ends; it is empty when they are out of order. -/
def ofBounds (start stop : Nat) : Span :=
  ofParts start (stop - start)

/-- The empty span at an offset. -/
def point (offset : Nat) : Span where
  start := clamp offset
  length := 0

/-- The smallest span that covers both. -/
def cover (a b : Span) : Span :=
  let start := min a.start.toNat b.start.toNat
  { start := UInt32.ofNat start
    length := UInt32.ofNat (max a.stop b.stop - start) }

end Span

end TemplateVariables
