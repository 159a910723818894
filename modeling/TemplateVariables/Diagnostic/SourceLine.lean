import TemplateVariables.Text.Blank
import TemplateVariables.Text.Bytes
import TemplateVariables.Text.Columns

/-!
# Lines of a source as they are shown

A line is shown with tabs as four spaces, control characters as their pictures
and text direction marks as replacement characters, so that columns can be
counted.
-/

namespace TemplateVariables

open Text

/-- A line without its line ending, its one-based number, the offset where it
begins, and the offset just past its line ending. -/
structure SourceLine where
  number : Nat
  text : List Char
  start : Nat
  stop : Nat
deriving DecidableEq, Repr

/-- A point of a source: the number of its line, and how many characters and
columns stand before it there. -/
structure Point where
  line : Nat
  character : Nat
  column : Nat
deriving DecidableEq, Repr

namespace SourceLine

/-- What is shown for a character. -/
def shownChar (c : Char) : List Char :=
  let code := c.toNat
  if c = '\t' then [' ', ' ', ' ', ' ']
  else if code < 0x20 ∧ c ≠ '\n' then [Char.ofNat (0x2400 + code)]
  else if code = 0x7f then [Char.ofNat 0x2421]
  else if code = 0x200d then []
  else if (0x202a ≤ code ∧ code ≤ 0x202e) ∨ (0x2066 ≤ code ∧ code ≤ 0x2069) then
    [Char.ofNat 0xfffd]
  else [c]

def shown (text : List Char) : List Char :=
  text.flatMap shownChar

/-- Columns that a text takes when it is shown. -/
def columns (text : List Char) : Nat :=
  textWidth (shown text)

/-- The characters of a line up to its ending, the ending, and the rest. -/
def breakLine : List Char → List Char × List Char × List Char
  | [] => ([], [], [])
  | '\n' :: rest => ([], ['\n'], rest)
  | '\r' :: '\n' :: rest => ([], ['\r', '\n'], rest)
  | c :: rest =>
      let (line, ending, rest) := breakLine rest
      (c :: line, ending, rest)

theorem length_breakLine (c : Char) (text : List Char) :
    (breakLine (c :: text)).2.2.length < (c :: text).length := by
  suffices hle : ∀ text : List Char, (breakLine text).2.2.length ≤ text.length - 1 by
    have hlength := hle (c :: text)
    simp only [List.length_cons] at hlength ⊢
    omega
  intro text
  fun_induction breakLine text
  all_goals simp_all
  all_goals omega

/-- The lines of a text that begins with the given line number at `start`.  A line
ending at the end of the text begins no further line. -/
def ofCharsFrom (number start : Nat) (text : List Char) : List SourceLine :=
  match text with
  | [] => []
  | c :: more =>
      let line := (breakLine (c :: more)).1
      let ending := (breakLine (c :: more)).2.1
      let stop := start + byteLength line + byteLength ending
      { number, text := line, start, stop } ::
        ofCharsFrom (number + 1) stop (breakLine (c :: more)).2.2
termination_by text.length
decreasing_by exact length_breakLine c more

/-- The lines of a source; an empty source has one empty line. -/
def ofChars (source : List Char) : List SourceLine :=
  match source with
  | [] => [{ number := 1, text := [], start := 0, stop := 0 }]
  | source => ofCharsFrom 1 0 source

/-- The line that an offset lies on; an offset past the end lies on the last. -/
def containing (lines : List SourceLine) (offset : Nat) : SourceLine :=
  ((lines.find? fun line => line.start ≤ offset && offset < line.stop).or
    lines.getLast?).getD { number := 1, text := [], start := 0, stop := 0 }

/-- The characters of a line before an offset on it. -/
def before (line : SourceLine) (offset : Nat) : List Char :=
  go line.text (offset - line.start)
where
  /-- The characters that begin in the first `bytes` bytes. -/
  go : List Char → Nat → List Char
    | [], _ => []
    | _ :: _, 0 => []
    | c :: rest, bytes + 1 => c :: go rest (bytes + 1 - c.utf8Size)

/-- Where the text of a line ends and its line ending begins. -/
def textStop (line : SourceLine) : Nat :=
  line.start + byteLength line.text

/-- The point of an offset on a line, at the end of its text at the latest. -/
def point (line : SourceLine) (offset : Nat) : Point where
  line := line.number
  character := (line.before offset).length
  column := columns (line.before offset)

/-- Columns of white space before the text of a line; white space other than a tab
counts as one. -/
def indent (line : SourceLine) : Nat :=
  (line.text.takeWhile isBlank).foldr
    (fun c columns => (if c = '\t' then 4 else 1) + columns) 0

def hasText (line : SourceLine) : Bool :=
  line.text.any fun c => !isBlank c

/-- Whether a trimmed line is a comment but not a documentation comment. -/
def isRemark : List Char → Bool
  | '/' :: '/' :: '/' :: _ => false
  | '/' :: '/' :: '!' :: _ => false
  | '/' :: '/' :: _ => true
  | _ => false

/-- Whether a line is worth showing for itself: it is neither blank nor a lone
bracket nor a comment. -/
def isTelling (line : SourceLine) : Bool :=
  let text := trimEnd (trimStart line.text)
  !(text ∈ [[], ['{'], ['}'], ['('], [')'], ['['], [']']]) && !isRemark text

end SourceLine

end TemplateVariables
