import TemplateVariables.Text.Find

/-!
# Delimiters and whitespace markers

A tag opens with a brace and a sign and closes with a sign and a brace.  A
marker written against a delimiter, inside the tag, says what happens to the
white space on that side.
-/

namespace TemplateVariables

/-- The three families of tags. -/
inductive Delimiter where
  | block
  | expression
  | comment
deriving DecidableEq, Repr

namespace Delimiter

def opener : Delimiter → List Char
  | .block => ['{', '%']
  | .expression => ['{', '{']
  | .comment => ['{', '#']

def closer : Delimiter → List Char
  | .block => ['%', '}']
  | .expression => ['}', '}']
  | .comment => ['#', '}']

def describe : Delimiter → String
  | .block => "block tag"
  | .expression => "expression tag"
  | .comment => "comment"

/-- Bytes, and characters, of an opener or a closer. -/
def width : Nat := 2

/-- The delimiter that a text begins with. -/
def ofChars? : List Char → Option Delimiter
  | '{' :: '%' :: _ => some .block
  | '{' :: '{' :: _ => some .expression
  | '{' :: '#' :: _ => some .comment
  | _ => none

end Delimiter

/-- What a tag does to the white space on one of its sides. -/
inductive Marker where
  | preserve
  /-- Written `-`: the white space is removed. -/
  | trim
  /-- Written `+`: the white space is kept in any case. -/
  | keep
deriving DecidableEq, Repr

namespace Marker

def ofChar? : Option Char → Marker
  | some '-' => .trim
  | some '+' => .keep
  | _ => .preserve

/-- Number of characters the marker is written with. -/
def width : Marker → Nat
  | .preserve => 0
  | .trim => 1
  | .keep => 1

end Marker

/-- The marker and the text after it, when a text begins with the delimiter's
closer, possibly behind a marker. -/
def Delimiter.closing? (delimiter : Delimiter) (text : List Char) :
    Option (Marker × List Char) :=
  let marker := Marker.ofChar? text.head?
  (Text.strip? delimiter.closer (text.drop marker.width)).map fun rest => (marker, rest)

theorem Delimiter.closing?_eq_some {delimiter : Delimiter} {text rest : List Char}
    {marker : Marker} (hclosing : delimiter.closing? text = some (marker, rest)) :
    marker = Marker.ofChar? text.head? ∧
      text.drop marker.width = delimiter.closer ++ rest := by
  obtain ⟨_, hstrip, hpair⟩ := Option.map_eq_some_iff.1 hclosing
  cases hpair
  exact ⟨rfl, Text.strip?_eq_some_iff.1 hstrip⟩

theorem Delimiter.closing?_length_lt {delimiter : Delimiter} {text rest : List Char}
    {marker : Marker} (hclosing : delimiter.closing? text = some (marker, rest)) :
    rest.length < text.length := by
  have hlength := congrArg List.length (closing?_eq_some hclosing).2
  cases delimiter <;> simp [closer] at hlength <;> omega

end TemplateVariables
