import TemplateVariables.Lexeme.Cut
import TemplateVariables.Text.Blank

/-!
# The inside of a tag

A tag ends at the first place between two lexemes where its closer stands,
possibly behind a marker.  A closer inside a string is part of the string, and
the closer of an expression tag does not count while a brace is the innermost
open bracket.
-/

namespace TemplateVariables

open Text

/-- The lexemes of a tag, the marker before its closer, the offset just past
the closer, and the text after it. -/
structure Interior where
  lexemes : List Lexeme
  right : Marker
  stop : Nat
  rest : List Char
deriving DecidableEq, Repr

/-- The end of a tag at the front of a text, given the brackets open there. -/
def Delimiter.ending? (delimiter : Delimiter) (brackets : List Punct)
    (text : List Char) : Option (Marker × List Char) :=
  if delimiter = .expression ∧ brackets.head? = some .lbrace then none
  else delimiter.closing? text

/-- Reads the inside of the tag whose opener stands at `opened`, from the text
at `start` on. -/
def Interior.ofChars (delimiter : Delimiter) (opened start : Nat)
    (brackets : List Punct) (afterDot : Bool) (text : List Char) :
    Except ParseError Interior :=
  let start := start + byteLength (text.takeWhile isBlank)
  match _hinside : trimStart text with
  | [] => .error (.unclosedDelimiter delimiter (Span.ofParts opened Delimiter.width))
  | c :: inside =>
      match delimiter.ending? brackets (c :: inside) with
      | some (right, rest) =>
          .ok { lexemes := [], right, stop := start + right.width + Delimiter.width, rest }
      | none =>
          match _hcut : Cut.ofChars afterDot start c inside with
          | .error error => .error error
          | .ok cut =>
              let stop := start + byteLength cut.used
              match Interior.ofChars delimiter opened stop (bracketsAfter brackets cut.kind)
                  (cut.kind == .punct .dot) cut.rest with
              | .error error => .error error
              | .ok interior =>
                  .ok { interior with
                    lexemes :=
                      { kind := cut.kind, span := Span.ofBounds start stop }
                        :: interior.lexemes }
termination_by text.length
decreasing_by
  have hcutLength := Cut.ofChars_rest_length_lt _hcut
  have htrimLength := length_trimStart_le text
  rw [_hinside] at htrimLength
  omega

theorem Delimiter.ending?_length_lt {delimiter : Delimiter} {brackets : List Punct}
    {text rest : List Char} {marker : Marker}
    (hending : delimiter.ending? brackets text = some (marker, rest)) :
    rest.length < text.length := by
  unfold Delimiter.ending? at hending
  split at hending
  · cases hending
  · exact Delimiter.closing?_length_lt hending

theorem Interior.ofChars_rest_length_lt {delimiter : Delimiter} {opened start : Nat}
    {brackets : List Punct} {afterDot : Bool} {text : List Char} {interior : Interior}
    (hinterior : Interior.ofChars delimiter opened start brackets afterDot text =
      .ok interior) :
    interior.rest.length < text.length := by
  fun_induction Interior.ofChars delimiter opened start brackets afterDot text
      generalizing interior with
  | case1 => cases hinterior
  | case2 _ _ _ text _ c inside hinside _ _ =>
      rename_i hending
      cases hinterior
      have htrimLength := length_trimStart_le text
      have hendingLength := Delimiter.ending?_length_lt hending
      rw [hinside] at htrimLength
      dsimp only
      omega
  | case3 => cases hinterior
  | case4 => cases hinterior
  | case5 _ _ _ text _ c inside hinside _ cut hcut _ _ hbelow =>
      rename_i ih
      cases hinterior
      have htrimLength := length_trimStart_le text
      have hcutLength := Cut.ofChars_rest_length_lt hcut
      have hbelowLength := ih hbelow
      rw [hinside] at htrimLength
      dsimp only
      omega

end TemplateVariables
