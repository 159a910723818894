import TemplateVariables.Lexeme.Interior
import TemplateVariables.Token

/-!
# Cutting a template into tokens

A template is cut piece by piece.  A piece is a text run up to the next opener,
a comment, a tag, or a raw block with everything up to its end tag.  A trimming
marker on either side of a text run removes the white space on that side, and a
run that is left empty gives no token.
-/

namespace TemplateVariables

open Text

/-- The front of a template: the token it gives, if any, the offset just past
it, whether it trims the text after it, and the rest of the template. -/
structure Piece where
  token : Option Token
  stop : Nat
  trimsNext : Bool
  rest : List Char
deriving DecidableEq, Repr

namespace Piece

/-! ## Text -/

/-- The longest front of a text without an opener, and the rest. -/
def plainRun : List Char → List Char × List Char
  | [] => ([], [])
  | c :: rest =>
      match Delimiter.ofChars? (c :: rest) with
      | some _ => ([], c :: rest)
      | none => (c :: (plainRun rest).1, (plainRun rest).2)

/-- Whether the tag whose opener a text begins with trims the text before it. -/
def trimsPrevious (text : List Char) : Bool :=
  (text.drop Delimiter.width).head? == some '-'

/-- What is left of a text run after trimming. -/
def trimmed (trimsStart trimsEnd : Bool) (run : List Char) : List Char :=
  let run := if trimsStart then trimStart run else run
  if trimsEnd then trimEnd run else run

/-- The text run at the front of a source that begins at `start`. -/
def text (start : Nat) (trimsStart : Bool) (source : List Char) : Piece :=
  let (run, rest) := plainRun source
  let content := trimmed trimsStart (trimsPrevious rest) run
  let removed := if trimsStart then byteLength (run.takeWhile isBlank) else 0
  { token :=
      if content = [] then none
      else some (.text (String.ofList content)
        (Span.ofParts (start + removed) (byteLength content)))
    stop := start + byteLength run
    trimsNext := false
    rest }

/-! ## Comments -/

/-- The comment whose opener stands at `start`; `source` follows the opener. -/
def comment (start : Nat) (source : List Char) : Except ParseError Piece :=
  match breakOn? Delimiter.comment.closer source with
  | none =>
      .error (.unclosedDelimiter .comment (Span.ofParts start Delimiter.width))
  | some (content, rest) =>
      let stop := start + Delimiter.width + byteLength content + Delimiter.width
      .ok
        { token := some (.comment (Span.ofBounds start stop))
          stop
          trimsNext := content.getLast? == some '-'
          rest }

/-! ## Raw blocks -/

/-- The markers of the end tag of a raw block that a text begins with, and the
text after it. -/
def rawEnd? (text : List Char) : Option (Marker × Marker × List Char) := do
  let inside ← strip? Delimiter.block.opener text
  let left := Marker.ofChar? inside.head?
  let after ← strip? ['e', 'n', 'd', 'r', 'a', 'w'] (trimStart (inside.drop left.width))
  let (right, rest) ← Delimiter.block.closing? (trimStart after)
  return (left, right, rest)

/-- The content of a raw block, the markers of its end tag, and the text after
that tag. -/
def breakRaw? : List Char → Option (List Char × Marker × Marker × List Char)
  | [] => none
  | c :: text =>
      match rawEnd? (c :: text) with
      | some (left, right, rest) => some ([], left, right, rest)
      | none =>
          (breakRaw? text).map fun (content, left, right, rest) =>
            (c :: content, left, right, rest)

/-- The raw block that `tag` opens; `source` follows that tag and begins at
`start`. -/
def raw (tag : Tag) (start : Nat) (source : List Char) : Except ParseError Piece :=
  match breakRaw? source with
  | none => .error (.unclosedTag "raw" "endraw" tag.span)
  | some (content, left, right, rest) =>
      let stop := start + (byteLength source - byteLength rest)
      let content := trimmed (tag.right == .trim) (left == .trim) content
      .ok
        { token := some (.raw (String.ofList content)
            (Span.ofBounds tag.span.start.toNat stop))
          stop
          trimsNext := right == .trim
          rest }

/-! ## Tags -/

/-- Whether a block tag opens a raw block: its only lexeme is the name `raw`. -/
def opensRaw (tag : Tag) : Bool :=
  tag.lexemes.map Lexeme.kind == [.name "raw"]

/-- The tag whose opener stands at `start`; `source` follows the opener. -/
def tag (delimiter : Delimiter) (start : Nat) (source : List Char) :
    Except ParseError Piece := do
  let left := Marker.ofChar? source.head?
  let contentStart := start + Delimiter.width + left.width
  let interior ← Interior.ofChars delimiter start contentStart [] false
    (source.drop left.width)
  let firstStart := (interior.lexemes.head?.map (·.span.start.toNat)).getD contentStart
  let lastStop := (interior.lexemes.getLast?.map (·.span.stop)).getD contentStart
  let tag : Tag :=
    { lexemes := interior.lexemes
      span := Span.ofBounds start interior.stop
      inside := Span.ofBounds firstStart lastStop
      left
      right := interior.right }
  if delimiter = .block ∧ opensRaw tag = true then
    raw tag interior.stop interior.rest
  else
    .ok
      { token := some (if delimiter = .block then .block tag else .expression tag)
        stop := interior.stop
        trimsNext := interior.right == .trim
        rest := interior.rest }

/-- The first piece of a source that begins at `start`. -/
def ofChars (start : Nat) (trimsStart : Bool) (source : List Char) :
    Except ParseError Piece :=
  match Delimiter.ofChars? source with
  | some .comment => comment start (source.drop Delimiter.width)
  | some delimiter => tag delimiter start (source.drop Delimiter.width)
  | none => .ok (text start trimsStart source)

/-! ## Every piece is shorter than its source -/

theorem length_plainRun_snd (source : List Char) :
    (plainRun source).2.length ≤ source.length := by
  induction source with
  | nil => exact Nat.le_refl _
  | cons c rest ih =>
      simp only [plainRun]
      split
      · exact Nat.le_refl _
      · exact Nat.le_succ_of_le ih

theorem length_of_rawEnd? {text rest : List Char} {left right : Marker}
    (hend : rawEnd? text = some (left, right, rest)) : rest.length < text.length := by
  simp only [rawEnd?, Option.bind_eq_bind, Option.bind_eq_some_iff] at hend
  obtain ⟨inside, hinside, after, hafter, ⟨_, _⟩, hclosing, hpair⟩ := hend
  cases hpair
  have hinsideLength := congrArg List.length (strip?_eq_some_iff.1 hinside)
  have hafterLength := congrArg List.length (strip?_eq_some_iff.1 hafter)
  have htrimInside :=
    length_trimStart_le (inside.drop (Marker.ofChar? inside.head?).width)
  have htrimAfter := length_trimStart_le after
  have hclosingLength := Delimiter.closing?_length_lt hclosing
  simp only [List.length_append, List.length_drop] at hinsideLength hafterLength htrimInside
  dsimp only
  omega

theorem length_of_breakRaw? {text content rest : List Char} {left right : Marker}
    (hbreak : breakRaw? text = some (content, left, right, rest)) :
    rest.length < text.length := by
  induction text generalizing content with
  | nil => cases hbreak
  | cons c text ih =>
      simp only [breakRaw?] at hbreak
      split at hbreak
      · next hend =>
          cases hbreak
          exact length_of_rawEnd? hend
      · obtain ⟨⟨_, _, _, _⟩, hrest, hpair⟩ := Option.map_eq_some_iff.1 hbreak
        cases hpair
        exact Nat.lt_succ_of_lt (ih hrest)

theorem length_of_raw {tag : Tag} {start : Nat} {source : List Char} {piece : Piece}
    (hraw : raw tag start source = .ok piece) : piece.rest.length < source.length := by
  unfold raw at hraw
  split at hraw
  · cases hraw
  · next hbreak =>
      cases hraw
      exact length_of_breakRaw? hbreak

theorem length_of_tag {delimiter : Delimiter} {start : Nat} {source : List Char}
    {piece : Piece} (htag : tag delimiter start source = .ok piece) :
    piece.rest.length < source.length := by
  simp only [tag, bind, Except.bind] at htag
  split at htag
  · cases htag
  · next interior hinterior =>
      have hinteriorLength := Interior.ofChars_rest_length_lt hinterior
      simp only [List.length_drop] at hinteriorLength
      split at htag
      · have hrawLength := length_of_raw htag
        omega
      · cases htag
        dsimp only
        omega

theorem length_of_comment {start : Nat} {source : List Char} {piece : Piece}
    (hcomment : comment start source = .ok piece) :
    piece.rest.length < source.length := by
  unfold comment at hcomment
  split at hcomment
  · cases hcomment
  · next hbreak =>
      cases hcomment
      simp [breakOn?_append hbreak, Delimiter.closer]
      omega

theorem ofChars_rest_length_lt {start : Nat} {trimsStart : Bool} {c : Char}
    {source : List Char} {piece : Piece}
    (hpiece : ofChars start trimsStart (c :: source) = .ok piece) :
    piece.rest.length < (c :: source).length := by
  unfold ofChars at hpiece
  split at hpiece
  · have hlength := length_of_comment hpiece
    simp only [List.length_drop, List.length_cons] at hlength ⊢
    omega
  · have hlength := length_of_tag hpiece
    simp only [List.length_drop, List.length_cons] at hlength ⊢
    omega
  · next hnone =>
      cases hpiece
      have hlength := length_plainRun_snd source
      simp only [text, plainRun, hnone, List.length_cons]
      omega

end Piece

/-- The tokens of a source that begins at `start`, up to the end token. -/
def Token.ofCharsFrom (start : Nat) (trimsStart : Bool) (source : List Char) :
    Except ParseError (List Token) :=
  match source with
  | [] => .ok [.eof (Span.clamp start)]
  | c :: rest =>
      match _hpiece : Piece.ofChars start trimsStart (c :: rest) with
      | .error error => .error error
      | .ok piece =>
          match Token.ofCharsFrom piece.stop piece.trimsNext piece.rest with
          | .error error => .error error
          | .ok tokens => .ok (piece.token.toList ++ tokens)
termination_by source.length
decreasing_by exact Piece.ofChars_rest_length_lt _hpiece

/-- The tokens of a template, the last of which is its end. -/
def Token.ofChars (source : List Char) : Except ParseError (List Token) :=
  Token.ofCharsFrom 0 false source

end TemplateVariables
