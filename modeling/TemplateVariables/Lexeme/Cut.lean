import TemplateVariables.ParseError
import TemplateVariables.Text.Alphabetic
import TemplateVariables.Text.Bytes
import TemplateVariables.Text.Numeric

/-!
# Cutting off one lexeme

A lexeme is cut off the front of a text as the characters it uses and the text
that is left.  Names, numbers and punctuation are the longest that fit.
-/

namespace TemplateVariables

namespace Text

/-- Whether a name can begin with the character. -/
def isNameStart (c : Char) : Bool :=
  isAlphabetic c || c == '_'

/-- Whether a name can go on with the character. -/
def isNamePart (c : Char) : Bool :=
  isAlphabetic c || isNumeric c || c == '_'

/-- Whether a run of digits can go on with the character. -/
def isDigitPart (c : Char) : Bool :=
  c.isDigit || c == '_'

end Text

open Text

/-- A lexeme at the front of a text, the characters it uses, and the rest. -/
structure Cut where
  kind : LexemeKind
  used : List Char
  rest : List Char
deriving DecidableEq, Repr

namespace Cut

/-! ## Numbers -/

/-- The fraction of a number: a point and at least one digit. -/
def fraction : List Char → List Char × List Char
  | '.' :: c :: rest =>
      if c.isDigit then
        ('.' :: (c :: rest).takeWhile isDigitPart, (c :: rest).dropWhile isDigitPart)
      else ([], '.' :: c :: rest)
  | text => ([], text)

/-- The sign of an exponent, if it has one. -/
def sign : List Char → List Char × List Char
  | '+' :: rest => (['+'], rest)
  | '-' :: rest => (['-'], rest)
  | text => ([], text)

/-- The exponent of a number: a mark, an optional sign and at least one digit. -/
def exponent : List Char → List Char × List Char
  | [] => ([], [])
  | mark :: rest =>
      if mark == 'e' || mark == 'E' then
        let (sign, digits) := sign rest
        if digits.head?.any Char.isDigit then
          (mark :: (sign ++ digits.takeWhile isDigitPart), digits.dropWhile isDigitPart)
        else ([], mark :: rest)
      else ([], mark :: rest)

/-- The characters of the number at the front of a text, and the rest.  After a
dot a number is an attribute and has neither fraction nor exponent. -/
def numeral (afterDot : Bool) (text : List Char) : List Char × List Char :=
  let whole := text.takeWhile isDigitPart
  let rest := text.dropWhile isDigitPart
  if afterDot then (whole, rest)
  else
    let (fraction, rest) := fraction rest
    let (exponent, rest) := exponent rest
    (whole ++ fraction ++ exponent, rest)

/-- The number at the front of a text; its underscores are not part of it. -/
def number (afterDot : Bool) (text : List Char) : Cut :=
  let (used, rest) := numeral afterDot text
  { kind := .number (String.ofList (used.filter (· != '_'))), used, rest }

/-! ## Names and strings -/

def name (text : List Char) : Cut :=
  { kind := .name (String.ofList (text.takeWhile isNamePart))
    used := text.takeWhile isNamePart
    rest := text.dropWhile isNamePart }

/-- What a backslash and the character after it stand for. -/
def unescape (c : Char) : List Char :=
  if c == 'n' then ['\n']
  else if c == 't' then ['\t']
  else if c == 'r' then ['\r']
  else if c == '\x5c' || c == '\x27' || c == '\x22' then [c]
  else ['\x5c', c]

/-- The value of a string whose opening quote has been read, the characters up
to its closing quote, and the rest; nothing when no closing quote follows. -/
def quoted? (quote : Char) : List Char → Option (List Char × List Char × List Char)
  | [] => none
  | [c] => if c == quote then some ([], [c], []) else none
  | c :: next :: rest =>
      if c == quote then some ([], [c], next :: rest)
      else if c == '\x5c' then
        (quoted? quote rest).map fun (value, used, rest) =>
          (unescape next ++ value, c :: next :: used, rest)
      else
        (quoted? quote (next :: rest)).map fun (value, used, rest) =>
          (c :: value, c :: used, rest)

def string? (quote : Char) (text : List Char) : Option Cut :=
  (quoted? quote text).map fun (value, used, rest) =>
    { kind := .str (String.ofList value), used := quote :: used, rest }

/-! ## Punctuation -/

/-- The operator of two characters at the front of a text. -/
def double? : List Char → Option Punct
  | '*' :: '*' :: _ => some .power
  | '/' :: '/' :: _ => some .floor
  | '=' :: '=' :: _ => some .eq
  | '!' :: '=' :: _ => some .ne
  | '<' :: '=' :: _ => some .le
  | '>' :: '=' :: _ => some .ge
  | _ => none

/-- The punctuation mark that is a single character. -/
def single? : Char → Option Punct
  | '(' => some .lparen
  | ')' => some .rparen
  | '[' => some .lbracket
  | ']' => some .rbracket
  | '{' => some .lbrace
  | '}' => some .rbrace
  | ',' => some .comma
  | ':' => some .colon
  | '.' => some .dot
  | '|' => some .pipe
  | '~' => some .tilde
  | '+' => some .plus
  | '-' => some .minus
  | '*' => some .star
  | '/' => some .slash
  | '%' => some .percent
  | '=' => some .assign
  | '<' => some .lt
  | '>' => some .gt
  | _ => none

def punct? (text : List Char) : Option Cut :=
  match double? text with
  | some mark => some { kind := .punct mark, used := text.take 2, rest := text.drop 2 }
  | none =>
      (text.head?.bind single?).map fun mark =>
        { kind := .punct mark, used := text.take 1, rest := text.drop 1 }

/-! ## Nothing is lost -/

theorem fraction_append (text : List Char) :
    (fraction text).1 ++ (fraction text).2 = text := by
  unfold fraction
  split
  · split
    · simp [List.takeWhile_append_dropWhile]
    · rfl
  · rfl

theorem sign_append (text : List Char) : (sign text).1 ++ (sign text).2 = text := by
  unfold sign
  split <;> rfl

theorem exponent_append (text : List Char) :
    (exponent text).1 ++ (exponent text).2 = text := by
  cases text with
  | nil => rfl
  | cons mark rest =>
      have hsign := sign_append rest
      simp only [exponent]
      split
      · split
        · simp [List.append_assoc, List.takeWhile_append_dropWhile, hsign]
        · rfl
      · rfl

theorem numeral_append (afterDot : Bool) (text : List Char) :
    (numeral afterDot text).1 ++ (numeral afterDot text).2 = text := by
  unfold numeral
  dsimp only
  split
  · exact List.takeWhile_append_dropWhile
  · dsimp only
    rw [List.append_assoc, exponent_append, List.append_assoc, fraction_append]
    exact List.takeWhile_append_dropWhile

theorem quoted?_append {quote : Char} {text value used rest : List Char}
    (hquoted : quoted? quote text = some (value, used, rest)) : used ++ rest = text := by
  fun_induction quoted? quote text generalizing value used rest <;>
    simp_all <;> grind

theorem punct?_append {text : List Char} {cut : Cut} (hcut : punct? text = some cut) :
    cut.used ++ cut.rest = text := by
  unfold punct? at hcut
  split at hcut
  · cases hcut
    exact List.take_append_drop 2 text
  · obtain ⟨mark, -, rfl⟩ := Option.map_eq_some_iff.1 hcut
    exact List.take_append_drop 1 text

end Cut

/-- Cuts the first lexeme off the text `c :: rest`, which begins at `start`. -/
def Cut.ofChars (afterDot : Bool) (start : Nat) (c : Char) (rest : List Char) :
    Except ParseError Cut :=
  if isNameStart c then .ok (Cut.name (c :: rest))
  else if c.isDigit then .ok (Cut.number afterDot (c :: rest))
  else if c == '\x27' || c == '\x22' then
    match Cut.string? c rest with
    | some cut => .ok cut
    | none =>
        .error (.invalidSyntax .unterminatedString
          (Span.ofParts start (byteLength (c :: rest))))
  else
    match Cut.punct? (c :: rest) with
    | some cut => .ok cut
    | none =>
        .error (.invalidSyntax (.unexpectedCharacter c) (Span.ofParts start c.utf8Size))

theorem Cut.ofChars_append {afterDot : Bool} {start : Nat} {c : Char} {rest : List Char}
    {cut : Cut} (hcut : Cut.ofChars afterDot start c rest = .ok cut) :
    cut.used ++ cut.rest = c :: rest := by
  unfold Cut.ofChars at hcut
  split at hcut
  · cases hcut
    exact List.takeWhile_append_dropWhile
  split at hcut
  · cases hcut
    exact Cut.numeral_append afterDot (c :: rest)
  split at hcut
  · split at hcut
    · next hstring =>
        cases hcut
        obtain ⟨⟨value, used, left⟩, hquoted, rfl⟩ := Option.map_eq_some_iff.1 hstring
        simpa using Cut.quoted?_append hquoted
    · cases hcut
  · split at hcut
    · next hpunct =>
        cases hcut
        exact Cut.punct?_append hpunct
    · cases hcut

theorem Text.isNamePart_of_isNameStart {c : Char} (hstart : isNameStart c = true) :
    isNamePart c = true := by
  unfold isNameStart at hstart
  unfold isNamePart
  cases halpha : isAlphabetic c <;> simp_all

theorem Cut.ofChars_used_ne_nil {afterDot : Bool} {start : Nat} {c : Char}
    {rest : List Char} {cut : Cut} (hcut : Cut.ofChars afterDot start c rest = .ok cut) :
    cut.used ≠ [] := by
  unfold Cut.ofChars at hcut
  split at hcut
  · next hstart =>
      cases hcut
      simp [Cut.name, isNamePart_of_isNameStart hstart]
  split at hcut
  · next hdigit =>
      cases hcut
      have hpart : isDigitPart c = true := by simp [isDigitPart, hdigit]
      cases afterDot <;> simp [Cut.number, Cut.numeral, hpart]
  split at hcut
  · split at hcut
    · next hstring =>
        cases hcut
        obtain ⟨_, -, rfl⟩ := Option.map_eq_some_iff.1 hstring
        simp
    · cases hcut
  · split at hcut
    · next hpunct =>
        cases hcut
        unfold Cut.punct? at hpunct
        split at hpunct
        · cases hpunct
          simp
        · obtain ⟨_, -, rfl⟩ := Option.map_eq_some_iff.1 hpunct
          simp
    · cases hcut

theorem Cut.ofChars_rest_length_lt {afterDot : Bool} {start : Nat} {c : Char}
    {rest : List Char} {cut : Cut} (hcut : Cut.ofChars afterDot start c rest = .ok cut) :
    cut.rest.length < (c :: rest).length := by
  rw [← Cut.ofChars_append hcut, List.length_append]
  have hused := List.length_pos_iff.2 (Cut.ofChars_used_ne_nil hcut)
  omega

end TemplateVariables
