import TemplateVariables.Toml

/-!
# Tokens of a TOML document

Words, strings, punctuation and line ends.  Blanks and comments are left out.
-/

namespace TemplateVariables.Toml

inductive Token where
  /-- A run of the characters that bare keys, numbers and booleans are made of. -/
  | word (text : List Char)
  | str (text : String)
  | mark (char : Char)
  | newline
deriving DecidableEq, Repr

namespace Token

/-- Characters that must not stand in a comment or a string. -/
def isControl (c : Char) : Bool :=
  (c.toNat < 0x20 && c != '\t') || c.toNat == 0x7f

/-- Characters that do not end the line that a comment stands in. -/
def isCommentChar (c : Char) : Bool :=
  c != '\n' && c != '\r'

def isKeyChar (c : Char) : Bool :=
  c.isAlphanum || c == '_' || c == '-'

def isWordChar (c : Char) : Bool :=
  isKeyChar c || c == '+' || c == '.'

def isMark (c : Char) : Bool :=
  c == '=' || c == ',' || c == '[' || c == ']' || c == '{' || c == '}'

def hexDigit? (c : Char) : Option Nat :=
  if c.isDigit then some (c.toNat - '0'.toNat)
  else if 'a' ≤ c ∧ c ≤ 'f' then some (c.toNat - 'a'.toNat + 10)
  else if 'A' ≤ c ∧ c ≤ 'F' then some (c.toNat - 'A'.toNat + 10)
  else none

/-- The character with the code point that some hexadecimal digits spell. -/
def charOfHex? (digits : List Char) : Option Char := do
  let values ← digits.mapM hexDigit?
  let code := values.foldl (fun code digit => 16 * code + digit) 0
  if code.isValidChar then some (Char.ofNat code) else none

/-- The character that a backslash and another character stand for. -/
def escaped? : Char → Option Char
  | 'b' => some '\x08'
  | 't' => some '\t'
  | 'n' => some '\n'
  | 'f' => some '\x0c'
  | 'r' => some '\r'
  | '\x22' => some '\x22'
  | '\x5c' => some '\x5c'
  | _ => none

/-- The value of a double-quoted string after its opening quote, and the text
after it. -/
def basicString? : List Char → Option (List Char × List Char)
  | [] => none
  | '\x22' :: rest => some ([], rest)
  | '\x5c' :: 'u' :: a :: b :: c :: d :: rest => do
      let char ← charOfHex? [a, b, c, d]
      let (value, rest) ← basicString? rest
      return (char :: value, rest)
  | '\x5c' :: 'U' :: a :: b :: c :: d :: e :: f :: g :: h :: rest => do
      let char ← charOfHex? [a, b, c, d, e, f, g, h]
      let (value, rest) ← basicString? rest
      return (char :: value, rest)
  | '\x5c' :: c :: rest => do
      let char ← escaped? c
      let (value, rest) ← basicString? rest
      return (char :: value, rest)
  | c :: rest =>
      if c = '\x5c' ∨ isControl c then none
      else do
        let (value, rest) ← basicString? rest
        return (c :: value, rest)

/-- The value of a single-quoted string after its opening quote, and the text
after it. -/
def literalString? : List Char → Option (List Char × List Char)
  | [] => none
  | '\x27' :: rest => some ([], rest)
  | c :: rest =>
      if isControl c then none
      else do
        let (value, rest) ← literalString? rest
        return (c :: value, rest)

theorem length_basicString? {text value rest : List Char}
    (hstring : basicString? text = some (value, rest)) : rest.length < text.length := by
  fun_induction basicString? text generalizing value rest
  case case1 => cases hstring
  case case2 => cases hstring; simp
  case case6 => cases hstring
  case case7 ih =>
    simp [Option.bind_eq_some_iff] at hstring
    obtain ⟨_, hrest, _⟩ := hstring
    exact Nat.lt_succ_of_lt (ih hrest)
  all_goals
    rename_i ih
    simp [Option.bind_eq_some_iff] at hstring
    obtain ⟨_, _, _, hrest, _⟩ := hstring
    have := ih hrest
    simp only [List.length_cons]
    omega

theorem length_literalString? {text value rest : List Char}
    (hstring : literalString? text = some (value, rest)) : rest.length < text.length := by
  fun_induction literalString? text generalizing value rest
  case case1 => cases hstring
  case case2 => cases hstring; simp
  case case3 => cases hstring
  case case4 ih =>
    simp [Option.bind_eq_some_iff] at hstring
    obtain ⟨_, hrest, _⟩ := hstring
    exact Nat.lt_succ_of_lt (ih hrest)

/-- The first token of a text, if it gives one, and the text after it. -/
def next? (c : Char) (rest : List Char) : Option (List Token × List Char) :=
  if c = ' ' ∨ c = '\t' then some ([], rest)
  else if c = '\n' then some ([newline], rest)
  else if c = '\r' then
    match rest with
    | '\n' :: rest => some ([newline], rest)
    | _ => none
  else if c = '#' then
    if (rest.takeWhile isCommentChar).any isControl then none
    else some ([], rest.dropWhile isCommentChar)
  else if c = '\x22' then
    (basicString? rest).map fun (value, rest) => ([str (String.ofList value)], rest)
  else if c = '\x27' then
    (literalString? rest).map fun (value, rest) => ([str (String.ofList value)], rest)
  else if isMark c then some ([mark c], rest)
  else if isWordChar c then
    some ([word (c :: rest.takeWhile isWordChar)], rest.dropWhile isWordChar)
  else none

theorem length_next? {c : Char} {text rest : List Char} {tokens : List Token}
    (hnext : next? c text = some (tokens, rest)) : rest.length ≤ text.length := by
  unfold next? at hnext
  split at hnext
  · simp_all
  split at hnext
  · simp_all
  split at hnext
  · split at hnext <;> simp_all
  split at hnext
  · split at hnext
    · cases hnext
    · cases hnext
      exact (List.dropWhile_sublist _).length_le
  split at hnext
  · obtain ⟨⟨_, _⟩, hstring, hpair⟩ := Option.map_eq_some_iff.1 hnext
    cases hpair
    exact Nat.le_of_lt (length_basicString? hstring)
  split at hnext
  · obtain ⟨⟨_, _⟩, hstring, hpair⟩ := Option.map_eq_some_iff.1 hnext
    cases hpair
    exact Nat.le_of_lt (length_literalString? hstring)
  split at hnext
  · simp_all
  split at hnext
  · cases hnext
    exact (List.dropWhile_sublist _).length_le
  · cases hnext

def ofChars? (text : List Char) : Option (List Token) :=
  match text with
  | [] => some []
  | c :: more =>
      match _hnext : next? c more with
      | none => none
      | some (tokens, rest) => (ofChars? rest).map (tokens ++ ·)
termination_by text.length
decreasing_by exact Nat.lt_succ_of_le (length_next? _hnext)

end Token

end TemplateVariables.Toml
