import TemplateVariables.Toml

/-!
# Values without quotes

Booleans, integers and decimal fractions of a TOML document.  An underscore may
stand between two digits; an integer has no leading zero and fits 64 bits.
-/

namespace TemplateVariables.Toml

/-- The digits of a number, if each underscore in it stands between two of them. -/
def digits? (isDigit : Char → Bool) : List Char → Option (List Char)
  | [] => none
  | [c] => if isDigit c then some [c] else none
  | c :: '_' :: rest => do
      let digits ← digits? isDigit rest
      if isDigit c then some (c :: digits) else none
  | c :: rest => do
      let digits ← digits? isDigit rest
      if isDigit c then some (c :: digits) else none

def digitValue (c : Char) : Nat :=
  if c.isDigit then c.toNat - '0'.toNat else c.toLower.toNat - 'a'.toNat + 10

def numberOfDigits (base : Nat) (digits : List Char) : Nat :=
  digits.foldl (fun number digit => base * number + digitValue digit) 0

/-- Whether a character is a digit of a base of at most sixteen. -/
def isDigitOf (base : Nat) (c : Char) : Bool :=
  (c.isDigit || ('a' ≤ c && c ≤ 'f') || ('A' ≤ c && c ≤ 'F')) && digitValue c < base

/-- The number that decimal digits without a leading zero spell. -/
def decimal? (text : List Char) : Option Nat := do
  let digits ← digits? Char.isDigit text
  if digits.head? = some '0' ∧ digits.length ≠ 1 then none
  else some (numberOfDigits 10 digits)

def based? (base : Nat) (text : List Char) : Option Nat :=
  (digits? (isDigitOf base) text).map (numberOfDigits base)

/-- The sign at the start of a number, and the text after it. -/
def signed : List Char → Bool × List Char
  | '-' :: rest => (true, rest)
  | '+' :: rest => (false, rest)
  | text => (false, text)

def integer? : List Char → Option Int
  | '0' :: 'x' :: rest => (based? 16 rest).map Int.ofNat
  | '0' :: 'o' :: rest => (based? 8 rest).map Int.ofNat
  | '0' :: 'b' :: rest => (based? 2 rest).map Int.ofNat
  | text =>
      let (isNegative, rest) := signed text
      (decimal? rest).map fun number => if isNegative then -number else number

/-- Whether a text is what stands behind the letter of an exponent. -/
def isExponent (text : List Char) : Bool :=
  (digits? Char.isDigit (signed text).2).isSome

def isExponentLetter (c : Char) : Bool :=
  c == 'e' || c == 'E'

def isDecimalFraction (text : List Char) : Bool :=
  let unsigned := (signed text).2
  let mantissa := unsigned.takeWhile (!isExponentLetter ·)
  let exponent := unsigned.dropWhile (!isExponentLetter ·)
  let whole := mantissa.takeWhile (· != '.')
  let fraction := mantissa.dropWhile (· != '.')
  (decimal? whole).isSome &&
    (fraction.isEmpty || (digits? Char.isDigit fraction.tail).isSome) &&
    (exponent.isEmpty || isExponent exponent.tail) &&
    !(fraction.isEmpty && exponent.isEmpty)

/-- The value that a text without quotes stands for.  An integer has to fit in 64 bits. -/
def Value.ofWord? (text : List Char) : Option Value :=
  if text = ['t', 'r', 'u', 'e'] then some (.bool true)
  else if text = ['f', 'a', 'l', 's', 'e'] then some (.bool false)
  else match integer? text with
  | some number =>
      if -9223372036854775808 ≤ number ∧ number < 9223372036854775808 then some (.int number)
      else none
  | none =>
      if isDecimalFraction text then some (.float (String.ofList (text.filter (· != '_'))))
      else none

end TemplateVariables.Toml
