import TemplateVariables.Toml.Token
import TemplateVariables.Toml.Word

/-!
# Reading TOML documents

A document is read line by line from its tokens; a value may go over several
lines inside square brackets.  What stands in the lines is put together to the
sections of a document, which must define each key and each table once.
-/

namespace TemplateVariables.Toml

/-- A line of a document: a table header, or a key and its value. -/
inductive Line where
  | header (key : List String)
  | entry (key : List String) (value : Value)
deriving Repr

/-- What is read from the start of some tokens, and the tokens after it. -/
abbrev Reading (α : Type) (tokens : List Token) : Type :=
  Option (α × { rest : List Token // rest.length < tokens.length })

/-- The tokens after the line ends that some tokens start with. -/
def afterNewlines (tokens : List Token) : { rest : List Token // rest.length ≤ tokens.length } :=
  ⟨tokens.dropWhile (· == .newline), (List.dropWhile_sublist _).length_le⟩

/-- The tokens after a given first token. -/
def after? (token : Token) :
    (tokens : List Token) → Option { rest : List Token // rest.length < tokens.length }
  | [] => none
  | first :: rest => if first = token then some ⟨rest, Nat.lt_succ_self _⟩ else none

/-! ## Keys -/

/-- The parts of a text between its dots. -/
def splitAtDots : List Char → List (List Char)
  | [] => [[]]
  | c :: rest =>
      if c = '.' then [] :: splitAtDots rest
      else match splitAtDots rest with
      | [] => [[c]]
      | part :: parts => (c :: part) :: parts

def isKeyToken : Token → Bool
  | .word text => !text.contains '+'
  | .str _ => true
  | .mark _ | .newline => false

/-- What a token adds to a key: its parts, and `none` for each dot. -/
def keyPieces : Token → List (Option String)
  | .word text =>
      List.intercalate [none] ((splitAtDots text).map fun part =>
        if part.isEmpty then [] else [some (String.ofList part)])
  | .str text => [some text]
  | .mark _ | .newline => []

/-- The parts of a key, if single dots stand between them. -/
def keyOfPieces? : List (Option String) → Option (List String)
  | [some part] => some [part]
  | some part :: none :: rest => (keyOfPieces? rest).map (part :: ·)
  | _ => none

/-- A key at the start of some tokens. -/
def key? : (tokens : List Token) → Reading (List String) tokens
  | [] => none
  | first :: more =>
      if isKeyToken first then
        (keyOfPieces? ((first :: more.takeWhile isKeyToken).flatMap keyPieces)).map fun key =>
          (key, ⟨more.dropWhile isKeyToken,
            Nat.lt_succ_of_le (List.dropWhile_sublist _).length_le⟩)
      else none

/-! ## Values -/

mutual

def value? (tokens : List Token) : Reading Value tokens :=
  match tokens with
  | [] => none
  | .word text :: rest => (Value.ofWord? text).map fun value => (value, ⟨rest, by simp⟩)
  | .str text :: rest => some (.str text, ⟨rest, by simp⟩)
  | .mark char :: rest =>
      if char = '[' then do
        let (items, ⟨more, hmore⟩) ← items? rest
        return (.array items, ⟨more, Nat.lt_succ_of_lt hmore⟩)
      else if char = '\x7b' then do
        let (entries, ⟨more, hmore⟩) ←
          ((after? (.mark '\x7d') rest).map fun more => ([], more)) <|> entries? rest
        if entriesAreSound (entries.map Prod.fst) then
          return (.table entries, ⟨more, Nat.lt_succ_of_lt hmore⟩)
        else none
      else none
  | .newline :: _ => none
termination_by 2 * tokens.length

/-- The items of an array and its closing bracket. -/
def items? (tokens : List Token) : Reading (List Value) tokens :=
  let ⟨next, hnext⟩ := afterNewlines tokens
  match after? (.mark ']') next with
  | some ⟨rest, hrest⟩ => some ([], ⟨rest, by omega⟩)
  | none => do
      let (value, ⟨rest, hrest⟩) ← value? next
      let ⟨after, hafter⟩ := afterNewlines rest
      match after? (.mark ']') after with
      | some ⟨more, hmore⟩ => return ([value], ⟨more, by omega⟩)
      | none =>
          let ⟨more, hmore⟩ ← after? (.mark ',') after
          let (values, ⟨final, hfinal⟩) ← items? more
          return (value :: values, ⟨final, by omega⟩)
termination_by 2 * tokens.length + 1

/-- The pairs of an inline table and its closing brace. -/
def entries? (tokens : List Token) : Reading (List (List String × Value)) tokens := do
  let (key, ⟨afterKey, _⟩) ← key? tokens
  let ⟨text, _⟩ ← after? (.mark '=') afterKey
  let (value, ⟨rest, hrest⟩) ← value? text
  match after? (.mark '\x7d') rest with
  | some ⟨more, hmore⟩ => return ([(key, value)], ⟨more, by omega⟩)
  | none =>
      let ⟨more, hmore⟩ ← after? (.mark ',') rest
      let (entries, ⟨final, hfinal⟩) ← entries? more
      return ((key, value) :: entries, ⟨final, by omega⟩)
termination_by 2 * tokens.length

end

/-! ## Documents -/

def header? (tokens : List Token) : Reading Line tokens := do
  let ⟨text, htext⟩ ← after? (.mark '[') tokens
  let (key, ⟨afterKey, hkey⟩) ← key? text
  let ⟨rest, hrest⟩ ← after? (.mark ']') afterKey
  return (.header key, ⟨rest, by omega⟩)

def entry? (tokens : List Token) : Reading Line tokens := do
  let (key, ⟨afterKey, hkey⟩) ← key? tokens
  let ⟨text, htext⟩ ← after? (.mark '=') afterKey
  let (value, ⟨rest, hrest⟩) ← value? text
  return (.entry key value, ⟨rest, by omega⟩)

/-- The lines of a document, blank ones left out. -/
def lines? (tokens : List Token) : Option (List Line) :=
  let ⟨next, _hnext⟩ := afterNewlines tokens
  if next.isEmpty then some []
  else do
    let (line, ⟨rest, _hrest⟩) ← header? next <|> entry? next
    if rest.isEmpty then return [line]
    else
      let ⟨more, _hmore⟩ ← after? .newline rest
      let lines ← lines? more
      return line :: lines
termination_by tokens.length

/-- The sections that some lines make up, the first of them under a given header. -/
def sectionsOfLines (header : List String) : List Line → List Section
  | [] => [⟨header, []⟩]
  | .header key :: lines => ⟨header, []⟩ :: sectionsOfLines key lines
  | .entry key value :: lines =>
      match sectionsOfLines header lines with
      | [] => [⟨header, [(key, value)]⟩]
      | first :: more => ⟨header, (key, value) :: first.entries⟩ :: more

/-- Reads a document, in which each key and each table is defined once. -/
def Document.ofString? (text : String) : Option Document := do
  let tokens ← Token.ofChars? text.toList
  let lines ← lines? tokens
  let document : Document := ⟨sectionsOfLines [] lines⟩
  if document.isSound then some document else none

end TemplateVariables.Toml
