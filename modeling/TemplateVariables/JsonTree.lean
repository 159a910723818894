/-!
# JSON text

JSON values made of strings, arrays and objects, and their text over several
lines.  Only what JSON does not allow in a string is escaped.
-/

namespace TemplateVariables

inductive JsonTree where
  | string (text : String)
  | array (items : List JsonTree)
  | object (members : List (String × JsonTree))

namespace JsonTree

def hexDigit (n : Nat) : Char :=
  Char.ofNat (if n < 10 then '0'.toNat + n else 'a'.toNat + n - 10)

/-- A character as it stands in a string. -/
def escape (c : Char) : List Char :=
  if c = '\x22' then ['\x5c', '\x22']
  else if c = '\x5c' then ['\x5c', '\x5c']
  else if c = '\x08' then ['\x5c', 'b']
  else if c = '\x0c' then ['\x5c', 'f']
  else if c = '\n' then ['\x5c', 'n']
  else if c = '\r' then ['\x5c', 'r']
  else if c = '\t' then ['\x5c', 't']
  else if c.toNat < 0x20 then
    ['\x5c', 'u', '0', '0', hexDigit (c.toNat / 16), hexDigit (c.toNat % 16)]
  else [c]

def quoted (text : String) : String :=
  String.ofList ('\x22' :: text.toList.flatMap escape ++ ['\x22'])

/-- Two spaces for each level of nesting. -/
def indentation (depth : Nat) : String :=
  String.ofList (List.replicate (2 * depth) ' ')

/-- Lines between two brackets; nothing stands between the brackets if there are
no lines. -/
def bracketed (opener closer : String) (depth : Nat) (lines : List String) : String :=
  if lines.isEmpty then opener ++ closer
  else
    opener ++ "\n" ++ String.intercalate ",\n" (lines.map (indentation (depth + 1) ++ ·)) ++
      "\n" ++ indentation depth ++ closer

mutual

/-- The text of a value that starts in a line of the given depth. -/
def textAt (depth : Nat) : JsonTree → String
  | .string text => quoted text
  | .array items => bracketed "[" "]" depth (itemsAt depth items)
  | .object members => bracketed "\x7b" "\x7d" depth (membersAt depth members)

def itemsAt (depth : Nat) : List JsonTree → List String
  | [] => []
  | item :: items => textAt (depth + 1) item :: itemsAt depth items

def membersAt (depth : Nat) : List (String × JsonTree) → List String
  | [] => []
  | (key, value) :: members =>
      (quoted key ++ ": " ++ textAt (depth + 1) value) :: membersAt depth members

end

/-- The text of a value, an item or a member on each line. -/
def text (value : JsonTree) : String :=
  value.textAt 0

end JsonTree

end TemplateVariables
