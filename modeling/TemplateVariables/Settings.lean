import TemplateVariables.Toml.Parser

/-!
# Settings

Settings come from up to three files.  The files are laid one over another, from the lowest to
the highest priority, and the settings are read off the table that this gives; a value that
another one lies over need not be of the right kind.
-/

namespace TemplateVariables

structure Settings where
  debug : Bool := false
  /-- Names that count as defined in every template. -/
  globals : List String := []
deriving DecidableEq, Repr

namespace Settings

/-- The texts of the settings files that exist. -/
structure Files where
  user : Option String := none
  hidden : Option String := none
  project : Option String := none

/-- The places of the files, from the lowest to the highest priority. -/
def Files.sources (files : Files) : List (Option String) :=
  [files.user, files.hidden, files.project]

/-- The files that exist, from the lowest to the highest priority. -/
def Files.rising (files : Files) : List String :=
  files.sources.filterMap id

/-- What loading asks of the format of the files: how a text is read, how the table of a file is
laid over the tables of the files before it, and what the values under a key can be used as. -/
structure Format where
  Table : Type
  Value : Type
  /-- The table before any file is read. -/
  empty : Table
  ofText? : String → Option Table
  /-- The second table laid over the first one. -/
  override : Table → Table → Table
  get? : Table → String → Option Value
  /-- The switch that a value sets. -/
  switch? : Value → Option Bool
  /-- The list of names that a value gives. -/
  names? : Value → Option (List String)

/-- Why settings cannot be loaded. -/
inductive LoadError where
  /-- A file is not a TOML document. -/
  | malformed
  /-- The value of a setting is of the wrong kind. -/
  | unfit (key : String)
deriving DecidableEq, Repr

def LoadError.message : LoadError → String
  | .malformed | .unfit _ => "Configuration build/deserialize error"

/-- Whether the text of a fraction is not zero. -/
def isNonzero (text : String) : Bool :=
  (text.toList.takeWhile (!Toml.isExponentLetter ·)).any fun c => c.isDigit && c != '0'

/-- The switch that a value sets. -/
def switch? : Toml.Value → Option Bool
  | .bool value => some value
  | .int number => some (number != 0)
  | .float text => some (isNonzero text)
  | .str text =>
      let word := text.toLower
      if ["1", "true", "on", "yes"].contains word then some true
      else if ["0", "false", "off", "no"].contains word then some false
      else none
  | .array _ | .table _ => none

/-- The name that an item of a list of names gives. -/
def name? : Toml.Value → Option String
  | .str text => some text
  | .int number => some (toString number)
  | .float text => some text
  | .bool value => some (toString value)
  | .array _ | .table _ => none

def names? : Toml.Value → Option (List String)
  | .array items => items.mapM name?
  | .str _ | .int _ | .float _ | .bool _ | .table _ => none

/-- TOML files, laid one over another key by key. -/
def toml : Format where
  Table := String → Option Toml.Value
  Value := Toml.Value
  empty _ := none
  ofText? text := (Toml.Document.ofString? text).map Toml.Document.get?
  override below above := fun key => (above key).or (below key)
  get? table key := table key
  switch? := switch?
  names? := names?

/-- The setting that a value under a key gives, or its default if the key has no value. -/
def setting {Value α : Type} (key : String) (convert? : Value → Option α) (default : α) :
    Option Value → Except LoadError α
  | none => .ok default
  | some value =>
      match convert? value with
      | none => .error (.unfit key)
      | some result => .ok result

/-- The settings that the values under the keys give. -/
def ofValues (format : Format) (value? : String → Option format.Value) :
    Except LoadError Settings := do
  let debug ← setting "debug" format.switch? false (value? "debug")
  let globals ← setting "globals" format.names? [] (value? "globals")
  return { debug, globals }

/-- Loads the settings that some files of a format hold. -/
def loadAs (format : Format) (files : Files) : Except LoadError Settings :=
  match files.rising.mapM format.ofText? with
  | none => .error .malformed
  | some tables =>
      ofValues format (format.get? (tables.foldl format.override format.empty))

/-- Loads the settings that some files hold. -/
def load (files : Files) : Except LoadError Settings :=
  loadAs toml files

end Settings

end TemplateVariables
