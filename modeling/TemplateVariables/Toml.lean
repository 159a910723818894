/-!
# TOML documents

A document is the list of its tables and of its values, each with the full path
of its key.  Which key is defined twice, or used both as a value and as a table,
is seen from the paths alone.
-/

namespace TemplateVariables.Toml

inductive Value where
  | str (text : String)
  | int (number : Int)
  /-- A number with a fraction or an exponent, as written. -/
  | float (text : String)
  | bool (value : Bool)
  | array (items : List Value)
  /-- An inline table: its keys and their values. -/
  | table (entries : List (List String × Value))
deriving Repr

/-- The keys and values under one table header. -/
structure Section where
  header : List String
  entries : List (List String × Value)
deriving Repr

structure Document where
  sections : List Section
deriving Repr

/-- The tables that a dotted key stands in, below the table it is written in. -/
def tablesOfKey (header key : List String) : List (List String) :=
  (List.range (key.length - 1)).map fun n => header ++ key.take (n + 1)

/-- Whether no key is defined twice and none is both a value and a table. -/
def entriesAreSound (entries : List (List String)) : Bool :=
  entries.Pairwise fun a b => !a.isPrefixOf b && !b.isPrefixOf a

namespace Document

/-- The tables with a header of their own. -/
def headers (document : Document) : List (List String) :=
  (document.sections.map (·.header)).filter (· != [])

/-- The full paths of all values. -/
def paths (document : Document) : List (List String) :=
  document.sections.flatMap fun part => part.entries.map fun entry => part.header ++ entry.1

/-- Whether every key and every table is defined once. -/
def isSound (document : Document) : Bool :=
  decide document.headers.Nodup && entriesAreSound document.paths &&
    document.headers.all fun header =>
      !document.paths.any (fun path => path.isPrefixOf header) &&
        !document.sections.any fun part => part.entries.any fun entry =>
          (tablesOfKey part.header entry.1).contains header

/-- The value of a key of the root table. -/
def get? (document : Document) (key : String) : Option Value :=
  let values := document.sections.flatMap fun part =>
    part.entries.filterMap fun entry =>
      if part.header ++ entry.1 = [key] then some entry.2 else none
  let isTable := (document.headers ++ document.paths).any fun path => path.head? == some key
  match values.head? with
  | some value => some value
  | none => if isTable then some (.table []) else none

end Document

end TemplateVariables.Toml
