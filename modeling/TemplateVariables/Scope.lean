import TemplateVariables.NameSet

/-!
# Scopes

Names are bound in frames, one inside another.  Below all frames are the
globals, which are bound everywhere.
-/

namespace TemplateVariables

/-- The names that are always bound: those of the template language, and extra
ones that a caller promises to provide. -/
structure Globals where
  extra : NameSet
deriving DecidableEq

namespace Globals

/-- Names that every template can use. -/
def builtins : List String :=
  ["loop", "range"]

/-- Names of literals, in any letter case. -/
def literals : List String :=
  ["true", "false", "none"]

def ofNames (names : List String) : Globals where
  extra := NameSet.ofList names

/-- Whether two names differ at most in the case of ASCII letters. -/
def sameUpToCase (a b : String) : Bool :=
  a.toList.map Char.toLower == b.toList.map Char.toLower

def contains (globals : Globals) (name : String) : Bool :=
  builtins.contains name || literals.any (sameUpToCase name) || globals.extra.contains name

end Globals

/-- The frames in force at some place of a template, innermost first. -/
structure ScopeStack where
  globals : Globals
  frames : List (List String)
deriving DecidableEq

namespace ScopeStack

def new (globals : Globals) : ScopeStack where
  globals
  frames := []

/-- Opens a frame that binds some names from the start. -/
def push (scopes : ScopeStack) (names : List String) : ScopeStack :=
  { scopes with frames := names :: scopes.frames }

/-- Leaves the innermost frame, if there is one. -/
def pop (scopes : ScopeStack) : ScopeStack :=
  { scopes with frames := scopes.frames.tail }

/-- Binds a name in the innermost frame, or in a first one if there is none. -/
def bind (scopes : ScopeStack) (name : String) : ScopeStack :=
  match scopes.frames with
  | [] => { scopes with frames := [[name]] }
  | innermost :: outer => { scopes with frames := (name :: innermost) :: outer }

def isBound (scopes : ScopeStack) (name : String) : Bool :=
  scopes.frames.any (fun frame => frame.contains name) || scopes.globals.contains name

/-- Number of frames above the globals. -/
def depth (scopes : ScopeStack) : Nat :=
  scopes.frames.length

end ScopeStack

end TemplateVariables
