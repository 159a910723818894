import TemplateVariables.Collector
import TemplateVariables.Node.Parser

/-!
# Extraction

The variables that a caller has to provide for a template, or the reason why
the template cannot be read.
-/

namespace TemplateVariables

structure Extraction where
  /-- The free variables; none when the template cannot be read. -/
  names : FreeVariables
  error : Option String
deriving DecidableEq

namespace Extraction

def ofResult : Except ParseError FreeVariables → Extraction
  | .ok names => { names, error := none }
  | .error error => { names := NameSet.empty, error := some error.message }

def isOk (extraction : Extraction) : Bool :=
  extraction.error.isNone

end Extraction

/-- The free variables of a template, or the error that stopped its reading. -/
def freeVariablesOf (globals : Globals) (template : String) :
    Except ParseError FreeVariables := do
  return freeVariables globals (← Node.ofSource template.toList)

/-- Extracts the variables of a template; the given names are always bound. -/
def extractWith (globals : Globals) (template : String) : Extraction :=
  Extraction.ofResult (freeVariablesOf globals template)

def extract (template : String) : Extraction :=
  extractWith (Globals.ofNames []) template

end TemplateVariables
