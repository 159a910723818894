import TemplateVariables.Diagnostic
import TemplateVariables.JsonTree
import TemplateVariables.Log

/-!
# Consoles

Where a run writes to, and how the things are written that it does not write itself.
-/

namespace TemplateVariables

structure Console where
  /-- Draws a report without colours. -/
  plain : Report → String
  /-- Draws a report for a terminal. -/
  styled : Report → String
  json : JsonTree → String
  stdoutIsTerminal : Bool := false
  stderrIsTerminal : Bool := false
  /-- Which events the environment asks for, if it asks for any. -/
  asked? : Option (Event → Bool) := none

/-- Draws a report for something that may be a terminal. -/
def Console.draw (console : Console) (isTerminal : Bool) (report : Report) : String :=
  if isTerminal then console.styled report else console.plain report

end TemplateVariables
