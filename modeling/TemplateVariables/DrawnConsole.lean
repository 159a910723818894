import TemplateVariables.Console
import TemplateVariables.Diagnostic.Drawing

/-!
# A console with drawings

A console that draws reports on the lines of their sources and writes JSON over several
lines.
-/

namespace TemplateVariables

/-- A drawing for a terminal, in bold type. -/
def Report.drawBold (report : Report) : String :=
  "\x1b[1m" ++ report.draw ++ "\x1b[0m"

/-- A console that is no terminal. -/
def Console.drawn : Console where
  plain := Report.draw
  styled := Report.drawBold
  json := JsonTree.text

end TemplateVariables
