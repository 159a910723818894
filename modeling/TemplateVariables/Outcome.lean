import TemplateVariables.Input
import TemplateVariables.Log

/-!
# Outcomes

What a run of the program leaves behind.
-/

namespace TemplateVariables

/-- Something on the standard error: a text with a line ending after it, or an event that
the log shows. -/
inductive Notice where
  | line (text : String)
  | log (event : Event)
deriving DecidableEq, Repr

namespace Notice

def line? : Notice → Option String
  | .line text => some text
  | .log _ => none

@[simp] theorem line?_line (text : String) : line? (.line text) = some text := rfl

@[simp] theorem line?_log (event : Event) : line? (.log event) = none := rfl

/-- Whether a notice is written, given which events the log shows. -/
def isWritten (shows : Event → Bool) : Notice → Bool
  | .line _ => true
  | .log event => shows event

@[simp] theorem isWritten_line (shows : Event → Bool) (text : String) :
    isWritten shows (.line text) = true := rfl

@[simp] theorem isWritten_log (shows : Event → Bool) (event : Event) :
    isWritten shows (.log event) = shows event := rfl

end Notice

structure Outcome where
  exitCode : UInt8
  stdout : String := ""
  notices : List Notice := []
deriving DecidableEq, Repr

namespace Outcome

/-- What is written on the standard error besides the log. -/
def lines (outcome : Outcome) : List String :=
  outcome.notices.filterMap Notice.line?

/-- The text on the standard error without the log. -/
def stderr (outcome : Outcome) : String :=
  String.join (outcome.lines.map (· ++ "\n"))

/-- An outcome without the events that the log does not show. -/
def logged (shows : Event → Bool) (outcome : Outcome) : Outcome :=
  { outcome with notices := outcome.notices.filter (Notice.isWritten shows) }

/-- A run that stops with an error, below which stand its causes. -/
def failure (message : String) (causes : List String) : Outcome where
  exitCode := 1
  notices := (s!"Error: {message}" :: causes.map fun cause => s!"Caused by: {cause}").map .line

/-- A run that stops because of its inputs. -/
def ofInputError : InputError → Outcome
  | .unreadable path failed => failure s!"Failed to read {path}" [failed.message]
  | .missing => failure "No templates given: pass file paths or pipe a template on stdin" []

end Outcome

end TemplateVariables
