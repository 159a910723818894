import TemplateVariables.Command
import TemplateVariables.CommandLine

/-!
# The program

A run reads the command line, loads the settings, reads all inputs and then
carries out the command.  The first of these that fails ends the run.
-/

namespace TemplateVariables

/-- What a run finds around it. -/
structure Surroundings where
  settings : Settings.Files
  file : String → Except ReadFailure String
  /-- The standard input, unless it is a terminal. -/
  stdin : Option String
  console : Console

namespace Invocation

/-- Whether the log of an invocation shows an event. -/
def shows (invocation : Invocation) (console : Console) (settings : Settings) : Event → Bool :=
  Event.isShown console.asked?
    (Severity.ofSwitches invocation.quiet invocation.verbose settings.debug)

/-- What an invocation does once the settings are loaded. -/
def execute (surroundings : Surroundings) (settings : Settings) (invocation : Invocation) :
    Outcome :=
  match Input.readAll surroundings.file surroundings.stdin invocation.command.paths with
  | .error error => Outcome.ofInputError error
  | .ok inputs =>
      (invocation.onInputs surroundings.console settings inputs).logged
        (invocation.shows surroundings.console settings)

def run (surroundings : Surroundings) (invocation : Invocation) : Outcome :=
  match Settings.load surroundings.settings with
  | .error error => Outcome.failure "Failed to load settings" [error.message]
  | .ok settings => invocation.execute surroundings settings

end Invocation

/-- The outcome of a run with some arguments. -/
def respond (surroundings : Surroundings) (arguments : List String) : Outcome :=
  match Invocation.ofArguments arguments with
  | .error .version => { exitCode := 0, stdout := "tplvars 0.1.0\n" }
  | .error (.misuse error) =>
      { exitCode := 2, notices := [.line s!"error: {error.message}"] }
  | .ok invocation => invocation.run surroundings

end TemplateVariables
