import TemplateVariables.DrawnConsole
import TemplateVariables.Program

/-!
# Command line

Reads what a run needs from the system and writes what it gives.
-/

namespace TemplateVariables

/-- The text of a file, if there is one. -/
def textOfFile? (path : String) : IO (Option String) := do
  try
    return some (← IO.FS.readFile path)
  catch _ =>
    return none

def readFailureOfError : IO.Error → ReadFailure
  | .noFileOrDirectory .. => .missing
  | .inappropriateType .. => .directory
  | error => .other (toString error)

def readTemplate (path : String) : IO (Except ReadFailure String) := do
  try
    return .ok (← IO.FS.readFile path)
  catch error =>
    return .error (readFailureOfError error)

/-- The directory of a user's settings. -/
def userDirectory? : IO (Option String) := do
  match ← IO.getEnv "XDG_CONFIG_HOME" with
  | some directory =>
      if directory.startsWith "/" then return some (directory ++ "/tplvars")
  | none => pure ()
  return (← IO.getEnv "HOME").map (· ++ "/.config/tplvars")

def userSettings : IO (Option String) := do
  match ← userDirectory? with
  | some directory => textOfFile? (directory ++ "/tplvars.toml")
  | none => return none

/-- The standard input, if it is needed and not a terminal. -/
def standardInput (isNeeded : Bool) : IO (Option String) := do
  let stdin ← IO.getStdin
  if !isNeeded || (← stdin.isTty) then return none
  return some (← stdin.readToEnd)

/-- The terminals that a run writes to.  The environment is not asked for events. -/
def console : IO Console := do
  return { Console.drawn with
    stdoutIsTerminal := ← (← IO.getStdout).isTty
    stderrIsTerminal := ← (← IO.getStderr).isTty }

/-- What a run with some paths finds in the system. -/
def surroundings (paths : List String) : IO Surroundings := do
  let templates ← paths.mapM fun path => return (path, ← readTemplate path)
  return {
    console := ← console
    settings := {
      user := ← userSettings
      hidden := ← textOfFile? ".tplvars.toml"
      project := ← textOfFile? "tplvars.toml" }
    file := fun path => (templates.lookup path).getD (.error .missing)
    stdin := ← standardInput paths.isEmpty }

/-- The paths that a command line names; `none` if it does not run a command. -/
def pathsOfArguments? (arguments : List String) : Option (List String) :=
  match Invocation.ofArguments arguments with
  | .ok invocation => some invocation.command.paths
  | .error _ => none

/-- What a command line needs to know of the system. -/
def surroundingsOfArguments (arguments : List String) : IO Surroundings := do
  match pathsOfArguments? arguments with
  | some paths => surroundings paths
  | none =>
      return {
        settings := {}
        file := fun _ => .error .missing
        stdin := none
        console := ← console }

def writeNotice : Notice → IO Unit
  | .line text => IO.eprintln text
  | .log event => IO.eprintln event.text

end TemplateVariables

def main (arguments : List String) : IO UInt32 := do
  let surroundings ← TemplateVariables.surroundingsOfArguments arguments
  let outcome := TemplateVariables.respond surroundings arguments
  IO.print outcome.stdout
  outcome.notices.forM TemplateVariables.writeNotice
  return outcome.exitCode.toUInt32
