import TemplateVariables.Console
import TemplateVariables.Invocation
import TemplateVariables.Log.Events
import TemplateVariables.Outcome
import TemplateVariables.Settings

/-!
# Commands

What each command makes of its inputs.  A command fails when one of its inputs
is not a template, however its results are written.
-/

namespace TemplateVariables

/-- A number with a noun in the singular or the plural. -/
def counted (count : Nat) (noun : String) : String :=
  if count = 1 then s!"{count} {noun}" else s!"{count} {noun}s"

/-- The inputs that are not templates, and what is wrong with them. -/
abbrev Failures := List (Input × ParseError)

namespace Failures

def exitCode (failures : Failures) : UInt8 :=
  if failures.isEmpty then 0 else 1

/-- A text that is written only if there are failures. -/
def summary (failures : Failures) (text : String) : List Notice :=
  if failures.isEmpty then [] else [.line text]

end Failures

/-- What is left out when a command is quiet. -/
def unlessQuiet {α : Type} (quiet : Bool) (items : List α) : List α :=
  if quiet then [] else items

/-! ## Extracting -/

/-- What extraction gives for an input. -/
abbrev Extracted := Input × Except ParseError FreeVariables

namespace Extracted

def extraction (extracted : Extracted) : Extraction :=
  Extraction.ofResult extracted.2

def failure? : Extracted → Option (Input × ParseError)
  | (input, .error error) => some (input, error)
  | (_, .ok _) => none

/-- The members of the object that stands for an extraction. -/
def members (extraction : Extraction) : List (String × JsonTree) :=
  ("variables", .array (extraction.names.toList.map .string)) ::
    extraction.error.toList.map fun error => ("error", .string error)

/-- One object for a single input, otherwise an array of objects with paths. -/
def json : List Extracted → JsonTree
  | [extracted] => .object (members extracted.extraction)
  | results =>
      .array (results.map fun extracted =>
        .object (("path", .string extracted.1.path) :: members extracted.extraction))

/-- One name per line; the names of several inputs stand below their paths. -/
def lines : List Extracted → List String
  | [extracted] => extracted.extraction.names.toList
  | results =>
      results.flatMap fun extracted =>
        (extracted.1.path ++ ":") :: extracted.extraction.names.toList.map ("  " ++ ·)

def format (console : Console) (results : List Extracted) : OutputFormat → String
  | .text => String.join ((lines results).map (· ++ "\n"))
  | .json => console.json (json results) ++ "\n"

/-- What extraction reports on the way. -/
def events (globals : Globals) (input : Input) : List Event :=
  Event.ofReading input.source.toList ++
    match Node.ofSource input.source.toList with
    | .ok nodes => [.collectedVariables globals nodes]
    | .error _ => []

/-- An explanation of a failure, with a blank line after it. -/
def explanation (console : Console) (extracted : Extracted) : List Notice :=
  extracted.failure?.toList.flatMap fun (input, error) =>
    [.log (.parseError input error),
      .line (console.draw console.stderrIsTerminal (input.report error) ++ "\n")]

end Extracted

/-- Writes the free variables of each input. -/
def extractInputs (console : Console) (globals : Globals) (format : OutputFormat) (quiet : Bool)
    (inputs : List Input) : Outcome :=
  let results : List Extracted :=
    inputs.map fun input => (input, freeVariablesOf globals input.source)
  let failures : Failures := results.filterMap Extracted.failure?
  let total := counted inputs.length "template"
  { exitCode := failures.exitCode
    stdout := Extracted.format console results format
    notices :=
      (results.flatMap fun extracted =>
        (Extracted.events globals extracted.1).map .log ++
          unlessQuiet quiet (extracted.explanation console)) ++
        unlessQuiet quiet (failures.summary s!"Failed to parse {failures.length} of {total}.") }

/-! ## Checking -/

def checkInput (input : Input) : Option (Input × ParseError) :=
  match Node.ofSource input.source.toList with
  | .ok _ => none
  | .error error => some (input, error)

/-- What checking reports on the way. -/
def checkEvents (quiet : Bool) (input : Input) : List Event :=
  Event.ofReading input.source.toList ++
    match Node.ofSource input.source.toList with
    | .ok nodes => [.templateOk input nodes]
    | .error error => unlessQuiet quiet [.parseError input error]

/-- Writes what is wrong with each input that is not a template. -/
def checkInputs (console : Console) (quiet : Bool) (inputs : List Input) : Outcome :=
  let failures : Failures := inputs.filterMap checkInput
  let found := counted failures.length "error"
  let total := counted inputs.length "file"
  { exitCode := failures.exitCode
    stdout := String.join (unlessQuiet quiet (failures.map fun (input, error) =>
      console.draw console.stdoutIsTerminal (input.report error) ++ "\n\n"))
    notices :=
      (inputs.flatMap (checkEvents quiet)).map .log ++
        unlessQuiet quiet (failures.summary s!"Found {found} in {total} checked.") }

namespace Invocation

/-- What an invocation makes of its inputs, with everything that it reports. -/
def onInputs (invocation : Invocation) (console : Console) (settings : Settings)
    (inputs : List Input) : Outcome :=
  match invocation.command with
  | .extract format _ =>
      extractInputs console (Globals.ofNames settings.globals) format invocation.quiet inputs
  | .check _ => checkInputs console invocation.quiet inputs

end Invocation

end TemplateVariables
