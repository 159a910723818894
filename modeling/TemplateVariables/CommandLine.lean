import TemplateVariables.Invocation
import TemplateVariables.Text.Find

/-!
# Command lines

A command line is read from the left.  Switches stand before or after the name
of the command; each side is checked on its own and both count.  The first
thing that is wrong decides, unless the version was asked for before it.
-/

namespace TemplateVariables
namespace CommandLine

inductive Argument where
  /-- The end of all options. -/
  | separator
  | long (name : List Char) (value : Option (List Char))
  /-- One or more options of one letter each. -/
  | short (letters : List Char)
  | plain (text : String)
deriving DecidableEq, Repr

namespace Argument

def ofString (text : String) : Argument :=
  match text.toList with
  | ['-', '-'] => .separator
  | '-' :: '-' :: option =>
      match Text.breakOn? ['='] option with
      | some (name, value) => .long name (some value)
      | none => .long option none
  | '-' :: first :: more => .short (first :: more)
  | _ => .plain text

end Argument

inductive Switch where
  | quiet
  | verbose
  | version
deriving DecidableEq, Repr

/-- Which part of a command line an argument belongs to. -/
inductive Level where
  | program
  | command
deriving DecidableEq, Repr

namespace Switch

/-- Whether a switch may stand in a part of a command line. -/
def isAllowed : Level → Switch → Bool
  | .program, _ => true
  | .command, switch => switch != .version

def ofLetter? (level : Level) (letter : Char) : Option Switch :=
  let switch? : Option Switch :=
    match letter with
    | 'q' => some .quiet
    | 'v' => some .verbose
    | 'V' => some .version
    | _ => none
  switch?.filter (isAllowed level)

def ofName? (level : Level) (name : List Char) : Option Switch :=
  let switch? : Option Switch :=
    match String.ofList name with
    | "quiet" => some .quiet
    | "verbose" => some .verbose
    | "version" => some .version
    | _ => none
  switch?.filter (isAllowed level)

end Switch

/-- The switches in one part of a command line. -/
structure Switches where
  quiet : Bool := false
  /-- How often the switch is given. -/
  verbose : Nat := 0
deriving DecidableEq, Repr

namespace Switches

def add (switches : Switches) : Switch → Except Halt Switches
  | .quiet =>
      if switches.quiet then .error (.misuse (.repeated "--quiet"))
      else .ok { switches with quiet := true }
  | .verbose => .ok { switches with verbose := switches.verbose + 1 }
  | .version => .error .version

def addLetter (level : Level) (switches : Switches) (letter : Char) : Except Halt Switches :=
  match Switch.ofLetter? level letter with
  | none => .error (.misuse (.unexpectedArgument (String.ofList ['-', letter])))
  | some switch => switches.add switch

def addLetters (level : Level) (switches : Switches) (letters : List Char) :
    Except Halt Switches :=
  letters.foldlM (addLetter level) switches

def addName (level : Level) (switches : Switches) (name : List Char)
    (value : Option (List Char)) : Except Halt Switches :=
  let option := String.ofList ('-' :: '-' :: name)
  match Switch.ofName? level name with
  | none => .error (.misuse (.unexpectedArgument option))
  | some switch =>
      if value.isSome then .error (.misuse (.unexpectedValue option)) else switches.add switch

/-- Refuses switches that exclude each other. -/
def check (switches : Switches) : Except Halt Unit :=
  if switches.quiet && switches.verbose > 0 then .error (.misuse .conflict) else .ok ()

end Switches

/-- What stands after the name of a command. -/
structure CommandArguments where
  switches : Switches := {}
  format : Option OutputFormat := none
  paths : List String := []

namespace CommandArguments

def addPaths (arguments : CommandArguments) (paths : List String) : CommandArguments :=
  { arguments with paths := arguments.paths ++ paths }

def setFormat (arguments : CommandArguments) (value : String) :
    Except Halt CommandArguments :=
  if arguments.format.isSome then .error (.misuse (.repeated "--format"))
  else
    match value with
    | "text" => .ok { arguments with format := some .text }
    | "json" => .ok { arguments with format := some .json }
    | _ => .error (.misuse (.unknownFormat value))

/-- Reads what stands after the name of a command, which may take a format. -/
def read (takesFormat : Bool) (arguments : CommandArguments) :
    List String → Except Halt CommandArguments
  | [] => .ok arguments
  | text :: rest =>
      match Argument.ofString text with
      | .separator => .ok (arguments.addPaths rest)
      | .plain path => read takesFormat (arguments.addPaths [path]) rest
      | .short letters => do
          let switches ← arguments.switches.addLetters .command letters
          read takesFormat { arguments with switches } rest
      | .long name value =>
          if takesFormat ∧ String.ofList name = "format" then
            match value with
            | some value => do
                let arguments ← arguments.setFormat (String.ofList value)
                read takesFormat arguments rest
            | none =>
                match rest with
                | [] => .error (.misuse (.missingValue "--format"))
                | value :: more =>
                    match Argument.ofString value with
                    | .plain value => do
                        let arguments ← arguments.setFormat value
                        read takesFormat arguments more
                    | _ => .error (.misuse (.missingValue "--format"))
          else do
            let switches ← arguments.switches.addName .command name value
            read takesFormat { arguments with switches } rest

end CommandArguments

/-- The invocation of a command with some arguments, after some switches. -/
def invocation (switches : Switches) (name : String) (arguments : List String) :
    Except Halt Invocation := do
  let takesFormat := name = "extract"
  if ¬ takesFormat ∧ name ≠ "check" then .error (.misuse (.unknownCommand name))
  let command ← CommandArguments.read takesFormat {} arguments
  command.switches.check
  switches.check
  return {
    quiet := switches.quiet || command.switches.quiet
    verbose :=
      if command.switches.verbose > 0 then command.switches.verbose else switches.verbose
    command :=
      if takesFormat then .extract (command.format.getD .text) command.paths
      else .check command.paths }

/-- Reads a command line after some switches. -/
def readAfter (switches : Switches) : List String → Except Halt Invocation
  | [] => .error (.misuse .missingCommand)
  | text :: rest =>
      match Argument.ofString text with
      | .separator => .error (.misuse .missingCommand)
      | .plain name => invocation switches name rest
      | .short letters => do
          let switches ← switches.addLetters .program letters
          readAfter switches rest
      | .long name value => do
          let switches ← switches.addName .program name value
          readAfter switches rest

end CommandLine

/-- The invocation that a command line asks for. -/
def Invocation.ofArguments (arguments : List String) : Except Halt Invocation :=
  CommandLine.readAfter {} arguments

end TemplateVariables
