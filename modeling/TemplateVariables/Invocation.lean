/-!
# Invocations

What a command line asks for.
-/

namespace TemplateVariables

inductive OutputFormat where
  /-- One name per line. -/
  | text
  | json
deriving DecidableEq, Repr

/-- A command with the paths of the templates that it reads. -/
inductive Command where
  /-- Print the free variables of templates. -/
  | extract (format : OutputFormat) (paths : List String)
  /-- Report templates that cannot be read. -/
  | check (paths : List String)
deriving DecidableEq, Repr

def Command.paths : Command → List String
  | .extract _ paths => paths
  | .check paths => paths

structure Invocation where
  quiet : Bool
  /-- How often more output was asked for. -/
  verbose : Nat
  command : Command
deriving DecidableEq, Repr

/-- What is wrong with a command line. -/
inductive UsageError where
  | missingCommand
  | unknownCommand (name : String)
  | unexpectedArgument (argument : String)
  | repeated (option : String)
  | conflict
  | missingValue (option : String)
  | unexpectedValue (option : String)
  | unknownFormat (value : String)
deriving DecidableEq, Repr

def UsageError.message : UsageError → String
  | .missingCommand => "'tplvars' requires a subcommand but one was not provided"
  | .unknownCommand name => s!"unrecognized subcommand '{name}'"
  | .unexpectedArgument argument => s!"unexpected argument '{argument}' found"
  | .repeated option => s!"the argument '{option}' cannot be used multiple times"
  | .conflict => "the argument '--quiet' cannot be used with '--verbose'"
  | .missingValue option => s!"a value is required for '{option}' but none was supplied"
  | .unexpectedValue option => s!"unexpected value for '{option}' found"
  | .unknownFormat value => s!"invalid value '{value}' for '--format'"

/-- Why the reading of a command line ends before it gives an invocation. -/
inductive Halt where
  /-- The version of the program is asked for. -/
  | version
  | misuse (error : UsageError)
deriving DecidableEq, Repr

end TemplateVariables
