import TemplateVariables.Diagnostic

/-!
# Inputs

The templates that a command works on.  They are read before anything else is
done with them, and one that cannot be read stops the command.
-/

namespace TemplateVariables

/-- Why a file cannot be read. -/
inductive ReadFailure where
  | missing
  | directory
  | other (reason : String)
deriving DecidableEq, Repr

def ReadFailure.message : ReadFailure → String
  | .missing => "No such file or directory (os error 2)"
  | .directory => "Is a directory (os error 21)"
  | .other reason => reason

structure Input where
  /-- The path as it was given. -/
  path : String
  source : String
deriving DecidableEq, Repr

inductive InputError where
  | unreadable (path : String) (failure : ReadFailure)
  /-- No path was given, and nothing is written to the standard input. -/
  | missing
deriving DecidableEq, Repr

namespace Input

def ofPath (file : String → Except ReadFailure String) (path : String) :
    Except InputError Input :=
  match file path with
  | .ok source => .ok { path, source }
  | .error failure => .error (.unreadable path failure)

/-- The inputs at some paths; without a path, the standard input. -/
def readAll (file : String → Except ReadFailure String) (stdin : Option String) :
    List String → Except InputError (List Input)
  | [] =>
      match stdin with
      | some source => .ok [{ path := "<stdin>", source }]
      | none => .error .missing
  | path :: paths => (path :: paths).mapM (ofPath file)

/-- What is drawn to explain why an input is not a template. -/
def report (input : Input) (error : ParseError) : Report :=
  (Diagnostic.ofParseError input.source.toList input.path error).report

end Input

end TemplateVariables
