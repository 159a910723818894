/-!
# The log

A run reports events while it works.  The log shows those that the environment asks
for, or else those that are important enough.
-/

namespace TemplateVariables

/-- How important an event is, the most important ones first. -/
inductive Severity where
  | error
  | warn
  | info
  | debug
  | trace
deriving DecidableEq, Repr

namespace Severity

/-- How far a severity is from the most important one. -/
def rank : Severity → Nat
  | .error => 0
  | .warn => 1
  | .info => 2
  | .debug => 3
  | .trace => 4

/-- The least important events that a log shows if nothing is asked for. -/
def ofSwitches (quiet : Bool) (verbose : Nat) (debug : Bool) : Severity :=
  if quiet then .error
  else
    match verbose, debug with
    | 0, false => .warn
    | 1, false => .info
    | 0, true => .debug
    | 1, true => .debug
    | 2, _ => .debug
    | _, _ => .trace

def name : Severity → String
  | .error => "ERROR"
  | .warn => "WARN"
  | .info => "INFO"
  | .debug => "DEBUG"
  | .trace => "TRACE"

end Severity

/-- What an event says under a name. -/
inductive Detail where
  | number (value : Nat)
  | text (value : String)
  /-- A text that is shown in quotes. -/
  | quoted (value : String)
deriving DecidableEq, Repr

structure Event where
  severity : Severity
  /-- The part of the program that reports the event. -/
  origin : String
  message : String
  details : List (String × Detail)
deriving DecidableEq, Repr

def Detail.show : Detail → String
  | .number value => toString value
  | .text value => value
  | .quoted value => value.quote

namespace Event

/-- An event as the log shows it, without the time. -/
def text (event : Event) : String :=
  s!"{event.severity.name} {event.origin}: {event.message}" ++
    String.join (event.details.map fun (name, detail) => s!" {name}={detail.show}")

/-- Whether a log shows an event, given what is asked for. -/
def isShown (asked? : Option (Event → Bool)) (least : Severity) (event : Event) : Bool :=
  match asked? with
  | some asked => asked event
  | none => event.severity.rank ≤ least.rank

end Event

end TemplateVariables
