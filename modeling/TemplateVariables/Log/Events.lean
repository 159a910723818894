import TemplateVariables.Extraction
import TemplateVariables.Input
import TemplateVariables.LineIndex
import TemplateVariables.Log

/-!
# Events of the work on a template

Events tell what the reading of a template comes to, how many free variables are found
in it, and what a command makes of it.
-/

namespace TemplateVariables
namespace Event

/-- The code of an error and its message. -/
def errorDetails (error : ParseError) : List (String × Detail) :=
  [("code", .quoted error.code), ("err", .text error.message)]

def blankTemplate (source : List Char) : Event where
  severity := .trace
  origin := "tplvars_templates"
  message := "blank template"
  details := [("len", .number (Text.byteLength source))]

def lexingFailed (error : ParseError) : Event where
  severity := .debug
  origin := "tplvars_templates"
  message := "lexing failed"
  details := errorDetails error

def lexedTemplate (tokens : List Token) : Event where
  severity := .trace
  origin := "tplvars_templates"
  message := "lexed template"
  details := [("tokens", .number tokens.length)]

def parsingFailed (error : ParseError) : Event where
  severity := .debug
  origin := "tplvars_templates"
  message := "parsing failed"
  details := errorDetails error

def parsedTemplate (source : List Char) (nodes : List Node) : Event where
  severity := .debug
  origin := "tplvars_templates"
  message := "parsed template"
  details := [("len", .number (Text.byteLength source)), ("nodes", .number nodes.length)]

def collectedVariables (globals : Globals) (nodes : List Node) : Event where
  severity := .debug
  origin := "tplvars_semantic"
  message := "collected free variables"
  details :=
    [("nodes", .number nodes.length), ("extra_globals", .number globals.extra.size),
      ("free", .number (freeVariables globals nodes).size)]

def templateOk (input : Input) (nodes : List Node) : Event where
  severity := .debug
  origin := "tplvars::commands::check"
  message := "template ok"
  details := [("path", .text input.path), ("nodes", .number nodes.length)]

/-- The line and the column of an error, both one-based. -/
def placeDetails (position : Position) : List (String × Detail) :=
  [("line", .number (position.line.toNat + 1)), ("column", .number (position.column.toNat + 1))]

def parseError (input : Input) (error : ParseError) : Event where
  severity := .debug
  origin := "tplvars::commands"
  message := "parse error"
  details :=
    ("path", .text input.path) ::
      (((LineIndex.ofText input.source.toList).position? error.span.start).elim [] placeDetails ++
        [("code", .quoted error.code)])

/-- What is reported while a template is read. -/
def ofReading (source : List Char) : List Event :=
  if source.all Text.isBlank then [blankTemplate source]
  else
    match Token.ofChars source with
    | .error error => [lexingFailed error]
    | .ok tokens =>
        match Node.ofTokens tokens with
        | .error error => [lexedTemplate tokens, parsingFailed error]
        | .ok nodes => [lexedTemplate tokens, parsedTemplate source nodes]

end Event
end TemplateVariables
