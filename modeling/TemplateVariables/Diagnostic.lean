import TemplateVariables.ParseError
import TemplateVariables.Text.Bytes

/-!
# Diagnostics

An error with the places of a source that explain it.
-/

namespace TemplateVariables

/-- A place of a source with a short text beside it.  The primary place is what
the error is about. -/
structure Highlight where
  span : Span
  label : String
  primary : Bool
deriving DecidableEq, Repr

structure Diagnostic where
  source : List Char
  path : String
  code : String
  message : String
  highlights : List Highlight
  notes : List String
deriving DecidableEq, Repr

/-- A highlight as it is drawn: a range of bytes inside of the source. -/
structure Underline where
  start : Nat
  stop : Nat
  label : String
  primary : Bool
deriving DecidableEq, Repr

/-- What is drawn of a diagnostic. -/
structure Report where
  source : List Char
  path : String
  code : String
  message : String
  underlines : List Underline
  notes : List String
deriving DecidableEq, Repr

/-- The bytes of a source of the given length that a span covers. -/
def Span.within (span : Span) (length : Nat) : Nat × Nat :=
  let start := min span.start.toNat length
  (start, max start (min span.stop length))

/-- A highlight on a source of the given length. -/
def Highlight.underline (highlight : Highlight) (length : Nat) : Underline where
  start := (highlight.span.within length).1
  stop := (highlight.span.within length).2
  label := highlight.label
  primary := highlight.primary

namespace Diagnostic

/-- A diagnostic with a primary highlight only. -/
def primary (source : List Char) (path code message : String) (span : Span)
    (label : String) : Diagnostic where
  source
  path
  code
  message
  highlights := [{ span, label, primary := true }]
  notes := []

/-- The diagnostic of a template that cannot be read. -/
def ofParseError (source : List Char) (path : String) (error : ParseError) :
    Diagnostic where
  source
  path
  code := error.code
  message := error.message
  highlights :=
    { span := error.span, label := error.label, primary := true } ::
      error.relatedSpan.toList.map fun span =>
        { span, label := "opened here", primary := false }
  notes := error.help.toList

/-- What is drawn of a diagnostic; highlights are cut to the source. -/
def report (diagnostic : Diagnostic) : Report where
  source := diagnostic.source
  path := diagnostic.path
  code := diagnostic.code
  message := diagnostic.message
  underlines :=
    diagnostic.highlights.map (Highlight.underline · (Text.byteLength diagnostic.source))
  notes := diagnostic.notes

end Diagnostic

end TemplateVariables
