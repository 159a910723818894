import TemplateVariables.Delimiter
import TemplateVariables.Lexeme

/-!
# Tokens of a template

A template is a sequence of text runs, tags, comments and raw blocks.
-/

namespace TemplateVariables

/-- An expression tag or a block tag.  `span` is the whole tag; `inside` goes
from its first lexeme to the end of its last one, and is empty in a tag without
lexemes. -/
structure Tag where
  lexemes : List Lexeme
  span : Span
  inside : Span
  left : Marker
  right : Marker
deriving DecidableEq, Repr

namespace Tag

/-- The word that a tag begins with. -/
def name? (tag : Tag) : Option String :=
  match tag.lexemes.head? with
  | some { kind := .name text, .. } => some text
  | _ => none

/-- The empty span just past the last lexeme, where a missing one is reported. -/
def endSpan (tag : Tag) : Span :=
  Span.point tag.inside.stop

end Tag

inductive Token where
  | text (content : String) (span : Span)
  | expression (tag : Tag)
  | block (tag : Tag)
  | comment (span : Span)
  | raw (content : String) (span : Span)
  /-- The end of the template. -/
  | eof (offset : UInt32)
deriving DecidableEq, Repr

end TemplateVariables
