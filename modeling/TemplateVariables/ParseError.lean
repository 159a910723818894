import TemplateVariables.Delimiter
import TemplateVariables.Lexeme

/-!
# Parse errors

Every way a template can be malformed, each with the place to point at.  The
wording of all messages is in this module.
-/

namespace TemplateVariables

/-- What a name stands for at the place where it is required. -/
inductive NameRole where
  | variableName | attributeName | macroName | blockName | importAlias | importedName
  | parameter | filter | test
deriving DecidableEq, Repr

def NameRole.describe : NameRole → String
  | .variableName => "variable name"
  | .attributeName => "attribute name"
  | .macroName => "macro name"
  | .blockName => "block name"
  | .importAlias => "import alias"
  | .importedName => "name to import"
  | .parameter => "parameter name"
  | .filter => "filter name"
  | .test => "test name"

/-- What the grammar requires at some place. -/
inductive Expected where
  | exactly (kind : LexemeKind)
  | name (role : NameRole)
deriving DecidableEq, Repr

def Expected.describe : Expected → String
  | .exactly kind => kind.describe
  | .name role => role.describe

/-- The reasons for which a tag's inside can be malformed. -/
inductive Fault where
  | unexpectedCharacter (c : Char)
  | unterminatedString
  | expectedTagName (found : LexemeKind)
  | noArguments (tag : String)
  | outsideLoop (tag : String)
  | missingAssignment
  | notMacroCall
  | nothingImported
  | misplacedNot
  | reservedWord (word : String)
  | reservedTarget (word : String)
  | unexpectedLexeme (found : LexemeKind)
  | expressionEnds
  | expectedAttribute (found : Option LexemeKind)
  | expected (wanted : Expected) (found : Option LexemeKind)
  | unclosedBracket (bracket : Punct)
  | unusedLexeme (found : LexemeKind)
deriving DecidableEq, Repr

def Fault.message : Fault → String
  | .unexpectedCharacter c => "Unexpected character '" ++ String.singleton c ++ "'"
  | .unterminatedString => "Unterminated string literal"
  | .expectedTagName found => "Expected tag name, found " ++ found.describe
  | .noArguments tag => "'" ++ tag ++ "' takes no arguments"
  | .outsideLoop tag => "'" ++ tag ++ "' is only allowed inside a 'for' loop"
  | .missingAssignment => "Expected '=' after assignment targets"
  | .notMacroCall => "Expected a macro call after 'call'"
  | .nothingImported => "Expected name to import"
  | .misplacedNot => "Not expecting 'not' as infix operator."
  | .reservedWord word => "Not expecting '" ++ word ++ "' in this position."
  | .reservedTarget word => "Cannot assign to '" ++ word ++ "'"
  | .unexpectedLexeme found => "Unexpected " ++ found.describe ++ " in expression"
  | .expressionEnds => "Unexpected end of expression."
  | .expectedAttribute none => "Expected attribute name after '.'"
  | .expectedAttribute (some found) =>
      "Expected attribute name after '.', found " ++ found.describe
  | .expected wanted none => "Expected " ++ wanted.describe ++ ", found end of tag"
  | .expected wanted (some found) =>
      "Expected " ++ wanted.describe ++ ", found " ++ found.describe
  | .unclosedBracket bracket =>
      "Unclosed '" ++ String.ofList bracket.chars ++ "' in expression"
  | .unusedLexeme found => "Unused " ++ found.describe ++ " at end of expression."

/-- Why a template could not be read.  Reading stops at the first error. -/
inductive ParseError where
  | unclosedTag (tag expected : String) (span : Span)
  | unexpectedTag (tag : String) (span : Span)
  | mismatchedTag (tag expected opener : String) (openerSpan span : Span)
  | unknownTag (tag : String) (span : Span)
  | emptyTag (span : Span)
  | emptyExpression (span : Span)
  | invalidSyntax (fault : Fault) (span : Span)
  | unclosedDelimiter (delimiter : Delimiter) (span : Span)
deriving DecidableEq, Repr

namespace ParseError

/-- A block tag as it is written, given its inside. -/
def writtenTag (inside : String) : String :=
  "\x7b% " ++ inside ++ " %\x7d"

def message : ParseError → String
  | .unclosedTag tag expected _ =>
      "Unclosed tag '" ++ tag ++ "': expected '" ++ writtenTag expected
        ++ "' before end of template"
  | .unexpectedTag tag _ => "Unexpected '" ++ tag ++ "' with no open tag"
  | .mismatchedTag tag expected opener _ _ =>
      "Mismatched '" ++ tag ++ "': expected '" ++ writtenTag expected
        ++ "' to close '" ++ opener ++ "'"
  | .unknownTag tag _ => "Unknown tag '" ++ tag ++ "'"
  | .emptyTag _ => "Empty block tag"
  | .emptyExpression _ => "Empty expression tag"
  | .invalidSyntax fault _ => fault.message
  | .unclosedDelimiter delimiter _ =>
      "Unclosed " ++ delimiter.describe ++ ": missing '"
        ++ String.ofList delimiter.closer ++ "'"

/-- The place to point at. -/
def span : ParseError → Span
  | .unclosedTag _ _ span => span
  | .unexpectedTag _ span => span
  | .mismatchedTag _ _ _ _ span => span
  | .unknownTag _ span => span
  | .emptyTag span => span
  | .emptyExpression span => span
  | .invalidSyntax _ span => span
  | .unclosedDelimiter _ span => span

/-- A second place worth pointing at: the opener that a closer fails to match. -/
def relatedSpan : ParseError → Option Span
  | .mismatchedTag _ _ _ openerSpan _ => some openerSpan
  | _ => none

def code : ParseError → String
  | .unclosedTag .. => "T001"
  | .unexpectedTag .. => "T002"
  | .mismatchedTag .. => "T003"
  | .unknownTag .. => "T004"
  | .emptyTag .. => "T005"
  | .emptyExpression .. => "T006"
  | .invalidSyntax .. => "T007"
  | .unclosedDelimiter .. => "T008"

/-- The short text beside the place pointed at. -/
def label : ParseError → String
  | .unclosedTag .. => "this tag is never closed"
  | .unexpectedTag .. => "nothing to close here"
  | .mismatchedTag .. => "does not match the innermost open tag"
  | .unknownTag .. => "unknown tag"
  | .emptyTag .. => "nothing inside"
  | .emptyExpression .. => "nothing inside"
  | .invalidSyntax .. => "invalid syntax"
  | .unclosedDelimiter .. => "opened here"

/-- A hint on how to mend the template, where there is one. -/
def help : ParseError → Option String
  | .mismatchedTag .. =>
      some "block tags must be closed in the reverse order they were opened"
  | .unknownTag .. =>
      some ("known tags: if, for, set, macro, call, with, filter, block, extends, include, "
        ++ "import, from, do, raw, break, continue")
  | .emptyExpression .. =>
      some "write an expression between '\x7b\x7b' and '\x7d\x7d'"
  | .unclosedDelimiter .block _ =>
      some "block tags are written as '\x7b% name args %\x7d'"
  | _ => none

end ParseError

end TemplateVariables
