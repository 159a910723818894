import TemplateVariables.Span

/-!
# Lexemes

The words, literals and punctuation inside a tag.
-/

namespace TemplateVariables

/-- Operators, brackets and separators. -/
inductive Punct where
  | lparen | rparen | lbracket | rbracket | lbrace | rbrace
  | comma | colon | dot | pipe
  | tilde | plus | minus | star | power | slash | floor | percent
  | assign | eq | ne | lt | le | gt | ge
deriving DecidableEq, Repr

namespace Punct

def chars : Punct → List Char
  | .lparen => ['(']
  | .rparen => [')']
  | .lbracket => ['[']
  | .rbracket => [']']
  | .lbrace => ['{']
  | .rbrace => ['}']
  | .comma => [',']
  | .colon => [':']
  | .dot => ['.']
  | .pipe => ['|']
  | .tilde => ['~']
  | .plus => ['+']
  | .minus => ['-']
  | .star => ['*']
  | .power => ['*', '*']
  | .slash => ['/']
  | .floor => ['/', '/']
  | .percent => ['%']
  | .assign => ['=']
  | .eq => ['=', '=']
  | .ne => ['!', '=']
  | .lt => ['<']
  | .le => ['<', '=']
  | .gt => ['>']
  | .ge => ['>', '=']

/-- The opening bracket that a closing bracket answers. -/
def opening? : Punct → Option Punct
  | .rparen => some .lparen
  | .rbracket => some .lbracket
  | .rbrace => some .lbrace
  | _ => none

def isOpening : Punct → Bool
  | .lparen => true
  | .lbracket => true
  | .lbrace => true
  | _ => false

end Punct

inductive LexemeKind where
  | name (text : String)
  /-- A number as written, without its underscores. -/
  | number (text : String)
  /-- A string with its escapes resolved. -/
  | str (value : String)
  | punct (mark : Punct)
deriving DecidableEq, Repr

/-- How a message names the lexeme. -/
def LexemeKind.describe : LexemeKind → String
  | .name text => "'" ++ text ++ "'"
  | .number text => "'" ++ text ++ "'"
  | .str _ => "string literal"
  | .punct mark => "'" ++ String.ofList mark.chars ++ "'"

structure Lexeme where
  kind : LexemeKind
  span : Span
deriving DecidableEq, Repr

/-- The open brackets after a lexeme, innermost first.  A closing bracket that
does not answer the innermost open one leaves the brackets as they are. -/
def bracketsAfter (brackets : List Punct) : LexemeKind → List Punct
  | .punct mark =>
      if mark.isOpening then mark :: brackets
      else if mark.opening?.isSome && mark.opening? == brackets.head? then brackets.tail
      else brackets
  | _ => brackets

end TemplateVariables
