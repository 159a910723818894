import TemplateVariables.Span

/-!
# Expressions

The trees that the inside of an expression tag, and the arguments of block
tags, are read into.  Every tree carries the span it was read from.
-/

namespace TemplateVariables

inductive Literal where
  | str (value : String)
  /-- An integer or a decimal number, as written. -/
  | number (text : String)
  | bool (value : Bool)
  | none
deriving DecidableEq, Repr

inductive UnaryOp where
  | not | neg | pos
deriving DecidableEq, Repr

/-- The operators between two operands. -/
inductive BinaryOp where
  | or | and
  | eq | ne | lt | gt | le | ge | isIn | notIn
  | concat
  | add | sub
  | mul | div | floorDiv | mod
  | pow
deriving DecidableEq, Repr

/-- A filter or test name: words joined by dots. -/
abbrev DottedName := List String

def DottedName.toString (name : DottedName) : String :=
  String.intercalate "." name

mutual

inductive Expr where
  | literal (value : Literal) (span : Span)
  | identifier (name : String) (span : Span)
  /-- `base.name`, where the name may also be a number. -/
  | attribute (base : Expr) (name : String) (span : Span)
  | subscript (base index : Expr) (span : Span)
  /-- The index `start:stop:step` of a subscript. -/
  | slice (start stop step : Option Expr) (span : Span)
  | call (callee : Expr) (args : List Argument) (span : Span)
  | filter (value : Expr) (filter : FilterCall) (span : Span)
  /-- `value is name(args)`, or `value is not name(args)` when negated. -/
  | test (value : Expr) (name : DottedName) (args : List Argument) (negated : Bool)
      (span : Span)
  | unary (op : UnaryOp) (operand : Expr) (span : Span)
  | binary (op : BinaryOp) (left right : Expr) (span : Span)
  /-- `value if condition else otherwise`. -/
  | conditional (value condition : Expr) (otherwise : Option Expr) (span : Span)
  | list (items : List Expr) (span : Span)
  | tuple (items : List Expr) (span : Span)
  | dict (entries : List (Expr × Expr)) (span : Span)
deriving Repr

/-- An argument of a call, a filter or a test, with its keyword if it has one. -/
structure Argument where
  name : Option String
  value : Expr
deriving Repr

/-- One stage `name(args)` of a filter pipeline. -/
structure FilterCall where
  name : DottedName
  args : List Argument
  span : Span
deriving Repr

end

def Expr.span : Expr → Span
  | .literal _ span => span
  | .identifier _ span => span
  | .attribute _ _ span => span
  | .subscript _ _ span => span
  | .slice _ _ _ span => span
  | .call _ _ span => span
  | .filter _ _ span => span
  | .test _ _ _ _ span => span
  | .unary _ _ span => span
  | .binary _ _ _ span => span
  | .conditional _ _ _ span => span
  | .list _ span => span
  | .tuple _ span => span
  | .dict _ span => span

end TemplateVariables
