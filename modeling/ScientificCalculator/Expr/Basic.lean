/-
**Expression trees.**

* `BinOp`: the five operations on two numbers.
* `Expr`: trees of numbers, negations, function calls and binary operations.
* `Expr.eval`: the value of a tree; it is total, and not always finite.
* `Expr.depth`: the number of levels.
* `Expr.text`: the fully parenthesised text.
-/

import ScientificCalculator.Func
import ScientificCalculator.Numeral.Printer

namespace ScientificCalculator

/-- The operations on two numbers. -/
inductive BinOp
  | add
  | sub
  | mul
  | div
  | pow
  deriving DecidableEq

namespace BinOp

/-- The sign of the operation in canonical text. -/
def text : BinOp → String
  | add => "+"
  | sub => "-"
  | mul => "*"
  | div => "/"
  | pow => "**"

/-- The operation on doubles. -/
def apply (operation : BinOp) (left right : Float) : Float :=
  match operation with
  | add => left + right
  | sub => left - right
  | mul => left * right
  | div => left / right
  | pow => left.pow right

end BinOp

/-- An expression. -/
inductive Expr
  | num (value : Float)
  | neg (operand : Expr)
  | call (func : Func) (argument : Expr)
  | bin (operation : BinOp) (left right : Expr)
  deriving DecidableEq

namespace Expr

/-- The value of a tree in an angle mode. -/
def eval (mode : AngleMode) : Expr → Float
  | num value => value
  | neg operand => -operand.eval mode
  | call func argument => func.apply mode (argument.eval mode)
  | bin operation left right => operation.apply (left.eval mode) (right.eval mode)

/-- The number of levels; a number alone has one. -/
def depth : Expr → Nat
  | num _ => 1
  | neg operand => operand.depth + 1
  | call _ argument => argument.depth + 1
  | bin _ left right => max left.depth right.depth + 1

/-- The text with every operation in parentheses. -/
def text : Expr → List Char
  | num value => Numeral.text value
  | neg operand => '-' :: '(' :: operand.text ++ [')']
  | call func argument => func.name.toList ++ '(' :: argument.text ++ [')']
  | bin operation left right =>
    '(' :: left.text ++ operation.text.toList ++ right.text ++ [')']

end Expr

end ScientificCalculator
