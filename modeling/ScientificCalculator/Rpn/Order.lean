/-
**From written order to postfix order.**

The tokens are read once. While an operand is expected, functions, parentheses and signs are put on
a stack of what is pending; while an operator is expected, the pending operators that bind at least
as tightly are written out first. From loose to tight: sums, products, the unary minus, powers; only
powers group to the right. A unary plus is dropped.

* `Pending`: what waits on the stack.
* `operand`, `operator`: the two phases.
* `ofTokens`: the postfix list of a list of tokens.
-/

import ScientificCalculator.Fault
import ScientificCalculator.Token.Basic

namespace ScientificCalculator

namespace BinOp

/-- How tightly an operation binds. -/
def precedence : BinOp → Nat
  | add | sub => 1
  | mul | div => 2
  | pow => 4

/-- The unary minus binds more tightly than a product and less than a power. -/
def negPrecedence : Nat := 3

/-- A pending operator of the given precedence is applied before this operation takes its left
operand; a power leaves it the right to wait. -/
def waitsFor (operation : BinOp) (pending : Nat) : Bool :=
  match operation with
  | pow => precedence pow < pending
  | _ => operation.precedence ≤ pending

end BinOp

namespace Rpn

/-- What waits for the end of its operand: an operator, or a parenthesis with the function applied
to it, if any. -/
inductive Pending
  | neg
  | op (operation : BinOp)
  | paren (func : Option Func)
  deriving DecidableEq

/-- The pending operators that go out before an operation, and what goes on waiting. -/
def release (operation : BinOp) : List Pending → List Token × List Pending
  | [] => ([], [])
  | .paren func :: below => ([], .paren func :: below)
  | .neg :: below =>
    if operation.waitsFor BinOp.negPrecedence then
      let (written, kept) := release operation below
      (.neg :: written, kept)
    else ([], .neg :: below)
  | .op pending :: below =>
    if operation.waitsFor pending.precedence then
      let (written, kept) := release operation below
      (.op pending :: written, kept)
    else ([], .op pending :: below)

/-- What a closing parenthesis writes out: the operators inside and the function in front, if any;
and what waits outside. -/
def close? : List Pending → Option (List Token × List Pending)
  | [] => none
  | .paren none :: below => some ([], below)
  | .paren (some func) :: below => some ([.func func], below)
  | .neg :: below => (close? below).map fun (written, kept) => (.neg :: written, kept)
  | .op pending :: below =>
    (close? below).map fun (written, kept) => (.op pending :: written, kept)

/-- What the end of the tokens writes out, unless a parenthesis is still open. -/
def finish? : List Pending → Option (List Token)
  | [] => some []
  | .paren _ :: _ => none
  | .neg :: below => (finish? below).map (.neg :: ·)
  | .op pending :: below => (finish? below).map (.op pending :: ·)

mutual

/-- The postfix list of the tokens that remain, where an operand is expected. -/
def operand : List Token → List Pending → Except Malformed (List Token)
  | [], _ => .error .incomplete
  | .num value :: rest, pending => (operator rest pending).map (.num value :: ·)
  | .func func :: .lparen :: rest, pending => operand rest (.paren (some func) :: pending)
  | .func _ :: _, _ => .error .functionWithoutParenthesis
  | .lparen :: rest, pending => operand rest (.paren none :: pending)
  | .rparen :: _, _ => .error .noValueBeforeClosing
  | .op .add :: rest, pending => operand rest pending
  | .op .sub :: rest, pending => operand rest (.neg :: pending)
  | .op _ :: _, _ => .error .noLeftOperand
  | .neg :: _, _ => .error .unaryMinusToken

/-- The postfix list of the tokens that remain, where an operator is expected. -/
def operator : List Token → List Pending → Except Malformed (List Token)
  | [], pending =>
    match finish? pending with
    | some written => .ok written
    | none => .error .notClosed
  | .num _ :: _, _ => .error .adjacentValues
  | .func _ :: _, _ => .error .valueBeforeFunction
  | .lparen :: _, _ => .error .valueBeforeParenthesis
  | .rparen :: rest, pending =>
    match close? pending with
    | some (written, kept) => (operator rest kept).map (written ++ ·)
    | none => .error .closingWithoutOpening
  | .op operation :: rest, pending =>
    let (written, kept) := release operation pending
    (operand rest (.op operation :: kept)).map (written ++ ·)
  | .neg :: _, _ => .error .unaryMinusToken

end

/-- The postfix list of a list of tokens, or the first reason against it. -/
def ofTokens (tokens : List Token) : Except Malformed (List Token) :=
  operand tokens []

end Rpn

end ScientificCalculator
