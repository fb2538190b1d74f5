/-
**From postfix order to a tree.**

A stack of trees is folded over the postfix list. The depth of every tree is kept beside it, and a
tree of more than a thousand levels is refused.

* `Measured`: a tree with its depth.
* `step`: the effect of one token on the stack.
* `toExpr`: the tree of a postfix list.
-/

import ScientificCalculator.Fault
import ScientificCalculator.Token.Basic

namespace ScientificCalculator.Rpn

/-- Trees have at most this many levels. -/
def maximumDepth : Nat := 1000

/-- A tree and its number of levels. -/
structure Measured where
  tree : Expr
  depth : Nat
  depth_eq : depth = tree.depth

namespace Measured

/-- A number, one level. -/
def num (value : Float) : Measured :=
  ⟨.num value, 1, rfl⟩

/-- A negated tree. -/
def neg (operand : Measured) : Measured :=
  ⟨.neg operand.tree, operand.depth + 1, by rw [operand.depth_eq, Expr.depth]⟩

/-- A function applied to a tree. -/
def call (func : Func) (argument : Measured) : Measured :=
  ⟨.call func argument.tree, argument.depth + 1, by rw [argument.depth_eq, Expr.depth]⟩

/-- An operation on two trees. -/
def bin (operation : BinOp) (left right : Measured) : Measured :=
  ⟨.bin operation left.tree right.tree, max left.depth right.depth + 1, by
    rw [left.depth_eq, right.depth_eq, Expr.depth]⟩

end Measured

/-- Puts a tree on the stack, unless it is too deep. -/
def push (tree : Measured) (stack : List Measured) : Except Fault (List Measured) :=
  if maximumDepth < tree.depth then .error (.malformed .tooDeep) else .ok (tree :: stack)

/-- The effect of one token on the stack; the top is the right operand. -/
def step : List Measured → Token → Except Fault (List Measured)
  | stack, .num value => .ok (.num value :: stack)
  | operand :: below, .neg => push (.neg operand) below
  | argument :: below, .func func => push (.call func argument) below
  | right :: left :: below, .op operation => push (.bin operation left right) below
  | _, .lparen => .error (.noTree .parenthesis)
  | _, .rparen => .error (.noTree .parenthesis)
  | _, _ => .error (.noTree .missingOperand)

/-- The stack after a list of tokens. -/
def run (stack : List Measured) (tokens : List Token) : Except Fault (List Measured) :=
  tokens.foldlM step stack

/-- The tree of a postfix list, which leaves it alone on the stack. -/
def toExpr (tokens : List Token) : Except Fault Expr :=
  match run [] tokens with
  | .error fault => .error fault
  | .ok [tree] => .ok tree.tree
  | .ok _ => .error (.noTree .notOneValue)

end ScientificCalculator.Rpn
