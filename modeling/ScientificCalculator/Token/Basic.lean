/-
**Tokens.**

* `Token`: numbers, functions, operators and parentheses. The unary minus `neg` belongs to postfix
  lists; a text has only the minus sign.
* `Token.text`: the text of one token.
* `Token.textAll`: the texts of a list, with a space between them.
* `Expr.rpn`: the postfix list of a tree.
-/

import ScientificCalculator.Expr.Basic

namespace ScientificCalculator

/-- The pieces of an expression in canonical text or in a postfix list. -/
inductive Token
  | num (value : Float)
  | func (applied : Func)
  | op (operation : BinOp)
  | neg
  | lparen
  | rparen
  deriving DecidableEq

namespace Token

/-- The text of a token. -/
def text : Token → List Char
  | num value => Numeral.text value
  | func applied => applied.name.toList
  | op operation => operation.text.toList
  | neg => "neg".toList
  | lparen => ['(']
  | rparen => [')']

/-- The texts of tokens, with a space between them. -/
def textAll (tokens : List Token) : List Char :=
  [' '].intercalate (tokens.map text)

end Token

/-- The postfix list of a tree: operands first, then their operator. -/
def Expr.rpn : Expr → List Token
  | num value => [.num value]
  | neg operand => operand.rpn ++ [.neg]
  | call func argument => argument.rpn ++ [.func func]
  | bin operation left right => left.rpn ++ right.rpn ++ [.op operation]

end ScientificCalculator
