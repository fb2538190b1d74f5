/-
**Factorials.**

A literal with one factorial mark is replaced by its factorial, computed exactly and rounded once.
What the digits stand for, over the power of ten of their places, must be an integer. A literal with
several marks is left as it is.

* `factorial`: the product of the integers up to a number.
* `resolveFactorials`: the text with every factorial resolved, or the first operand refused.
-/

import ScientificCalculator.Canonical.Marks
import ScientificCalculator.Fault

namespace ScientificCalculator.Canonical

/-- The product of the positive integers up to a number. -/
def factorial : Nat → Nat
  | 0 => 1
  | number + 1 => (number + 1) * factorial number

/-- The factorials of greater numbers exceed the largest double. -/
def largestFactorial : Nat := 170

/-- The literal written for a factorial. -/
def factorialText (number : Nat) : List Char :=
  if number ≤ largestFactorial then literalText (Binary64.nearest (factorial number) 1)
  else overflowLiteral

/-- What is written for a piece in which factorial marks are sought. -/
def resolveFactorial : Piece → Except Fault (List Char)
  | .plain text => .ok text
  | .marked literal 0 =>
    if literal.numerator % operandDenominator literal = 0 then
      .ok (factorialText (literal.numerator / operandDenominator literal))
    else .error (.factorial literal.text)
  | .marked literal (furtherMarks + 1) => .ok (markedText '!' literal (furtherMarks + 1))

/-- The text with every factorial resolved, or the first operand that is not an integer. -/
def resolveFactorials (input : List Char) : Except Fault (List Char) :=
  ((pieces '!' input).mapM resolveFactorial).map List.flatten

end ScientificCalculator.Canonical
