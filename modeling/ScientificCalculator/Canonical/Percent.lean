/-
**Percentages.**

A literal with a percent mark is replaced by its hundredth, a quotient of integers that is laid out
with two more places than the literal has and rounded once when it is read. It is exact as long as
the powers of ten are. Marks after the first one are left as they are.

* `hundredthText`: the hundredth of a literal.
* `percentText`: the literal written for it.
* `resolvePercents`: the text with every percentage resolved.
-/

import ScientificCalculator.Canonical.Marks
import ScientificCalculator.Numeral.Reader

namespace ScientificCalculator.Canonical

/-- The decimal text of `numerator / denominator`, cut off after a number of places. -/
def cutText (places numerator denominator : Nat) : List Char :=
  let scale := powerOfTen places
  let scaled := numerator * scale / denominator
  let whole := Nat.toDigits 10 (scaled / scale)
  if places = 0 then whole else whole ++ '.' :: Decimal.paddedDigits places (scaled % scale)

/-- The hundredth of a literal, which has two places more. -/
def hundredthText (literal : Literal) : List Char :=
  cutText (literal.fraction.length + 2) literal.numerator (operandDenominator literal * 100)

/-- The literal written for the hundredth of a literal; zero has no point. -/
def percentText (literal : Literal) : List Char :=
  match Numeral.read? (hundredthText literal) with
  | none => literal.text ++ ['%']
  | some value => if Binary64.units value = 0 then ['0'] else literalText value

/-- What is written for a piece in which percent marks are sought. -/
def resolvePercent : Piece → List Char
  | .plain text => text
  | .marked literal furtherMarks => percentText literal ++ List.replicate furtherMarks '%'

/-- The text with every percentage resolved. -/
def resolvePercents (input : List Char) : List Char :=
  (pieces '%' input).flatMap resolvePercent

end ScientificCalculator.Canonical
