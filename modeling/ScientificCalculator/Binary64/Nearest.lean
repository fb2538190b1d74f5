/-
**The double nearest to a quotient.**

Decimal numerals, percentages and factorials are exact quotients of natural numbers and are rounded
once. A quotient is measured in units of `2 ^ (-1074)`; the double keeps its fifty-three leading
bits, or all of them when it has fewer.

* `nearestBits`: the bits of the nearest double, ties to even, infinity beyond the largest.
* `nearest`: the double itself.
-/

import ScientificCalculator.Binary64.Basic
import ScientificCalculator.Rounding

namespace ScientificCalculator.Binary64

/-- How many bits of `numerator / denominator`, in units, lie below its fifty-three leading bits. -/
def droppedBits (numerator denominator : Nat) : Nat :=
  (numerator * unitsPerOne / denominator).log2 - 52

/-- The bits of the double nearest to `numerator / denominator`. The rounded significand carries
into the exponent field when it reaches the next power of two, and the sum stops at infinity. -/
def nearestBits (numerator denominator : Nat) : Nat :=
  let dropped := droppedBits numerator denominator
  let significand :=
    Rounding.halfEven (numerator * unitsPerOne) (denominator * Nat.pow 2 dropped)
  min (dropped * impliedBit + significand) infinityBits

/-- The double nearest to `numerator / denominator`. -/
def nearest (numerator denominator : Nat) : Float :=
  Float.ofBits (UInt64.ofNat (nearestBits numerator denominator))

end ScientificCalculator.Binary64
