/-
**Double precision numbers as integers.**

A double is a sign bit, eleven exponent bits and fifty-two fraction bits. Every finite magnitude is
a whole number of *units* of `2 ^ (-1074)`, so that exact comparisons and exact decimal texts are
computed on natural numbers.

* `isNegative`, `isFinite`, `isNaN`: the classes, read off the bits.
* `units`: the magnitude, in units.
* `unitsPerOne`: how many units make one.
-/

namespace ScientificCalculator.Binary64

/-- The number one is `2 ^ 1074` units, the unit being the least positive double. -/
def unitsPerOne : Nat := Nat.pow 2 1074

/-- The sign bit; the bits of every magnitude are below. -/
def signBit : Nat := 0x8000000000000000

/-- The leading bit of the significand, which is not stored: `2 ^ 52`. The exponent bits count in
steps of it. -/
def impliedBit : Nat := 0x10000000000000

/-- The bits of positive infinity; the bits of every finite magnitude are below. -/
def infinityBits : Nat := 0x7FF0000000000000

/-- The sign bit is set. -/
def isNegative (number : Float) : Bool :=
  signBit ≤ number.toBits.toNat

/-- The eleven exponent bits. -/
def exponentField (number : Float) : Nat :=
  number.toBits.toNat / impliedBit % 2048

/-- The fifty-two fraction bits. -/
def fractionField (number : Float) : Nat :=
  number.toBits.toNat % impliedBit

/-- Neither an infinity nor a NaN. -/
def isFinite (number : Float) : Bool :=
  exponentField number ≠ 2047

/-- Not a number. -/
def isNaN (number : Float) : Bool :=
  exponentField number = 2047 ∧ fractionField number ≠ 0

/-- The magnitude of a finite number, in units of `2 ^ (-1074)`. -/
def units (number : Float) : Nat :=
  if exponentField number = 0 then fractionField number
  else (impliedBit + fractionField number) * Nat.pow 2 (exponentField number - 1)

end ScientificCalculator.Binary64
