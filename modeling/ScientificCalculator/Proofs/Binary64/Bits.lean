/-
**Doubles and their bits.**

A double made of the bits of a magnitude has these bits. The double nearest to a quotient is made of
such bits: it is not negative and no NaN.

* `valid_of_le`: the bits of a magnitude are those of a double.
* `toBits_ofBits`: the bits of a double made of bits.
* `toNat_toBits_nearest`: the bits of the nearest double.
* `isNegative_nearest`, `isNaN_nearest`: its class.
-/

import Mathlib
import ScientificCalculator.Binary64.Nearest

namespace ScientificCalculator.Binary64

open Float.Model (Format)
open Float.Model.UnpackedFloat (pack unpack unpackExponent unpackMantissa pack_unpack_of_valid)

section Patterns

theorem toNat_unpackExponent (pattern : BitVec Format.binary64.numBits) :
    (unpackExponent pattern).toNat = pattern.toNat / impliedBit % 2048 := by
  rw [unpackExponent, BitVec.toNat_cast, BitVec.extractLsb_toNat, Nat.shiftRight_eq_div_pow]
  rfl

theorem toNat_unpackMantissa (pattern : BitVec Format.binary64.numBits) :
    (unpackMantissa pattern).toNat = pattern.toNat % impliedBit := by
  rw [unpackMantissa, BitVec.toNat_cast, BitVec.extractLsb_toNat, Nat.shiftRight_zero]
  rfl

/-- The bits of a magnitude are valid. -/
theorem valid_of_le {pattern : BitVec Format.binary64.numBits}
    (magnitude : pattern.toNat ≤ infinityBits) : Format.binary64.Valid pattern := by
  refine ⟨fun full some => absurd (BitVec.eq_of_toNat_eq ?_) some⟩
  have exponent : pattern.toNat / impliedBit % 2048 = 2047 := by
    rw [← toNat_unpackExponent, full]
    rfl
  rw [toNat_unpackMantissa]
  show pattern.toNat % impliedBit = 0
  unfold infinityBits at magnitude
  unfold impliedBit at exponent ⊢
  omega

end Patterns

section Doubles

/-- **The bits of a double made of the bits of a magnitude.** -/
theorem toBits_ofBits {bits : UInt64} (magnitude : bits.toNat ≤ infinityBits) :
    (Float.ofBits bits).toBits = bits := by
  show UInt64.ofBitVec (pack .binary64 (unpack .binary64 bits.toBitVec)) = bits
  rw [pack_unpack_of_valid (valid_of_le magnitude)]

theorem nearestBits_le (numerator denominator : Nat) :
    nearestBits numerator denominator ≤ infinityBits :=
  Nat.min_le_right _ _

theorem toNat_toBits_ofNat {bits : Nat} (magnitude : bits ≤ infinityBits) :
    (Float.ofBits (UInt64.ofNat bits)).toBits.toNat = bits := by
  have small : bits < UInt64.size := by
    unfold infinityBits at magnitude
    unfold UInt64.size
    omega
  have kept : (UInt64.ofNat bits).toNat = bits := UInt64.toNat_ofNat_of_lt' small
  rw [toBits_ofBits (by rwa [kept]), kept]

theorem toNat_toBits_nearest (numerator denominator : Nat) :
    (nearest numerator denominator).toBits.toNat = nearestBits numerator denominator :=
  toNat_toBits_ofNat (nearestBits_le numerator denominator)

variable (numerator denominator : Nat)

/-- **The double nearest to a quotient is not negative.** -/
theorem isNegative_nearest : isNegative (nearest numerator denominator) = false := by
  have le := nearestBits_le numerator denominator
  rw [isNegative, toNat_toBits_nearest, decide_eq_false_iff_not]
  unfold infinityBits at le
  unfold signBit
  omega

/-- **The double nearest to a quotient is a number.** -/
theorem isNaN_nearest : isNaN (nearest numerator denominator) = false := by
  have le := nearestBits_le numerator denominator
  rw [isNaN, exponentField, fractionField, toNat_toBits_nearest, decide_eq_false_iff_not]
  unfold infinityBits at le
  unfold impliedBit
  omega

end Doubles

end ScientificCalculator.Binary64
