/-
**A magnitude is its own nearest double.**

The rounding of a quotient depends on its value and not on its terms. A magnitude is a whole number
of units with at most fifty-three significant bits, so nothing of it is rounded away.

* `halfEven_mul`, `nearest_of_cross`: the terms of a quotient do not matter.
* `significand`: the bits of a magnitude that are not zeros at its end.
* `droppedBits_units`: the bits below them are those that rounding drops.
* `infinity`, `eq_infinity`: the one magnitude that is not finite.
* `nearest_units`: a magnitude, written in units, is rounded to itself.
-/

import ScientificCalculator.Proofs.Binary64.Bits

namespace ScientificCalculator

/-- A common factor does not change a rounded quotient. -/
theorem Rounding.halfEven_mul (numerator denominator : Nat) {factor : Nat}
    (positive : 0 < factor) :
    halfEven (numerator * factor) (denominator * factor) = halfEven numerator denominator := by
  have less : denominator * factor < 2 * (numerator % denominator * factor) ↔
      denominator < 2 * (numerator % denominator) := by
    rw [← Nat.mul_assoc, Nat.mul_lt_mul_right positive]
  have half : denominator * factor = 2 * (numerator % denominator * factor) ↔
      denominator = 2 * (numerator % denominator) := by
    rw [← Nat.mul_assoc, Nat.mul_left_inj positive.ne']
  simp only [halfEven, Nat.mul_div_mul_right _ _ positive, Nat.mul_mod_mul_right, less, half]

namespace Binary64

section Quotients

variable {numerator denominator : Nat}

theorem nearest_mul (numerator denominator : Nat) {factor : Nat} (positive : 0 < factor) :
    nearest (numerator * factor) (denominator * factor) = nearest numerator denominator := by
  have dropped : droppedBits (numerator * factor) (denominator * factor) =
      droppedBits numerator denominator := by
    rw [droppedBits, droppedBits, Nat.mul_right_comm, Nat.mul_div_mul_right _ _ positive]
  have bits : nearestBits (numerator * factor) (denominator * factor) =
      nearestBits numerator denominator := by
    simp only [nearestBits, dropped]
    rw [Nat.mul_right_comm numerator, Nat.mul_right_comm denominator,
      Rounding.halfEven_mul _ _ positive]
  rw [nearest, nearest, bits]

/-- **Quotients of one value have one nearest double.** -/
theorem nearest_of_cross {numerator' denominator' : Nat} (positive : 0 < denominator)
    (positive' : 0 < denominator')
    (cross : numerator * denominator' = numerator' * denominator) :
    nearest numerator denominator = nearest numerator' denominator' := by
  rw [← nearest_mul numerator denominator positive', cross, Nat.mul_comm denominator,
    nearest_mul numerator' denominator' positive]

end Quotients

section Units

theorem unitsPerOne_pos : 0 < unitsPerOne := by
  unfold unitsPerOne
  generalize 1074 = exponent
  exact Nat.two_pow_pos exponent

variable (number : Float)

/-- The bits of a magnitude that are not zeros at its end: the fraction, with the implied bit in
front of it unless the magnitude is too small to have one. -/
def significand : Nat :=
  if exponentField number = 0 then fractionField number else impliedBit + fractionField number

theorem units_eq : units number = significand number * 2 ^ (exponentField number - 1) := by
  rw [units, significand]
  split
  · rename_i small
    rw [small, Nat.zero_sub, Nat.pow_zero, Nat.mul_one]
  · rfl

theorem fractionField_lt : fractionField number < 2 ^ 52 :=
  Nat.mod_lt _ (by decide)

/-- **The bits below the significand** are those that rounding drops. -/
theorem droppedBits_units :
    droppedBits (units number) unitsPerOne = exponentField number - 1 := by
  have fraction := fractionField_lt number
  rw [droppedBits, Nat.mul_div_cancel _ unitsPerOne_pos, units_eq, significand]
  split
  · rename_i small
    rw [small, Nat.zero_sub, Nat.pow_zero, Nat.mul_one]
    refine Nat.sub_eq_zero_of_le (Nat.le_of_lt_succ ?_)
    by_cases zero : fractionField number = 0
    · rw [zero]
      decide
    · exact (Nat.log2_lt zero).mpr (Nat.lt_trans fraction (by decide))
  · have leading : impliedBit = 2 ^ 52 := rfl
    have positive : 0 < 2 ^ (exponentField number - 1) := Nat.two_pow_pos _
    have log : ((impliedBit + fractionField number) * 2 ^ (exponentField number - 1)).log2 =
        52 + (exponentField number - 1) := by
      rw [Nat.log2_eq_iff (Nat.mul_pos (by omega) positive).ne', Nat.add_right_comm, Nat.pow_add,
        Nat.pow_add]
      exact ⟨Nat.mul_le_mul_right _ (by omega), (Nat.mul_lt_mul_right positive).mpr (by omega)⟩
    rw [log, Nat.add_sub_cancel_left]

/-- A double is known from its bits. -/
theorem eq_of_toNat_toBits {number other : Float}
    (bits : number.toBits.toNat = other.toBits.toNat) : number = other := by
  rw [← number.ofBits_toBits, UInt64.toNat.inj bits, other.ofBits_toBits]

/-- Positive infinity. -/
def infinity : Float :=
  Float.ofBits (UInt64.ofNat infinityBits)

variable {number} (real : isNaN number = false) (positive : isNegative number = false)

include real positive

/-- The bits of a magnitude do not go beyond those of infinity. -/
theorem toNat_toBits_le : number.toBits.toNat ≤ infinityBits := by
  rw [isNegative, decide_eq_false_iff_not] at positive
  rw [isNaN, decide_eq_false_iff_not, exponentField, fractionField] at real
  unfold signBit at positive
  unfold impliedBit at real
  unfold infinityBits
  omega

theorem toNat_toBits_lt (finite : isFinite number = true) :
    number.toBits.toNat < infinityBits := by
  have le := toNat_toBits_le real positive
  have field : exponentField number ≠ 2047 := of_decide_eq_true finite
  unfold exponentField impliedBit at field
  unfold infinityBits at le ⊢
  omega

/-- A magnitude that is not finite is infinity. -/
theorem eq_infinity (infinite : isFinite number = false) : number = infinity := by
  have le := toNat_toBits_le real positive
  have field : exponentField number = 2047 := not_not.mp (of_decide_eq_false infinite)
  refine eq_of_toNat_toBits (Eq.trans ?_ (toNat_toBits_ofNat le_rfl).symm)
  unfold exponentField impliedBit at field
  unfold infinityBits at le ⊢
  omega

/-- The bits of a magnitude count the bits below its significand in steps of the implied bit. -/
theorem toNat_toBits_eq :
    (exponentField number - 1) * impliedBit + significand number = number.toBits.toNat := by
  have le := toNat_toBits_le real positive
  rw [significand, exponentField, fractionField]
  unfold infinityBits at le
  unfold impliedBit
  split <;> omega

/-- **A magnitude is its own nearest double.** -/
theorem nearest_units : nearest (units number) unitsPerOne = number := by
  have exact : Rounding.halfEven (units number * unitsPerOne)
      (unitsPerOne * Nat.pow 2 (exponentField number - 1)) = significand number := by
    have scaled : units number * unitsPerOne =
        significand number * (unitsPerOne * 2 ^ (exponentField number - 1)) := by
      rw [units_eq, Nat.mul_assoc, Nat.mul_comm unitsPerOne]
    have unit : 0 < unitsPerOne * 2 ^ (exponentField number - 1) :=
      Nat.mul_pos unitsPerOne_pos (Nat.two_pow_pos _)
    rw [scaled, Nat.pow_eq, Rounding.halfEven_of_dvd unit (Nat.dvd_mul_left _ _),
      Nat.mul_div_cancel _ unit]
  have bits : nearestBits (units number) unitsPerOne = number.toBits.toNat := by
    simp only [nearestBits, droppedBits_units, exact, toNat_toBits_eq real positive]
    exact Nat.min_eq_left (toNat_toBits_le real positive)
  rw [nearest, bits, UInt64.ofNat_toNat, Float.ofBits_toBits]

end Units

end Binary64

end ScientificCalculator
