/-
**Opposites and sums with zero.**

The opposite of a finite double has the same magnitude and the other sign. A double other than zero
is not changed by adding it to zero.

* `units_neg`, `isNegative_neg`: the opposite of a double.
* `exists_magnitude_eq`: a finite double is its magnitude, or the opposite of it.
* `abs_toRat`, `toRat_neg_iff`: magnitude and sign of the number that a double stands for.
* `zero_add_of_units`: the sum with zero.
-/

import ScientificCalculator.Proofs.Binary64.Finite
import ScientificCalculator.Proofs.Binary64.Nearest

namespace ScientificCalculator.Binary64

open Float.Model (Format UnpackedFloat)
open Float.Model.UnpackedFloat (pack unpack unpackExponent unpackMantissa unpackSign
  unpackMantissa_packComponents unpackSign_packComponents)

section Patterns

theorem toNat_unpackSign (pattern : BitVec Format.binary64.numBits) :
    (unpackSign pattern).toNat = pattern.toNat / signBit % 2 := by
  rw [unpackSign, BitVec.toNat_cast, BitVec.extractLsb_toNat, Nat.shiftRight_eq_div_pow]
  rfl

/-- The opposite of an unpacked double is packed with the same fraction bits. -/
theorem unpackMantissa_pack_neg (format : Format) (unpacked : UnpackedFloat) :
    unpackMantissa (pack format unpacked.neg) = unpackMantissa (pack format unpacked) := by
  cases unpacked with
  | finite sign mantissa exponent positive =>
    simp only [UnpackedFloat.neg, pack, UnpackedFloat.packedInfinity]
    split_ifs <;> simp only [unpackMantissa_packComponents]
  | infinity sign =>
    simp only [UnpackedFloat.neg, pack, UnpackedFloat.packedInfinity, unpackMantissa_packComponents]
  | zero sign =>
    simp only [UnpackedFloat.neg, pack, UnpackedFloat.packedZero, unpackMantissa_packComponents]
  | notANumber => rfl

/-- It is packed with the other sign bit. -/
theorem unpackSign_pack_neg (format : Format) {unpacked : UnpackedFloat}
    (real : unpacked ≠ .notANumber) :
    unpackSign (pack format unpacked.neg) = ~~~unpackSign (pack format unpacked) := by
  have other (sign : UnpackedFloat.Sign) : (-sign).toBitVec = ~~~sign.toBitVec := by
    cases sign <;> rfl
  cases unpacked with
  | finite sign mantissa exponent positive =>
    simp only [UnpackedFloat.neg, pack, UnpackedFloat.packedInfinity]
    split_ifs <;> simp only [unpackSign_packComponents, other]
  | infinity sign =>
    simp only [UnpackedFloat.neg, pack, UnpackedFloat.packedInfinity, unpackSign_packComponents,
      other]
  | zero sign =>
    simp only [UnpackedFloat.neg, pack, UnpackedFloat.packedZero, unpackSign_packComponents, other]
  | notANumber => contradiction

end Patterns

section Doubles

variable {number : Float}

/-- The bits of the opposite, and the bits themselves, as packed doubles. -/
theorem toBitVec_neg (number : Float) :
    (-number).toBits.toBitVec = pack .binary64 (unpack .binary64 number.toBits.toBitVec).neg :=
  rfl

theorem pack_unpack_toBits (number : Float) :
    pack .binary64 (unpack .binary64 number.toBits.toBitVec) = number.toBits.toBitVec :=
  congrArg (fun same => same.toBits.toBitVec) number.ofBits_toBits

theorem unpack_ne_notANumber (finite : isFinite number = true) :
    unpack .binary64 number.toBits.toBitVec ≠ .notANumber := by
  have inside : exponentField number ≠ 2047 := of_decide_eq_true finite
  have field : @unpackExponent .binary64 number.toBits.toBitVec ≠ -1#11 := by
    intro full
    refine inside ((toNat_unpackExponent number.toBits.toBitVec).symm.trans ?_)
    rw [full]
    rfl
  rw [unpack]
  simp only [if_neg field]
  split_ifs <;> exact nofun

theorem fractionField_neg (number : Float) : fractionField (-number) = fractionField number := by
  have field (value : Float) : fractionField value =
      (@unpackMantissa .binary64 value.toBits.toBitVec).toNat :=
    (toNat_unpackMantissa value.toBits.toBitVec).symm
  rw [field, field, toBitVec_neg, unpackMantissa_pack_neg, pack_unpack_toBits]

/-- **The opposite of a double has the same magnitude.** -/
theorem units_neg (number : Float) : units (-number) = units number := by
  rw [units, units, exponentField_neg, fractionField_neg]

theorem isNegative_eq (number : Float) :
    isNegative number = decide (@unpackSign .binary64 number.toBits.toBitVec = 1#1) := by
  have bits : number.toBits.toNat < 2 ^ 64 := number.toBits.toBitVec.isLt
  have sign := toNat_unpackSign number.toBits.toBitVec
  rw [isNegative, decide_eq_decide, ← BitVec.toNat_inj, sign]
  show signBit ≤ number.toBits.toNat ↔ number.toBits.toNat / signBit % 2 = 1
  unfold signBit
  omega

/-- **It has the other sign.** -/
theorem isNegative_neg (finite : isFinite number = true) :
    isNegative (-number) = !isNegative number := by
  rw [isNegative_eq, isNegative_eq, toBitVec_neg,
    unpackSign_pack_neg _ (unpack_ne_notANumber finite), pack_unpack_toBits]
  generalize @unpackSign .binary64 number.toBits.toBitVec = sign
  revert sign
  decide

/-- A double is known from its sign and its fields. -/
theorem eq_of_fields {other : Float} (sign : isNegative number = isNegative other)
    (exponent : exponentField number = exponentField other)
    (fraction : fractionField number = fractionField other) : number = other := by
  have bits : number.toBits.toNat < 2 ^ 64 := number.toBits.toBitVec.isLt
  have bits' : other.toBits.toNat < 2 ^ 64 := other.toBits.toBitVec.isLt
  rw [isNegative, isNegative, decide_eq_decide] at sign
  unfold signBit at sign
  unfold exponentField impliedBit at exponent
  unfold fractionField impliedBit at fraction
  exact eq_of_toNat_toBits (by omega)

theorem neg_neg_of_finite (finite : isFinite number = true) : - -number = number := by
  have opposite : isFinite (-number) = true := (isFinite_neg number).trans finite
  refine eq_of_fields ?_ ?_ ?_
  · rw [isNegative_neg opposite, isNegative_neg finite, Bool.not_not]
  · rw [exponentField_neg, exponentField_neg]
  · rw [fractionField_neg, fractionField_neg]

theorem isNaN_of_finite (finite : isFinite number = true) : isNaN number = false :=
  decide_eq_false fun nan => (of_decide_eq_true finite : exponentField number ≠ 2047) nan.1

/-- **A finite double is its magnitude, or the opposite of it.** -/
theorem exists_magnitude_eq (finite : isFinite number = true) :
    ∃ magnitude, isFinite magnitude = true ∧ isNegative magnitude = false ∧
      units magnitude = units number ∧
      number = if isNegative number then -magnitude else magnitude := by
  cases sign : isNegative number with
  | false => exact ⟨number, finite, sign, rfl, rfl⟩
  | true =>
    refine ⟨-number, (isFinite_neg number).trans finite, ?_, units_neg number,
      (neg_neg_of_finite finite).symm⟩
    rw [isNegative_neg finite, sign]
    rfl

end Doubles

section Values

variable (number : Float)

theorem abs_toRat : |toRat number| = units number / unitsPerOne := by
  have some : (0 : ℚ) ≤ units number / unitsPerOne := by positivity
  rw [toRat, abs_mul, abs_of_nonneg some]
  split
  · rw [abs_neg, abs_one, one_mul]
  · rw [abs_one, one_mul]

variable {number}

theorem toRat_eq_zero_iff : toRat number = 0 ↔ units number = 0 := by
  have unit : (unitsPerOne : ℚ) ≠ 0 := Nat.cast_ne_zero.mpr unitsPerOne_pos.ne'
  rw [← abs_eq_zero, abs_toRat, div_eq_zero_iff, or_iff_left unit, Nat.cast_eq_zero]

/-- The number is below zero where the sign bit is set, but for a zero. -/
theorem toRat_neg_iff (some : units number ≠ 0) : toRat number < 0 ↔ isNegative number = true := by
  have unit : (0 : ℚ) < unitsPerOne := Nat.cast_pos.mpr unitsPerOne_pos
  have positive : (0 : ℚ) < units number / unitsPerOne :=
    div_pos (Nat.cast_pos.mpr (Nat.pos_of_ne_zero some)) unit
  rw [toRat]
  split
  · rename_i negative
    exact iff_of_true (by linarith) negative
  · rename_i negative
    exact iff_of_false (by linarith) negative

theorem toRat_pos_iff (some : units number ≠ 0) : 0 < toRat number ↔ isNegative number = false := by
  have zero := mt toRat_eq_zero_iff.mp some
  rw [← Bool.not_eq_true, ← toRat_neg_iff some, not_lt]
  exact ⟨le_of_lt, fun le => lt_of_le_of_ne le (Ne.symm zero)⟩

/-- A double that is unpacked as a zero has no units. -/
theorem units_of_unpack_zero {sign : UnpackedFloat.Sign}
    (zero : unpack .binary64 number.toBits.toBitVec = .zero sign) : units number = 0 := by
  have exponent : exponentField number = (@unpackExponent .binary64 number.toBits.toBitVec).toNat :=
    (toNat_unpackExponent number.toBits.toBitVec).symm
  have fraction : fractionField number = (@unpackMantissa .binary64 number.toBits.toBitVec).toNat :=
    (toNat_unpackMantissa number.toBits.toBitVec).symm
  rw [unpack] at zero
  dsimp only at zero
  split_ifs at zero with full none small empty
  rw [small] at exponent
  rw [empty] at fraction
  exact (if_pos exponent).trans fraction

/-- **A double other than zero is not changed by adding it to zero.** -/
theorem zero_add_of_units (some : units number ≠ 0) : 0 + number = number := by
  have sum : (0 + number).toBits.toBitVec = pack .binary64 (UnpackedFloat.add .binary64
      (unpack .binary64 (0 : Float).toBits.toBitVec) (unpack .binary64 number.toBits.toBitVec)) :=
    rfl
  have bits : (0 : Float).toBits = 0 := by decide +kernel
  have zero : unpack .binary64 (0 : Float).toBits.toBitVec = .zero .positive := by
    rw [bits]
    rfl
  have kept : UnpackedFloat.add .binary64 (.zero .positive)
      (unpack .binary64 number.toBits.toBitVec) = unpack .binary64 number.toBits.toBitVec := by
    cases unpacked : unpack .binary64 number.toBits.toBitVec with
    | zero sign => exact absurd (units_of_unpack_zero unpacked) some
    | notANumber => rfl
    | infinity sign => rfl
    | finite sign mantissa exponent positive => rfl
  rw [zero, kept, pack_unpack_toBits] at sum
  exact eq_of_toNat_toBits (congrArg BitVec.toNat sum)

end Values

end ScientificCalculator.Binary64
