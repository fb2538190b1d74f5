/-
**Which doubles are finite.**

The exponent bits tell whether a double is finite. The sign is none of them, so a double, its
opposite and its magnitude are finite together.

* `isFinite_neg`: the opposite of a double.
* `exists_of_lt`: the bits of finite magnitudes.
* `exists_magnitude`: the magnitude of a finite double.
-/

import ScientificCalculator.Proofs.Binary64.Bits

namespace ScientificCalculator.Binary64

open Float.Model (Format UnpackedFloat)
open Float.Model.UnpackedFloat (pack unpack unpackExponent unpackExponent_packComponents)

section Signs

/-- The opposite of an unpacked double is packed with the same exponent bits. -/
theorem unpackExponent_pack_neg (format : Format) (unpacked : UnpackedFloat) :
    unpackExponent (pack format unpacked.neg) = unpackExponent (pack format unpacked) := by
  cases unpacked with
  | finite sign mantissa exponent positive =>
    simp only [UnpackedFloat.neg, pack, UnpackedFloat.packedInfinity]
    split_ifs <;> simp only [unpackExponent_packComponents]
  | infinity sign =>
    simp only [UnpackedFloat.neg, pack, UnpackedFloat.packedInfinity, unpackExponent_packComponents]
  | zero sign =>
    simp only [UnpackedFloat.neg, pack, UnpackedFloat.packedZero, unpackExponent_packComponents]
  | notANumber => rfl

variable (number : Float)

theorem exponentField_neg : exponentField (-number) = exponentField number := by
  have negated : (-number).toBits.toBitVec =
      pack .binary64 (unpack .binary64 number.toBits.toBitVec).neg := rfl
  have again : pack .binary64 (unpack .binary64 number.toBits.toBitVec) = number.toBits.toBitVec :=
    congrArg (fun same => same.toBits.toBitVec) number.ofBits_toBits
  have field (value : Float) : exponentField value =
      (@unpackExponent .binary64 value.toBits.toBitVec).toNat :=
    (toNat_unpackExponent value.toBits.toBitVec).symm
  rw [field, field, negated, unpackExponent_pack_neg, again]

/-- **The opposite of a double** is finite when the double is. -/
theorem isFinite_neg : isFinite (-number) = isFinite number := by
  rw [isFinite, isFinite, exponentField_neg]

/-- The bits below those of infinity are those of a finite magnitude. -/
theorem exists_of_lt {bits : Nat} (below : bits < infinityBits) :
    ∃ magnitude : Float, magnitude.toBits.toNat = bits ∧ isNaN magnitude = false ∧
      isNegative magnitude = false ∧ isFinite magnitude = true := by
  have same := toNat_toBits_ofNat below.le
  refine ⟨_, same, ?_, ?_, ?_⟩
  all_goals
    unfold infinityBits at below
    simp only [isNaN, isNegative, isFinite, exponentField, same, decide_eq_false_iff_not,
      decide_eq_true_eq, impliedBit, signBit]
    omega

variable {number}

/-- **The magnitude of a finite double**: it has the same bits but for the sign. -/
theorem exists_magnitude (finite : isFinite number = true) :
    ∃ magnitude, isNaN magnitude = false ∧ isNegative magnitude = false ∧
      isFinite magnitude = true ∧ units magnitude = units number := by
  have inside : exponentField number ≠ 2047 := of_decide_eq_true finite
  have small : number.toBits.toNat % signBit < infinityBits := by
    unfold exponentField impliedBit at inside
    unfold signBit infinityBits
    omega
  obtain ⟨magnitude, bits, real, positive, finite⟩ := exists_of_lt small
  refine ⟨magnitude, real, positive, finite, ?_⟩
  have exponent : exponentField magnitude = exponentField number := by
    rw [exponentField, exponentField, bits]
    unfold signBit impliedBit
    omega
  have fraction : fractionField magnitude = fractionField number := by
    rw [fractionField, fractionField, bits]
    unfold signBit impliedBit
    omega
  unfold units
  rw [exponent, fraction]

end Signs

end ScientificCalculator.Binary64
