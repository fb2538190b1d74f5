/-
**Sums that start from zero.**

A sum is rounded, but no number other than zero is rounded to zero: the sum of two doubles is a
whole number of units. So the negative zero is the sum of negative zeros alone, and only infinities
make a sum that is no number. A total that starts from zero and takes up finite numbers, with either
sign, is never one of the two.

* `Total`, `Addend`: the unpacked doubles that such a total can be, and those that it takes up.
* `round_total`: a number other than zero, rounded.
* `add_total`, `sub_eq_add_opposite`: the sum and the difference of unpacked doubles.
* `IsTotal`: a double that is neither the negative zero nor no number.
* `IsTotal.add`, `IsTotal.sub`: a total that takes up one more number.
-/

import ScientificCalculator.Proofs.Binary64.Opposite

namespace ScientificCalculator.Binary64

open Float.Model (Format UnpackedFloat totalExponent)
open Float.Model.UnpackedFloat (ExtendedMantissa Sign add decreaseExponent pack
  packComponents packedInfinity packedZero roundWithAccuracy shiftToExponent shiftToTargetExponent
  sub unpack unpackExponent unpackMantissa unpackSign unpackExponent_packComponents
  unpackMantissa_packComponents unpackSign_packComponents)

section Unpacked

/-- A mantissa and an exponent that a double can have. -/
def InRange (mantissa : Nat) (exponent : Int) : Prop :=
  mantissa < 2 ^ 53 ∧ -1074 ≤ exponent

/-- The unpacked doubles that a total can be: an infinity, the positive zero, or a finite one. -/
def Total : UnpackedFloat → Prop
  | .infinity _ => True
  | .notANumber => False
  | .zero sign => sign = .positive
  | .finite _ mantissa exponent _ => InRange mantissa exponent

/-- The unpacked doubles that a total takes up: the finite ones. -/
def Addend : UnpackedFloat → Prop
  | .infinity _ => False
  | .notANumber => False
  | .zero _ => True
  | .finite _ mantissa exponent _ => InRange mantissa exponent

end Unpacked

section Rounding

theorem mantissa_shiftRight (extended : ExtendedMantissa) (count : Nat) :
    (extended >>> count).mantissa = extended.mantissa / 2 ^ count := by
  induction count with
  | zero => exact (Nat.div_one _).symm
  | succ count ih =>
    show (ExtendedMantissa.shiftRightOne (extended >>> count)).mantissa = _
    rw [ExtendedMantissa.shiftRightOne, ih, Nat.div_div_eq_div_mul, Nat.pow_succ]

/-- The residual bits round a mantissa up, or not at all. -/
theorem le_roundedMantissa (extended : ExtendedMantissa) :
    extended.mantissa ≤ extended.roundedMantissa := by
  obtain ⟨mantissa, roundBit, stickyBit⟩ := extended
  cases roundBit <;> cases stickyBit
  · exact Nat.le_refl _
  · exact Nat.le_refl _
  · exact Nat.le_add_right _ _
  · exact Nat.le_succ _

theorem targetExponent_eq (total : Int) :
    Format.binary64.targetExponent total = max (total - 53) (-1074) :=
  rfl

/-- **Shifting to the exponent of a double** leaves some of a mantissa and no more than a double can
have. -/
theorem shifted_mantissa {mantissa : Nat} {exponent : Int} (positive : 0 < mantissa)
    (least : -1074 ≤ exponent) {count : Nat}
    (shift : count =
      (Format.binary64.targetExponent (totalExponent mantissa exponent) - exponent).toNat) :
    0 < mantissa / 2 ^ count ∧ mantissa / 2 ^ count < 2 ^ 53 := by
  have low := Nat.log2_self_le positive.ne'
  have high := Nat.lt_log2_self (n := mantissa)
  rw [targetExponent_eq, totalExponent] at shift
  constructor
  · refine Nat.div_pos (le_trans ?_ low) (Nat.two_pow_pos count)
    exact Nat.pow_le_pow_right two_pos (by omega)
  · rw [Nat.div_lt_iff_lt_mul (Nat.two_pow_pos count), ← Nat.pow_add]
    exact high.trans_le (Nat.pow_le_pow_right two_pos (by omega))

/-- A mantissa that is shifted to the exponent of a double, and the exponent it has then. -/
theorem shiftToTargetExponent_exact {mantissa : Nat} {exponent : Int} (positive : 0 < mantissa)
    (least : -1074 ≤ exponent) :
    let shifted := shiftToTargetExponent .binary64 mantissa exponent .exact
    0 < shifted.1.mantissa ∧ InRange shifted.1.mantissa shifted.2 := by
  obtain ⟨some, below⟩ := shifted_mantissa positive least rfl
  simp only [shiftToTargetExponent, shiftToExponent, mantissa_shiftRight]
  exact ⟨some, below, by omega⟩

/-- **A number other than zero is not rounded to zero**, when it is a whole number of units. -/
theorem round_total (sign : Sign) {mantissa : Nat} {exponent : Int} (positive : 0 < mantissa)
    (least : -1074 ≤ exponent) : Total (UnpackedFloat.round .binary64 sign mantissa exponent) := by
  have widened : 0 < mantissa <<< (exponent - Format.binary64.targetExponent
      (totalExponent mantissa exponent)).toNat := by
    rw [Nat.shiftLeft_eq]
    exact Nat.mul_pos positive (Nat.two_pow_pos _)
  have lowered : -1074 ≤ exponent - (exponent - Format.binary64.targetExponent
      (totalExponent mantissa exponent)).toNat := by
    rw [targetExponent_eq]
    omega
  obtain ⟨some, -, above⟩ := shiftToTargetExponent_exact widened lowered
  -- the rounded mantissa may have one bit too many, and is shifted again
  obtain ⟨again, inRange⟩ :=
    shiftToTargetExponent_exact (some.trans_le (le_roundedMantissa _)) above
  rw [UnpackedFloat.round]
  dsimp only [decreaseExponent]
  unfold roundWithAccuracy
  dsimp only
  rw [dif_neg again.ne']
  exact inRange

end Rounding

section Packing

/-- **A finite double is packed** as an infinity, or with the bits of a number other than zero. -/
theorem pack_finite_cases (sign : Sign) {mantissa : Nat} {exponent : Int} (positive : 0 < mantissa)
    (inRange : InRange mantissa exponent) :
    pack .binary64 (.finite sign mantissa exponent positive) = packedInfinity .binary64 sign ∨
      ∃ exponentBits mantissaBits, pack .binary64 (.finite sign mantissa exponent positive) =
        packComponents .binary64 sign exponentBits mantissaBits ∧
        exponentBits.toNat ≠ 2047 ∧ (exponentBits.toNat = 0 → mantissaBits.toNat ≠ 0) := by
  obtain ⟨small, least⟩ := inRange
  have biased : 1 ≤ (exponent + Format.binary64.exponentBias + 52).toNat := by
    show 1 ≤ (exponent + 1023 + 52).toNat
    omega
  simp only [pack]
  split_ifs with large normal
  · exact Or.inl rfl
  · refine Or.inr ⟨_, _, rfl, ?_, ?_⟩ <;> rw [BitVec.toNat_ofNat] <;> omega
  · have fewer : mantissa.log2 ≠ 52 := fun bits => normal (congrArg (· + 1) bits)
    have bits : mantissa.log2 < 53 := (Nat.log2_lt positive.ne').mpr small
    have below : mantissa < 2 ^ 52 := (Nat.log2_lt positive.ne').mp (by omega)
    refine Or.inr ⟨_, _, rfl, by decide, fun _ => ?_⟩
    rw [BitVec.toNat_ofNat, Nat.mod_eq_of_lt below]
    exact positive.ne'

variable {number : Float}

/-- The fields of a double that is packed from them. -/
theorem fields_of_components {sign : Sign} {exponentBits : BitVec Format.binary64.exponentBits}
    {mantissaBits : BitVec Format.binary64.mantissaBitsWithoutImplicit}
    (bits : number.toBits.toBitVec = packComponents .binary64 sign exponentBits mantissaBits) :
    exponentField number = exponentBits.toNat ∧ fractionField number = mantissaBits.toNat := by
  have exponent := toNat_unpackExponent number.toBits.toBitVec
  have fraction := toNat_unpackMantissa number.toBits.toBitVec
  rw [bits, unpackExponent_packComponents, ← bits] at exponent
  rw [bits, unpackMantissa_packComponents, ← bits] at fraction
  exact ⟨exponent.symm, fraction.symm⟩

/-- A double that is neither the negative zero nor no number. -/
structure IsTotal (number : Float) : Prop where
  real : isNaN number = false
  signed : number ≠ -0

theorem toBitVec_negative_zero : (-0 : Float).toBits.toBitVec = packedZero .binary64 .negative := by
  decide +kernel

/-- Both are known from their bits. -/
theorem isTotal_of_components {sign : Sign}
    {exponentBits : BitVec Format.binary64.exponentBits}
    {mantissaBits : BitVec Format.binary64.mantissaBitsWithoutImplicit}
    (bits : number.toBits.toBitVec = packComponents .binary64 sign exponentBits mantissaBits)
    (real : exponentBits.toNat = 2047 → mantissaBits.toNat = 0)
    (signed : exponentBits.toNat = 0 → mantissaBits.toNat = 0 → sign = .positive) :
    IsTotal number := by
  constructor
  · obtain ⟨exponent, fraction⟩ := fields_of_components bits
    refine decide_eq_false fun nan => nan.2 ?_
    rw [fraction, real (exponent.symm.trans nan.1)]
  · rintro rfl
    rw [toBitVec_negative_zero, packedZero] at bits
    have exponent := congrArg unpackExponent bits
    have fraction := congrArg unpackMantissa bits
    have opposite := congrArg unpackSign bits
    rw [unpackExponent_packComponents, unpackExponent_packComponents] at exponent
    rw [unpackMantissa_packComponents, unpackMantissa_packComponents] at fraction
    rw [unpackSign_packComponents, unpackSign_packComponents,
      signed (by rw [← exponent]; rfl) (by rw [← fraction]; rfl)] at opposite
    cases opposite

/-- **A packed total** is neither the negative zero nor no number. -/
theorem isTotal_of_pack {unpacked : UnpackedFloat} (total : Total unpacked)
    (bits : number.toBits.toBitVec = pack .binary64 unpacked) : IsTotal number := by
  cases unpacked with
  | infinity sign => exact isTotal_of_components bits (fun _ => rfl) fun none => by cases none
  | notANumber => exact total.elim
  | zero sign => exact isTotal_of_components bits (fun full => by cases full) fun _ _ => total
  | finite sign mantissa exponent positive =>
    rcases pack_finite_cases sign positive total with infinite | ⟨_, _, components, real, some⟩
    · exact isTotal_of_components (bits.trans infinite) (fun _ => rfl) fun none => by cases none
    · exact isTotal_of_components (bits.trans components) (fun full => absurd full real)
        fun none empty => absurd empty (some none)

/-- A mantissa and an exponent that are unpacked are those of a double. -/
theorem inRange_of_unpack {pattern : BitVec Format.binary64.numBits} {sign : Sign} {mantissa : Nat}
    {exponent : Int} {positive : 0 < mantissa}
    (unpacked : unpack .binary64 pattern = .finite sign mantissa exponent positive) :
    InRange mantissa exponent := by
  have fraction : (unpackMantissa pattern).toNat < 2 ^ 52 := (unpackMantissa pattern).isLt
  have bias : (Format.binary64.exponentBias : Int) = 1023 := rfl
  rw [unpack] at unpacked
  dsimp only at unpacked
  split_ifs at unpacked with full none small empty
  · obtain ⟨-, rfl, rfl⟩ := UnpackedFloat.finite.inj unpacked
    exact ⟨by omega, by rw [small, bias]; decide⟩
  · obtain ⟨-, rfl, rfl⟩ := UnpackedFloat.finite.inj unpacked
    have some : (unpackExponent pattern).toNat ≠ 0 := fun zero => small (BitVec.eq_of_toNat_eq zero)
    refine ⟨BitVec.isLt _, ?_⟩
    rw [bias]
    omega

/-- **A total, unpacked.** -/
theorem IsTotal.total (isTotal : IsTotal number) :
    Total (unpack .binary64 number.toBits.toBitVec) := by
  have packed := (pack_unpack_toBits number).symm
  cases unpacked : unpack .binary64 number.toBits.toBitVec with
  | infinity sign => trivial
  | notANumber =>
    rw [unpacked] at packed
    obtain ⟨exponent, fraction⟩ := fields_of_components packed
    have nan : isNaN number = true := by
      rw [isNaN, exponent, fraction]
      decide
    exact absurd isTotal.real (by rw [nan]; decide)
  | zero sign =>
    rw [unpacked] at packed
    cases sign with
    | positive => rfl
    | negative =>
      have zero : number.toBits.toBitVec = (-0 : Float).toBits.toBitVec :=
        packed.trans toBitVec_negative_zero.symm
      exact absurd (eq_of_toNat_toBits (congrArg BitVec.toNat zero)) isTotal.signed
  | finite sign mantissa exponent positive => exact inRange_of_unpack unpacked

/-- A finite double, unpacked. -/
theorem addend_of_isFinite (finite : isFinite number = true) :
    Addend (unpack .binary64 number.toBits.toBitVec) := by
  have packed := (pack_unpack_toBits number).symm
  cases unpacked : unpack .binary64 number.toBits.toBitVec with
  | infinity sign =>
    rw [unpacked] at packed
    obtain ⟨exponent, -⟩ := fields_of_components packed
    rw [isFinite, exponent] at finite
    exact absurd finite (by decide)
  | notANumber => exact absurd unpacked (unpack_ne_notANumber finite)
  | zero sign => trivial
  | finite sign mantissa exponent positive => exact inRange_of_unpack unpacked

end Packing

section Sums

variable {first second : UnpackedFloat}

/-- The opposite of a finite double is finite. -/
theorem Addend.neg (addend : Addend second) : Addend second.neg := by
  cases second <;> exact addend

theorem apply_neg (sign : Sign) (value : Int) : (-sign).apply value = -sign.apply value := by
  cases sign with
  | negative => exact (Int.neg_neg value).symm
  | positive => rfl

/-- **A difference is the sum with the opposite.** -/
theorem sub_eq_add_opposite (format : Format) (first second : UnpackedFloat) :
    sub format first second = add format first second.neg := by
  cases first <;> cases second <;>
    simp [sub, add, UnpackedFloat.neg, apply_neg, Int.sub_eq_add_neg]

/-- **A sum that is not zero is no zero when it is rounded**, and one that is zero is the positive
one. -/
theorem normalize_total (value : Int) {exponent : Int} (least : -1074 ≤ exponent) :
    Total (UnpackedFloat.normalize .binary64 value exponent .positive) := by
  rw [UnpackedFloat.normalize]
  cases order : compare value 0 with
  | lt =>
    have negative := Int.compare_eq_lt.mp order
    exact round_total _ (by omega) least
  | eq => rfl
  | gt =>
    have positive := Int.compare_eq_gt.mp order
    exact round_total _ (by omega) least

/-- **The sum of a total and a finite double** is a total. -/
theorem add_total (total : Total first) (addend : Addend second) :
    Total (add .binary64 first second) := by
  cases second with
  | infinity sign => exact addend.elim
  | notANumber => exact addend.elim
  | zero sign =>
    cases first with
    | infinity sign' => trivial
    | notANumber => exact total.elim
    | zero sign' =>
      obtain rfl : sign' = .positive := total
      cases sign <;> rfl
    | finite sign' mantissa exponent positive => exact total
  | finite sign mantissa exponent positive =>
    cases first with
    | infinity sign' => trivial
    | notANumber => exact total.elim
    | zero sign' => exact addend
    | finite sign' mantissa' exponent' positive' =>
      exact normalize_total _ (le_min total.2 addend.2)

variable {number other : Float}

/-- **A total that takes up a finite number** is neither the negative zero nor no number. -/
theorem IsTotal.add (isTotal : IsTotal number) (finite : isFinite other = true) :
    IsTotal (number + other) :=
  isTotal_of_pack (add_total isTotal.total (addend_of_isFinite finite)) rfl

/-- So is one from which a finite number is taken. -/
theorem IsTotal.sub (isTotal : IsTotal number) (finite : isFinite other = true) :
    IsTotal (number - other) := by
  refine isTotal_of_pack (add_total isTotal.total (addend_of_isFinite finite).neg) ?_
  rw [← sub_eq_add_opposite]
  rfl

theorem isTotal_zero : IsTotal 0 :=
  ⟨by decide +kernel, by decide +kernel⟩

theorem isFinite_zero : isFinite 0 = true := by decide +kernel

end Sums

end ScientificCalculator.Binary64
