/-
**The spacing of doubles.**

Rounding keeps the order of numbers and moves them by at most half a step, the distance of the
doubles around them. What lies within half a step of a double is rounded to it; only below the least
significand of fifty-three bits are the steps finer.

* `IsNearest.mono`, `IsNearest.lt_iff`: rounding and the order.
* `abs_sub_nearest_le_step`: the error of rounding, from the size of the number.
* `toRat_le_sub_step`: the largest double below a power of two.
* `eq_or_lt_abs_sub`, `isNearest_of_close`: what is rounded to a double.
-/

import ScientificCalculator.Proofs.Binary64.Opposite

namespace ScientificCalculator.Binary64

/-- The steps are powers of two. -/
theorem step_eq_zpow (exponent : Nat) : step exponent = 2 ^ ((exponent : ℤ) - 1074) := by
  rw [step, cast_unitsPerOne, zpow_sub₀ two_ne_zero, zpow_natCast, zpow_ofNat]

section Order

variable {exact exact' : ℚ} {number number' : Float}

/-- Of two numbers the lower one is nearer only from the middle on downwards. -/
theorem middle_le_of_abs_le {lower upper : ℚ} (apart : lower < upper)
    (nearer : |exact - upper| ≤ |exact - lower|) : (lower + upper) / 2 ≤ exact := by
  rcases abs_cases (exact - upper) with ⟨high, _⟩ | ⟨high, _⟩ <;>
    rcases abs_cases (exact - lower) with ⟨low, _⟩ | ⟨low, _⟩ <;>
    linarith

theorem le_middle_of_abs_le {lower upper : ℚ} (apart : lower < upper)
    (nearer : |exact - lower| ≤ |exact - upper|) : exact ≤ (lower + upper) / 2 := by
  rcases abs_cases (exact - upper) with ⟨high, _⟩ | ⟨high, _⟩ <;>
    rcases abs_cases (exact - lower) with ⟨low, _⟩ | ⟨low, _⟩ <;>
    linarith

/-- **Rounding keeps the order.** -/
theorem IsNearest.mono (near : IsNearest exact number) (near' : IsNearest exact' number')
    (finite : isFinite number = true) (finite' : isFinite number' = true) (le : exact ≤ exact') :
    toRat number ≤ toRat number' := by
  by_contra less
  rw [not_le] at less
  have from_middle := middle_le_of_abs_le less (near.least finite number' finite')
  have to_middle := le_middle_of_abs_le less (near'.least finite' number finite)
  -- Both exact numbers are the middle, and that is rounded to one double.
  have same : exact = exact' := by linarith
  subst same
  exact absurd (congrArg toRat (near.unique near')) less.ne'

/-- **No double lies between a number and the double above that it is rounded to.** -/
theorem IsNearest.lt_iff (near : IsNearest exact number) (finite : isFinite number = true)
    (above : exact ≤ toRat number) (finite' : isFinite number' = true) :
    toRat number' < toRat number ↔ toRat number' < exact := by
  refine ⟨fun less => ?_, fun less => less.trans_le above⟩
  by_contra between
  have middle := middle_le_of_abs_le less (near.least finite number' finite')
  linarith

end Order

section Errors

variable {numerator denominator : Nat}

/-- **The error of rounding** is at most half a step, where the number has no more than fifty-three
bits above the step. -/
theorem abs_sub_nearest_le_step {exponent : Nat} (positive : 0 < denominator)
    (finite : isFinite (nearest numerator denominator) = true)
    (small : (numerator / denominator : ℚ) < 2 ^ 53 * step exponent) :
    |(numerator / denominator : ℚ) - toRat (nearest numerator denominator)| ≤
      step exponent / 2 := by
  have parts := leadingQuotient_mul_step numerator positive
  have few : droppedBits numerator denominator ≤ exponent := by
    by_contra more
    rw [not_le] at more
    have least := impliedBit_le_leadingQuotient numerator positive (Nat.zero_lt_of_lt more)
    have large : (2 ^ 53 : ℚ) * step exponent ≤ numerator / denominator :=
      calc (2 ^ 53 : ℚ) * step exponent
          = impliedBit * step (exponent + 1) := by
            rw [step_succ, impliedBit]
            norm_num
            ring
        _ ≤ impliedBit * step (droppedBits numerator denominator) :=
          mul_le_mul_of_nonneg_left (step_le more) (Nat.cast_nonneg _)
        _ ≤ leadingQuotient numerator denominator * step (droppedBits numerator denominator) :=
          mul_le_mul_of_nonneg_right least (step_pos _).le
        _ = numerator / denominator := parts.symm
    exact absurd small (not_lt.mpr large)
  obtain ⟨within, -⟩ := Rounding.halfEven_within (numerator * unitsPerOne)
    (scale_pos numerator positive)
  have size := step_pos (droppedBits numerator denominator)
  rw [toRat_nearest numerator positive finite, parts, ← sub_mul, abs_mul, abs_of_pos size]
  calc |leadingQuotient numerator denominator - roundedSignificand numerator denominator| *
        step (droppedBits numerator denominator)
      ≤ 1 / 2 * step (droppedBits numerator denominator) :=
        mul_le_mul_of_nonneg_right within size.le
    _ ≤ 1 / 2 * step exponent := mul_le_mul_of_nonneg_left (step_le few) (by norm_num)
    _ = step exponent / 2 := by ring

end Errors

section Steps

variable {number : Float}

/-- A double that is not negative is a number of its own steps. -/
theorem toRat_eq_significand_mul (positive : isNegative number = false) :
    toRat number = significand number * step (exponentField number - 1) := by
  rw [toRat, positive, if_neg Bool.false_ne_true, one_mul, units_eq, step, Nat.cast_mul,
    Nat.cast_pow, Nat.cast_ofNat, mul_div_assoc]

/-- A double with a leading bit has fifty-three bits above its steps. -/
theorem impliedBit_mul_step_le (positive : isNegative number = false)
    (normal : exponentField number ≠ 0) :
    impliedBit * step (exponentField number - 1) ≤ toRat number := by
  rw [toRat_eq_significand_mul positive, significand, if_neg normal]
  exact mul_le_mul_of_nonneg_right (Nat.cast_le.mpr (Nat.le_add_right _ _)) (step_pos _).le

/-- **The steps of a double** are longer than those of fifty-three bits that do not exceed it. -/
theorem lt_exponentField {exponent : Nat} (positive : isNegative number = false)
    (large : 2 ^ 53 * step exponent ≤ toRat number) : exponent < exponentField number - 1 := by
  have few : (significand number : ℚ) < 2 ^ 53 := by exact_mod_cast significand_lt number
  rw [toRat_eq_significand_mul positive] at large
  by_contra coarse
  have longer := step_le (not_lt.mp coarse)
  have less := (mul_lt_mul_of_pos_right few (step_pos _)).trans_le
    (mul_le_mul_of_nonneg_left longer (by norm_num))
  exact absurd large (not_le.mpr less)

/-- **A double below a number of fifty-three bits lies a step below it.** -/
theorem toRat_le_sub_step (exponent : Nat) (less : toRat number < 2 ^ 53 * step exponent) :
    toRat number ≤ 2 ^ 53 * step exponent - step exponent := by
  have size := step_pos exponent
  rcases toRat_eq_or_lt number exponent with ⟨multiple, equal⟩ | ⟨-, small⟩
  · rw [equal, mul_lt_mul_iff_left₀ size] at less
    have last : multiple + 1 ≤ 2 ^ 53 := by exact_mod_cast less
    have bound : (multiple : ℚ) + 1 ≤ 2 ^ 53 := by exact_mod_cast last
    calc toRat number
        = (multiple + 1) * step exponent - step exponent := by
          rw [equal]
          ring
      _ ≤ 2 ^ 53 * step exponent - step exponent :=
        sub_le_sub_right (mul_le_mul_of_nonneg_right bound size.le) _
  · rw [impliedBit] at small
    push_cast at small
    linarith

end Steps

section Close

variable {number : Float} {exact : ℚ} (positive : isNegative number = false)
  (close : |exact - toRat number| < step (exponentField number - 1) / 2)

include positive close

/-- What lies within half a step of a double is further away from other numbers of its steps. -/
theorem lt_abs_sub_of_ne {multiple : ℤ}
    (other : multiple * step (exponentField number - 1) ≠ toRat number) :
    |exact - toRat number| < |exact - multiple * step (exponentField number - 1)| := by
  have size := step_pos (exponentField number - 1)
  have value := toRat_eq_significand_mul positive
  generalize exponentField number - 1 = exponent at *
  have apart : (1 : ℚ) ≤ |(multiple : ℚ) - significand number| := by
    have different : multiple ≠ significand number := by
      rintro rfl
      exact other (by rw [value, Int.cast_natCast])
    exact_mod_cast Int.one_le_abs (sub_ne_zero.mpr different)
  have distance : step exponent ≤ |multiple * step exponent - toRat number| := by
    rw [value, ← sub_mul, abs_mul, abs_of_pos size]
    exact le_mul_of_one_le_left size.le apart
  have triangle := abs_sub_le (multiple * step exponent) exact (toRat number)
  rw [abs_sub_comm _ exact] at triangle
  linarith

variable (least : exponentField number - 1 = 0 ∨
  impliedBit * step (exponentField number - 1) ≤ exact)

include least

/-- **It is further away from every other double**: those below the least significand of fifty-three
bits, which is a number of the steps itself, are even further away. -/
theorem eq_or_lt_abs_sub (other : Float) :
    toRat other = toRat number ∨ |exact - toRat number| < |exact - toRat other| := by
  by_cases same : toRat other = toRat number
  · exact Or.inl same
  · right
    rcases toRat_eq_or_lt other (exponentField number - 1) with ⟨multiple, equal⟩ | ⟨some, small⟩
    · rw [equal] at same ⊢
      exact lt_abs_sub_of_ne positive close same
    · have bottom := least.resolve_left some.ne'
      have bound : |exact - toRat number| ≤
          |exact - (impliedBit : ℤ) * step (exponentField number - 1)| := by
        by_cases equal : ((impliedBit : ℤ) : ℚ) * step (exponentField number - 1) = toRat number
        · rw [equal]
        · exact (lt_abs_sub_of_ne positive close equal).le
      rw [Int.cast_natCast, abs_of_nonneg (sub_nonneg.mpr bottom)] at bound
      exact bound.trans_lt ((sub_lt_sub_left small exact).trans_le (le_abs_self _))

omit least in
/-- What lies within half a step of a finite double is not rounded to infinity. -/
theorem lt_overflowBound (finite : isFinite number = true) : exact < overflowBound := by
  have size := step_pos (exponentField number - 1)
  have inside : exponentField number ≠ 2047 := of_decide_eq_true finite
  have field : exponentField number < 2048 := Nat.mod_lt _ (by decide)
  have order : exponentField number - 1 ≤ 2045 := by omega
  have coarsest := step_le order
  have last : (significand number : ℚ) ≤ 2 ^ 53 - 1 := by
    have next : ((significand number + 1 : ℕ) : ℚ) ≤ (2 ^ 53 : ℕ) :=
      Nat.cast_le.mpr (significand_lt number)
    push_cast at next
    linarith
  calc exact
      < toRat number + step (exponentField number - 1) / 2 := by
        linarith [(abs_lt.mp close).2]
    _ ≤ (2 ^ 53 - 1) * step (exponentField number - 1) + step (exponentField number - 1) / 2 := by
        rw [toRat_eq_significand_mul positive]
        exact add_le_add_left (mul_le_mul_of_nonneg_right last size.le) _
    _ = (2 ^ 53 - 1 / 2) * step (exponentField number - 1) := by ring
    _ ≤ overflowBound := by
        rw [overflowBound_eq]
        exact mul_le_mul_of_nonneg_left coarsest (by norm_num)

/-- **What is rounded to a double**: every number within half a step of it, unless it lies below the
least significand of fifty-three bits. -/
theorem isNearest_of_close (finite : isFinite number = true) : IsNearest exact number where
  real := isNaN_of_finite finite
  positive := positive
  finite := iff_of_true finite (lt_overflowBound positive close finite)
  least _ other _ := by
    rcases eq_or_lt_abs_sub positive close least other with same | less
    · rw [same]
    · exact less.le
  even _ other _ tie :=
    Or.inl ((eq_or_lt_abs_sub positive close least other).resolve_right tie.not_lt)

end Close

end ScientificCalculator.Binary64
