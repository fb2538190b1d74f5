/-
**The double nearest to a quotient, among all doubles.**

The rounding keeps a multiple of a power of two of units. Every double of at least that size is a
multiple of it as well, and the rounded significand is nearest among the integers; every other
double lies below the least significand of fifty-three bits, which is an integer again.

* `Rounding.halfEven_within`, `Rounding.abs_sub_halfEven_le`: the integer nearest to a quotient.
* `Binary64.toRat`: the rational number that a finite double stands for.
* `Binary64.IsNearest`: the double nearest to a rational number, ties to even.
* `Binary64.isNearest_nearest`: the double written for a quotient is the nearest one.
* `Binary64.isFinite_nearest_iff`, `Binary64.nearest_eq_zero_iff`: where it is finite, and zero.
* `Binary64.IsNearest.unique`: there is one nearest double.
-/

import ScientificCalculator.Proofs.Binary64.Finite
import ScientificCalculator.Proofs.Binary64.Units

namespace ScientificCalculator

namespace Rounding

section Integers

variable (numerator : Nat) {denominator : Nat} (positive : 0 < denominator)

include positive

/-- A quotient is rounded by what is left over from its whole part, as a part of one. -/
theorem halfEven_eq_ite :
    halfEven numerator denominator =
      if (1 / 2 : ℚ) < (numerator % denominator : ℕ) / denominator ∨
          (numerator % denominator : ℕ) / (denominator : ℚ) = 1 / 2 ∧
            numerator / denominator % 2 = 1 then
        numerator / denominator + 1
      else numerator / denominator := by
  have scale : (0 : ℚ) < denominator := Nat.cast_pos.mpr positive
  have less : denominator < 2 * (numerator % denominator) ↔
      (1 / 2 : ℚ) < (numerator % denominator : ℕ) / denominator := by
    rw [lt_div_iff₀ scale, div_mul_eq_mul_div, one_mul, div_lt_iff₀ two_pos, mul_comm]
    exact_mod_cast Iff.rfl
  have half : denominator = 2 * (numerator % denominator) ↔
      (numerator % denominator : ℕ) / (denominator : ℚ) = 1 / 2 := by
    rw [div_eq_div_iff scale.ne' two_ne_zero, one_mul, mul_comm, eq_comm]
    exact_mod_cast Iff.rfl
  simp only [halfEven, less, half]

/-- **The rounded quotient is at most a half away**, and even where it is a half away. -/
theorem halfEven_within :
    |(numerator / denominator : ℚ) - halfEven numerator denominator| ≤ 1 / 2 ∧
      (|(numerator / denominator : ℚ) - halfEven numerator denominator| = 1 / 2 →
        Even (halfEven numerator denominator)) := by
  have scale : (0 : ℚ) < denominator := Nat.cast_pos.mpr positive
  have parts : (numerator : ℚ) / denominator =
      (numerator / denominator : ℕ) + (numerator % denominator : ℕ) / denominator := by
    rw [div_eq_iff scale.ne', add_mul, div_mul_cancel₀ _ scale.ne']
    exact_mod_cast (Nat.div_add_mod' numerator denominator).symm
  have low : (0 : ℚ) ≤ (numerator % denominator : ℕ) / denominator := by positivity
  have high : ((numerator % denominator : ℕ) : ℚ) / denominator < 1 := by
    rw [div_lt_one scale]
    exact_mod_cast Nat.mod_lt _ positive
  rw [parts, halfEven_eq_ite numerator positive]
  generalize ((numerator % denominator : ℕ) : ℚ) / denominator = rest at low high
  generalize numerator / denominator = quotient
  split
  · rename_i up
    have away : |(quotient : ℚ) + rest - (quotient + 1 : ℕ)| = 1 - rest := by
      rw [Nat.cast_succ, add_sub_add_left_eq_sub, abs_sub_comm, abs_of_pos (sub_pos.mpr high)]
    rw [away]
    refine ⟨?_, fun tie => ?_⟩
    · rcases up with more | ⟨tie, -⟩ <;> linarith
    · rcases up with more | ⟨-, odd⟩
      · linarith
      · exact Nat.even_iff.mpr (by omega)
  · rename_i down
    have away : |(quotient : ℚ) + rest - quotient| = rest := by
      rw [add_sub_cancel_left, abs_of_nonneg low]
    rw [away]
    rw [not_or] at down
    refine ⟨not_lt.mp down.1, fun tie => Nat.even_iff.mpr ?_⟩
    have even := not_and.mp down.2 tie
    omega

/-- **No integer is nearer to a quotient than the rounded one**, and one that is as near leaves it
even. -/
theorem abs_sub_halfEven_le (other : ℤ) :
    |(numerator / denominator : ℚ) - halfEven numerator denominator| ≤
        |(numerator / denominator : ℚ) - other| ∧
      (|(numerator / denominator : ℚ) - halfEven numerator denominator| =
          |(numerator / denominator : ℚ) - other| →
        other = halfEven numerator denominator ∨ Even (halfEven numerator denominator)) := by
  obtain ⟨within, even⟩ := halfEven_within numerator positive
  generalize (numerator / denominator : ℚ) = quotient at within even ⊢
  generalize halfEven numerator denominator = rounded at within even ⊢
  by_cases same : other = rounded
  · subst same
    exact ⟨le_rfl, fun _ => Or.inl rfl⟩
  · have apart : (1 : ℚ) ≤ |((rounded : ℤ) : ℚ) - other| := by
      rw [← Int.cast_sub, ← Int.cast_abs]
      exact_mod_cast Int.one_le_abs (sub_ne_zero.mpr (Ne.symm same))
    have triangle := abs_sub_le (rounded : ℚ) quotient other
    rw [abs_sub_comm (rounded : ℚ) quotient] at triangle
    rw [Int.cast_natCast] at apart
    refine ⟨by linarith, fun tie => Or.inr (even ?_)⟩
    linarith

/-- Where the rounded quotient is below an integer. -/
theorem halfEven_lt_iff (bound : Nat) :
    halfEven numerator denominator < bound ↔
      (numerator / denominator : ℚ) < bound - 1 / 2 ∨
        (numerator / denominator : ℚ) = bound - 1 / 2 ∧ Odd bound := by
  obtain ⟨within, even⟩ := halfEven_within numerator positive
  generalize (numerator / denominator : ℚ) = quotient at within even ⊢
  generalize halfEven numerator denominator = rounded at within even ⊢
  rw [abs_le] at within
  constructor
  · intro below
    have next : (rounded : ℚ) + 1 ≤ bound := by exact_mod_cast below
    by_cases less : quotient < bound - 1 / 2
    · exact Or.inl less
    · have tie : quotient - rounded = 1 / 2 := by linarith
      have last : (bound : ℚ) = rounded + 1 := by linarith
      refine Or.inr ⟨by linarith, ?_⟩
      have equal : bound = rounded + 1 := by exact_mod_cast last
      rw [equal]
      exact (even (by rw [tie]; norm_num)).add_one
  · rintro (less | ⟨tie, odd⟩)
    · have below : (rounded : ℚ) < bound := by linarith
      exact_mod_cast below
    · have below : (rounded : ℚ) ≤ bound := by linarith
      refine lt_of_le_of_ne (by exact_mod_cast below) fun equal => ?_
      subst equal
      refine Nat.not_even_iff_odd.mpr odd (even ?_)
      rw [tie, sub_sub_cancel_left, abs_neg]
      norm_num

end Integers

end Rounding

namespace Binary64

section Values

/-- The rational number that a finite double stands for. -/
def toRat (number : Float) : ℚ :=
  (if isNegative number then -1 else 1) * (units number / unitsPerOne)

/-- Half way between the largest double and the next power of two. -/
def overflowBound : ℚ := 2 ^ 1024 - 2 ^ 970

/-- **The double nearest to a rational number** that is not negative. Of two doubles that are as near
it is the one with an even last bit, and it is infinite from a bound on. -/
structure IsNearest (exact : ℚ) (number : Float) : Prop where
  real : isNaN number = false
  positive : isNegative number = false
  finite : isFinite number = true ↔ exact < overflowBound
  least : isFinite number = true → ∀ other, isFinite other = true →
    |exact - toRat number| ≤ |exact - toRat other|
  even : isFinite number = true → ∀ other, isFinite other = true →
    |exact - toRat number| = |exact - toRat other| →
      toRat other = toRat number ∨ Even number.toBits.toNat

/-- A power of two of units. -/
def step (exponent : Nat) : ℚ := 2 ^ exponent / unitsPerOne

theorem step_pos (exponent : Nat) : 0 < step exponent := by
  have unit : (0 : ℚ) < unitsPerOne := Nat.cast_pos.mpr unitsPerOne_pos
  unfold step
  positivity

theorem step_le {exponent larger : Nat} (le : exponent ≤ larger) : step exponent ≤ step larger := by
  have unit : (0 : ℚ) < unitsPerOne := Nat.cast_pos.mpr unitsPerOne_pos
  exact (div_le_div_iff_of_pos_right unit).mpr (pow_le_pow_right₀ one_le_two le)

theorem step_succ (exponent : Nat) : step (exponent + 1) = 2 * step exponent := by
  rw [step, step, pow_succ', mul_div_assoc]

theorem cast_unitsPerOne : (unitsPerOne : ℚ) = 2 ^ 1074 := by
  unfold unitsPerOne
  -- the number of units is left open, so that no power of it is computed
  generalize 1074 = exponent
  exact Nat.cast_pow 2 exponent

/-- The bound lies a half below the significand that is carried into the exponent of infinity. -/
theorem overflowBound_eq : overflowBound = (2 ^ 53 - 1 / 2) * step 2045 := by
  have more : (2 : ℚ) ^ 2045 = 2 ^ 971 * 2 ^ 1074 := pow_add 2 971 1074
  have half : (2 : ℚ) ^ 971 = 2 ^ 970 * 2 := pow_succ 2 970
  have upper : (2 : ℚ) ^ 1024 = 2 ^ 971 * 2 ^ 53 := pow_add 2 971 53
  have unit : (2 : ℚ) ^ 1074 ≠ 0 := pow_ne_zero 1074 two_ne_zero
  rw [step, cast_unitsPerOne, more, mul_div_cancel_right₀ _ unit, overflowBound, upper, half]
  generalize (2 : ℚ) ^ 970 = middle
  ring

theorem significand_lt (number : Float) : significand number < 2 ^ 53 := by
  have fraction := fractionField_lt number
  unfold significand impliedBit
  split <;> omega

/-- **Every double is a multiple of a power of two of units, or is small.** -/
theorem toRat_eq_or_lt (number : Float) (exponent : Nat) :
    (∃ multiple : ℤ, toRat number = multiple * step exponent) ∨
      0 < exponent ∧ toRat number < impliedBit * step exponent := by
  have unit : (0 : ℚ) < unitsPerOne := Nat.cast_pos.mpr unitsPerOne_pos
  by_cases coarse : exponent ≤ exponentField number - 1
  · left
    obtain ⟨more, exponents⟩ := Nat.exists_eq_add_of_le coarse
    refine ⟨(if isNegative number then -1 else 1) * (significand number * 2 ^ more : ℕ), ?_⟩
    rw [toRat, units_eq, exponents, step]
    push_cast
    split <;> ring
  · right
    have less : significand number * 2 ^ (exponentField number - 1) < impliedBit * 2 ^ exponent :=
      calc significand number * 2 ^ (exponentField number - 1)
          < 2 ^ 53 * 2 ^ (exponentField number - 1) :=
            (Nat.mul_lt_mul_right (Nat.two_pow_pos _)).mpr (significand_lt number)
        _ = impliedBit * 2 ^ (exponentField number - 1 + 1) := by
            rw [Nat.pow_succ' (n := exponentField number - 1), ← Nat.mul_assoc]
            rfl
        _ ≤ impliedBit * 2 ^ exponent :=
            Nat.mul_le_mul_left _ (Nat.pow_le_pow_right two_pos (by omega))
    refine ⟨by omega, ?_⟩
    have size : (units number / unitsPerOne : ℚ) < impliedBit * step exponent := by
      rw [units_eq, step, ← mul_div_assoc, div_lt_div_iff_of_pos_right unit]
      exact_mod_cast less
    have some : (0 : ℚ) ≤ units number / unitsPerOne := div_nonneg (Nat.cast_nonneg _) unit.le
    rw [toRat]
    split <;> linarith

/-- The units of a double whose bits are a number of steps and a rounded significand. -/
theorem units_of_toBits {number : Float} {exponent rounded : Nat}
    (bits : number.toBits.toNat = exponent * impliedBit + rounded)
    (finite : number.toBits.toNat < infinityBits) (few : rounded ≤ 2 ^ 53)
    (normal : 0 < exponent → impliedBit ≤ rounded) :
    units number = rounded * 2 ^ exponent := by
  have field : exponentField number = (exponent * impliedBit + rounded) / impliedBit := by
    rw [← bits]
    exact Nat.mod_eq_of_lt (Nat.div_lt_of_lt_mul (finite.trans_le (by decide)))
  have fraction : fractionField number = (exponent * impliedBit + rounded) % impliedBit := by
    rw [← bits]
    rfl
  unfold impliedBit at field fraction normal
  unfold units impliedBit
  by_cases small : rounded < 2 ^ 52
  · obtain rfl : exponent = 0 := by omega
    rw [if_pos (by omega), Nat.pow_zero, Nat.mul_one]
    omega
  · by_cases carry : rounded = 2 ^ 53
    · subst carry
      have power : exponentField number = exponent + 2 := by omega
      have zero : fractionField number = 0 := by omega
      rw [if_neg (by omega), power, zero, Nat.pow_eq, Nat.add_sub_cancel (m := 1), Nat.pow_succ']
      omega
    · have power : exponentField number = exponent + 1 := by omega
      have part : 0x10000000000000 + fractionField number = rounded := by omega
      rw [if_neg (by omega), power, Nat.pow_eq, Nat.add_sub_cancel, part]

end Values

section Quotients

variable (numerator denominator : Nat)

/-- The leading bits of a quotient, rounded. -/
def roundedSignificand : Nat :=
  Rounding.halfEven (numerator * unitsPerOne)
    (denominator * 2 ^ droppedBits numerator denominator)

/-- The quotient that is rounded: in units, without the bits below its leading ones. -/
def leadingQuotient : ℚ :=
  (numerator * unitsPerOne : ℕ) / (denominator * 2 ^ droppedBits numerator denominator : ℕ)

theorem toBits_nearest :
    (nearest numerator denominator).toBits.toNat =
      min (droppedBits numerator denominator * impliedBit +
        roundedSignificand numerator denominator) infinityBits :=
  toNat_toBits_nearest numerator denominator

theorem isFinite_nearest_iff_lt :
    isFinite (nearest numerator denominator) = true ↔
      droppedBits numerator denominator * impliedBit +
        roundedSignificand numerator denominator < infinityBits := by
  have bits := toBits_nearest numerator denominator
  rw [isFinite, decide_eq_true_eq, exponentField, bits]
  unfold impliedBit infinityBits
  omega

variable {denominator} (positive : 0 < denominator)

include positive

theorem scale_pos : 0 < denominator * 2 ^ droppedBits numerator denominator :=
  Nat.mul_pos positive (Nat.two_pow_pos _)

theorem leadingQuotient_mul_step :
    (numerator / denominator : ℚ) =
      leadingQuotient numerator denominator * step (droppedBits numerator denominator) := by
  have unit : (unitsPerOne : ℚ) ≠ 0 := Nat.cast_ne_zero.mpr unitsPerOne_pos.ne'
  have some : (denominator : ℚ) ≠ 0 := Nat.cast_ne_zero.mpr positive.ne'
  rw [leadingQuotient, step]
  push_cast
  field_simp

/-- The leading bits are no more than fifty-three. -/
theorem leadingQuotient_lt : leadingQuotient numerator denominator < 2 ^ 53 := by
  have few : numerator * unitsPerOne / denominator <
      2 ^ 53 * 2 ^ droppedBits numerator denominator := by
    refine Nat.lt_log2_self.trans_le ?_
    rw [← Nat.pow_add]
    refine Nat.pow_le_pow_right two_pos ?_
    unfold droppedBits
    omega
  rw [Nat.div_lt_iff_lt_mul positive, Nat.mul_assoc, Nat.mul_comm _ denominator] at few
  rw [leadingQuotient, div_lt_iff₀ (Nat.cast_pos.mpr (scale_pos numerator positive))]
  exact_mod_cast few

/-- Where bits are dropped, the leading ones are fifty-three. -/
theorem impliedBit_le_leadingQuotient (dropped : 0 < droppedBits numerator denominator) :
    impliedBit ≤ leadingQuotient numerator denominator := by
  have log : (numerator * unitsPerOne / denominator).log2 =
      52 + droppedBits numerator denominator := by
    unfold droppedBits at dropped ⊢
    omega
  have some : numerator * unitsPerOne / denominator ≠ 0 := by
    intro none
    rw [none] at log
    exact absurd (log.symm.trans_le (by decide : Nat.log2 0 ≤ 51)) (by omega)
  have least := Nat.log2_self_le some
  rw [log, Nat.pow_add, Nat.le_div_iff_mul_le positive, Nat.mul_assoc,
    Nat.mul_comm _ denominator] at least
  rw [leadingQuotient, le_div_iff₀ (Nat.cast_pos.mpr (scale_pos numerator positive))]
  exact_mod_cast least

theorem roundedSignificand_lt_iff (bound : Nat) :
    roundedSignificand numerator denominator < bound ↔
      leadingQuotient numerator denominator < bound - 1 / 2 ∨
        leadingQuotient numerator denominator = bound - 1 / 2 ∧ Odd bound :=
  Rounding.halfEven_lt_iff _ (scale_pos numerator positive) bound

/-- A rounded significand has no more bits than the first number with one bit more. -/
theorem roundedSignificand_le : roundedSignificand numerator denominator ≤ 2 ^ 53 := by
  have few := leadingQuotient_lt numerator positive
  refine Nat.lt_succ_iff.mp ((roundedSignificand_lt_iff numerator positive _).mpr (Or.inl ?_))
  push_cast
  linarith

theorem impliedBit_le_roundedSignificand (dropped : 0 < droppedBits numerator denominator) :
    impliedBit ≤ roundedSignificand numerator denominator := by
  have least := impliedBit_le_leadingQuotient numerator positive dropped
  by_contra below
  rcases (roundedSignificand_lt_iff numerator positive _).mp (Nat.lt_of_not_le below)
    with less | ⟨tie, -⟩ <;> linarith

/-- **The rational number of a rounded quotient.** -/
theorem toRat_nearest (finite : isFinite (nearest numerator denominator) = true) :
    toRat (nearest numerator denominator) =
      roundedSignificand numerator denominator * step (droppedBits numerator denominator) := by
  have below := (isFinite_nearest_iff_lt numerator denominator).mp finite
  have bits := toBits_nearest numerator denominator
  rw [Nat.min_eq_left below.le] at bits
  have size := units_of_toBits bits (bits.trans_lt below) (roundedSignificand_le numerator positive)
    (impliedBit_le_roundedSignificand numerator positive)
  rw [toRat, isNegative_nearest, if_neg Bool.false_ne_true, one_mul, size, step]
  push_cast
  ring

theorem abs_sub_roundedSignificand_le (multiple : ℤ) :
    |leadingQuotient numerator denominator - roundedSignificand numerator denominator| ≤
        |leadingQuotient numerator denominator - multiple| ∧
      (|leadingQuotient numerator denominator - roundedSignificand numerator denominator| =
          |leadingQuotient numerator denominator - multiple| →
        multiple = roundedSignificand numerator denominator ∨
          Even (roundedSignificand numerator denominator)) :=
  Rounding.abs_sub_halfEven_le _ (scale_pos numerator positive) multiple

/-- **No double is nearer than the rounded quotient**, and one that is as near leaves its last bit
even. -/
theorem abs_sub_nearest_le (finite : isFinite (nearest numerator denominator) = true)
    (other : Float) :
    |(numerator / denominator : ℚ) - toRat (nearest numerator denominator)| ≤
        |(numerator / denominator : ℚ) - toRat other| ∧
      (|(numerator / denominator : ℚ) - toRat (nearest numerator denominator)| =
          |(numerator / denominator : ℚ) - toRat other| →
        toRat other = toRat (nearest numerator denominator) ∨
          Even (nearest numerator denominator).toBits.toNat) := by
  have below := (isFinite_nearest_iff_lt numerator denominator).mp finite
  have bits := toBits_nearest numerator denominator
  rw [Nat.min_eq_left below.le] at bits
  have parity : Even (nearest numerator denominator).toBits.toNat ↔
      Even (roundedSignificand numerator denominator) := by
    rw [bits, Nat.even_add, iff_true_left ((by decide : Even impliedBit).mul_left _)]
  rw [parity, toRat_nearest numerator positive finite, leadingQuotient_mul_step numerator positive]
  have nearer := abs_sub_roundedSignificand_le numerator positive
  have least := impliedBit_le_leadingQuotient numerator positive
  have unit := step_pos (droppedBits numerator denominator)
  have grid := toRat_eq_or_lt other (droppedBits numerator denominator)
  generalize droppedBits numerator denominator = dropped at least unit grid ⊢
  generalize leadingQuotient numerator denominator = quotient at nearer least ⊢
  generalize roundedSignificand numerator denominator = rounded at nearer ⊢
  rcases grid with ⟨multiple, equal⟩ | ⟨some, small⟩
  · obtain ⟨le, even⟩ := nearer multiple
    rw [equal, ← sub_mul, ← sub_mul, abs_mul, abs_mul]
    refine ⟨mul_le_mul_of_nonneg_right le (abs_nonneg _), fun tie => ?_⟩
    rcases even (mul_right_cancel₀ (abs_ne_zero.mpr unit.ne') tie) with rfl | even
    · exact Or.inl rfl
    · exact Or.inr even
  · obtain ⟨le, -⟩ := nearer impliedBit
    have strict : |quotient * step dropped - rounded * step dropped| <
        |quotient * step dropped - toRat other| :=
      calc |quotient * step dropped - rounded * step dropped|
          = |quotient - rounded| * step dropped := by rw [← sub_mul, abs_mul, abs_of_pos unit]
        _ ≤ |quotient - impliedBit| * step dropped := mul_le_mul_of_nonneg_right le unit.le
        _ = quotient * step dropped - impliedBit * step dropped := by
            rw [abs_of_nonneg (sub_nonneg.mpr (least some)), sub_mul]
        _ < quotient * step dropped - toRat other := sub_lt_sub_left small _
        _ ≤ |quotient * step dropped - toRat other| := le_abs_self _
    exact ⟨strict.le, fun tie => absurd tie strict.ne⟩

/-- **Where a rounded quotient is finite**: below the middle between the largest double and the next
power of two. -/
theorem isFinite_nearest_iff :
    isFinite (nearest numerator denominator) = true ↔
      (numerator / denominator : ℚ) < overflowBound := by
  have few := roundedSignificand_le numerator positive
  have carry := roundedSignificand_lt_iff numerator positive (2 ^ 53)
  rw [or_iff_left fun tie => absurd tie.2 (by decide), Nat.cast_pow, Nat.cast_ofNat] at carry
  have upper := leadingQuotient_lt numerator positive
  have lower := impliedBit_le_leadingQuotient numerator positive
  have normal := impliedBit_le_roundedSignificand numerator positive
  rw [isFinite_nearest_iff_lt, leadingQuotient_mul_step numerator positive, overflowBound_eq]
  generalize droppedBits numerator denominator = dropped at lower normal ⊢
  generalize leadingQuotient numerator denominator = quotient at carry upper lower ⊢
  generalize roundedSignificand numerator denominator = rounded at few carry normal ⊢
  have unit := step_pos 2045
  unfold impliedBit at lower normal ⊢
  unfold infinityBits
  rcases Nat.lt_trichotomy dropped 2045 with less | rfl | more
  · refine iff_of_true (by omega) ?_
    calc quotient * step dropped
        < 2 ^ 53 * step dropped := mul_lt_mul_of_pos_right upper (step_pos dropped)
      _ ≤ 2 ^ 53 * step 2044 := mul_le_mul_of_nonneg_left (step_le (by omega)) (by norm_num)
      _ ≤ (2 ^ 53 - 1 / 2) * step 2045 := by
        rw [step_succ 2044]
        linarith [step_pos 2044]
  · rw [mul_lt_mul_iff_left₀ unit, ← carry]
    omega
  · have many := normal (by omega)
    refine iff_of_false (by omega) (not_lt.mpr ?_)
    calc (2 ^ 53 - 1 / 2) * step 2045
        ≤ 2 ^ 52 * step 2046 := by
          rw [step_succ 2045]
          linarith
      _ ≤ 2 ^ 52 * step dropped := mul_le_mul_of_nonneg_left (step_le (by omega)) (by norm_num)
      _ ≤ quotient * step dropped :=
        mul_le_mul_of_nonneg_right (by exact_mod_cast lower (by omega)) (step_pos dropped).le

omit positive in
/-- **A quotient below `2 ^ 1000`** has a finite nearest double. -/
theorem isFinite_nearest {places : Nat} (few : places ≤ 1000)
    (small : numerator < denominator * 2 ^ places) :
    isFinite (nearest numerator denominator) = true := by
  have positive : 0 < denominator :=
    Nat.pos_of_ne_zero fun none => by simp [none] at small
  refine (isFinite_nearest_iff numerator positive).mpr ?_
  have lower : (2 : ℚ) ^ 1000 = 2 ^ 970 * 2 ^ 30 := pow_add 2 970 30
  have upper : (2 : ℚ) ^ 1024 = 2 ^ 970 * 2 ^ 54 := pow_add 2 970 54
  have middle : (0 : ℚ) < 2 ^ 970 := pow_pos two_pos 970
  calc (numerator / denominator : ℚ)
      < 2 ^ places := by
        rw [div_lt_iff₀ (Nat.cast_pos.mpr positive), mul_comm]
        exact_mod_cast small
    _ ≤ 2 ^ 1000 := pow_le_pow_right₀ one_le_two few
    _ ≤ overflowBound := by
        rw [overflowBound, lower, upper]
        generalize (2 : ℚ) ^ 970 = unit at middle ⊢
        linarith

/-- **Where a rounded quotient is zero**: up to a half of the least positive double. -/
theorem nearest_eq_zero_iff :
    nearest numerator denominator = 0 ↔ (numerator / denominator : ℚ) ≤ 1 / 2 ^ 1075 := by
  have lower := impliedBit_le_leadingQuotient numerator positive
  have normal := impliedBit_le_roundedSignificand numerator positive
  have zero : nearest numerator denominator = 0 ↔
      droppedBits numerator denominator * impliedBit +
        roundedSignificand numerator denominator = 0 := by
    have bits := toBits_nearest numerator denominator
    have nothing : (0 : Float).toBits.toNat = 0 := by decide +kernel
    unfold infinityBits at bits
    refine ⟨fun equal => ?_, fun none => eq_of_toNat_toBits ?_⟩
    · rw [equal] at bits
      omega
    · omega
  have below := roundedSignificand_lt_iff numerator positive 1
  rw [Nat.lt_one_iff, Nat.cast_one, sub_half, and_iff_left odd_one, ← le_iff_lt_or_eq] at below
  have half : (1 / 2 ^ 1075 : ℚ) = 1 / 2 * step 0 := by
    have next : (2 : ℚ) ^ 1075 = 2 * 2 ^ 1074 := pow_succ' 2 1074
    rw [step, cast_unitsPerOne, next, pow_zero, div_mul_div_comm, mul_one]
  rw [zero, leadingQuotient_mul_step numerator positive, half]
  generalize droppedBits numerator denominator = dropped at lower normal ⊢
  generalize leadingQuotient numerator denominator = quotient at below lower ⊢
  generalize roundedSignificand numerator denominator = rounded at below normal ⊢
  rcases Nat.eq_zero_or_pos dropped with rfl | some
  · rw [mul_le_mul_iff_left₀ (step_pos 0), ← below]
    omega
  · have many := normal some
    unfold impliedBit at many
    refine iff_of_false (by omega) (not_le.mpr ?_)
    calc 1 / 2 * step 0
        < impliedBit * step 0 := mul_lt_mul_of_pos_right (by norm_num [impliedBit]) (step_pos 0)
      _ ≤ impliedBit * step dropped :=
        mul_le_mul_of_nonneg_left (step_le dropped.zero_le) (Nat.cast_nonneg _)
      _ ≤ quotient * step dropped := mul_le_mul_of_nonneg_right (lower some) (step_pos dropped).le

/-- **The double written for a quotient is the nearest one.** -/
theorem isNearest_nearest : IsNearest (numerator / denominator) (nearest numerator denominator) where
  real := isNaN_nearest numerator denominator
  positive := isNegative_nearest numerator denominator
  finite := isFinite_nearest_iff numerator positive
  least finite other _ := (abs_sub_nearest_le numerator positive finite other).1
  even finite other _ := (abs_sub_nearest_le numerator positive finite other).2

end Quotients

section Unique

variable {number other : Float}

theorem units_lt (number : Float) : units number < impliedBit * 2 ^ exponentField number := by
  have fraction := fractionField_lt number
  have leading : impliedBit = 2 ^ 52 := rfl
  rw [units]
  split
  · rename_i small
    rw [small, Nat.pow_zero, Nat.mul_one]
    exact fraction
  · obtain ⟨exponent, equal⟩ := Nat.exists_eq_succ_of_ne_zero ‹exponentField number ≠ 0›
    rw [equal, Nat.succ_sub_one, Nat.pow_eq, Nat.pow_succ', ← Nat.mul_assoc]
    exact (Nat.mul_lt_mul_right (Nat.two_pow_pos _)).mpr (by omega)

theorem le_units (normal : exponentField number ≠ 0) :
    impliedBit * 2 ^ (exponentField number - 1) ≤ units number := by
  rw [units, if_neg normal]
  exact Nat.mul_le_mul_right _ (Nat.le_add_right _ _)

/-- **Greater bits of a magnitude stand for a greater number.** -/
theorem units_lt_units (real : isNaN number = false) (positive : isNegative number = false)
    (real' : isNaN other = false) (positive' : isNegative other = false)
    (less : number.toBits.toNat < other.toBits.toNat) : units number < units other := by
  have parts {value : Float} (real : isNaN value = false) (positive : isNegative value = false) :
      value.toBits.toNat = exponentField value * impliedBit + fractionField value := by
    have le := toNat_toBits_le real positive
    unfold infinityBits at le
    unfold exponentField fractionField impliedBit
    omega
  have leading : impliedBit = 2 ^ 52 := rfl
  have fraction := fractionField_lt number
  have fraction' := fractionField_lt other
  rw [parts real positive, parts real' positive', leading] at less
  by_cases same : exponentField number = exponentField other
  · have smaller : fractionField number < fractionField other := by omega
    unfold units
    rw [same]
    split
    · exact smaller
    · exact (Nat.mul_lt_mul_right (Nat.two_pow_pos _)).mpr (Nat.add_lt_add_left smaller _)
  · calc units number
        < impliedBit * 2 ^ exponentField number := units_lt number
      _ ≤ impliedBit * 2 ^ (exponentField other - 1) :=
        Nat.mul_le_mul_left _ (Nat.pow_le_pow_right two_pos (by omega))
      _ ≤ units other := le_units (by omega)

theorem toRat_lt_toRat (real : isNaN number = false) (positive : isNegative number = false)
    (real' : isNaN other = false) (positive' : isNegative other = false)
    (less : number.toBits.toNat < other.toBits.toNat) : toRat number < toRat other := by
  have unit : (0 : ℚ) < unitsPerOne := Nat.cast_pos.mpr unitsPerOne_pos
  rw [toRat, toRat, positive, positive', if_neg Bool.false_ne_true, one_mul, one_mul,
    div_lt_div_iff_of_pos_right unit]
  exact_mod_cast units_lt_units real positive real' positive' less

variable {exact : ℚ}

/-- **A number from the bound on is rounded to infinity**, and no other is. -/
theorem IsNearest.eq_infinity_iff (nearest : IsNearest exact number) :
    number = infinity ↔ overflowBound ≤ exact := by
  have infinite : isFinite infinity = false := by decide +kernel
  rw [← not_lt, ← nearest.finite, Bool.not_eq_true]
  exact ⟨fun equal => equal ▸ infinite, eq_infinity nearest.real nearest.positive⟩

/-- Of two doubles that are as near, one has an odd last bit: there is no double between them. -/
theorem IsNearest.not_below (one : IsNearest exact number) (two : IsNearest exact other)
    (finite : isFinite number = true) (finite' : isFinite other = true) :
    ¬number.toBits.toNat < other.toBits.toNat := by
  intro less
  have tie := le_antisymm (one.least finite other finite') (two.least finite' number finite)
  have apart := toRat_lt_toRat one.real one.positive two.real two.positive less
  have even := (one.even finite other finite' tie).resolve_left apart.ne'
  have even' := (two.even finite' number finite tie.symm).resolve_left apart.ne
  have next : number.toBits.toNat + 1 < other.toBits.toNat := by
    rw [Nat.even_iff] at even even'
    omega
  -- the double between them, which is nearer than both
  obtain ⟨middle, bits, real, positive, inside⟩ :=
    exists_of_lt (next.trans (toNat_toBits_lt two.real two.positive finite'))
  have above := toRat_lt_toRat one.real one.positive real positive (by omega)
  have below := toRat_lt_toRat real positive two.real two.positive (by omega)
  have least := one.least finite middle inside
  rcases abs_eq_abs.mp tie with equal | opposite
  · exact apart.ne (sub_right_injective equal)
  · have nearer : |exact - toRat middle| < exact - toRat number :=
      abs_lt.mpr ⟨by linarith, by linarith⟩
    exact absurd least (not_le.mpr (nearer.trans_le (le_abs_self _)))

/-- **There is one nearest double.** -/
theorem IsNearest.unique (one : IsNearest exact number) (two : IsNearest exact other) :
    number = other := by
  have same : isFinite number = isFinite other :=
    Bool.eq_iff_iff.mpr (one.finite.trans two.finite.symm)
  cases finite : isFinite number with
  | false =>
    rw [eq_infinity one.real one.positive finite,
      eq_infinity two.real two.positive (same.symm.trans finite)]
  | true =>
    have finite' := same.symm.trans finite
    have forward := one.not_below two finite finite'
    have backward := two.not_below one finite' finite
    exact eq_of_toNat_toBits (by omega)

/-- Only the nearest double is one. -/
theorem IsNearest.iff_eq (near : IsNearest exact number) :
    IsNearest exact other ↔ other = number :=
  ⟨fun near' => near'.unique near, fun same => same ▸ near⟩

end Unique

end Binary64

end ScientificCalculator
