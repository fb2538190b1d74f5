/-
**The rational number that a numeral stands for.**

A literal and a decimal stand for an exact quotient, and a numeral for such a quotient with its sign.
Reading rounds this quotient once: bounding the exponent of a numeral does not change the double
nearest to it.

* `Literal.toRat`, `Decimal.toRat`: the exact values.
* `Decimal.isNearest_toFloat`: a decimal is read as the double nearest to it.
* `Decimal.toRat_literal`, `Decimal.toRat_trimmed`: laying out a decimal keeps its value.
* `Decimal.toFloat_heldExponent`: the bounds on exponents do not matter.
* `Numeral.rational?`: the exact value of a text, if it is a numeral.
* `Numeral.rational?_literal`, `Numeral.rational?_scaled`: the values of literals and of scaled literals.
* `Numeral.read?_scaled`: what a scaled literal is read as.
-/

import ScientificCalculator.Proofs.Binary64.Nearest
import ScientificCalculator.Proofs.Numeral.Denoted
import ScientificCalculator.Proofs.Numeral.ReadBack

namespace ScientificCalculator

open Binary64 (IsNearest)

/-- The rational number that a literal stands for. -/
def Literal.toRat (literal : Literal) : ℚ :=
  literal.numerator / literal.denominator

namespace Decimal

/-- The rational number that a decimal stands for. -/
def toRat (decimal : Decimal) : ℚ :=
  decimal.significand * 10 ^ decimal.exponent

section Values

variable (decimal : Decimal)

theorem toRat_eq_div : decimal.toRat = decimal.numerator / decimal.denominator := by
  have ten : (10 : ℚ) ≠ 0 := by norm_num
  have parts : decimal.exponent = decimal.exponent.toNat - ((-decimal.exponent).toNat : ℤ) := by
    omega
  rw [toRat, numerator, denominator, Nat.pow_eq, Nat.pow_eq, Nat.cast_mul, Nat.cast_pow,
    Nat.cast_pow, Nat.cast_ofNat, mul_div_assoc, ← zpow_natCast, ← zpow_natCast,
    ← zpow_sub₀ ten, ← parts]

/-- **A decimal is read as the double nearest to it.** -/
theorem isNearest_toFloat : IsNearest decimal.toRat decimal.toFloat := by
  rw [toRat_eq_div]
  exact Binary64.isNearest_nearest _ decimal.denominator_pos

/-- Decimals of one value are read as one double. -/
theorem toFloat_eq_of_toRat_eq {decimal other : Decimal} (equal : decimal.toRat = other.toRat) :
    decimal.toFloat = other.toFloat :=
  (equal ▸ decimal.isNearest_toFloat).unique other.isNearest_toFloat

theorem toRat_pointedLiteral {places : Nat} (some : 0 < places) (number : Nat) :
    (pointedLiteral places number).toRat = number / 10 ^ places := by
  rw [Literal.toRat, numerator_pointedLiteral some, denominator_pointedLiteral some, Nat.cast_pow,
    Nat.cast_ofNat]

/-- **The literal of a decimal stands for the same number.** -/
theorem toRat_literal : decimal.literal.toRat = decimal.toRat := by
  rw [literal]
  split
  · rename_i whole
    have exponent : (decimal.exponent.toNat : ℤ) = decimal.exponent := Int.toNat_of_nonneg whole
    rw [Literal.toRat, Literal.numerator, Literal.denominator, List.append_nil,
      Nat.ofDigitChars_append, Nat.ofDigitChars_ten_toDigits, Nat.ofDigitChars_replicate_zero,
      List.length_nil, Nat.pow_eq, Nat.pow_zero, Nat.cast_one, div_one, Nat.cast_mul, Nat.cast_pow,
      Nat.cast_ofNat, mul_comm, toRat, ← zpow_natCast, exponent]
  · rename_i broken
    have exponent : ((-decimal.exponent).toNat : ℤ) = -decimal.exponent :=
      Int.toNat_of_nonneg (by omega)
    rw [toRat_pointedLiteral (by omega), toRat, ← zpow_natCast, exponent, zpow_neg, div_inv_eq_mul]

/-- A zero at the end of the significand counts as one in the exponent. -/
theorem toRat_mul_pow (significand zeros : Nat) (exponent : Int) :
    toRat ⟨significand * 10 ^ zeros, exponent⟩ = toRat ⟨significand, exponent + zeros⟩ := by
  have ten : (10 : ℚ) ≠ 0 := by norm_num
  rw [toRat, toRat, Nat.cast_mul, Nat.cast_pow, Nat.cast_ofNat, zpow_add₀ ten, zpow_natCast]
  ring

/-- **Zeros at the end of the significand do not matter.** -/
theorem toRat_trimmed (significand : Nat) (exponent : Int) :
    (trimmed significand exponent).toRat = toRat ⟨significand, exponent⟩ := by
  induction significand, exponent using trimmed.induct with
  | case1 significand exponent zero ih =>
    have tenfold : significand / 10 * 10 ^ 1 = significand :=
      Nat.div_mul_cancel (Nat.dvd_of_mod_eq_zero zero.2)
    have same := toRat_mul_pow (significand / 10) 1 exponent
    rw [tenfold, Nat.cast_one] at same
    rw [trimmed, if_pos zero, ih, same]
  | case2 significand exponent last => rw [trimmed, if_neg last]

end Values

section Held

variable {significand digits : Nat} {exponent : Int}

theorem two_pow_le {places : Nat} (few : places ≤ 1200) : (2 : ℚ) ^ places ≤ 10 ^ 400 :=
  calc (2 : ℚ) ^ places
      ≤ 2 ^ (3 * 400) := pow_le_pow_right₀ one_le_two few
    _ = (2 ^ 3) ^ 400 := pow_mul 2 3 400
    _ ≤ 10 ^ 400 := pow_le_pow_left₀ (by norm_num) (by norm_num) 400

/-- A significand other than zero is infinite with every exponent from `400` on. -/
theorem toFloat_eq_infinity (some : 0 < significand) (large : 400 ≤ exponent) :
    toFloat ⟨significand, exponent⟩ = Binary64.infinity := by
  refine (isNearest_toFloat _).eq_infinity_iff.mpr ?_
  have one : (1 : ℚ) ≤ significand := by exact_mod_cast some
  calc Binary64.overflowBound
      ≤ 2 ^ 1024 := sub_le_self _ (pow_nonneg zero_le_two 970)
    _ ≤ 10 ^ 400 := two_pow_le (by decide)
    _ = 10 ^ (400 : ℤ) := (zpow_natCast 10 400).symm
    _ ≤ 10 ^ exponent := zpow_le_zpow_right₀ (by norm_num) large
    _ ≤ significand * 10 ^ exponent := le_mul_of_one_le_left (by positivity) one

/-- It is zero where the exponent lies `400` below its number of digits. -/
theorem toFloat_eq_zero (few : significand < 10 ^ digits) (small : exponent ≤ -(digits + 400)) :
    toFloat ⟨significand, exponent⟩ = 0 := by
  have ten : (10 : ℚ) ≠ 0 := by norm_num
  have exact := toRat_eq_div ⟨significand, exponent⟩
  rw [toFloat, Binary64.nearest_eq_zero_iff _ (denominator_pos _), ← exact]
  have below : (significand : ℚ) ≤ 10 ^ (digits : ℤ) := by
    rw [zpow_natCast]
    exact_mod_cast few.le
  calc (significand : ℚ) * 10 ^ exponent
      ≤ 10 ^ (digits : ℤ) * 10 ^ (-(digits + 400) : ℤ) :=
        mul_le_mul below (zpow_le_zpow_right₀ (by norm_num) small) (by positivity) (by positivity)
    _ = 1 / 10 ^ 400 := by
        have exponents : (digits + -(digits + 400) : ℤ) = -(400 : ℕ) := by omega
        rw [← zpow_add₀ ten, exponents, zpow_neg, zpow_natCast, one_div]
    _ ≤ 1 / 2 ^ 1075 :=
        one_div_le_one_div_of_le (pow_pos two_pos 1075) (two_pow_le (by decide))

/-- **The bounds on exponents do not matter**: beyond them a significand of so many digits is
infinite or zero anyway. -/
theorem toFloat_heldExponent (few : significand < 10 ^ digits) :
    toFloat ⟨significand, Numeral.heldExponent digits exponent⟩ =
      toFloat ⟨significand, exponent⟩ := by
  unfold Numeral.heldExponent
  by_cases none : significand = 0
  · refine toFloat_eq_of_toRat_eq ?_
    rw [toRat, toRat, none, Nat.cast_zero, zero_mul, zero_mul]
  · have some := Nat.pos_of_ne_zero none
    rcases le_or_gt 400 exponent with large | inside
    · rw [toFloat_eq_infinity some (by omega), toFloat_eq_infinity some large]
    · rcases le_or_gt exponent (-(digits + 400)) with small | inside
      · rw [toFloat_eq_zero few (by omega), toFloat_eq_zero few small]
      · rw [min_eq_right (by omega), max_eq_right (by omega)]

end Held

end Decimal

namespace Numeral

open Token (startsNumber)

/-- The rational number that an unsigned numeral stands for. -/
def rationalMagnitude? (text : List Char) : Option ℚ := do
  let (literal, tail) := Literal.split text
  let significand ← digitsValue? (literal.whole ++ literal.fraction)
  let exponent ← exponent? tail
  some (Decimal.toRat ⟨significand, exponent - literal.fraction.length⟩)

/-- A rational number, or its opposite. -/
def signedValue (negative : Bool) (value : ℚ) : ℚ :=
  if negative then -value else value

/-- The rational number that a text stands for, if it is a numeral with digits. -/
def rational? (text : List Char) : Option ℚ :=
  let (negative, magnitude) := splitSign text
  (rationalMagnitude? magnitude).map (signedValue negative)

section Literals

variable {literal : Literal} (plain : literal.Plain) (negative : Bool)

include plain

theorem numerator_lt : literal.numerator < 10 ^ (literal.whole ++ literal.fraction).length :=
  ofDigitChars_lt (List.forall_mem_append.mpr ⟨plain.whole, plain.fraction⟩)

/-- The exact value of a literal with what may stand behind it. -/
theorem rational?_append {tail : List Char} (stops : Text.Stops startsNumber tail) :
    rational? (signed negative (literal.text ++ tail)) = (exponent? tail).map fun exponent =>
      signedValue negative
        (Decimal.toRat ⟨literal.numerator, exponent - literal.fraction.length⟩) := by
  obtain ⟨first, rest, equal, digit⟩ := plain.text_eq_cons
  have present : literal.whole ++ literal.fraction ≠ [] :=
    List.append_ne_nil_of_left_ne_nil plain.present _
  have all : ∀ digit ∈ literal.whole ++ literal.fraction, digit.isDigit = true :=
    List.forall_mem_append.mpr ⟨plain.whole, plain.fraction⟩
  have magnitude : rationalMagnitude? (literal.text ++ tail) = (exponent? tail).map fun exponent =>
      Decimal.toRat ⟨literal.numerator, exponent - literal.fraction.length⟩ := by
    simp only [rationalMagnitude?, plain.split_append stops, digitsValue?_of_digits present all]
    cases exponent? tail <;> rfl
  rw [equal, List.cons_append] at magnitude ⊢
  rw [rational?, splitSign_signed digit]
  dsimp only
  rw [magnitude, Option.map_map]
  rfl

/-- **A literal with its sign stands for its value**, or for the opposite. -/
theorem rational?_literal :
    rational? (signed negative literal.text) = some (signedValue negative literal.toRat) := by
  have exact := rational?_append plain negative Text.stops_nil
  rw [List.append_nil] at exact
  have value : Decimal.toRat ⟨literal.numerator, 0 - literal.fraction.length⟩ = literal.toRat := by
    rw [Decimal.toRat, zero_sub, zpow_neg, zpow_natCast, Literal.toRat, Literal.denominator,
      Nat.pow_eq, Nat.cast_pow, Nat.cast_ofNat, div_eq_mul_inv]
  rw [exact, ← value]
  rfl

/-- **A literal with an exponent** stands for the value of the literal, scaled. -/
theorem rational?_scaled {exponent : List Char} {value : Int}
    (integer : exponent? ('e' :: exponent) = some value) :
    rational? (signed negative (literal.text ++ 'e' :: exponent)) =
      some (signedValue negative (literal.toRat * 10 ^ value)) := by
  have ten : (10 : ℚ) ≠ 0 := by norm_num
  have scaled : Decimal.toRat ⟨literal.numerator, value - literal.fraction.length⟩ =
      literal.toRat * 10 ^ value := by
    rw [Decimal.toRat, zpow_sub₀ ten, zpow_natCast, Literal.toRat, Literal.denominator, Nat.pow_eq,
      Nat.cast_pow, Nat.cast_ofNat]
    ring
  rw [rational?_append plain negative (Text.stops_cons.mpr (by decide)), integer, ← scaled]
  rfl

/-- **What a literal with an exponent is read as**: the double nearest to its exact value. -/
theorem read?_scaled {exponent : List Char} {value : Int}
    (integer : exponent? ('e' :: exponent) = some value) :
    read? (signed negative (literal.text ++ 'e' :: exponent)) =
      some (oppositeIf negative
        (Decimal.toFloat ⟨literal.numerator, value - literal.fraction.length⟩)) := by
  rw [read?_append plain, decimal?_append plain (Text.stops_cons.mpr (by decide)), integer,
    ← Decimal.toFloat_heldExponent (numerator_lt plain)]
  rfl

end Literals

end Numeral

end ScientificCalculator
