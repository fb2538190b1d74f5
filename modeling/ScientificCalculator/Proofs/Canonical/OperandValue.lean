/-
**The value that a mark is applied to.**

It is the number of a literal's digits over a power of ten, and so is its hundredth, with two places
more. These powers have exponents of 32 bits. Below `2 ^ 32` places the values are those of the
literal; with more places they are others, as when the last digit of `2 ^ 32` places counts units.

* `operandValue`, `hundredthValue`: the two values, at any length.
* `operandValue_of_lt`, `hundredthValue_of_lt`: the values of short literals.
* `operandValue_eq_int_iff`, `operandValue_eq_int_iff_of_lt`: where the value is an integer.
* `toRat_hundredthLiteral`: the text of the hundredth stands for its value.
* `tokenize_literalText`: what is written for a value is read as the double nearest to it.
* `behindZeros`: literals with many places, and their values.
-/

import Mathlib.Data.Rat.Floor
import ScientificCalculator.Proofs.Expr.Text
import ScientificCalculator.Proofs.Numeral.Exact

namespace ScientificCalculator.Canonical

open Binary64 (nearest)
open Text (stops_nil)
open Token (tokenize)

section Operands

/-- The value that a mark is applied to. -/
def operandValue (literal : Literal) : ℚ :=
  literal.numerator / 10 ^ (literal.fraction.length % 2 ^ 32)

variable {literal : Literal}

theorem operandValue_eq_div (literal : Literal) :
    operandValue literal = literal.numerator / (operandDenominator literal : ℕ) := by
  rw [operandValue, operandDenominator, powerOfTen_eq, Nat.cast_pow, Nat.cast_ofNat]

/-- **A mark is applied to the value of the literal** below `2 ^ 32` places. -/
theorem operandValue_of_lt (short : literal.fraction.length < 2 ^ 32) :
    operandValue literal = literal.toRat := by
  rw [operandValue_eq_div, operandDenominator_of_lt short, Literal.toRat]

/-- A quotient is an integer where nothing is left over. -/
theorem mod_eq_zero_iff_int {numerator denominator : ℕ} (positive : 0 < denominator) :
    numerator % denominator = 0 ↔ ∃ integer : ℤ, (numerator / denominator : ℚ) = integer := by
  have scale : (denominator : ℚ) ≠ 0 := Nat.cast_ne_zero.mpr positive.ne'
  rw [← Nat.dvd_iff_mod_eq_zero]
  constructor
  · rintro ⟨quotient, rfl⟩
    refine ⟨quotient, ?_⟩
    rw [Nat.cast_mul, mul_div_cancel_left₀ _ scale, Int.cast_natCast]
  · rintro ⟨integer, equal⟩
    rw [div_eq_iff scale] at equal
    have product : (numerator : ℤ) = integer * denominator := by exact_mod_cast equal
    exact Int.natCast_dvd_natCast.mp ⟨integer, by rw [product, mul_comm]⟩

theorem operandValue_eq_int_iff : literal.numerator % operandDenominator literal = 0 ↔
    ∃ integer : ℤ, operandValue literal = integer := by
  rw [operandValue_eq_div]
  exact mod_eq_zero_iff_int (operandDenominator_pos literal)

/-- **A mark is applied to an integer** where all digits after the point are zero, below `2 ^ 32`
places. -/
theorem operandValue_eq_int_iff_of_lt (plain : literal.Plain)
    (short : literal.fraction.length < 2 ^ 32) :
    (∃ integer : ℤ, operandValue literal = integer) ↔ ∀ digit ∈ literal.fraction, digit = '0' := by
  rw [← operandValue_eq_int_iff, operandDenominator_of_lt short,
    literal.numerator_mod_denominator_eq_zero_iff plain.fraction]

/-- The natural number that a mark is applied to. -/
theorem div_operandDenominator_eq {number : ℕ} (equal : operandValue literal = number) :
    literal.numerator % operandDenominator literal = 0 ∧
      literal.numerator / operandDenominator literal = number := by
  have positive := operandDenominator_pos literal
  have scale : (operandDenominator literal : ℚ) ≠ 0 := Nat.cast_ne_zero.mpr positive.ne'
  rw [operandValue_eq_div, div_eq_iff scale] at equal
  have product : literal.numerator = number * operandDenominator literal := by
    exact_mod_cast equal
  rw [product]
  exact ⟨Nat.mul_mod_left _ _, Nat.mul_div_cancel _ positive⟩

/-- The mark is applied to a natural number where nothing is left over. -/
theorem operandValue_eq_natCast (whole : literal.numerator % operandDenominator literal = 0) :
    operandValue literal = (literal.numerator / operandDenominator literal : ℕ) := by
  have scale : (operandDenominator literal : ℚ) ≠ 0 :=
    Nat.cast_ne_zero.mpr (operandDenominator_pos literal).ne'
  rw [operandValue_eq_div, Nat.cast_div (Nat.dvd_of_mod_eq_zero whole) scale]

end Operands

section Hundredths

/-- The value of a hundredth: the quotient is cut off, and the digits that are left are laid out
with two places more than the literal has. -/
def hundredthValue (literal : Literal) : ℚ :=
  let places := literal.fraction.length + 2
  let scale : ℕ := 10 ^ (places % 2 ^ 32)
  let cut := ⌊operandValue literal / 100 * scale⌋₊
  (cut / scale : ℕ) + (cut % scale : ℕ) / 10 ^ places

variable {literal : Literal}

/-- A whole number, a point and a number of places. -/
theorem toRat_paddedDigits {places whole fraction : ℕ} (some : 0 < places)
    (below : fraction < 10 ^ places) :
    Literal.toRat ⟨Nat.toDigits 10 whole, Decimal.paddedDigits places fraction⟩ =
      whole + fraction / 10 ^ places := by
  have scale : (10 ^ places : ℚ) ≠ 0 := by positivity
  have denominator : Literal.denominator
      ⟨Nat.toDigits 10 whole, Decimal.paddedDigits places fraction⟩ = 10 ^ places := by
    rw [Literal.denominator, Nat.pow_eq, Decimal.length_paddedDigits some below]
  rw [Literal.toRat, Literal.numerator_eq, denominator, Nat.ofDigitChars_ten_toDigits,
    Decimal.ofDigitChars_paddedDigits, Nat.cast_add, Nat.cast_mul, Nat.cast_pow, Nat.cast_ofNat,
    add_div, mul_div_cancel_left₀ _ scale]

/-- **The text of the hundredth stands for its value.** -/
theorem toRat_hundredthLiteral (literal : Literal) :
    (hundredthLiteral literal).toRat = hundredthValue literal := by
  have quotient (scale : ℕ) : ⌊operandValue literal / 100 * scale⌋₊ =
      literal.numerator * scale / (operandDenominator literal * 100) := by
    rw [operandValue_eq_div, div_div, div_mul_eq_mul_div, ← Nat.floor_div_eq_div (K := ℚ),
      Nat.cast_mul, Nat.cast_mul, Nat.cast_ofNat]
  have below (number places : ℕ) : number % powerOfTen places < 10 ^ places := by
    refine (Nat.mod_lt number (powerOfTen_pos places)).trans_le ?_
    rw [powerOfTen_eq]
    exact Nat.pow_le_pow_right (by decide) (Nat.mod_le _ _)
  rw [hundredthValue, ← powerOfTen_eq, quotient]
  exact toRat_paddedDigits (Nat.succ_pos _) (below _ _)

/-- **A hundredth is that of the literal** below `2 ^ 32` places, its own two among them. -/
theorem hundredthValue_of_lt (short : literal.fraction.length + 2 < 2 ^ 32) :
    hundredthValue literal = literal.toRat / 100 := by
  have exponent := Nat.mod_eq_of_lt short
  have scale : (10 ^ (literal.fraction.length + 2) : ℚ) ≠ 0 := by positivity
  have exact : literal.toRat / 100 = literal.numerator / 10 ^ (literal.fraction.length + 2) := by
    rw [Literal.toRat, Literal.denominator, Nat.pow_eq, Nat.cast_pow, Nat.cast_ofNat, div_div,
      pow_add]
    norm_num
  have cut : operandValue literal / 100 * (10 ^ (literal.fraction.length + 2) : ℕ) =
      literal.numerator := by
    rw [operandValue_of_lt (Nat.lt_of_add_right_lt short), exact, Nat.cast_pow, Nat.cast_ofNat,
      div_mul_cancel₀ _ scale]
  rw [hundredthValue, exponent, cut, Nat.floor_natCast, exact, eq_div_iff scale, add_mul,
    div_mul_cancel₀ _ scale]
  exact_mod_cast Nat.div_add_mod' literal.numerator (10 ^ (literal.fraction.length + 2))

end Hundredths

section Written

/-- The literal of a quotient is read as the number nearest to it. -/
theorem tokenize_literalText (numerator denominator : Nat) :
    tokenize (literalText (nearest numerator denominator)) =
      .ok [.num (nearest numerator denominator)] := by
  obtain ⟨written, plain, text, value⟩ := literalText_nearest numerator denominator
  have spells : Token.Spells (written.text ++ []) [.num written.toFloat] :=
    .lexeme (plain.lexeme stops_nil) .nil
  rw [List.append_nil, value, ← text] at spells
  exact Token.tokenize_eq_ok_iff.mpr spells

end Written

section Zeros

/-- A number below one, with zeros and then the digits behind its point. -/
def behindZeros (zeros : ℕ) (digits : List Char) : Literal :=
  ⟨['0'], List.replicate zeros '0' ++ digits⟩

variable {zeros : ℕ} {digits : List Char}

theorem plain_behindZeros (all : ∀ digit ∈ digits, digit.isDigit = true) :
    (behindZeros zeros digits).Plain :=
  ⟨List.cons_ne_nil _ _, List.forall_mem_singleton.mpr (by decide),
    List.forall_mem_append.mpr ⟨fun _ => Decimal.isDigit_of_mem_replicate, all⟩⟩

theorem length_fraction_behindZeros :
    (behindZeros zeros digits).fraction.length = zeros + digits.length := by
  rw [behindZeros, List.length_append, List.length_replicate]

theorem numerator_behindZeros :
    (behindZeros zeros digits).numerator = Nat.ofDigitChars 10 digits 0 := by
  rw [behindZeros, Literal.numerator, Nat.ofDigitChars_append, Nat.ofDigitChars_append,
    Nat.ofDigitChars_replicate_zero]
  rfl

/-- It lies strictly between zero and one. -/
theorem toRat_behindZeros (all : ∀ digit ∈ digits, digit.isDigit = true)
    (some : ∃ digit ∈ digits, digit ≠ '0') :
    0 < (behindZeros zeros digits).toRat ∧ (behindZeros zeros digits).toRat < 1 := by
  have positive := ofDigitChars_pos all some
  have small : Nat.ofDigitChars 10 digits 0 < 10 ^ (zeros + digits.length) :=
    (ofDigitChars_lt all).trans_le (Nat.pow_le_pow_right (by decide) (Nat.le_add_left _ _))
  have denominator : (behindZeros zeros digits).denominator = 10 ^ (zeros + digits.length) := by
    rw [Literal.denominator, length_fraction_behindZeros, Nat.pow_eq]
  have scale : (0 : ℚ) < (10 ^ (zeros + digits.length) : ℕ) :=
    Nat.cast_pos.mpr (Nat.pow_pos (by decide))
  rw [Literal.toRat, numerator_behindZeros, denominator]
  exact ⟨div_pos (Nat.cast_pos.mpr positive) scale,
    (div_lt_one scale).mpr (Nat.cast_lt.mpr small)⟩

/-- So it is no integer. -/
theorem toRat_behindZeros_ne_int (all : ∀ digit ∈ digits, digit.isDigit = true)
    (some : ∃ digit ∈ digits, digit ≠ '0') :
    ¬∃ integer : ℤ, (behindZeros zeros digits).toRat = integer := by
  rintro ⟨integer, equal⟩
  obtain ⟨low, high⟩ :
      0 < (behindZeros zeros digits).toRat ∧ (behindZeros zeros digits).toRat < 1 :=
    toRat_behindZeros all some
  rw [equal] at low high
  have above : 0 < integer := by exact_mod_cast low
  have below : integer < 1 := by exact_mod_cast high
  omega

/-- **With `2 ^ 32` places a mark is applied to the number of the digits.** -/
theorem operandDenominator_behindZeros (long : zeros + digits.length = 2 ^ 32) :
    operandDenominator (behindZeros zeros digits) = 1 := by
  rw [operandDenominator, length_fraction_behindZeros, long, powerOfTen_eq, Nat.mod_self,
    Nat.pow_zero]

end Zeros

end ScientificCalculator.Canonical
