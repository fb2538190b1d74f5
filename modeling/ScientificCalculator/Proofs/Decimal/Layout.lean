/-
**The layouts of a decimal, read back.**

All digits in place, a decimal is a literal. In exponential form it is a literal of one whole digit,
scaled, and the exponent makes up for the digits behind the point. Both stand for the decimal itself,
and the scientific form for the decimal that it was rounded to.

* `Numeral.exponent?_integerText`: the text of an integer as an exponent.
* `Decimal.signedIntegerText`, `Decimal.scientific_eq`: the exponent of the scientific form.
* `Decimal.exists_exponential`: the literal of the exponential form.
* `Decimal.length_fraction_literal`: the decimals of a literal.
* `Decimal.rational?_positional`, `Decimal.rational?_exponential`, `Decimal.rational?_scientific`: what the
  layouts stand for.
* `Decimal.read?_positional`, `Decimal.read?_exponential`: what they are read as.
-/

import ScientificCalculator.Proofs.Numeral.Exact

namespace ScientificCalculator

open Numeral (rational? exponent? oppositeIf read? signed signedValue)

section Exponents

namespace Numeral

variable {exponent digits : List Char} {negative : Bool}

/-- The integer of an exponent, from its sign and its digits. -/
theorem exponent?_of_splitSign (split : splitSign exponent = (negative, digits))
    (present : digits ≠ []) (all : ∀ digit ∈ digits, digit.isDigit = true) :
    exponent? ('e' :: exponent) =
      some (if negative then -(Nat.ofDigitChars 10 digits 0 : ℤ)
        else (Nat.ofDigitChars 10 digits 0 : ℤ)) := by
  rw [exponent?, if_pos (Or.inl rfl), split]
  dsimp only
  rw [digitsValue?_of_digits present all]
  rfl

/-- The digits of a natural number start with no sign. -/
theorem splitSign_toDigits (number : Nat) :
    splitSign (Nat.toDigits 10 number) = (false, Nat.toDigits 10 number) := by
  obtain ⟨first, rest, equal⟩ := List.exists_cons_of_ne_nil (Nat.toDigits_ne_nil (b := 10))
  have leading : first ∈ Nat.toDigits 10 number := by
    rw [equal]
    exact List.mem_cons_self
  rw [equal, splitSign_of_digit (Decimal.isDigit_of_mem_toDigits leading)]

/-- **The text of an integer** is its exponent. -/
theorem exponent?_integerText (number : Int) :
    exponent? ('e' :: Decimal.integerText number) = some number := by
  have all : ∀ digit ∈ Nat.toDigits 10 number.natAbs, digit.isDigit = true :=
    fun _ => Decimal.isDigit_of_mem_toDigits
  unfold Decimal.integerText
  split
  · have minus : splitSign ('-' :: Nat.toDigits 10 number.natAbs) =
        (true, Nat.toDigits 10 number.natAbs) := rfl
    rw [exponent?_of_splitSign minus Nat.toDigits_ne_nil all, if_pos rfl,
      Nat.ofDigitChars_ten_toDigits]
    exact congrArg some (by omega)
  · rw [exponent?_of_splitSign (splitSign_toDigits _) Nat.toDigits_ne_nil all,
      if_neg Bool.false_ne_true, Nat.ofDigitChars_ten_toDigits]
    exact congrArg some (by omega)

end Numeral

namespace Decimal

/-- The text of an integer, a plus sign in front of one that is not negative. -/
def signedIntegerText (number : Int) : List Char :=
  (if number < 0 then '-' else '+') :: Nat.toDigits 10 number.natAbs

/-- **So is the text with either sign.** -/
theorem exponent?_signedIntegerText (number : Int) :
    exponent? ('e' :: signedIntegerText number) = some number := by
  have all : ∀ digit ∈ Nat.toDigits 10 number.natAbs, digit.isDigit = true :=
    fun _ => isDigit_of_mem_toDigits
  unfold signedIntegerText
  split
  · have minus : Numeral.splitSign ('-' :: Nat.toDigits 10 number.natAbs) =
        (true, Nat.toDigits 10 number.natAbs) := rfl
    rw [Numeral.exponent?_of_splitSign minus Nat.toDigits_ne_nil all, if_pos rfl,
      Nat.ofDigitChars_ten_toDigits]
    exact congrArg some (by omega)
  · have plus : Numeral.splitSign ('+' :: Nat.toDigits 10 number.natAbs) =
        (false, Nat.toDigits 10 number.natAbs) := rfl
    rw [Numeral.exponent?_of_splitSign plus Nat.toDigits_ne_nil all, if_neg Bool.false_ne_true,
      Nat.ofDigitChars_ten_toDigits]
    exact congrArg some (by omega)

/-- The scientific form, its two parts put together. -/
theorem scientific_eq (places units : Nat) :
    scientific places units =
      pointedText places (roundedTo places units).significand ++
        'e' :: signedIntegerText ((roundedTo places units).exponent + places) := by
  simp only [scientific, signedIntegerText, integerText]
  generalize (roundedTo places units).exponent + places = leading
  split <;> simp

end Decimal

end Exponents

namespace Decimal

variable (decimal : Decimal) (negative : Bool)

/-- **The literal of the exponential form** has the digits of the significand. -/
theorem exists_exponential :
    ∃ literal : Literal, literal.Plain ∧ literal.numerator = decimal.significand ∧
      decimal.exponential =
        literal.text ++ 'e' :: integerText (decimal.exponent + literal.fraction.length) := by
  have digits : ∀ digit ∈ Nat.toDigits 10 decimal.significand, digit.isDigit = true :=
    fun _ => isDigit_of_mem_toDigits
  have read : Nat.ofDigitChars 10 (Nat.toDigits 10 decimal.significand) 0 = decimal.significand :=
    Nat.ofDigitChars_ten_toDigits
  unfold exponential
  split
  · rename_i none
    exact absurd none Nat.toDigits_ne_nil
  · rename_i first others equal
    rw [equal] at digits read
    obtain ⟨leading, following⟩ := List.forall_mem_cons.mp digits
    refine ⟨⟨[first], others⟩, ⟨List.cons_ne_nil _ _, List.forall_mem_singleton.mpr leading,
      following⟩, read, ?_⟩
    unfold Literal.text
    split <;> rfl

/-- A decimal is laid out with the decimals that its exponent tells. -/
theorem length_fraction_literal :
    decimal.literal.fraction.length = (-decimal.exponent).toNat := by
  rw [literal]
  split
  · exact (Int.toNat_eq_zero.mpr (by omega)).symm
  · have scale : 0 < Nat.pow 10 (-decimal.exponent).toNat := Nat.pow_pos (by decide)
    exact length_paddedDigits (by omega) (Nat.mod_lt _ scale)

/-- **All digits in place** stand for the decimal. -/
theorem rational?_positional :
    rational? (signed negative decimal.positional) = some (signedValue negative decimal.toRat) := by
  rw [← text_literal, Numeral.rational?_literal decimal.plain_literal, toRat_literal]

theorem read?_positional :
    read? (signed negative decimal.positional) = some (oppositeIf negative decimal.toFloat) := by
  rw [← text_literal, Numeral.read?_literal decimal.plain_literal, toFloat_literal]

/-- **The exponential form** stands for the decimal. -/
theorem rational?_exponential :
    rational? (signed negative decimal.exponential) = some (signedValue negative decimal.toRat) := by
  have ten : (10 : ℚ) ≠ 0 := by norm_num
  obtain ⟨literal, plain, numerator, text⟩ := decimal.exists_exponential
  have value : literal.toRat * 10 ^ (decimal.exponent + literal.fraction.length) =
      decimal.toRat := by
    have scale : (literal.denominator : ℚ) = 10 ^ literal.fraction.length := by
      rw [Literal.denominator, Nat.pow_eq, Nat.cast_pow, Nat.cast_ofNat]
    rw [Literal.toRat, numerator, scale, zpow_add₀ ten, zpow_natCast, mul_comm (10 ^ _ : ℚ),
      ← mul_assoc, div_mul_cancel₀ _ (pow_ne_zero _ ten), toRat]
  rw [text, Numeral.rational?_scaled plain negative (Numeral.exponent?_integerText _), value]

theorem read?_exponential :
    read? (signed negative decimal.exponential) = some (oppositeIf negative decimal.toFloat) := by
  obtain ⟨literal, plain, numerator, text⟩ := decimal.exists_exponential
  rw [text, Numeral.read?_scaled plain negative (Numeral.exponent?_integerText _), numerator,
    add_sub_cancel_right]

/-- **The scientific form** stands for the rounded decimal. -/
theorem rational?_scientific {places : Nat} (present : 0 < places) (units : Nat) :
    rational? (signed negative (scientific places units)) =
      some (signedValue negative (roundedTo places units).toRat) := by
  have ten : (10 : ℚ) ≠ 0 := by norm_num
  rw [scientific_eq, ← text_pointedLiteral,
    Numeral.rational?_scaled (plain_pointedLiteral _ _) negative (exponent?_signedIntegerText _),
    toRat_pointedLiteral present, zpow_add₀ ten, zpow_natCast, toRat]
  generalize roundedTo places units = rounded
  have scale : (10 : ℚ) ^ places ≠ 0 := pow_ne_zero places ten
  rw [mul_comm (10 ^ rounded.exponent), ← mul_assoc, div_mul_cancel₀ _ scale]

end Decimal

end ScientificCalculator
