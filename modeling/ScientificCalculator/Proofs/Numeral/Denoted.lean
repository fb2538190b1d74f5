/-
**The number that a numeral stands for.**

A numeral is a plain literal, perhaps with a minus sign in front of it and with an exponent behind
it. Without an exponent it stands for the value of the literal, or for its opposite.

* `Numeral.signed`: a text with its sign.
* `Numeral.IsExponent`: the texts of exponents.
* `Numeral.read?_literal`: the number of a literal with its sign.
* `Numeral.exists_read?_scaled`: a literal with an exponent stands for a number.
-/

import ScientificCalculator.Numeral.Reader
import ScientificCalculator.Proofs.Canonical.Typed
import ScientificCalculator.Proofs.Token.Lexer

namespace ScientificCalculator.Numeral

open Text (stops_nil stops_cons)
open Token (startsNumber)

section Parts

/-- A text with a minus sign in front of it, if it is that of a negative number. -/
def signed (negative : Bool) (text : List Char) : List Char :=
  if negative then '-' :: text else text

@[simp]
theorem signed_true (text : List Char) : signed true text = '-' :: text :=
  rfl

@[simp]
theorem signed_false (text : List Char) : signed false text = text :=
  rfl

/-- A number, or its opposite. -/
def oppositeIf (negative : Bool) (number : Float) : Float :=
  if negative then -number else number

@[simp]
theorem oppositeIf_true (number : Float) : oppositeIf true number = -number :=
  rfl

@[simp]
theorem oppositeIf_false (number : Float) : oppositeIf false number = number :=
  rfl

/-- The text of an exponent: digits, perhaps with a sign in front of them. -/
inductive IsExponent : List Char → Prop
  | digits {digits : List Char} (present : digits ≠ [])
      (all : ∀ digit ∈ digits, digit.isDigit = true) : IsExponent digits
  | plus {digits : List Char} (present : digits ≠ [])
      (all : ∀ digit ∈ digits, digit.isDigit = true) : IsExponent ('+' :: digits)
  | minus {digits : List Char} (present : digits ≠ [])
      (all : ∀ digit ∈ digits, digit.isDigit = true) : IsExponent ('-' :: digits)

variable {digits : List Char}

theorem digitsValue?_of_digits (present : digits ≠ [])
    (all : ∀ digit ∈ digits, digit.isDigit = true) :
    digitsValue? digits = some (Nat.ofDigitChars 10 digits 0) := by
  rw [digitsValue?, if_pos ⟨present, List.all_eq_true.mpr all⟩]

/-- What starts with a digit has no sign. -/
theorem splitSign_of_digit {first : Char} (digit : first.isDigit = true) (rest : List Char) :
    splitSign (first :: rest) = (false, first :: rest) := by
  unfold splitSign
  split
  · rename_i equal
    rw [(List.cons.inj equal).1] at digit
    cases digit
  · rename_i equal
    rw [(List.cons.inj equal).1] at digit
    cases digit
  · rfl

theorem splitSign_signed {first : Char} (digit : first.isDigit = true) (rest : List Char)
    (negative : Bool) : splitSign (signed negative (first :: rest)) = (negative, first :: rest) := by
  cases negative with
  | true => rfl
  | false => exact splitSign_of_digit digit rest

/-- An exponent stands for an integer. -/
theorem IsExponent.exists_exponent? {exponent : List Char} (integer : IsExponent exponent) :
    ∃ value, exponent? ('e' :: exponent) = some value := by
  have read {negative : Bool} {digits : List Char} (split : splitSign exponent = (negative, digits))
      (present : digits ≠ []) (all : ∀ digit ∈ digits, digit.isDigit = true) :
      ∃ value, exponent? ('e' :: exponent) = some value := by
    rw [exponent?, if_pos (Or.inl rfl), split]
    dsimp only
    rw [digitsValue?_of_digits present all]
    exact ⟨_, rfl⟩
  cases integer with
  | digits present all =>
    obtain ⟨first, rest, rfl⟩ := List.exists_cons_of_ne_nil present
    exact read (splitSign_of_digit (all first List.mem_cons_self) rest) present all
  | plus present all => exact read rfl present all
  | minus present all => exact read rfl present all

end Parts

section Letters

variable {literal : Literal} (negative : Bool)

/-- A literal has no letter for an exponent. -/
theorem letter_notMem_literal (plain : literal.Plain) : 'e' ∉ signed negative literal.text := by
  have digits : 'e' ∉ literal.text := by
    intro member
    rcases plain.mem_text member with digit | point
    · exact absurd digit (by decide)
    · exact absurd point (by decide)
  cases negative with
  | true => exact not_or.mpr ⟨by decide, digits⟩ ∘ List.mem_cons.mp
  | false => exact digits

theorem letter_mem_scaled (before exponent : List Char) :
    'e' ∈ signed negative (before ++ 'e' :: exponent) := by
  cases negative <;> simp

end Letters

section Read

variable {literal : Literal} (plain : literal.Plain)

include plain

/-- **The decimal of a literal** with what may stand behind it. -/
theorem decimal?_append {tail : List Char} (stops : Text.Stops startsNumber tail) :
    decimal? (literal.text ++ tail) = (exponent? tail).map fun exponent =>
      ⟨literal.numerator, heldExponent (literal.whole ++ literal.fraction).length
        (exponent - literal.fraction.length)⟩ := by
  have present : literal.whole ++ literal.fraction ≠ [] :=
    List.append_ne_nil_of_left_ne_nil plain.present _
  have all : ∀ digit ∈ literal.whole ++ literal.fraction, digit.isDigit = true :=
    List.forall_mem_append.mpr ⟨plain.whole, plain.fraction⟩
  simp only [decimal?, plain.split_append stops, digitsValue?_of_digits present all]
  cases exponent? tail <;> rfl

/-- A numeral with a literal is no word. -/
theorem read?_append (negative : Bool) (tail : List Char) :
    read? (signed negative (literal.text ++ tail)) =
      (decimal? (literal.text ++ tail)).map fun decimal =>
        oppositeIf negative decimal.toFloat := by
  obtain ⟨first, rest, equal, digit⟩ := plain.text_eq_cons
  rw [equal, List.cons_append, read?, splitSign_signed digit]
  have letter : (first.isUpper || first.isLower) = false := Canonical.isAlpha_of_isDigit digit
  have upper := (Bool.or_eq_false_iff.mp letter).1
  have same : first.toLower = first := dif_neg (of_decide_eq_false upper)
  have lower : first.toLower.isDigit = true := same.symm ▸ digit
  have word {letter : Char} {others : List Char} (other : letter.isDigit = false) :
      (first :: (rest ++ tail)).map Char.toLower ≠ letter :: others := by
    rintro same
    rw [← (List.cons.inj same).1, lower] at other
    cases other
  have infinite : ¬((first :: (rest ++ tail)).map Char.toLower = "inf".toList ∨
      (first :: (rest ++ tail)).map Char.toLower = "infinity".toList) :=
    not_or.mpr ⟨word rfl, word rfl⟩
  have real : (first :: (rest ++ tail)).map Char.toLower ≠ "nan".toList := word rfl
  dsimp only
  rw [magnitude?, if_neg infinite, if_neg real, Option.map_map]
  rfl

/-- **A literal with its sign stands for its value**, or for the opposite. -/
theorem read?_literal (negative : Bool) :
    read? (signed negative literal.text) = some (oppositeIf negative literal.toFloat) := by
  have read := read?_append plain negative []
  rw [decimal?_append plain stops_nil, List.append_nil] at read
  rw [read]
  have held : heldExponent (literal.whole ++ literal.fraction).length
      ((0 : Int) - literal.fraction.length) = -(literal.fraction.length : Int) := by
    rw [heldExponent, List.length_append]
    omega
  have value : Decimal.toFloat ⟨literal.numerator, -(literal.fraction.length : Int)⟩ =
      literal.toFloat := by
    rw [Decimal.toFloat, Decimal.numerator, Decimal.denominator, Int.neg_neg, Int.toNat_natCast,
      Int.toNat_neg_natCast, Nat.pow_eq, Nat.pow_zero, Nat.mul_one]
    rfl
  show some (oppositeIf negative (Decimal.toFloat ⟨literal.numerator, _⟩)) = _
  rw [held, value]

/-- **A literal with an exponent stands for a number.** -/
theorem exists_read?_scaled {exponent : List Char} (integer : IsExponent exponent)
    (negative : Bool) :
    ∃ number, read? (signed negative (literal.text ++ 'e' :: exponent)) = some number := by
  obtain ⟨value, found⟩ := integer.exists_exponent?
  rw [read?_append plain, decimal?_append plain (stops_cons.mpr (by decide)), found]
  exact ⟨_, rfl⟩

end Read

end ScientificCalculator.Numeral
