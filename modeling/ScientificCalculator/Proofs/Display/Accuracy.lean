/-
**The accuracy of a displayed number.**

The text of a finite number stands for a rational number close to it. In scientific form the two are
at most half a unit of the last decimal apart; else the text reads back as the number, or it has no
more than ten decimals and lies within half a unit of the tenth one.

* `IsScientific`, `IsTrimmed`: the forms of a magnitude.
* `text_of_finite`, `text_oppositeIf`: the sign and the magnitude of a number that is shown.
* `largestOrdinary_lt_iff`, `lt_smallestOrdinary_iff`: where the scientific form is used.
* `isScientific_scientific`, `rational?_ordinary`, `read?_ordinary`: the forms and their values.
* `decimals`, `abs_decimals_sub_le`, `rational?_rounded`: the ten rounded decimals and their value.
* `text_accurate`: the accuracy of every number that is shown.
-/

import ScientificCalculator.Proofs.Binary64.Spacing
import ScientificCalculator.Proofs.Decimal.Leading
import ScientificCalculator.Proofs.Display.Shape

namespace ScientificCalculator.Display

open Binary64 (isFinite isNegative nearest toRat units unitsPerOne unitsPerOne_pos)
open Decimal (leadingExponent roundedTo shortest value)
open Numeral (rational? oppositeIf read? signed signedValue)

section Forms

/-- One digit other than zero, a point, a number of digits, and an exponent with its sign. -/
inductive IsScientific (places : Nat) : List Char → Prop
  | digits {leading sign : Char} {fraction exponent : List Char}
      (digit : leading.isDigit = true) (other : leading ≠ '0')
      (length : fraction.length = places) (following : ∀ digit ∈ fraction, digit.isDigit = true)
      (signed : sign = '+' ∨ sign = '-') (present : exponent ≠ [])
      (all : ∀ digit ∈ exponent, digit.isDigit = true) :
      IsScientific places (leading :: '.' :: fraction ++ 'e' :: sign :: exponent)

/-- Digits, perhaps with a point among them and then with no zero at the end: no exponent. -/
def IsTrimmed (text : List Char) : Prop :=
  ∃ literal : Literal, literal.Plain ∧ text = literal.text ∧ literal.fraction.getLast? ≠ some '0'

/-- **The scientific form** of a positive magnitude. -/
theorem isScientific_scientific {magnitude places : Nat} (some : 0 < magnitude)
    (present : 0 < places) : IsScientific places (Decimal.scientific places magnitude) := by
  obtain ⟨least, most, -⟩ := Decimal.roundedTo_spec some places
  rw [Decimal.scientific_eq, Decimal.pointedText]
  generalize roundedTo places magnitude = rounded at least most
  have scale : 0 < 10 ^ places := Nat.pow_pos (by decide)
  have single : rounded.significand / Nat.pow 10 places < 10 :=
    Nat.div_lt_of_lt_mul (by rwa [Nat.pow_succ] at most)
  have leading : rounded.significand / Nat.pow 10 places ≠ 0 :=
    (Nat.div_pos least scale).ne'
  have below : rounded.significand % Nat.pow 10 places < 10 ^ places := Nat.mod_lt _ scale
  have digit : (rounded.significand / Nat.pow 10 places).digitChar ∈
      Nat.toDigits 10 (rounded.significand / Nat.pow 10 places) := by
    rw [Nat.toDigits_of_lt_base single]
    exact List.mem_singleton_self _
  rw [Nat.toDigits_of_lt_base single]
  refine .digits (Decimal.isDigit_of_mem_toDigits digit) (digitChar_ne_zero single leading)
    (Decimal.length_paddedDigits present below) (fun _ => Decimal.isDigit_of_mem_paddedDigits) ?_
    Nat.toDigits_ne_nil fun _ => Decimal.isDigit_of_mem_toDigits
  split
  · exact Or.inr rfl
  · exact Or.inl rfl

end Forms

section Signs

variable {number : Float}

theorem signedValue_abs (number : Float) :
    signedValue (isNegative number) (value (units number)) = toRat number := by
  rw [signedValue, toRat, value]
  split
  · rw [neg_one_mul]
  · rw [one_mul]

/-- Signs do not matter for the distance of two values. -/
theorem abs_signedValue_sub (negative : Bool) (first second : ℚ) :
    |signedValue negative first - signedValue negative second| = |first - second| := by
  cases negative with
  | true =>
    rw [signedValue, signedValue, if_pos rfl, if_pos rfl, neg_sub_neg, abs_sub_comm]
  | false => rfl

/-- **A finite number other than zero is shown with its sign and its magnitude.** -/
theorem text_of_finite (finite : isFinite number = true) (some : units number ≠ 0) :
    text number = signed (isNegative number) (magnitude (units number)) := by
  simp only [text, finite, some, Bool.not_true, Bool.false_eq_true, if_false]
  cases isNegative number <;> rfl

theorem units_oppositeIf (negative : Bool) (number : Float) :
    units (oppositeIf negative number) = units number := by
  cases negative with
  | true => exact Binary64.units_neg number
  | false => rfl

theorem isFinite_oppositeIf (negative : Bool) (number : Float) :
    isFinite (oppositeIf negative number) = isFinite number := by
  cases negative with
  | true => exact Binary64.isFinite_neg number
  | false => rfl

theorem isNegative_oppositeIf (finite : isFinite number = true)
    (positive : isNegative number = false) (negative : Bool) :
    isNegative (oppositeIf negative number) = negative := by
  cases negative with
  | true =>
    rw [Numeral.oppositeIf_true, Binary64.isNegative_neg finite, positive]
    rfl
  | false => exact positive

/-- **A positive number and its opposite** are shown with the same digits. -/
theorem text_oppositeIf (finite : isFinite number = true) (positive : isNegative number = false)
    (nonzero : units number ≠ 0) (negative : Bool) :
    text (oppositeIf negative number) = signed negative (magnitude (units number)) := by
  have size := units_oppositeIf negative number
  have sign := isNegative_oppositeIf finite positive negative
  have finite' := (isFinite_oppositeIf negative number).trans finite
  rw [text_of_finite finite' (size ▸ nonzero), sign, size]

end Signs

section Bounds

variable {number : Float}

theorem largestOrdinary_lt_iff (magnitude : Nat) :
    largestOrdinary < magnitude ↔ 10 ^ 10 < value magnitude := by
  have unit : (0 : ℚ) < unitsPerOne := Nat.cast_pos.mpr unitsPerOne_pos
  rw [largestOrdinary, value, lt_div_iff₀ unit, ← Nat.cast_lt (α := ℚ), Nat.cast_mul, Nat.pow_eq,
    Nat.cast_pow, Nat.cast_ofNat]

theorem le_largestOrdinary_iff (magnitude : Nat) :
    magnitude ≤ largestOrdinary ↔ value magnitude ≤ 10 ^ 10 := by
  rw [← not_lt, largestOrdinary_lt_iff, not_lt]

/-- **The least ordinary magnitude** is the least double from `10 ^ (-10)` on. -/
theorem lt_smallestOrdinary_iff (finite : isFinite number = true) :
    units number < smallestOrdinary ↔ value (units number) < 1 / 10 ^ 10 := by
  have scale : 0 < Nat.pow 10 10 := by decide
  have near := Binary64.isNearest_nearest 1 scale
  have inside : isFinite (nearest 1 (Nat.pow 10 10)) = true := by decide +kernel
  have bound : 1 * unitsPerOne ≤ smallestOrdinary * Nat.pow 10 10 := by decide +kernel
  have exact : ((1 : ℕ) / (Nat.pow 10 10 : ℕ) : ℚ) = 1 / 10 ^ 10 := by norm_num
  have unit : (0 : ℚ) < unitsPerOne := Nat.cast_pos.mpr unitsPerOne_pos
  have least : toRat (nearest 1 (Nat.pow 10 10)) = value smallestOrdinary :=
    Decimal.toRat_eq_value (Binary64.isNegative_nearest _ _)
  have above : ((1 : ℕ) / (Nat.pow 10 10 : ℕ) : ℚ) ≤ toRat (nearest 1 (Nat.pow 10 10)) := by
    rw [least, value, div_le_div_iff₀ (Nat.cast_pos.mpr scale) unit]
    exact_mod_cast bound
  obtain ⟨magnitude, real, positive, finite', same⟩ := Binary64.exists_magnitude finite
  have size : toRat magnitude = value (units number) :=
    same ▸ Decimal.toRat_eq_value positive
  have order := near.lt_iff inside above finite'
  rwa [size, least, exact, Decimal.value_lt_value_iff] at order

end Bounds

section Ordinary

variable {number : Float} (negative : Bool)

/-- The shortest digits stand for the shortest decimal. -/
theorem rational?_ordinary (magnitude : Nat) :
    rational? (signed negative (ordinary magnitude)) =
      some (signedValue negative (shortest magnitude).toRat) := by
  unfold ordinary
  dsimp only
  split
  · exact Decimal.rational?_exponential _ negative
  · exact Decimal.rational?_positional _ negative

/-- **The shortest digits are read as the double that they were found for.** -/
theorem read?_ordinary (finite : isFinite number = true) :
    read? (signed (isNegative number) (ordinary (units number))) = some number := by
  obtain ⟨magnitude, finite', positive, same, equal⟩ := Binary64.exists_magnitude_eq finite
  have shortest := Decimal.toFloat_shortest (Binary64.isNaN_of_finite finite') positive
  have read : read? (signed (isNegative number) (ordinary (units number))) =
      some (oppositeIf (isNegative number) (Decimal.shortest (units number)).toFloat) := by
    unfold ordinary
    dsimp only
    split
    · exact Decimal.read?_exponential _ _
    · exact Decimal.read?_positional _ _
  rw [read, ← same, shortest, oppositeIf, ← equal]

end Ordinary

section Rounded

variable {magnitude : Nat}

/-- How many units of the tenth decimal are shown for a magnitude. -/
def decimals (magnitude : Nat) : Nat :=
  Rounding.halfEven (magnitude * Nat.pow 10 maximumPlaces) unitsPerOne

theorem rounded_eq (magnitude : Nat) :
    rounded magnitude = (trimmedLiteral maximumPlaces (decimals magnitude)).text :=
  text_trimmedLiteral _ _

/-- They are at most a half of the tenth decimal away from it. -/
theorem abs_decimals_sub_le (magnitude : Nat) :
    |(decimals magnitude / 10 ^ 10 : ℚ) - value magnitude| ≤ 5 / 10 ^ 11 := by
  obtain ⟨within, -⟩ := Rounding.halfEven_within (magnitude * Nat.pow 10 maximumPlaces)
    unitsPerOne_pos
  have scaled : ((magnitude * Nat.pow 10 maximumPlaces : ℕ) : ℚ) / unitsPerOne =
      value magnitude * 10 ^ 10 := by
    rw [value, maximumPlaces, Nat.pow_eq, Nat.cast_mul, Nat.cast_pow, Nat.cast_ofNat,
      mul_div_right_comm]
  rw [scaled] at within
  show |((Rounding.halfEven _ _ : ℕ) : ℚ) / 10 ^ 10 - value magnitude| ≤ 5 / 10 ^ 11
  rw [abs_le] at within ⊢
  constructor <;> linarith [within.1, within.2]

/-- Ordinary magnitudes have some of them. -/
theorem decimals_pos (least : 1 / 10 ^ 10 ≤ value magnitude) : 0 < decimals magnitude := by
  have near := (abs_le.mp (abs_decimals_sub_le magnitude)).1
  have some : (0 : ℚ) < decimals magnitude / 10 ^ 10 := by linarith
  exact_mod_cast (div_pos_iff_of_pos_right (by norm_num)).mp some

/-- **The ten rounded decimals** stand for so many units of the tenth one. -/
theorem rational?_rounded (negative : Bool) (least : 1 / 10 ^ 10 ≤ value magnitude) :
    rational? (signed negative (rounded magnitude)) =
      some (signedValue negative (decimals magnitude / 10 ^ 10)) := by
  rw [rounded_eq, Numeral.rational?_literal (plain_trimmedLiteral _ _),
    toRat_trimmedLiteral _ (decimals_pos least), maximumPlaces]

theorem isTrimmed_rounded (magnitude : Nat) : IsTrimmed (rounded magnitude) :=
  ⟨_, plain_trimmedLiteral _ _, rounded_eq magnitude, getLast?_withoutFinalZeros _⟩

end Rounded

section Points

/-- No more characters follow a point than follow the first one. -/
theorem length_le_afterPoint (before after : List Char) :
    after.length ≤ (afterPoint (before ++ '.' :: after)).length := by
  induction before with
  | nil => exact le_rfl
  | cons first before ih =>
    by_cases point : first = '.'
    · subst point
      show after.length ≤ (before ++ '.' :: after).length
      rw [List.length_append, List.length_cons]
      omega
    · rwa [afterPoint, List.cons_append, List.dropWhile_cons_of_pos (by simpa using point)]

theorem afterPoint_signed (negative : Bool) (digits : List Char) :
    afterPoint (signed negative digits) = afterPoint digits := by
  cases negative <;> rfl

/-- The fraction of a literal is what follows its point. -/
theorem afterPoint_literal {literal : Literal} (plain : literal.Plain) :
    afterPoint literal.text = literal.fraction := by
  have other : ∀ digit ∈ literal.whole, decide (digit ≠ '.') = true := by
    intro digit member
    refine decide_eq_true ?_
    rintro rfl
    exact absurd (plain.whole '.' member) (by decide)
  by_cases none : literal.fraction = []
  · rw [Literal.text_of_fraction_nil none, afterPoint, List.dropWhile_eq_nil_iff.mpr other, none]
    rfl
  · rw [Literal.text_of_fraction_ne_nil none, afterPoint, List.dropWhile_append_of_pos other]
    rfl

/-- **At most ten characters follow a point** of an ordinary magnitude. -/
theorem length_afterPoint_le {magnitude : Nat}
    (inside : ¬(largestOrdinary < magnitude ∨ magnitude < smallestOrdinary)) :
    (afterPoint (Display.magnitude magnitude)).length ≤ maximumPlaces := by
  rw [Display.magnitude, if_neg inside]
  split
  · rw [rounded_eq, afterPoint_literal (plain_trimmedLiteral _ _)]
    exact length_trimmedLiteral_le _ (by decide)
  · exact not_lt.mp ‹_›

end Points

section Accuracy

variable {number : Float}

/-- A number in scientific form is rounded at the sixth decimal behind its leading digit. -/
theorem rational?_text_scientific (finite : isFinite number = true) (nonzero : units number ≠ 0)
    (outside : largestOrdinary < units number ∨ units number < smallestOrdinary) :
    ∃ shown, rational? (text number) = some shown ∧
      |shown - toRat number| ≤ 10 ^ (leadingExponent (units number) - 6) / 2 := by
  have positive := Nat.pos_of_ne_zero nonzero
  obtain ⟨-, -, close⟩ := Decimal.roundedTo_spec positive scientificPlaces
  refine ⟨signedValue (isNegative number) (roundedTo scientificPlaces (units number)).toRat, ?_, ?_⟩
  · rw [text_of_finite finite nonzero, magnitude, if_pos outside]
    exact Decimal.rational?_scientific _ (by decide) _
  · rw [← signedValue_abs number, abs_signedValue_sub]
    exact close

/-- An ordinary number reads back, or is rounded at the tenth decimal. -/
theorem rational?_text_ordinary (finite : isFinite number = true) (nonzero : units number ≠ 0)
    (inside : ¬(largestOrdinary < units number ∨ units number < smallestOrdinary)) :
    ∃ shown, rational? (text number) = some shown ∧
      (read? (text number) = some number ∨
        IsTrimmed (magnitude (units number)) ∧ |shown - toRat number| ≤ 5 / 10 ^ 11) := by
  have least : 1 / 10 ^ 10 ≤ value (units number) :=
    not_lt.mp (mt (lt_smallestOrdinary_iff finite).mpr fun below => inside (Or.inr below))
  rw [text_of_finite finite nonzero, magnitude, if_neg inside]
  split
  · refine ⟨_, rational?_rounded _ least, Or.inr ⟨isTrimmed_rounded _, ?_⟩⟩
    rw [← signedValue_abs number, abs_signedValue_sub]
    exact abs_decimals_sub_le _
  · exact ⟨_, rational?_ordinary _ _, Or.inl (read?_ordinary finite)⟩

/-- **The accuracy of the number that is shown.** A failure is shown exactly for what is not finite.
Any other number but zero is shown as a numeral with its sign. Above `10 ^ 10` and below
`10 ^ (-10)` this is the scientific form, at most half a unit of its last decimal away from the
number. In between there are at most ten characters behind any point, and the numeral reads back as
the number or has plain decimals, less zeros at their end, at most half a unit of the tenth one
away. -/
theorem text_accurate (number : Float) :
    (text number = failure ↔ isFinite number = false) ∧
    (isFinite number = true → toRat number ≠ 0 →
      ∃ digits shown, text number = signed (decide (toRat number < 0)) digits ∧
        rational? (text number) = some shown ∧
        (10 ^ 10 < |toRat number| ∨ |toRat number| < 1 / 10 ^ 10 →
          IsScientific 6 digits ∧
          ∃ exponent : ℤ, 10 ^ exponent ≤ |toRat number| ∧
            |toRat number| < 10 ^ (exponent + 1) ∧
            |shown - toRat number| ≤ 10 ^ (exponent - 6) / 2) ∧
        (1 / 10 ^ 10 ≤ |toRat number| → |toRat number| ≤ 10 ^ 10 →
          (∀ before after, text number = before ++ '.' :: after → after.length ≤ 10) ∧
          (read? (text number) = some number ∨
            IsTrimmed digits ∧ |shown - toRat number| ≤ 5 / 10 ^ 11))) := by
  refine ⟨text_eq_failure_iff, fun finite nonzero => ?_⟩
  have present : units number ≠ 0 := mt Binary64.toRat_eq_zero_iff.mpr nonzero
  have positive := Nat.pos_of_ne_zero present
  have shape := text_of_finite finite present
  have sign : decide (toRat number < 0) = isNegative number := by
    rw [← Bool.decide_coe (isNegative number), decide_eq_decide]
    exact Binary64.toRat_neg_iff present
  have size : |toRat number| = value (units number) := Binary64.abs_toRat number
  obtain ⟨lower, upper⟩ := Decimal.leadingExponent_spec positive
  rw [sign, size]
  by_cases extreme : largestOrdinary < units number ∨ units number < smallestOrdinary
  · obtain ⟨shown, exact, close⟩ := rational?_text_scientific finite present extreme
    refine ⟨_, shown, shape, exact, fun _ => ⟨?_, _, lower, upper, close⟩, fun low high => ?_⟩
    · rw [magnitude, if_pos extreme]
      exact isScientific_scientific positive (by decide)
    · rcases extreme with above | below
      · exact absurd ((largestOrdinary_lt_iff _).mp above) (not_lt.mpr high)
      · exact absurd ((lt_smallestOrdinary_iff finite).mp below) (not_lt.mpr low)
  · obtain ⟨shown, exact, close⟩ := rational?_text_ordinary finite present extreme
    refine ⟨_, shown, shape, exact, fun outside => ?_, fun _ _ => ⟨fun before after equal => ?_,
      close⟩⟩
    · rcases outside with above | below
      · exact absurd (Or.inl ((largestOrdinary_lt_iff _).mpr above)) extreme
      · exact absurd (Or.inr ((lt_smallestOrdinary_iff finite).mpr below)) extreme
    · have few := length_afterPoint_le extreme
      have most := length_le_afterPoint before after
      rw [← equal, shape, afterPoint_signed] at most
      exact most.trans few

/-- A third is shown with ten decimals. -/
theorem text_accurate_third :
    let number := nearest 1 3
    isFinite number = true ∧ toRat number ≠ 0 ∧ text number = "0.3333333333".toList ∧
      ∃ shown, rational? "0.3333333333".toList = some shown ∧
        |shown - toRat number| ≤ 5 / 10 ^ 11 := by
  intro number
  have finite : isFinite number = true := by decide +kernel
  have nonzero : toRat number ≠ 0 := mt Binary64.toRat_eq_zero_iff.mp (by decide +kernel)
  have written : text number = "0.3333333333".toList := by decide +kernel
  have other : read? "0.3333333333".toList ≠ some number := by decide +kernel
  have low : ¬units number < smallestOrdinary := by decide +kernel
  have high : ¬largestOrdinary < units number := by decide +kernel
  rw [lt_smallestOrdinary_iff finite, not_lt, value, ← Binary64.abs_toRat] at low
  rw [largestOrdinary_lt_iff, not_lt, value, ← Binary64.abs_toRat] at high
  obtain ⟨digits, shown, -, exact, -, ordinary⟩ := (text_accurate number).2 finite nonzero
  have close := (ordinary low high).2
  rw [written] at exact close
  exact ⟨finite, nonzero, written, shown, exact, (close.resolve_left other).2⟩

end Accuracy

end ScientificCalculator.Display
