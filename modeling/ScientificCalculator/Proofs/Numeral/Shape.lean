/-
**The shape of numerals.**

A number that is written is a run of digits, perhaps with a point and a second run: no sign, no
exponent and no word. This is what the passes on texts read as one literal.

* `Literal.Plain`: the literals of this shape.
* `Decimal.literal`, `Decimal.plain_literal`: a decimal laid out in place is one of them.
* `Numeral.literal`, `Numeral.text_eq`: so is a finite number that is not negative.
-/

import ScientificCalculator.Literal
import ScientificCalculator.Numeral.Printer

namespace ScientificCalculator

namespace Literal

/-- Digits before the point, and none but digits after it. -/
structure Plain (literal : Literal) : Prop where
  present : literal.whole ≠ []
  whole : ∀ digit ∈ literal.whole, digit.isDigit = true
  fraction : ∀ digit ∈ literal.fraction, digit.isDigit = true

section Plain

variable {literal : Literal}

theorem text_of_fraction_nil (none : literal.fraction = []) : literal.text = literal.whole :=
  if_pos none

theorem text_of_fraction_ne_nil (some : literal.fraction ≠ []) :
    literal.text = literal.whole ++ '.' :: literal.fraction :=
  if_neg some

/-- Digits alone are a plain literal. -/
theorem plain_of_digits {digits : List Char} (present : digits ≠ [])
    (all : ∀ digit ∈ digits, digit.isDigit = true) : Plain ⟨digits, []⟩ :=
  ⟨present, all, fun _ member => by cases member⟩

/-- The text of a plain literal starts with a digit. -/
theorem Plain.text_eq_cons (plain : literal.Plain) :
    ∃ first rest, literal.text = first :: rest ∧ first.isDigit = true := by
  obtain ⟨first, rest, equal⟩ := List.exists_cons_of_ne_nil plain.present
  have digit : first.isDigit = true := plain.whole first (by rw [equal]; exact List.mem_cons_self)
  by_cases none : literal.fraction = []
  · exact ⟨first, rest, by rw [text_of_fraction_nil none, equal], digit⟩
  · exact ⟨first, rest ++ '.' :: literal.fraction,
      by rw [text_of_fraction_ne_nil none, equal, List.cons_append], digit⟩

/-- It ends with a digit. -/
theorem Plain.text_eq_concat (plain : literal.Plain) :
    ∃ front last, literal.text = front ++ [last] ∧ last.isDigit = true := by
  by_cases none : literal.fraction = []
  · obtain ⟨front, last, equal⟩ := (List.eq_nil_or_concat _).resolve_left plain.present
    rw [List.concat_eq_append] at equal
    exact ⟨front, last, by rw [text_of_fraction_nil none, equal],
      plain.whole last (by rw [equal]; simp)⟩
  · obtain ⟨front, last, equal⟩ := (List.eq_nil_or_concat _).resolve_left none
    rw [List.concat_eq_append] at equal
    exact ⟨literal.whole ++ '.' :: front, last,
      by rw [text_of_fraction_ne_nil none, equal, List.append_assoc, List.cons_append],
      plain.fraction last (by rw [equal]; simp)⟩

/-- It has no character but digits and the point. -/
theorem Plain.mem_text (plain : literal.Plain) {character : Char}
    (member : character ∈ literal.text) : character.isDigit = true ∨ character = '.' := by
  by_cases none : literal.fraction = []
  · rw [text_of_fraction_nil none] at member
    exact Or.inl (plain.whole character member)
  · rw [text_of_fraction_ne_nil none, List.mem_append, List.mem_cons] at member
    rcases member with inside | rfl | inside
    · exact Or.inl (plain.whole character inside)
    · exact Or.inr rfl
    · exact Or.inl (plain.fraction character inside)

/-- It has a point when it has a fraction. -/
theorem Plain.point_mem_text (plain : literal.Plain) :
    '.' ∈ literal.text ↔ literal.fraction ≠ [] := by
  by_cases none : literal.fraction = []
  · rw [text_of_fraction_nil none]
    refine ⟨fun member => ?_, fun some => absurd none some⟩
    exact absurd (plain.whole '.' member) (by decide)
  · rw [text_of_fraction_ne_nil none]
    exact ⟨fun _ => none, fun _ => by simp⟩

end Plain

end Literal

namespace Decimal

theorem isDigit_of_mem_toDigits {number : Nat} {character : Char}
    (member : character ∈ Nat.toDigits 10 number) : character.isDigit = true :=
  Nat.isDigit_of_mem_toDigits (by decide) (by decide) member

theorem isDigit_of_mem_replicate {count : Nat} {character : Char}
    (member : character ∈ List.replicate count '0') : character.isDigit = true := by
  rw [List.eq_of_mem_replicate member]
  decide

theorem isDigit_of_mem_paddedDigits {places number : Nat} {character : Char}
    (member : character ∈ paddedDigits places number) : character.isDigit = true := by
  rcases List.mem_append.mp member with zeros | digits
  · exact isDigit_of_mem_replicate zeros
  · exact isDigit_of_mem_toDigits digits

theorem paddedDigits_ne_nil (places number : Nat) : paddedDigits places number ≠ [] :=
  List.append_ne_nil_of_right_ne_nil _ Nat.toDigits_ne_nil

/-- The literal of `number / 10 ^ places`, with exactly `places` digits after the point. -/
def pointedLiteral (places number : Nat) : Literal where
  whole := Nat.toDigits 10 (number / Nat.pow 10 places)
  fraction := paddedDigits places (number % Nat.pow 10 places)

theorem plain_pointedLiteral (places number : Nat) : (pointedLiteral places number).Plain :=
  ⟨Nat.toDigits_ne_nil, fun _ => isDigit_of_mem_toDigits, fun _ => isDigit_of_mem_paddedDigits⟩

theorem text_pointedLiteral (places number : Nat) :
    (pointedLiteral places number).text = pointedText places number :=
  Literal.text_of_fraction_ne_nil (paddedDigits_ne_nil _ _)

/-- The literal that a decimal is laid out as. -/
def literal (decimal : Decimal) : Literal :=
  if 0 ≤ decimal.exponent then
    ⟨Nat.toDigits 10 decimal.significand ++ List.replicate decimal.exponent.toNat '0', []⟩
  else pointedLiteral (-decimal.exponent).toNat decimal.significand

/-- **A decimal laid out in place is a plain literal.** -/
theorem plain_literal (decimal : Decimal) : decimal.literal.Plain := by
  unfold literal
  split
  · refine Literal.plain_of_digits (List.append_ne_nil_of_left_ne_nil Nat.toDigits_ne_nil _) ?_
    intro digit member
    rcases List.mem_append.mp member with digits | zeros
    · exact isDigit_of_mem_toDigits digits
    · exact isDigit_of_mem_replicate zeros
  · exact plain_pointedLiteral _ _

theorem text_literal (decimal : Decimal) : decimal.literal.text = decimal.positional := by
  unfold literal positional
  split
  · exact Literal.text_of_fraction_nil rfl
  · exact text_pointedLiteral _ _

end Decimal

namespace Numeral

/-- The literal that a finite magnitude is written as. -/
def literal (units : Nat) : Literal :=
  if units = 0 then ⟨['0'], []⟩ else (Decimal.shortest units).literal

theorem plain_literal (units : Nat) : (literal units).Plain := by
  unfold literal
  split
  · refine Literal.plain_of_digits (List.cons_ne_nil _ _) fun digit member => ?_
    rw [List.mem_singleton.mp member]
    decide
  · exact Decimal.plain_literal _

theorem text_literal (units : Nat) : (literal units).text = magnitudeText units := by
  unfold literal magnitudeText
  split
  · rfl
  · exact Decimal.text_literal _

/-- **A finite number that is not negative is written as a plain literal.** -/
theorem text_eq {number : Float} (real : Binary64.isNaN number = false)
    (finite : Binary64.isFinite number = true) (positive : Binary64.isNegative number = false) :
    text number = (literal (Binary64.units number)).text := by
  simp [text, real, finite, positive, text_literal]

end Numeral

end ScientificCalculator
