/-
**A factorial mark behind digits after a point.**

A number is read with its point even where no digit stands in front of it, but a mark looks back
for a literal that starts with a digit. So a factorial of a fraction is refused where the fraction
has a whole part and fewer than `2 ^ 32` digits behind it, and without a whole part the mark belongs
to the digits behind the point alone.

* `evaluate_fraction_error`: the factorial of a number with a whole part and a fraction.
* `canonicalText_fraction`: the factorial of the digits behind a point that no digit precedes.
* `evaluate_fraction_factorial`: when such a text is refused.
-/

import ScientificCalculator.Proofs.Canonical.Point
import ScientificCalculator.Proofs.Evaluation.Adjacent

namespace ScientificCalculator.Evaluation

open Canonical (Mark ofTyped ofTypedAfter ofTypedAfter_copied resolveFactorials factorialText)
open Text (EndsWithout)

section Texts

/-- A text with a point is not blank. -/
theorem isBlank_of_point (front rest : List Char) : isBlank (front ++ '.' :: rest) = false :=
  isBlank_eq_false_iff.mpr ⟨'.', by simp, by decide⟩

/-- A refused factorial is the outcome. -/
theorem evaluate_of_refused {text operand : List Char} (solid : isBlank text = false)
    (refused : resolveFactorials (ofTyped text) = .error (.factorial operand))
    (mode : AngleMode) :
    evaluate (String.ofList text) mode = .error (.factorial operand) := by
  rw [evaluate, String.toList_ofList, if_neg (by simp [solid]), ofExpression, canonicalText,
    refused]
  rfl

/-- Texts with the same canonical text have the same outcome. -/
theorem evaluate_eq_of_canonicalText {first second : List Char} (one : isBlank first = false)
    (two : isBlank second = false) (same : canonicalText first = canonicalText second)
    (mode : AngleMode) :
    evaluate (String.ofList first) mode = evaluate (String.ofList second) mode := by
  rw [evaluate, evaluate, String.toList_ofList, String.toList_ofList, one, two, ofExpression,
    ofExpression, same]

end Texts

section Fraction

variable {digits : List Char} (all : ∀ digit ∈ digits, digit.isDigit = true)

include all

/-- **The factorial of a number with a whole part and a fraction is refused** below `2 ^ 32` digits
behind the point. -/
theorem evaluate_fraction_error (some : ∃ digit ∈ digits, digit ≠ '0')
    (short : digits.length < 2 ^ 32) {front : List Char}
    (ends : ∃ last ∈ front.getLast?, last.isDigit = true) (mode : AngleMode) :
    ∃ operand, evaluate (String.ofList (front ++ '.' :: (digits ++ ['!']))) mode =
      .error (.factorial operand) := by
  have solid := isBlank_of_point front (digits ++ ['!'])
  obtain ⟨last, member, digit⟩ := ends
  obtain ⟨start, rfl⟩ := List.getLast?_eq_some_iff.mp member
  have number : ∀ character ∈ last :: '.' :: digits,
      character.isDigit = true ∨ character = '.' :=
    List.forall_mem_cons.mpr ⟨Or.inl digit, List.forall_mem_cons.mpr
      ⟨Or.inr rfl, fun character inside => Or.inl (all character inside)⟩⟩
  have whole : start ++ [last] ++ '.' :: (digits ++ ['!']) =
      start ++ (last :: '.' :: digits ++ ['!']) := by
    rw [List.append_assoc]
    rfl
  have sought : sought .factorial (start ++ (last :: '.' :: digits ++ ['!'])) = .ok _ := rfl
  obtain ⟨written, typed⟩ := sought_ending .factorial (last :: '.' :: digits) number sought
  obtain ⟨operand, refused⟩ := Canonical.resolve_fraction_error digit all some short written
  refine ⟨operand, evaluate_of_refused solid ?_ mode⟩
  change ofTyped (start ++ (last :: '.' :: digits ++ ['!'])) = _ at typed
  rw [whole, typed]
  exact refused

/-- **The factorial of the digits behind a point**, in front of which no digit stands: it takes the
place of these digits and nothing else. -/
theorem canonicalText_fraction (present : digits ≠ []) {front : List Char}
    (ends : EndsWithout Char.isDigit front) :
    canonicalText (front ++ '.' :: (digits ++ ['!'])) =
      canonicalText (front ++ '.' :: factorialText (Nat.ofDigitChars 10 digits 0)) := by
  have before (rest : List Char) : ofTyped (front ++ '.' :: rest) = _ :=
    Canonical.ofTypedAfter_point none front rest
  have free := Canonical.ofTypedBetween_endsWithout ends none
  generalize Canonical.ofTypedBetween none (some '.') front = written at before free
  have marked : ofTypedAfter (some '.') (digits ++ ['!']) = digits ++ ['!'] := by
    refine ofTypedAfter_copied (List.forall_mem_append.mpr ⟨fun digit member => ?_, ?_⟩) _
    · exact Canonical.isCopied_of_number (Or.inl (all digit member))
    · exact List.forall_mem_singleton.mpr (by decide)
  obtain ⟨value, plain, equal⟩ := Mark.factorial.valueText_eq ⟨digits, []⟩
  rw [Canonical.valueText_digits] at equal
  have copied : ofTypedAfter (some '.') value.text = value.text :=
    ofTypedAfter_copied (fun _ member => Canonical.isCopied_of_number (plain.mem_text member)) _
  have absent : Mark.factorial.sign ∉ value.text :=
    Canonical.mark_notMem_text plain (by decide) (by decide)
  have factorials (rest : List Char) : resolveFactorials (written ++ '.' :: rest) =
      joined (resolveFactorials written) ((resolveFactorials rest).map ('.' :: ·)) :=
    Mark.factorial.resolve_point free rest
  have one : resolveFactorials (digits ++ ['!']) = .ok value.text :=
    equal ▸ Canonical.resolve_digits present all
  have two : resolveFactorials value.text = .ok value.text :=
    Canonical.resolve_of_notMem .factorial absent
  rw [canonicalText, canonicalText, equal, before, before, marked, copied, factorials, factorials,
    one, two]

/-- **A factorial mark behind a point and digits that are not all zero.** With a digit in front of
the point and fewer than `2 ^ 32` digits behind it the text is refused for its factorial. Without
one in front, the factorial of the digits behind the point takes their place, and the text is
refused only where what is then written is. -/
theorem evaluate_fraction_factorial (some : ∃ digit ∈ digits, digit ≠ '0') (front : List Char)
    (mode : AngleMode) :
    (digits.length < 2 ^ 32 →
      ((∃ fault, evaluate (String.ofList (front ++ '.' :: (digits ++ ['!']))) mode =
          .error fault) ↔
        (∃ last ∈ front.getLast?, last.isDigit = true) ∨
          ∃ fault, evaluate (String.ofList
            (front ++ '.' :: factorialText (Nat.ofDigitChars 10 digits 0))) mode =
              .error fault)) ∧
    (digits.length < 2 ^ 32 → (∃ last ∈ front.getLast?, last.isDigit = true) →
      ∃ operand, evaluate (String.ofList (front ++ '.' :: (digits ++ ['!']))) mode =
        .error (.factorial operand)) ∧
    ((∀ last ∈ front.getLast?, last.isDigit = false) →
      evaluate (String.ofList (front ++ '.' :: (digits ++ ['!']))) mode =
        evaluate (String.ofList
          (front ++ '.' :: factorialText (Nat.ofDigitChars 10 digits 0))) mode) := by
  have present : digits ≠ [] := by
    rintro rfl
    obtain ⟨_, member, -⟩ := some
    cases member
  have refused (short : digits.length < 2 ^ 32)
      (ends : ∃ last ∈ front.getLast?, last.isDigit = true) :=
    evaluate_fraction_error all some short ends mode
  have replaced (ends : EndsWithout Char.isDigit front) :=
    evaluate_eq_of_canonicalText (isBlank_of_point front _) (isBlank_of_point front _)
      (canonicalText_fraction all present ends) mode
  refine ⟨fun short => ?_, refused, replaced⟩
  by_cases ends : ∃ last ∈ front.getLast?, last.isDigit = true
  · obtain ⟨operand, outcome⟩ := refused short ends
    exact iff_of_true ⟨_, outcome⟩ (Or.inl ends)
  · have free : EndsWithout Char.isDigit front := fun last member =>
      Bool.eq_false_iff.mpr fun digit => ends ⟨last, member, digit⟩
    rw [replaced free, or_iff_right ends]

end Fraction

/-- Half of one has a factorial that is not refused: it is that of five. -/
theorem not_refused_half :
    (∀ digit ∈ ['5'], digit.isDigit = true) ∧ (∃ digit ∈ ['5'], digit ≠ '0') ∧
      evaluate ".5!" .degrees = evaluate ".120" .degrees ∧
      ∃ operand, evaluate "2.5!" .degrees = .error (.factorial operand) := by
  have all : ∀ digit ∈ ['5'], digit.isDigit = true := List.forall_mem_singleton.mpr (by decide)
  have some : ∃ digit ∈ ['5'], digit ≠ '0' := ⟨'5', List.mem_singleton.mpr rfl, by decide⟩
  have written : factorialText (Nat.ofDigitChars 10 ['5'] 0) = "120".toList := by decide +kernel
  have alone := (evaluate_fraction_factorial all some [] .degrees).2.2 (by simp)
  have whole := (evaluate_fraction_factorial all some ['2'] .degrees).2.1 (by decide)
    ⟨'2', rfl, by decide⟩
  rw [written] at alone
  exact ⟨all, some, alone, whole⟩

/-- Its value is twelve hundredths. -/
theorem evaluate_half_factorial :
    (∀ digit ∈ ['5'], digit.isDigit = true) ∧ (∃ digit ∈ ['5'], digit ≠ '0') ∧
      evaluate ".5!" .degrees =
        .ok (some ⟨Binary64.nearest 12 100, ⟨".120", "0.12", "0.12", "0.12"⟩⟩) :=
  ⟨List.forall_mem_singleton.mpr (by decide), ⟨'5', List.mem_singleton.mpr rfl, by decide⟩,
    by decide +kernel⟩

end ScientificCalculator.Evaluation
