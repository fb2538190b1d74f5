/-
**A point with no digit in front of it.**

What is written in front of a point does not depend on what comes after it. Where it ends with no
digit the point belongs to no marked literal, so the digits behind the point are a literal of their
own to the marks.

* `ofTypedAfter_point`: the typed text in front of a point and from it on.
* `ofTypedBetween_endsWithout`: where no digit stands in front of a point, none is written there.
* `Mark.resolve_point`: the marks in front of such a point and behind it.
* `valueText_digits`, `resolve_digits`: digits with a factorial mark.
* `resolve_fraction_error`: a factorial mark behind a fraction.
-/

import ScientificCalculator.Proofs.Canonical.Operand
import ScientificCalculator.Proofs.Canonical.Typed
import ScientificCalculator.Proofs.Numeral.Value

namespace ScientificCalculator.Canonical

open Text (Stops EndsWithout stops_cons endsWithout_concat endsWithout_singleton)

section Typed

/-- A constant in front of a point is set off from it. -/
theorem setOff_point (literal : List Char) (before : Option Char) :
    setOff literal before (some '.') = gap before ++ literal ++ [' '] := by
  rw [setOff, gap, gap, if_pos (by decide : (some '.').any sticks = true)]

/-- A word in front of a point ends with a letter or a space. -/
theorem ofWord_endsWithout {word : List Char} (letters : ∀ letter ∈ word, letter.isAlpha = true)
    (before : Option Char) : EndsWithout Char.isDigit (ofWord word before (some '.')) := by
  rw [ofWord]
  split
  · rw [setOff_point]
    exact endsWithout_concat.mpr (by decide)
  · rw [if_neg (by decide)]
    intro last member
    refine Bool.eq_false_iff.mpr fun digit => ?_
    have letter := letters last (List.mem_of_getLast? member)
    rw [isAlpha_of_isDigit digit] at letter
    cases letter

/-- A symbol in front of a point ends with a digit only where it is one. -/
theorem ofSymbol_endsWithout {symbol : Char} (digit : symbol.isDigit = false)
    (before : Option Char) : EndsWithout Char.isDigit (ofSymbol symbol before (some '.')) := by
  rw [ofSymbol]
  split
  · rw [setOff_point]
    exact endsWithout_concat.mpr (by decide)
  · split
    · show EndsWithout Char.isDigit ['*', '*']
      exact fun last member => by cases member; decide
    · rw [if_neg fun root => absurd root.2 (by decide)]
      exact endsWithout_singleton.mpr digit

/-- **A text in front of a point is written apart from what comes after the point.** -/
theorem ofTypedAfter_point (before : Option Char) (front rest : List Char) :
    ofTypedAfter before (front ++ '.' :: rest) =
      ofTypedBetween before (some '.') front ++ '.' :: ofTypedAfter (some '.') rest := by
  rw [ofTypedAfter_cut (Or.inr (stops_cons.mpr (by decide))), ofTypedAfter_cons (Or.inr rfl)]
  rfl

/-- A text that ends without a digit, behind another one. -/
theorem endsWithout_append {one more : List Char} (first : more = [] → EndsWithout Char.isDigit one)
    (last : EndsWithout Char.isDigit more) : EndsWithout Char.isDigit (one ++ more) := by
  by_cases done : more = []
  · rw [done, List.append_nil]
    exact first done
  · obtain ⟨inner, final, rfl⟩ := List.eq_nil_or_concat more |>.resolve_left done
    rw [List.concat_eq_append, endsWithout_concat] at last
    rwa [List.concat_eq_append, ← List.append_assoc, endsWithout_concat]

/-- **Where no digit stands in front of a point** none is written there. The induction is on the
length of the text. -/
theorem ofTypedBetween_endsWithout {front : List Char} (ends : EndsWithout Char.isDigit front)
    (before : Option Char) : EndsWithout Char.isDigit (ofTypedBetween before (some '.') front) := by
  cases front with
  | nil =>
    rw [ofTypedBetween]
    exact ends
  | cons first others =>
    rw [ofTypedBetween]
    by_cases letter : first.isAlpha = true
    · have shorter : (others.dropWhile Char.isAlpha).length < (first :: others).length :=
        Nat.lt_succ_of_le (List.dropWhile_sublist _).length_le
      have letters : ∀ character ∈ first :: others.takeWhile Char.isAlpha,
          character.isAlpha = true :=
        List.forall_mem_cons.mpr ⟨letter, fun _ => List.mem_takeWhile_imp⟩
      have inner : EndsWithout Char.isDigit (others.dropWhile Char.isAlpha) := by
        rw [← List.takeWhile_append_dropWhile (p := Char.isAlpha) (l := others)] at ends
        exact ends.of_append (first :: others.takeWhile Char.isAlpha)
      rw [if_pos letter]
      refine endsWithout_append (fun done => ?_) (ofTypedBetween_endsWithout inner _)
      rw [ofTypedBetween_eq_nil_iff.mp done]
      exact ofWord_endsWithout letters before
    · have inner : EndsWithout Char.isDigit others := ends.of_append [first]
      rw [if_neg letter]
      refine endsWithout_append (fun done => ?_) (ofTypedBetween_endsWithout inner _)
      obtain rfl := ofTypedBetween_eq_nil_iff.mp done
      exact ofSymbol_endsWithout (endsWithout_singleton.mp ends) before
termination_by front.length
decreasing_by
  · subst_vars
    exact shorter
  · subst_vars
    exact Nat.lt_succ_self _

end Typed

section Marks

/-- **Marks in front of a point and behind it**, where no digit stands in front of the point. -/
theorem Mark.resolve_point (mark : Mark) {front : List Char}
    (ends : EndsWithout Char.isDigit front) (rest : List Char) :
    mark.resolve (front ++ '.' :: rest) =
      joined (mark.resolve front) ((mark.resolve rest).map ('.' :: ·)) := by
  rw [mark.resolve_append (.point mark.sign_ne_point rfl ends), mark.resolve_cons (by decide)]

theorem operandDenominator_digits (digits : List Char) :
    operandDenominator ⟨digits, []⟩ = Literal.denominator ⟨digits, []⟩ :=
  operandDenominator_of_lt (Nat.two_pow_pos 32)

/-- The text of a factorial of digits without a point. -/
theorem valueText_digits (digits : List Char) : Mark.factorial.valueText ⟨digits, []⟩ =
    factorialText (Nat.ofDigitChars 10 digits 0) := by
  rw [Mark.valueText, operandDenominator_digits,
    Literal.numerator_div_denominator ⟨digits, []⟩ (by simp)]

/-- **Digits with a factorial mark** are written as the factorial of the number they stand for. -/
theorem resolve_digits {digits : List Char} (present : digits ≠ [])
    (all : ∀ digit ∈ digits, digit.isDigit = true) :
    Mark.factorial.resolve (digits ++ ['!']) =
      .ok (factorialText (Nat.ofDigitChars 10 digits 0)) := by
  have plain : Literal.Plain ⟨digits, []⟩ := Literal.plain_of_digits present all
  have found : markedLiteral? '!' (Literal.text ⟨digits, []⟩ ++ ['!']) = some (⟨digits, []⟩, []) :=
    markedLiteral?_text plain (by decide) (by decide) []
  rw [Literal.text_of_fraction_nil rfl] at found
  have exact : Literal.numerator ⟨digits, []⟩ % operandDenominator ⟨digits, []⟩ = 0 := by
    rw [operandDenominator_digits]
    exact Literal.numerator_mod_denominator ⟨digits, []⟩ plain.fraction
  rw [Mark.resolve_eq, Mark.sign, pieces_of_marked found]
  simp only [List.takeWhile_nil, List.dropWhile_nil, List.length_nil, pieces, Mark.writeAll,
    joined_nil, Mark.write, resolveFactorial, if_pos exact]
  exact congrArg _ (valueText_digits digits)

/-- A literal whose digits after a point are given. -/
theorem fraction_eq_of_suffix {literal : Literal} (plain : literal.Plain) {last : Char}
    {digits : List Char} (suffix : last :: '.' :: digits <:+ literal.text) :
    literal.fraction = digits := by
  have free {run : List Char} (all : ∀ digit ∈ run, digit.isDigit = true) : '.' ∉ run :=
    fun member => absurd (all '.' member) (by decide)
  have pointed : '.' ∈ literal.text := suffix.subset (by simp)
  obtain ⟨front, equal⟩ := suffix
  rw [Literal.text_of_fraction_ne_nil (plain.point_mem_text.mp pointed),
    ← List.singleton_append, ← List.append_assoc] at equal
  exact ((List.append_cons_inj_of_notMem (free plain.whole) (free plain.fraction)).mp
    equal.symm).2.2

/-- **A factorial mark behind a point and digits that are not all zero is refused** where a digit
stands in front of the point, below `2 ^ 32` digits. -/
theorem resolve_fraction_error {last : Char} (leading : last.isDigit = true) {digits : List Char}
    (all : ∀ digit ∈ digits, digit.isDigit = true) (some : ∃ digit ∈ digits, digit ≠ '0')
    (short : digits.length < 2 ^ 32) (front : List Char) :
    ∃ operand, resolveFactorials (front ++ (last :: '.' :: digits ++ ['!'])) =
      .error (.factorial operand) := by
  have present : digits ≠ [] := by
    rintro rfl
    obtain ⟨_, member, -⟩ := some
    cases member
  have plain : Literal.Plain ⟨[last], digits⟩ :=
    ⟨List.cons_ne_nil _ _, List.forall_mem_singleton.mpr leading, all⟩
  have text : Literal.text ⟨[last], digits⟩ = last :: '.' :: digits :=
    Literal.text_of_fraction_ne_nil present
  obtain ⟨earlier, found, suffix, cut⟩ :=
    pieces_operand plain Mark.factorial.sign_isDigit Mark.factorial.sign_ne_point front
  rw [text] at suffix cut
  have operand : found.Plain :=
    plain_of_mem_pieces _ (cut ▸ List.mem_append_right earlier List.mem_cons_self)
  have behind := fraction_eq_of_suffix operand suffix
  have fraction : ¬found.numerator % operandDenominator found = 0 := by
    rw [operandDenominator_of_lt (behind ▸ short),
      found.numerator_mod_denominator operand.fraction, behind]
    exact (ofDigitChars_pos all some).ne'
  cases outcome : resolveFactorials (front ++ (last :: '.' :: digits ++ ['!'])) with
  | error fault =>
    obtain ⟨operand, rfl⟩ := resolveFactorials_error outcome
    exact ⟨operand, rfl⟩
  | ok resolved =>
    change Mark.factorial.resolve (front ++ (last :: '.' :: digits ++ [Mark.factorial.sign])) =
      .ok resolved at outcome
    rw [Mark.resolve_eq, cut, Mark.writeAll_append, joined_eq_ok_iff, Mark.writeAll,
      Mark.writeAll, joined_nil, Mark.write, resolveFactorial, if_neg fraction] at outcome
    obtain ⟨_, _, -, refused, -⟩ := outcome
    cases refused

end Marks

end ScientificCalculator.Canonical
