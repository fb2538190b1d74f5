/-
**The operand of a mark.**

A mark that follows a literal is applied to the literal that ends there, which is as long as
possible, and the text written for it is a plain literal again.

* `operandDenominator_of_lt`: the scale of an operand below `2 ^ 32` places.
* `Mark.valueText`: the text written for a literal with one mark.
* `literalText_nearest`: the literal written for a quotient.
* `Mark.valueText_eq`: the text written for a literal is one.
* `plain_of_mem_pieces`: all literals with marks are plain.
* `pieces_operand`: the mark at the end of a text belongs to the literal that ends there.
* `Mark.resolve_operand`: the text resolved ends with the text written for that literal.
* `resolve_ending`: the end of a text without the mark is copied.
* `Mark.resolve_opens`: where a text starts with a number, so does the text resolved.
-/

import ScientificCalculator.Proofs.Canonical.Marks
import ScientificCalculator.Proofs.Canonical.Percent

namespace ScientificCalculator.Canonical

open Text (Stops stops_cons stops_nil)

section Scale

theorem powerOfTen_eq (exponent : Nat) : powerOfTen exponent = 10 ^ (exponent % 2 ^ 32) := by
  rw [powerOfTen, Nat.pow_eq, UInt32.toNat_ofNat']

/-- No bit is lost of a shorter exponent. -/
theorem powerOfTen_of_lt {exponent : Nat} (short : exponent < 2 ^ 32) :
    powerOfTen exponent = 10 ^ exponent := by
  rw [powerOfTen_eq, Nat.mod_eq_of_lt short]

/-- The denominator of an operand with fewer places is that of the literal. -/
theorem operandDenominator_of_lt {literal : Literal} (short : literal.fraction.length < 2 ^ 32) :
    operandDenominator literal = literal.denominator := by
  rw [operandDenominator, powerOfTen_of_lt short, Literal.denominator, Nat.pow_eq]

end Scale

/-- The text written for a literal with one mark, unless it is refused. -/
def Mark.valueText : Mark → Literal → List Char
  | factorial, literal => factorialText (literal.numerator / operandDenominator literal)
  | percent, literal => percentText literal

section Values

theorem overflowLiteral_plain : Literal.Plain ⟨overflowLiteral, []⟩ :=
  Literal.plain_of_digits (List.cons_ne_nil _ _)
    (List.forall_mem_cons.mpr ⟨by decide, fun _ => Decimal.isDigit_of_mem_replicate⟩)

theorem toFloat_overflowLiteral : Literal.toFloat ⟨overflowLiteral, []⟩ = Binary64.infinity := by
  decide +kernel

/-- **The literal written for a quotient** stands for the double nearest to it. -/
theorem literalText_nearest (numerator denominator : Nat) :
    ∃ literal : Literal, literal.Plain ∧
      literalText (Binary64.nearest numerator denominator) = literal.text ∧
        literal.toFloat = Binary64.nearest numerator denominator := by
  have real := Binary64.isNaN_nearest numerator denominator
  have positive := Binary64.isNegative_nearest numerator denominator
  unfold literalText
  split
  · rename_i finite
    exact ⟨_, Numeral.plain_literal _, Numeral.text_eq real finite positive,
      Numeral.toFloat_literal real positive⟩
  · rename_i infinite
    refine ⟨_, overflowLiteral_plain, rfl, toFloat_overflowLiteral.trans ?_⟩
    exact (Binary64.eq_infinity real positive (Bool.eq_false_iff.mpr infinite)).symm

/-- **The text written for a literal is a plain literal.** -/
theorem Mark.valueText_eq (mark : Mark) (literal : Literal) :
    ∃ value : Literal, value.Plain ∧ mark.valueText literal = value.text := by
  have rounded (numerator denominator : Nat) : ∃ value : Literal, value.Plain ∧
      literalText (Binary64.nearest numerator denominator) = value.text := by
    obtain ⟨value, plain, text, -⟩ := literalText_nearest numerator denominator
    exact ⟨value, plain, text⟩
  cases mark with
  | percent =>
    rw [valueText, percentText_eq]
    exact rounded _ _
  | factorial =>
    rw [valueText, factorialText]
    split
    · exact rounded _ _
    · exact ⟨_, overflowLiteral_plain, rfl⟩

end Values

section Operand

variable {literal : Literal} {mark : Char}

/-- **A plain literal with a mark is found.** -/
theorem markedLiteral?_text (plain : literal.Plain) (digit : mark.isDigit = false)
    (point : mark ≠ '.') (after : List Char) :
    markedLiteral? mark (literal.text ++ mark :: after) = some (literal, after) := by
  have stops : Stops Char.isDigit (mark :: after) := stops_cons.mpr digit
  have digits {run rest : List Char} (all : ∀ digit ∈ run, digit.isDigit = true)
      (ends : Stops Char.isDigit rest) :
      (run ++ rest).takeWhile Char.isDigit = run ∧ (run ++ rest).dropWhile Char.isDigit = rest := by
    rw [Text.takeWhile_append run ends, Text.dropWhile_append run ends,
      List.takeWhile_eq_self_iff.mpr all, List.dropWhile_eq_nil_iff.mpr all]
    exact ⟨rfl, rfl⟩
  by_cases none : literal.fraction = []
  · obtain ⟨taken, dropped⟩ := digits plain.whole stops
    rw [Literal.text_of_fraction_nil none, markedLiteral?_of_no_point (by simp [dropped, point]),
      taken, dropped, if_neg plain.present, beforeMark?, if_pos rfl, ← none]
  · have pointed : Stops Char.isDigit ('.' :: (literal.fraction ++ mark :: after)) :=
      stops_cons.mpr (by decide)
    obtain ⟨taken, dropped⟩ := digits plain.whole pointed
    obtain ⟨fraction, left⟩ := digits plain.fraction stops
    rw [Literal.text_of_fraction_ne_nil none, List.append_assoc, List.cons_append,
      markedLiteral?_of_point dropped, taken, fraction, left,
      if_neg (not_or.mpr ⟨plain.present, none⟩), beforeMark?, if_pos rfl]

/-- **A marked literal is plain.** -/
theorem plain_of_markedLiteral? {input left : List Char}
    (found : markedLiteral? mark input = some (literal, left)) : literal.Plain := by
  have digits (text : List Char) :
      ∀ character ∈ text.takeWhile Char.isDigit, character.isDigit = true :=
    fun _ => List.mem_takeWhile_imp
  have read {run : Literal} {rest : List Char}
      (next : beforeMark? mark run rest = some (literal, left)) : run = literal := by
    cases rest with
    | nil => cases next
    | cons first rest =>
      simp only [beforeMark?, Option.ite_none_right_eq_some, Option.some.injEq,
        Prod.mk.injEq] at next
      exact next.2.1
  by_cases point : ∃ rest, input.dropWhile Char.isDigit = '.' :: rest
  · obtain ⟨rest, point⟩ := point
    rw [markedLiteral?_of_point point] at found
    split_ifs at found with missing
    obtain rfl := read found
    exact ⟨(not_or.mp missing).1, digits input, digits rest⟩
  · rw [markedLiteral?_of_no_point fun rest equal => point ⟨rest, equal⟩] at found
    split_ifs at found with missing
    obtain rfl := read found
    exact Literal.plain_of_digits missing (digits input)

/-- So are all literals among the pieces of a text. -/
theorem plain_of_mem_pieces (text : List Char) {furtherMarks : Nat}
    (member : .marked literal furtherMarks ∈ pieces mark text) : literal.Plain := by
  cases text with
  | nil =>
    rw [pieces] at member
    cases member
  | cons first rest =>
    cases outcome : markedLiteral? mark (first :: rest) with
    | none =>
      have fewer : (copied first rest).2.length < (first :: rest).length :=
        Nat.lt_succ_of_le (length_copied_le first rest)
      rw [pieces_of_plain outcome, List.mem_cons] at member
      rcases member with equal | inside
      · cases equal
      · exact plain_of_mem_pieces _ inside
    | some result =>
      obtain ⟨found, left⟩ := result
      have fewer : (left.dropWhile (· = mark)).length < (first :: rest).length :=
        Nat.lt_of_le_of_lt (List.dropWhile_sublist _).length_le (length_markedLiteral?_lt outcome)
      rw [pieces_of_marked outcome, List.mem_cons] at member
      rcases member with equal | inside
      · obtain ⟨rfl, -⟩ := Piece.marked.inj equal
        exact plain_of_markedLiteral? outcome
      · exact plain_of_mem_pieces _ inside
termination_by text.length
decreasing_by
  all_goals
    subst_vars
    exact fewer

theorem mark_notMem_text (plain : literal.Plain) (digit : mark.isDigit = false)
    (point : mark ≠ '.') : mark ∉ literal.text := by
  intro member
  rcases plain.mem_text member with inside | equal
  · rw [digit] at inside
    cases inside
  · exact point equal

/-- Digits in front of a plain literal belong to it. -/
theorem plain_of_digits_append (plain : literal.Plain) {digits : List Char}
    (all : ∀ digit ∈ digits, digit.isDigit = true) :
    ∃ longer : Literal, longer.Plain ∧ longer.text = digits ++ literal.text := by
  refine ⟨⟨digits ++ literal.whole, literal.fraction⟩, ⟨?_, ?_, plain.fraction⟩, ?_⟩
  · exact List.append_ne_nil_of_right_ne_nil _ plain.present
  · exact List.forall_mem_append.mpr ⟨all, plain.whole⟩
  · rw [Literal.text, Literal.text]
    split
    · rfl
    · rw [List.append_assoc]

/-- A text that ends with a mark, cut behind a mark: at the end, or in front of the last part. -/
theorem cut_behind_mark {text front other left : List Char} (absent : mark ∉ text)
    (equal : front ++ (text ++ [mark]) = other ++ mark :: left) :
    (left = [] ∧ other = front ++ text) ∨
      ∃ between, left = between ++ (text ++ [mark]) ∧ between.length < front.length := by
  rcases List.append_eq_append_iff.mp equal with ⟨inside, rfl, tail⟩ | ⟨outside, rfl, tail⟩
  · left
    rcases List.eq_nil_or_concat left with rfl | ⟨more, last, rfl⟩
    · exact ⟨rfl, by rw [(List.append_singleton_inj.mp tail).1]⟩
    · rw [List.concat_eq_append, ← List.cons_append, ← List.append_assoc] at tail
      refine absurd ?_ absent
      rw [(List.append_singleton_inj.mp tail).1]
      simp
  · cases outside with
    | nil =>
      left
      cases text with
      | nil => exact ⟨(List.cons.inj tail).2, by simp⟩
      | cons head more =>
        obtain rfl := (List.cons.inj tail).1
        exact absurd List.mem_cons_self absent
    | cons head between =>
      obtain ⟨rfl, rfl⟩ := List.cons.inj tail
      refine Or.inr ⟨between, rfl, ?_⟩
      rw [List.length_append, List.length_cons]
      omega

/-- **The mark at the end of a text belongs to the literal that ends there**, which is perhaps
longer than a given one. The induction is on the length of the text in front of the given literal:
each piece that does not reach the end leaves a shorter one. -/
theorem pieces_operand (plain : literal.Plain) (digit : mark.isDigit = false) (point : mark ≠ '.')
    (front : List Char) :
    ∃ earlier found, literal.text <:+ found.text ∧
      pieces mark (front ++ (literal.text ++ [mark])) = earlier ++ [.marked found 0] := by
  have absent := mark_notMem_text plain digit point
  cases front with
  | nil =>
    refine ⟨[], literal, List.suffix_rfl, ?_⟩
    rw [List.nil_append, pieces_of_marked (markedLiteral?_text plain digit point [])]
    simp [pieces]
  | cons first rest =>
    cases outcome : markedLiteral? mark (first :: rest ++ (literal.text ++ [mark])) with
    | none =>
      rw [List.cons_append] at outcome
      -- a run of digits up to the literal would be part of it, and marked
      have inside : ¬∀ character ∈ first :: rest, character.isDigit = true := by
        intro digits
        obtain ⟨longer, plainer, equal⟩ := plain_of_digits_append plain digits
        have found := markedLiteral?_text plainer digit point []
        rw [equal, List.append_assoc, List.cons_append, outcome] at found
        cases found
      obtain ⟨remaining, bound, equal⟩ :=
        (copied_cases first rest (literal.text ++ [mark])).resolve_right fun all => inside all.1
      have fewer : remaining.length < (first :: rest).length := Nat.lt_succ_of_le bound
      obtain ⟨earlier, found, suffix, cut⟩ := pieces_operand plain digit point remaining
      refine ⟨.plain (copied first (rest ++ (literal.text ++ [mark]))).1 :: earlier, found,
        suffix, ?_⟩
      rw [List.cons_append, pieces_of_plain outcome, equal, cut, List.cons_append]
    | some result =>
      obtain ⟨other, left⟩ := result
      have equal := eq_of_markedLiteral? outcome
      have reached := pieces_of_marked outcome
      rcases cut_behind_mark absent equal with ⟨rfl, whole⟩ | ⟨between, rfl, bound⟩
      · refine ⟨[], other, whole ▸ List.suffix_append _ _, ?_⟩
        rw [reached]
        simp [pieces]
      · have stops : Stops (· = mark) (literal.text ++ [mark]) := by
          obtain ⟨head, tail, start, inside⟩ := plain.text_eq_cons
          rw [start, List.cons_append]
          refine stops_cons.mpr (decide_eq_false ?_)
          rintro rfl
          rw [digit] at inside
          cases inside
        have fewer : (between.dropWhile (· = mark)).length < (first :: rest).length :=
          Nat.lt_of_le_of_lt (List.dropWhile_sublist _).length_le bound
        obtain ⟨earlier, found, suffix, cut⟩ :=
          pieces_operand plain digit point (between.dropWhile (· = mark))
        rw [Text.dropWhile_append between stops, cut, ← List.cons_append] at reached
        exact ⟨_, found, suffix, reached⟩
termination_by front.length
decreasing_by
  all_goals
    subst_vars
    exact fewer

end Operand

section Resolving

variable (mark : Mark)

/-- A literal with one mark is written as its value. -/
theorem Mark.write_marked {literal : Literal} {written : List Char}
    (accepted : mark.write (.marked literal 0) = .ok written) :
    written = mark.valueText literal := by
  cases mark with
  | percent =>
    rw [← Except.ok.inj accepted, valueText, resolvePercent, List.replicate_zero, List.append_nil]
  | factorial =>
    rw [write, resolveFactorial] at accepted
    split at accepted
    · rw [← Except.ok.inj accepted, valueText]
    · cases accepted

/-- **The text resolved ends with the text written for the literal that ends there.** -/
theorem Mark.resolve_operand {literal : Literal} (plain : literal.Plain)
    {front resolved : List Char}
    (accepted : mark.resolve (front ++ (literal.text ++ [mark.sign])) = .ok resolved) :
    ∃ before found, literal.text <:+ found.text ∧ resolved = before ++ mark.valueText found := by
  obtain ⟨earlier, found, suffix, cut⟩ :=
    pieces_operand plain mark.sign_isDigit mark.sign_ne_point front
  rw [resolve_eq, cut, writeAll_append, joined_eq_ok_iff, writeAll, writeAll,
    joined_nil] at accepted
  obtain ⟨before, after, -, last, rfl⟩ := accepted
  exact ⟨before, found, suffix, by rw [mark.write_marked last]⟩

theorem Mark.write_plain (text : List Char) : mark.write (.plain text) = .ok text := by
  cases mark <;> rfl

/-- **A text without the mark is copied.** -/
theorem resolve_of_notMem (mark : Mark) {text : List Char} (absent : mark.sign ∉ text) :
    mark.resolve text = .ok text := by
  cases text with
  | nil =>
    rw [Mark.resolve_eq, pieces]
    rfl
  | cons first rest =>
    have none : markedLiteral? mark.sign (first :: rest) = none := by
      refine Option.eq_none_iff_forall_ne_some.mpr fun result outcome => absent ?_
      rw [eq_of_markedLiteral? outcome]
      simp
    have whole := copied_suffix first rest
    have fewer : (copied first rest).2.length < (first :: rest).length :=
      Nat.lt_succ_of_le (length_copied_le first rest)
    have remaining : mark.resolve (copied first rest).2 = .ok (copied first rest).2 := by
      refine resolve_of_notMem mark fun member => absent ?_
      rw [← whole]
      exact List.mem_append_right _ member
    rw [Mark.resolve_eq, pieces_of_plain none, Mark.writeAll, mark.write_plain, ← Mark.resolve_eq,
      remaining]
    exact congrArg Except.ok whole
termination_by text.length
decreasing_by
  subst_vars
  exact fewer

/-- **The end of a text without the mark is copied.** The induction is on the length of the text in
front of it, in which all marked literals lie. -/
theorem resolve_ending (mark : Mark) {front ending resolved : List Char}
    (absent : mark.sign ∉ ending) (accepted : mark.resolve (front ++ ending) = .ok resolved) :
    ∃ before, resolved = before ++ ending := by
  cases front with
  | nil =>
    rw [List.nil_append, resolve_of_notMem mark absent] at accepted
    exact ⟨[], (Except.ok.inj accepted).symm⟩
  | cons first rest =>
    rw [List.cons_append] at accepted
    cases outcome : markedLiteral? mark.sign (first :: (rest ++ ending)) with
    | none =>
      rw [Mark.resolve_eq, pieces_of_plain outcome, Mark.writeAll, mark.write_plain,
        ← Mark.resolve_eq, joined_ok, map_eq_ok_iff] at accepted
      obtain ⟨left, remaining, rfl⟩ := accepted
      have whole := copied_suffix first (rest ++ ending)
      rcases copied_cases first rest ending with ⟨more, bound, equal⟩ | ⟨-, equal⟩
      · have fewer : more.length < (first :: rest).length := Nat.lt_succ_of_le bound
        rw [equal] at remaining
        obtain ⟨before, rfl⟩ := resolve_ending mark absent remaining
        exact ⟨_, (List.append_assoc _ _ _).symm⟩
      · -- the run of digits goes on into the end, which leaves no mark behind it
        have none : mark.sign ∉ (copied first (rest ++ ending)).2 := by
          rw [equal]
          exact fun member => absent ((List.dropWhile_sublist _).subset member)
        rw [resolve_of_notMem mark none] at remaining
        exact ⟨first :: rest, by rw [← Except.ok.inj remaining, whole, List.cons_append]⟩
    | some result =>
      obtain ⟨literal, left⟩ := result
      have equal := eq_of_markedLiteral? outcome
      rw [← List.cons_append] at equal
      rcases List.append_eq_append_iff.mp equal with ⟨inside, -, tail⟩ | ⟨outside, start, tail⟩
      · exact absurd (by rw [tail]; simp) absent
      · cases outside with
        | nil => exact absurd (by rw [← List.nil_append ending, ← tail]; simp) absent
        | cons head more =>
          rw [List.cons_append] at tail
          obtain ⟨rfl, rfl⟩ := List.cons.inj tail
          have stops : Stops (· = mark.sign) ending := by
            intro character member
            refine decide_eq_false ?_
            rintro rfl
            exact absent (List.mem_of_mem_head? member)
          have fewer : (more.dropWhile (· = mark.sign)).length < (first :: rest).length := by
            have bound := (List.dropWhile_sublist (l := more) (· = mark.sign)).length_le
            rw [start, List.length_append, List.length_cons]
            omega
          rw [Mark.resolve_eq, pieces_of_marked outcome, Mark.writeAll,
            Text.dropWhile_append more stops, ← Mark.resolve_eq, joined_eq_ok_iff] at accepted
          obtain ⟨value, after, -, remaining, rfl⟩ := accepted
          obtain ⟨before, rfl⟩ := resolve_ending mark absent remaining
          exact ⟨_, (List.append_assoc _ _ _).symm⟩
termination_by front.length
decreasing_by
  all_goals
    subst_vars
    exact fewer

/-- The first piece of a text that starts with a digit does as well. -/
theorem pieces_of_digit {first : Char} (leading : first.isDigit = true) (rest : List Char) :
    ∃ more others, pieces mark.sign (first :: rest) = .plain (first :: more) :: others ∨
      ∃ literal furtherMarks, literal.text = first :: more ∧
        pieces mark.sign (first :: rest) = .marked literal furtherMarks :: others := by
  cases outcome : markedLiteral? mark.sign (first :: rest) with
  | none =>
    rw [pieces_of_plain outcome, copied, if_pos leading]
    exact ⟨_, _, Or.inl rfl⟩
  | some result =>
    obtain ⟨literal, left⟩ := result
    have equal := eq_of_markedLiteral? outcome
    cases start : literal.text with
    | nil =>
      rw [start] at equal
      rw [(List.cons.inj equal).1, mark.sign_isDigit] at leading
      cases leading
    | cons head more =>
      rw [start] at equal
      obtain rfl := (List.cons.inj equal).1
      exact ⟨more, _, Or.inr ⟨literal, _, start, pieces_of_marked outcome⟩⟩

/-- What is written for a marked literal starts with a digit when the literal does. -/
theorem Mark.write_digit {literal : Literal} {furtherMarks : Nat} {first : Char}
    {more written : List Char} (leading : first.isDigit = true)
    (start : literal.text = first :: more)
    (accepted : mark.write (.marked literal furtherMarks) = .ok written) :
    ∃ head tail, written = head :: tail ∧ head.isDigit = true := by
  obtain ⟨value, plain, equal⟩ := mark.valueText_eq literal
  obtain ⟨head, tail, opening, digit⟩ := plain.text_eq_cons
  rw [opening] at equal
  cases mark with
  | percent =>
    obtain rfl := Except.ok.inj accepted
    change percentText literal = _ at equal
    exact ⟨head, _, by rw [resolvePercent, equal, List.cons_append], digit⟩
  | factorial =>
    cases furtherMarks with
    | zero => exact ⟨head, tail, (factorial.write_marked accepted).trans equal, digit⟩
    | succ furtherMarks =>
      obtain rfl := Except.ok.inj accepted
      exact ⟨first, _, by rw [markedText, start, List.cons_append], leading⟩

/-- The text starts with a number: with a point or with a digit. -/
def Opens (pointed : Prop) (text : List Char) : Prop :=
  ∃ first rest, text = first :: rest ∧
    (pointed ∧ first = '.' ∨ ¬pointed ∧ first.isDigit = true)

/-- **A text that starts with a number still does when it is resolved**, with a point or with a
digit as before. -/
theorem Mark.resolve_opens {pointed : Prop} {text resolved : List Char}
    (opens : Opens pointed text) (accepted : mark.resolve text = .ok resolved) :
    Opens pointed resolved := by
  obtain ⟨first, rest, rfl, ⟨point, rfl⟩ | ⟨point, start⟩⟩ := opens
  · rw [mark.resolve_cons (by decide), map_eq_ok_iff] at accepted
    obtain ⟨left, -, rfl⟩ := accepted
    exact ⟨'.', left, rfl, Or.inl ⟨point, rfl⟩⟩
  · rw [resolve_eq] at accepted
    obtain ⟨more, others, cut | ⟨literal, furtherMarks, equal, cut⟩⟩ :=
      pieces_of_digit mark start rest
    · rw [cut, writeAll, joined_eq_ok_iff] at accepted
      obtain ⟨before, after, read, -, rfl⟩ := accepted
      obtain rfl := Except.ok.inj ((mark.write_plain _).symm.trans read)
      exact ⟨first, _, rfl, Or.inr ⟨point, start⟩⟩
    · rw [cut, writeAll, joined_eq_ok_iff] at accepted
      obtain ⟨before, after, read, -, rfl⟩ := accepted
      obtain ⟨head, tail, rfl, digit⟩ := mark.write_digit start equal read
      exact ⟨head, _, rfl, Or.inr ⟨point, digit⟩⟩

/-- A text that starts with a number starts with no mark. -/
theorem Opens.stops_sign {pointed : Prop} {text : List Char} (opens : Opens pointed text) :
    Stops (· = mark.sign) text := by
  obtain ⟨first, rest, rfl, start⟩ := opens
  refine stops_cons.mpr (decide_eq_false ?_)
  rintro rfl
  rcases start with ⟨-, point⟩ | ⟨-, digit⟩
  · exact mark.sign_ne_point point
  · exact Bool.noConfusion (mark.sign_isDigit.symm.trans digit)

end Resolving

end ScientificCalculator.Canonical
