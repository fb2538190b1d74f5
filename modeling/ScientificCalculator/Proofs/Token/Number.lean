/-
**Where a number ends.**

A number is read as far as its digits go, and over one point. In front of another number it ends
only where both have a point, and then the two are two tokens whatever stands in front of them.

* `length_split_le`: the literal at the head of a text.
* `number_append_iff`: where a number ends in front of a number.
* `tokenize_fraction`: the tokens of a fraction in front of a point.
-/

import ScientificCalculator.Proofs.Canonical.Operand
import ScientificCalculator.Proofs.Token.Lexer

namespace ScientificCalculator.Token

open Canonical (Opens)
open Text (Stops stops_cons)

section Number

/-- A literal takes all digits in front of it. -/
theorem length_split_le (input : List Char) :
    (Literal.split input).2.length ≤ (input.dropWhile Char.isDigit).length := by
  rw [Literal.split]
  split
  · rename_i rest point
    rw [point, List.length_cons]
    exact Nat.le_succ_of_le (List.dropWhile_sublist _).length_le
  · exact Nat.le_refl _

/-- What a number leaves is what its literal leaves. -/
theorem split_of_number {input left : List Char} {token : Token}
    (read : number input = .ok (token, left)) : (Literal.split input).2 = left := by
  unfold number at read
  simp only at read
  split at read
  · cases read
  · exact (Prod.mk.inj (Except.ok.inj read)).2

theorem exists_num_of_number {input left : List Char} {token : Token}
    (read : number input = .ok (token, left)) : ∃ value, token = .num value := by
  unfold number at read
  simp only at read
  split at read
  · cases read
  · exact ⟨_, (Prod.mk.inj (Except.ok.inj read)).1.symm⟩

theorem number_of_split {input left : List Char} {literal : Literal}
    (cut : Literal.split input = (literal, left)) (present : literal.whole ≠ []) :
    number input = .ok (.num literal.toFloat, left) := by
  rw [number, cut]
  exact if_neg fun none => present none.1

/-- A run of digits goes on into another. -/
theorem length_dropWhile_lt {digits rest : List Char} {first : Char}
    (all : ∀ digit ∈ digits, digit.isDigit = true) (digit : first.isDigit = true) :
    ((digits ++ first :: rest).dropWhile Char.isDigit).length < (first :: rest).length := by
  rw [List.dropWhile_append_of_pos all, List.dropWhile_cons_of_pos digit]
  exact Nat.lt_succ_of_le (List.dropWhile_sublist _).length_le

/-- **A number in front of a number** is read on into it, unless both have a point. -/
theorem number_append_iff {value : Literal} (plain : value.Plain) {pointed : Prop}
    {right : List Char} (opens : Opens pointed right) :
    (∃ token, number (value.text ++ right) = .ok (token, right)) ↔
      '.' ∈ value.text ∧ pointed := by
  have longer {input : List Char} (fewer : (Literal.split input).2.length < right.length) :
      ¬∃ token, number input = .ok (token, right) := by
    rintro ⟨token, read⟩
    rw [split_of_number read] at fewer
    exact Nat.lt_irrefl _ fewer
  obtain ⟨first, rest, rfl, start⟩ := opens
  rw [plain.point_mem_text]
  by_cases none : value.fraction = []
  · refine iff_of_false (longer ?_) fun both => both.1 none
    rw [Literal.text_of_fraction_nil none]
    rcases start with ⟨-, rfl⟩ | ⟨-, digit⟩
    · rw [Literal.split_of_point (Literal.dropWhile_append_point plain.whole rest)]
      exact Nat.lt_succ_of_le (List.dropWhile_sublist _).length_le
    · exact Nat.lt_of_le_of_lt (length_split_le _) (length_dropWhile_lt plain.whole digit)
  · have point : (value.text ++ first :: rest).dropWhile Char.isDigit =
        '.' :: (value.fraction ++ first :: rest) := by
      rw [Literal.text_of_fraction_ne_nil none, List.append_assoc, List.cons_append]
      exact Literal.dropWhile_append_point plain.whole _
    have cut := Literal.split_of_point point
    rcases start with ⟨pointed, rfl⟩ | ⟨pointed, digit⟩
    · rw [Literal.dropWhile_append_point plain.fraction rest] at cut
      refine iff_of_true ⟨_, number_of_split cut ?_⟩ ⟨none, pointed⟩
      obtain ⟨head, tail, start, digit⟩ := plain.text_eq_cons
      rw [start, List.cons_append, List.takeWhile_cons_of_pos digit]
      exact List.cons_ne_nil _ _
    · refine iff_of_false (longer ?_) fun both => pointed both.2
      rw [cut]
      exact length_dropWhile_lt plain.fraction digit

end Number

section Fraction

/-- A text that starts with a point starts with a number. -/
theorem tokenize_point {right : List Char} {written : List Token}
    (read : tokenize ('.' :: right) = .ok written) :
    ∃ value others, written = .num value :: others := by
  rw [tokenize_next (by decide)] at read
  have head : next '.' right = number ('.' :: right) := rfl
  rw [head] at read
  cases outcome : number ('.' :: right) with
  | error cause =>
    rw [outcome] at read
    cases read
  | ok result =>
    obtain ⟨token, left⟩ := result
    rw [outcome] at read
    obtain ⟨value, rfl⟩ := exists_num_of_number outcome
    obtain ⟨others, -, rfl⟩ := map_eq_ok_iff.mp read
    exact ⟨value, others, rfl⟩

variable {fraction : List Char} (all : ∀ digit ∈ fraction, digit.isDigit = true)
  (right : List Char)

include all

/-- A number that starts in front of the fraction leaves all of it, or ends with it. -/
theorem number_fraction (before : List Char) {token : Token} {left : List Char}
    (read : number (before ++ '.' :: (fraction ++ '.' :: right)) = .ok (token, left)) :
    (∃ remaining, left = remaining ++ '.' :: (fraction ++ '.' :: right)) ∨
      (∃ value, token = .num value) ∧ left = '.' :: right := by
  have stops : Stops Char.isDigit ('.' :: (fraction ++ '.' :: right)) := stops_cons.mpr (by decide)
  have digits := Text.dropWhile_append before stops
  rw [← split_of_number read]
  cases shape : before.dropWhile Char.isDigit with
  | nil =>
    rw [shape, List.nil_append] at digits
    rw [Literal.split_of_point digits]
    exact Or.inr ⟨exists_num_of_number read, Literal.dropWhile_append_point all right⟩
  | cons next more =>
    rw [shape, List.cons_append] at digits
    left
    by_cases point : next = '.'
    · subst point
      rw [Literal.split_of_point digits]
      exact ⟨_, Text.dropWhile_append more stops⟩
    · refine ⟨next :: more, ?_⟩
      rw [Literal.split, digits]
      split
      · rename_i equal
        exact absurd (List.cons.inj equal).1 point
      · rfl

/-- So does any token. -/
theorem next_fraction {first : Char} (before : List Char) {token : Token} {left : List Char}
    (read : next first (before ++ '.' :: (fraction ++ '.' :: right)) = .ok (token, left)) :
    (∃ remaining, left = remaining ++ '.' :: (fraction ++ '.' :: right)) ∨
      (∃ value, token = .num value) ∧ left = '.' :: right := by
  rw [next] at read
  split at read
  · rename_i star
    cases before with
    | nil => exact absurd star.2 (by simp)
    | cons second before => exact Or.inl ⟨before, (Prod.mk.inj (Except.ok.inj read)).2.symm⟩
  · split at read
    · exact Or.inl ⟨before, (Prod.mk.inj (Except.ok.inj read)).2.symm⟩
    · split at read
      · exact number_fraction all right (first :: before) read
      · split at read
        · have stops : Stops isWordPart ('.' :: (fraction ++ '.' :: right)) :=
            stops_cons.mpr (by decide)
          rw [word, Text.dropWhile_append before stops] at read
          split at read
          · exact Or.inl ⟨_, (Prod.mk.inj (Except.ok.inj read)).2.symm⟩
          · cases read
        · cases read

/-- **A fraction in front of a point ends a number**, and the next number starts at the point. The
induction is on the length of the text in front of the fraction: each token that does not end with
the fraction leaves a shorter one. -/
theorem tokenize_fraction (before : List Char) {written : List Token}
    (read : tokenize (before ++ '.' :: (fraction ++ '.' :: right)) = .ok written) :
    ∃ front one two others, written = front ++ .num one :: .num two :: others := by
  have ended {value : Float}
      (read : (tokenize ('.' :: right)).map (.num value :: ·) = .ok written) :
      ∃ front one two others, written = front ++ .num one :: .num two :: others := by
    obtain ⟨following, rest, rfl⟩ := map_eq_ok_iff.mp read
    obtain ⟨two, others, rfl⟩ := tokenize_point rest
    exact ⟨[], value, two, others, rfl⟩
  cases before with
  | nil =>
    rw [List.nil_append, tokenize_next (by decide)] at read
    have head : next '.' (fraction ++ '.' :: right) = number ('.' :: (fraction ++ '.' :: right)) :=
      rfl
    rw [head] at read
    cases outcome : number ('.' :: (fraction ++ '.' :: right)) with
    | error cause =>
      rw [outcome] at read
      cases read
    | ok result =>
      obtain ⟨token, left⟩ := result
      have point : ('.' :: (fraction ++ '.' :: right)).dropWhile Char.isDigit =
          '.' :: (fraction ++ '.' :: right) := rfl
      have remainder : left = '.' :: right := by
        rw [← split_of_number outcome, Literal.split_of_point point]
        exact Literal.dropWhile_append_point all right
      obtain ⟨value, rfl⟩ := exists_num_of_number outcome
      rw [outcome, remainder] at read
      exact ended read
  | cons first before =>
    rw [List.cons_append] at read
    by_cases blank : Text.isBlank first = true
    · rw [tokenize_blank blank] at read
      exact tokenize_fraction before read
    · rw [tokenize_next (Bool.eq_false_iff.mpr blank)] at read
      cases outcome : next first (before ++ '.' :: (fraction ++ '.' :: right)) with
      | error cause =>
        rw [outcome] at read
        cases read
      | ok result =>
        obtain ⟨token, left⟩ := result
        have bound := length_next_le outcome
        rw [outcome] at read
        rcases next_fraction all right before outcome with
          ⟨remaining, rfl⟩ | ⟨⟨value, rfl⟩, rfl⟩
        · have fewer : remaining.length < (first :: before).length := by
            rw [List.length_append, List.length_append] at bound
            rw [List.length_cons]
            omega
          obtain ⟨following, rest, rfl⟩ := map_eq_ok_iff.mp read
          obtain ⟨front, one, two, others, rfl⟩ := tokenize_fraction remaining rest
          exact ⟨token :: front, one, two, others, rfl⟩
        · exact ended read
termination_by before.length
decreasing_by
  · subst_vars
    exact Nat.lt_succ_self _
  · subst_vars
    exact fewer

end Fraction

end ScientificCalculator.Token
