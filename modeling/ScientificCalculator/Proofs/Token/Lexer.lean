/-
**Tokens in two texts, one after the other.**

Tokens are read with the longest match. The tokens of two texts in a row are those of the first and
those of the second when the second one goes on with no token.

* `Separate`: the second text goes on with no number, word or power sign.
* `Literal.split_append`, `next_append`: one literal, one token.
* `Literal.Plain.split_append`: a plain literal is read as a whole.
* `tokenize_append`: all tokens.
-/

import Mathlib.Data.List.TakeWhile
import Mathlib.Tactic.SplitIfs
import ScientificCalculator.Proofs.Joined
import ScientificCalculator.Proofs.Numeral.Shape
import ScientificCalculator.Proofs.Text.Boundary
import ScientificCalculator.Token.Lexer

namespace ScientificCalculator

open Text (EndsWithout Stops stops_cons stops_nil endsWithout_concat endsWithout_singleton)

/-- **A literal within the first of two texts**, the second of which goes on with neither a digit
nor a point. -/
theorem Literal.split_append (before : List Char) {after : List Char}
    (stops : Stops Token.startsNumber after) :
    split (before ++ after) = ((split before).1, (split before).2 ++ after) := by
  have digits : Stops Char.isDigit after := by
    intro character member
    have none := stops character member
    rw [Token.startsNumber, Bool.or_eq_false_iff] at none
    exact none.1
  have point : ∀ rest, after ≠ '.' :: rest := by
    rintro rest rfl
    exact absurd (stops_cons.mp stops) (by decide)
  rw [split, split, Text.takeWhile_append before digits, Text.dropWhile_append before digits]
  cases before.dropWhile Char.isDigit with
  | nil =>
    rw [List.nil_append]
    -- the second text does not open a fraction: this is what `point` excludes
    cases after with
    | nil => rfl
    | cons next rest => simp
  | cons next rest =>
    by_cases equal : next = '.'
    · subst equal
      simp only [List.cons_append, Text.takeWhile_append rest digits,
        Text.dropWhile_append rest digits]
    · simp [equal]

/-- **A literal within the first of two texts**, which does not end with a part of a number. -/
theorem Literal.split_append_of_endsWithout {before : List Char}
    (ends : EndsWithout Token.startsNumber before) (present : before ≠ [])
    (after : List Char) : split (before ++ after) = ((split before).1, (split before).2 ++ after) := by
  have digits {text : List Char} (ends : EndsWithout Token.startsNumber text) :
      EndsWithout Char.isDigit text := by
    intro character member
    have none := ends character member
    rw [Token.startsNumber, Bool.or_eq_false_iff] at none
    exact none.1
  have parts := List.takeWhile_append_dropWhile (p := Char.isDigit) (l := before)
  rw [split, split, (digits ends).takeWhile_append present, (digits ends).dropWhile_append present]
  cases shape : before.dropWhile Char.isDigit with
  | nil =>
    obtain ⟨front, last, rfl⟩ := List.eq_nil_or_concat before |>.resolve_left present
    rw [List.concat_eq_append] at ends shape
    have digit := List.dropWhile_eq_nil_iff.mp shape last (by simp)
    rw [(endsWithout_concat.mp (digits ends))] at digit
    cases digit
  | cons next rest =>
    by_cases equal : next = '.'
    · subst equal
      rw [shape] at parts
      have inner := (parts ▸ ends).suffix (List.cons_ne_nil _ _)
      cases rest with
      | nil => exact absurd (endsWithout_singleton.mp inner) (by decide)
      | cons first more =>
        have fraction : EndsWithout Token.startsNumber (first :: more) := inner.of_append ['.']
        simp only [List.cons_append]
        rw [← List.cons_append, (digits fraction).takeWhile_append (List.cons_ne_nil _ _),
          (digits fraction).dropWhile_append (List.cons_ne_nil _ _)]
    · simp [equal]

/-- The literal of a text whose digits are followed by a point. -/
theorem Literal.split_of_point {input rest : List Char}
    (point : input.dropWhile Char.isDigit = '.' :: rest) :
    split input = (⟨input.takeWhile Char.isDigit, rest.takeWhile Char.isDigit⟩,
      rest.dropWhile Char.isDigit) := by
  simp only [split, point]

/-- A run of digits ends in front of a point. -/
theorem Literal.dropWhile_append_point {digits : List Char}
    (all : ∀ digit ∈ digits, digit.isDigit = true) (rest : List Char) :
    (digits ++ '.' :: rest).dropWhile Char.isDigit = '.' :: rest := by
  rw [List.dropWhile_append_of_pos all, List.dropWhile_cons_of_neg (by decide)]

/-- The literal at the head of a text is read up to what is no part of a number. -/
theorem Literal.Plain.split_append {literal : Literal} (plain : literal.Plain) {after : List Char}
    (stops : Stops Token.startsNumber after) :
    Literal.split (literal.text ++ after) = (literal, after) := by
  rw [Literal.split_append literal.text stops]
  obtain ⟨whole, fraction⟩ := literal
  by_cases none : fraction = []
  · subst none
    have taken : whole.takeWhile Char.isDigit = whole := List.takeWhile_eq_self_iff.mpr plain.whole
    have dropped : whole.dropWhile Char.isDigit = [] := List.dropWhile_eq_nil_iff.mpr plain.whole
    rw [Literal.text_of_fraction_nil rfl, Literal.split, taken, dropped]
    rfl
  · have point := dropWhile_append_point plain.whole fraction
    rw [Literal.text_of_fraction_ne_nil none, split_of_point point,
      List.takeWhile_append_of_pos plain.whole, List.takeWhile_cons_of_neg (by decide),
      List.append_nil, List.takeWhile_eq_self_iff.mpr plain.fraction,
      List.dropWhile_eq_nil_iff.mpr plain.fraction, List.nil_append]

/-- A plain literal is known from its text. -/
theorem Literal.Plain.text_inj {literal other : Literal} (plain : literal.Plain)
    (plain' : other.Plain) (same : literal.text = other.text) : literal = other := by
  have read := plain.split_append stops_nil
  rw [same, plain'.split_append stops_nil] at read
  exact (Prod.mk.inj read).1.symm

namespace Token

/-- The text goes on with no token that ends where it starts. -/
def Separate (after : List Char) : Prop :=
  Stops (fun character => isWordPart character || startsNumber character || character = '*') after

section Append

variable {after : List Char}

theorem Separate.word (separate : Separate after) : Stops isWordPart after := by
  intro character member
  have none := separate character member
  rw [Bool.or_eq_false_iff, Bool.or_eq_false_iff] at none
  exact none.1.1

theorem Separate.number (separate : Separate after) : Stops startsNumber after := by
  intro character member
  have none := separate character member
  rw [Bool.or_eq_false_iff, Bool.or_eq_false_iff] at none
  exact none.1.2

theorem Separate.head?_ne (separate : Separate after) : after.head? ≠ some '*' := by
  intro star
  have none := separate '*' star
  exact absurd none (by decide)

/-- A token and what comes after it, followed by another text. -/
def followedBy (after : List Char) : Token × List Char → Token × List Char :=
  fun read => (read.1, read.2 ++ after)

theorem number_append (separate : Separate after) (before : List Char) :
    number (before ++ after) = (number before).map (followedBy after) := by
  rw [number, number, Literal.split_append before separate.number]
  dsimp only
  split_ifs <;> rfl

theorem word_append (separate : Separate after) (first : Char) (rest : List Char) :
    word first (rest ++ after) = (word first rest).map (followedBy after) := by
  rw [word, word, Text.takeWhile_append rest separate.word,
    Text.dropWhile_append rest separate.word]
  cases Func.ofName? (String.ofList (first :: rest.takeWhile isWordPart)) <;> rfl

/-- **One token within the first of two texts.** -/
theorem next_append (separate : Separate after) (first : Char) (rest : List Char) :
    next first (rest ++ after) = (next first rest).map (followedBy after) := by
  have power : (first = '*' ∧ (rest ++ after).head? = some '*') ↔
      (first = '*' ∧ rest.head? = some '*') := by
    cases rest with
    | nil => simp [separate.head?_ne]
    | cons second rest => simp
  rw [next, next]
  simp only [power]
  split_ifs with star digit letter
  · obtain ⟨-, second⟩ := star
    cases rest with
    | nil => cases second
    | cons second rest => rfl
  · cases ofSymbol? first with
    | some symbol => rfl
    | none => exact number_append separate (first :: rest)
  · cases ofSymbol? first with
    | some symbol => rfl
    | none => exact word_append separate first rest
  · cases ofSymbol? first with
    | some symbol => rfl
    | none => rfl

theorem tokenize_blank {first : Char} (blank : Text.isBlank first = true) (rest : List Char) :
    tokenize (first :: rest) = tokenize rest := by
  rw [tokenize, if_pos blank]

theorem tokenize_next {first : Char} (solid : Text.isBlank first = false) (rest : List Char) :
    tokenize (first :: rest) =
      match next first rest with
      | .error cause => .error cause
      | .ok (token, left) => (tokenize left).map (token :: ·) := by
  rw [tokenize, if_neg (by simp [solid])]
  split
  · rename_i read
    rw [read]
  · rename_i read
    rw [read]

/-- **All tokens of two texts**, the second of which goes on with none of the first. -/
theorem tokenize_append (before : List Char) {after : List Char} (separate : Separate after) :
    tokenize (before ++ after) = joined (tokenize before) (tokenize after) := by
  cases before with
  | nil =>
    rw [tokenize.eq_1]
    exact (nil_joined _).symm
  | cons first rest =>
    rw [List.cons_append]
    by_cases blank : Text.isBlank first = true
    · rw [tokenize_blank blank, tokenize_blank blank, tokenize_append rest separate]
    · have solid := Bool.eq_false_iff.mpr blank
      rw [tokenize_next solid, tokenize_next solid, next_append separate]
      cases read : next first rest with
      | error cause => rfl
      | ok outcome =>
        obtain ⟨token, left⟩ := outcome
        have shorter : left.length < (first :: rest).length :=
          Nat.lt_succ_of_le (length_next_le read)
        show (tokenize (left ++ after)).map (token :: ·) = _
        rw [tokenize_append left separate, joined_map_cons]
termination_by before.length
decreasing_by
  · exact Nat.lt_succ_self _
  · exact shorter

end Append

end Token

end ScientificCalculator
