/-
**The text of tokens, read again.**

The texts of tokens are written with a space between them. Every number, word and sign ends in front
of a space, so that two tokens side by side, stars, names and numbers alike, are read as the two
that were written.

* `Token.separate_space`: a text that starts with a space goes on with no token.
* `Token.lexeme_text`: the text of a token is its lexeme in front of such a text.
* `Token.spells_textAll`: the texts of tokens spell them.
* `Token.tokenize_textAll`: they are read from their texts.
-/

import ScientificCalculator.Proofs.Binary64.Opposite
import ScientificCalculator.Proofs.Expr.Text

namespace ScientificCalculator.Token

open Binary64 (IsMagnitude isFinite isNegative nearest)
open Text (stops_cons stops_nil)

section Texts

/-- A space is part of no token. -/
theorem separate_space (rest : List Char) : Separate (' ' :: rest) :=
  stops_cons.mpr (by decide)

/-- **The text of a token is its lexeme**, in front of a text that goes on with no token. The
unary minus has no text of its own. -/
theorem lexeme_text {token : Token} {after : List Char} (known : token ≠ .neg)
    (number : ∀ value, token = .num value → IsMagnitude value) (separate : Separate after) :
    Lexeme token.text token after := by
  cases token with
  | num value => exact Numeral.lexeme_text (number value rfl) separate.number
  | func applied => exact .word applied separate.word
  | op operation => exact operation.lexeme_text separate.head?_ne
  | neg => exact absurd rfl known
  | lparen => exact .symbol rfl nofun
  | rparen => exact .symbol rfl nofun

theorem textAll_cons_cons (first second : Token) (others : List Token) :
    textAll (first :: second :: others) = first.text ++ ' ' :: textAll (second :: others) := by
  simp [textAll, List.intercalate]

/-- **The texts of tokens spell them**: each one is in front of a space, or at the end. -/
theorem spells_textAll {tokens : List Token} (known : .neg ∉ tokens)
    (numbers : ∀ value, .num value ∈ tokens → IsMagnitude value) :
    Spells (textAll tokens) tokens := by
  induction tokens with
  | nil => exact .nil
  | cons first others ih =>
    have other : first ≠ .neg := fun equal => known (equal ▸ List.mem_cons_self)
    have number : ∀ value, first = .num value → IsMagnitude value :=
      fun value equal => numbers value (equal ▸ List.mem_cons_self)
    cases others with
    | nil =>
      have alone := Spells.lexeme (lexeme_text other number stops_nil) .nil
      simpa [textAll, List.intercalate] using alone
    | cons second others =>
      have behind : Spells (textAll (second :: others)) (second :: others) :=
        ih (fun member => known (List.mem_cons_of_mem _ member))
          (fun value member => numbers value (List.mem_cons_of_mem _ member))
      rw [textAll_cons_cons]
      exact .lexeme (lexeme_text other number (separate_space _)) (.blank (by decide) behind)

/-- **Tokens are read from their texts**, in any number and next to any others, when the unary minus
is none of them and their numbers are finite and have no sign. -/
theorem tokenize_textAll {tokens : List Token} (known : .neg ∉ tokens)
    (numbers : ∀ value, .num value ∈ tokens → isFinite value = true ∧ isNegative value = false) :
    tokenize (textAll tokens) = .ok tokens := by
  refine tokenize_eq_ok_iff.mpr (spells_textAll known fun value member => ?_)
  obtain ⟨finite, positive⟩ := numbers value member
  exact ⟨Binary64.isNaN_of_finite finite, positive, finite⟩

/-- Stars next to a power sign, and numbers next to each other and to a name with digits. -/
theorem tokenize_textAll_stars :
    let tokens := [.op .mul, .op .pow, .op .mul, .num (nearest 1 4), .num (nearest 10 1),
      .func .log10, .func .log10, .num (nearest 0 1), .rparen]
    .neg ∉ tokens ∧
      (∀ value, .num value ∈ tokens → isFinite value = true ∧ isNegative value = false) ∧
      textAll tokens = "* ** * 0.25 10 log10 log10 0 )".toList ∧
      tokenize "* ** * 0.25 10 log10 log10 0 )".toList = .ok tokens := by
  intro tokens
  have known : .neg ∉ tokens := by decide
  have numbers : ∀ value, .num value ∈ tokens →
      isFinite value = true ∧ isNegative value = false := by
    intro value member
    simp only [tokens, List.mem_cons, List.not_mem_nil, num.injEq, reduceCtorEq, false_or,
      or_false] at member
    rcases member with rfl | rfl | rfl <;> decide +kernel
  have written : textAll tokens = "* ** * 0.25 10 log10 log10 0 )".toList := by decide +kernel
  have read := tokenize_textAll known numbers
  rw [written] at read
  exact ⟨known, numbers, written, read⟩

end Texts

end ScientificCalculator.Token
