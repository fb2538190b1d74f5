/-
**The passes on texts, part by part.**

All four passes stop at a boundary character, so the tokens of a text are those before the first
boundary followed by those from it on. The texts of tokens are read as these tokens in front of any
text that starts with a boundary or an opening parenthesis.

* `front_eq_ok_iff`: a text with tokens is one whose factorials are resolved and whose result is cut
  into them.
* `front_append`: the tokens of a text in front of a boundary, and from it on.
* `front_symbol`, `front_operation`, `front_typed`: the tokens of a parenthesis, of an operation and
  of a function, in front of a text.
-/

import Mathlib
import ScientificCalculator.Evaluation
import ScientificCalculator.Proofs.Canonical.Marks
import ScientificCalculator.Proofs.Canonical.Typed
import ScientificCalculator.Proofs.Token.Lexer

namespace ScientificCalculator

/-- The sign a user types for an operation. -/
def BinOp.typed : BinOp → String
  | add => "+"
  | sub => "-"
  | mul => "*"
  | div => "/"
  | pow => "^"

namespace Evaluation

open Canonical (ofTyped resolveFactorials resolvePercents Apart Seam sticks)
open Text (Stops stops_cons isBoundary)
open Token (tokenize Separate)

section Front

variable {text : List Char} {written : List Token}

/-- The tokens of a text are those of its canonical text. -/
theorem front_eq_ok_iff_canonicalText :
    front text = .ok written ↔
      ∃ canonical, canonicalText text = .ok canonical ∧ tokens canonical = .ok written :=
  bind_eq_ok_iff

theorem front_eq_ok_iff :
    front text = .ok written ↔
      ∃ resolved, resolveFactorials (ofTyped text) = .ok resolved ∧
        tokenize (resolvePercents resolved) = .ok written := by
  rw [front_eq_ok_iff_canonicalText]
  simp only [canonicalText, map_eq_ok_iff, tokens, mapError_eq_ok_iff]
  constructor
  · rintro ⟨canonical, ⟨resolved, factorials, rfl⟩, cut⟩
    exact ⟨resolved, factorials, cut⟩
  · rintro ⟨resolved, factorials, cut⟩
    exact ⟨_, ⟨resolved, factorials, rfl⟩, cut⟩

end Front

section Boundary

variable {character : Char} (boundary : isBoundary character = true) (rest : List Char)

include boundary

theorem apart_of_isBoundary : Apart (character :: rest) := by
  have free := Text.not_sticks_of_isBoundary boundary
  have other : character ≠ '(' := Text.ne_of_isBoundary boundary (by decide)
  exact stops_cons.mpr (by simp [free, other])

theorem seam_of_isBoundary {mark : Char} (special : mark ∈ Text.specialSigns)
    (before : List Char) : Seam mark before (character :: rest) := by
  have free := Text.not_sticks_of_isBoundary boundary
  have other : character ≠ mark := Text.ne_of_isBoundary boundary special
  exact .ahead (stops_cons.mpr (by simp [Canonical.extends?, Text.isDigit_of_not_sticks free,
    Text.ne_point_of_not_sticks free, other]))

theorem separate_of_isBoundary : Separate (character :: rest) := by
  have free := Text.not_sticks_of_isBoundary boundary
  have star : character ≠ '*' := Text.ne_of_isBoundary boundary (by decide)
  have score : character ≠ '_' := Text.ne_of_isBoundary boundary (by decide)
  exact stops_cons.mpr (by simp [Token.isWordPart, Token.startsNumber,
    Text.isAlphanum_of_not_sticks free, Text.isDigit_of_not_sticks free,
    Text.ne_point_of_not_sticks free, star, score])

/-- A boundary character is copied by every pass on texts. -/
theorem ofTyped_boundary : ofTyped (character :: rest) = character :: ofTyped rest :=
  Canonical.ofTyped_cons (Text.not_sticks_of_isBoundary boundary)
    (Text.ne_of_isBoundary boundary (by decide))
    (Text.ne_of_isBoundary boundary (by decide)) rest

/-- **The tokens in front of a boundary and from it on.** -/
theorem front_append (text : List Char) {written : List Token} :
    front (text ++ character :: rest) = .ok written ↔
      ∃ before after, front text = .ok before ∧ front (character :: rest) = .ok after ∧
        written = before ++ after := by
  have digit := Text.isDigit_of_not_sticks (Text.not_sticks_of_isBoundary boundary)
  have typed : ofTyped (text ++ character :: rest) = ofTyped text ++ character :: ofTyped rest := by
    rw [Canonical.ofTyped_append text (apart_of_isBoundary boundary rest),
      ofTyped_boundary boundary]
  have factorials (resolved : List Char) :
      resolveFactorials (ofTyped (text ++ character :: rest)) = .ok resolved ↔
        ∃ before after, resolveFactorials (ofTyped text) = .ok before ∧
          resolveFactorials (ofTyped rest) = .ok after ∧
          resolved = before ++ character :: after := by
    rw [typed, Canonical.resolveFactorials_append
      (seam_of_isBoundary boundary _ (by decide) _), Canonical.resolveFactorials_cons digit,
      joined_eq_ok_iff]
    simp [map_eq_ok_iff]
  have percents (before after : List Char) :
      resolvePercents (before ++ character :: after) =
        resolvePercents before ++ character :: resolvePercents after := by
    rw [Canonical.resolvePercents_append (seam_of_isBoundary boundary _ (by decide) _),
      Canonical.resolvePercents_cons digit]
  simp only [front_eq_ok_iff, factorials, ofTyped_boundary boundary,
    Canonical.resolveFactorials_cons digit, map_eq_ok_iff]
  constructor
  · rintro ⟨resolved, ⟨before, after, first, second, rfl⟩, read⟩
    rw [percents, Token.tokenize_append _ (separate_of_isBoundary boundary _),
      joined_eq_ok_iff] at read
    obtain ⟨left, right, readLeft, readRight, rfl⟩ := read
    refine ⟨left, right, ⟨before, first, readLeft⟩, ⟨_, ⟨after, second, rfl⟩, ?_⟩, rfl⟩
    rwa [Canonical.resolvePercents_cons digit]
  · rintro ⟨left, right, ⟨before, first, readLeft⟩, ⟨_, ⟨after, second, rfl⟩, readRight⟩, rfl⟩
    rw [Canonical.resolvePercents_cons digit] at readRight
    refine ⟨_, ⟨before, after, first, second, rfl⟩, ?_⟩
    rw [percents, Token.tokenize_append _ (separate_of_isBoundary boundary _), joined_eq_ok_iff]
    exact ⟨left, right, readLeft, readRight, rfl⟩

end Boundary

section Symbols

/-- A character that is copied by the passes on texts and makes a token of its own. -/
theorem front_symbol {character : Char} {token : Token} (free : sticks character = false)
    (power : character ≠ '^') (root : character ≠ '√') (solid : Text.isBlank character = false)
    (star : character ≠ '*') (symbol : Token.ofSymbol? character = some token) {rest : List Char}
    {written : List Token} (read : front rest = .ok written) :
    front (character :: rest) = .ok (token :: written) := by
  have digit := Text.isDigit_of_not_sticks free
  obtain ⟨resolved, factorials, tokens⟩ := front_eq_ok_iff.mp read
  refine front_eq_ok_iff.mpr ⟨character :: resolved, ?_, ?_⟩
  · rw [Canonical.ofTyped_cons free power root, Canonical.resolveFactorials_cons digit, factorials]
    rfl
  · rw [Canonical.resolvePercents_cons digit, Token.tokenize_next solid, Token.next,
      if_neg (by simp [star]), symbol]
    dsimp only
    rw [tokens]
    rfl

variable {rest : List Char} {written : List Token}

theorem stops_lparen : Stops sticks ('(' :: rest) :=
  stops_cons.mpr (Text.not_sticks_of_mem (by decide))

theorem front_lparen (read : front rest = .ok written) :
    front ('(' :: rest) = .ok (.lparen :: written) :=
  front_symbol (Text.not_sticks_of_mem (by decide)) (by decide) (by decide) (by decide) (by decide)
    rfl read

theorem front_rparen (read : front rest = .ok written) :
    front (')' :: rest) = .ok (.rparen :: written) :=
  front_symbol (Text.not_sticks_of_mem (by decide)) (by decide) (by decide) (by decide) (by decide)
    rfl read

theorem front_minus (read : front rest = .ok written) :
    front ('-' :: rest) = .ok (.op .sub :: written) :=
  front_symbol (Text.not_sticks_of_mem (by decide)) (by decide) (by decide) (by decide) (by decide)
    rfl read

/-- A word that the passes on marks copy and that is one token, in front of a parenthesis. -/
theorem front_word {typed canonical : List Char} {token : Token}
    (rewritten : ofTyped (typed ++ '(' :: rest) = canonical ++ '(' :: ofTyped rest)
    (factorials : resolveFactorials canonical = .ok canonical)
    (percents : resolvePercents canonical = canonical)
    (alone : tokenize canonical = .ok [token]) (read : front rest = .ok written) :
    front (typed ++ '(' :: rest) = .ok (token :: .lparen :: written) := by
  obtain ⟨resolved, first, second⟩ := front_eq_ok_iff.mp (front_lparen read)
  rw [Canonical.ofTyped_lparen] at first
  have seam (mark : Char) (other : Canonical.extends? mark '(' = false) (after : List Char) :
      Seam mark canonical ('(' :: after) := .ahead (stops_cons.mpr other)
  have opened := first
  rw [Canonical.resolveFactorials_cons (by decide), map_eq_ok_iff] at opened
  obtain ⟨inside, -, rfl⟩ := opened
  refine front_eq_ok_iff.mpr ⟨canonical ++ '(' :: inside, ?_, ?_⟩
  · rw [rewritten, Canonical.resolveFactorials_append (seam _ (by decide) _), factorials, first]
    rfl
  · have separate : Separate ('(' :: resolvePercents inside) := stops_cons.mpr (by decide)
    rw [Canonical.resolvePercents_cons (by decide)] at second
    rw [Canonical.resolvePercents_append (seam _ (by decide) _), percents,
      Canonical.resolvePercents_cons (by decide), Token.tokenize_append _ separate, alone, second]
    rfl

/-- A word of letters in front of a parenthesis is rewritten as a whole. -/
theorem ofTyped_letters {letters : List Char} {func : Func} (present : letters ≠ [])
    (all : letters.all Char.isAlpha = true)
    (known : Func.ofTyped? (String.ofList letters) = some func) (constant : letters ≠ ['e'])
    (rest : List Char) :
    ofTyped (letters ++ '(' :: rest) = func.name.toList ++ '(' :: ofTyped rest := by
  have stops : Stops Char.isAlpha ('(' :: rest) := stops_cons.mpr (by decide)
  rw [ofTyped, Canonical.ofTypedAfter_letters present (List.all_eq_true.mp all) stops,
    List.head?_cons, Canonical.ofWord, if_neg constant, if_pos rfl, known]
  dsimp only
  rw [Canonical.ofTypedAfter_of_stops stops_lparen, Canonical.ofTyped_lparen]

/-- **The name a user types for a function becomes the canonical one**, in front of its argument. -/
theorem ofTyped_typed (func : Func) (rest : List Char) :
    ofTyped (func.typed.toList ++ '(' :: rest) = func.name.toList ++ '(' :: ofTyped rest := by
  by_cases root : func = .sqrt
  · subst root
    show ofTyped ('√' :: '(' :: rest) = _
    rw [ofTyped, Canonical.ofTypedAfter, if_neg (by decide)]
    dsimp only
    rw [Canonical.ofTypedAfter_of_stops stops_lparen, Canonical.ofTyped_lparen]
    rfl
  · have known : Func.ofTyped? (String.ofList func.typed.toList) = some func := by
      rw [String.ofList_toList, Func.ofTyped?_typed]
    refine ofTyped_letters ?_ ?_ known ?_ rest <;> revert root <;> cases func <;> decide

/-- **The sign a user types for an operation becomes the canonical one.** -/
theorem ofTyped_operation (operation : BinOp) (rest : List Char) :
    ofTyped (operation.typed.toList ++ '(' :: rest) =
      operation.text.toList ++ '(' :: ofTyped rest := by
  have copied {sign : Char} (free : sticks sign = false) (power : sign ≠ '^') (root : sign ≠ '√') :
      ofTyped (sign :: '(' :: rest) = sign :: '(' :: ofTyped rest := by
    rw [Canonical.ofTyped_cons free power root, Canonical.ofTyped_lparen]
  cases operation with
  | add => exact copied (Text.not_sticks_of_mem (by decide)) (by decide) (by decide)
  | sub => exact copied (Text.not_sticks_of_mem (by decide)) (by decide) (by decide)
  | mul => exact copied (Text.not_sticks_of_mem (by decide)) (by decide) (by decide)
  | div => exact copied (Text.not_sticks_of_mem (by decide)) (by decide) (by decide)
  | pow =>
    show ofTyped ('^' :: '(' :: rest) = _
    rw [ofTyped, Canonical.ofTypedAfter, if_neg (by decide)]
    dsimp only
    rw [Canonical.ofTypedAfter_of_stops stops_lparen, Canonical.ofTyped_lparen]
    rfl

/-- **The token of an operation in front of a parenthesis.** -/
theorem front_operation (operation : BinOp) (read : front rest = .ok written) :
    front (operation.typed.toList ++ '(' :: rest) = .ok (.op operation :: .lparen :: written) := by
  refine front_word (ofTyped_operation operation rest) ?_ ?_ ?_ read <;> cases operation <;> cbv

/-- **The token of a function in front of its argument.** -/
theorem front_typed (func : Func) (read : front rest = .ok written) :
    front (func.typed.toList ++ '(' :: rest) = .ok (.func func :: .lparen :: written) := by
  refine front_word (ofTyped_typed func rest) ?_ ?_ ?_ read <;> cases func <;> cbv

end Symbols

end Evaluation

end ScientificCalculator
