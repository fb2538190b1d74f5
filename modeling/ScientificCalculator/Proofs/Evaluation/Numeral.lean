/-
**Evaluating a numeral.**

A literal, perhaps with a minus sign, is an expression, and its value is the number it stands for. A
numeral with an exponent is none: its `e` is read as the constant and set off from the digits in
front of it, so that it is a second value next to the first one. Nor is a word that names nothing.

* `evaluate_literal`: the value of a literal with its sign.
* `ofTyped_scaled`: what is written for a literal with an exponent.
* `evaluate_scaled`: it is refused.
* `evaluate_word`: a word that names nothing is refused.
-/

import ScientificCalculator.Proofs.Evaluation.Canonical
import ScientificCalculator.Proofs.Expr.Text
import ScientificCalculator.Proofs.Numeral.Denoted

namespace ScientificCalculator.Evaluation

open Canonical (eulerLiteral gap isCopied ofTyped ofTypedAfter)
open Numeral (IsExponent oppositeIf signed)
open Text (Stops stops_cons stops_nil)
open Token (Spells startsNumber)

/-- The tokens of a value with its sign, in front of others. -/
def signedTokens (negative : Bool) (value : Float) (others : List Token) : List Token :=
  if negative then .op .sub :: .num value :: others else .num value :: others

section Literals

variable {literal : Literal} (plain : literal.Plain) (negative : Bool)

include plain

/-- **A literal with its sign spells its value**, in front of a text that starts with no part of a
number. -/
theorem spells_signed {after : List Char} {others : List Token} (stops : Stops startsNumber after)
    (spells : Spells after others) :
    Spells (signed negative (literal.text ++ after))
      (signedTokens negative literal.toFloat others) := by
  have value : Spells (literal.text ++ after) (.num literal.toFloat :: others) :=
    .lexeme (plain.lexeme stops) spells
  cases negative with
  | true => exact .symbol rfl (by decide) value
  | false => exact value

/-- A literal with its sign is not blank. -/
theorem isBlank_signed (after : List Char) :
    isBlank (signed negative (literal.text ++ after)) = false := by
  obtain ⟨first, rest, equal, digit⟩ := plain.text_eq_cons
  have starts : startsNumber first = true := by rw [startsNumber, digit, Bool.true_or]
  refine isBlank_eq_false_iff.mpr ⟨first, ?_, (Token.solid_of_startsNumber starts).1⟩
  rw [equal]
  cases negative <;> simp

/-- **The value of a literal with its sign** is the number that it stands for. -/
theorem evaluate_literal (mode : AngleMode) :
    ∃ evaluation, evaluate (String.ofList (signed negative literal.text)) mode =
        .ok (some evaluation) ∧
      evaluation.value = oppositeIf negative literal.toFloat := by
  have spells := spells_signed plain negative stops_nil .nil
  rw [List.append_nil] at spells
  have read : tokens (signed negative literal.text) =
      .ok (signedTokens negative literal.toFloat []) :=
    mapError_eq_ok_iff.mpr (Token.tokenize_eq_ok_iff.mpr spells)
  have made : canonicalText (String.ofList (signed negative literal.text)).toList =
      .ok (signed negative literal.text) := by
    rw [String.toList_ofList, canonicalText_of_tokens read]
  have value := Derives.num literal.toFloat
  cases negative with
  | true =>
    have negation := Derives.minus (.loosen (Phrase.le_atom _) value)
    have low : 2 ≤ Rpn.maximumDepth := by decide
    exact ⟨_, evaluate_eq_some_iff.mpr
      ⟨_, _, _, made, read, .loosen (Phrase.sum_le _) negation, low, rfl⟩, rfl⟩
  | false =>
    have low : 1 ≤ Rpn.maximumDepth := by decide
    exact ⟨_, evaluate_eq_some_iff.mpr
      ⟨_, _, _, made, read, .loosen (Phrase.sum_le _) value, low, rfl⟩, rfl⟩

end Literals

section Exponents

/-- A digit is set off from a literal next to it. -/
theorem gap_digit {digit : Char} (inside : digit.isDigit = true) : gap (some digit) = [' '] := by
  have alphanumeric : digit.isAlphanum = true := by rw [Char.isAlphanum, inside, Bool.or_true]
  rw [gap, Option.any_some, Canonical.sticks, Text.isAlphanumeric_of_isAlphanum alphanumeric]
  rfl

theorem gap_sign {sign : Char} (free : Canonical.sticks sign = false) : gap (some sign) = [] := by
  rw [gap, Option.any_some, free]
  rfl

variable {exponent : List Char} (integer : IsExponent exponent)

include integer

theorem isCopied_of_mem_exponent : ∀ character ∈ exponent, isCopied character = true := by
  have digits {list : List Char} (all : ∀ digit ∈ list, digit.isDigit = true) :
      ∀ character ∈ list, isCopied character = true :=
    fun character member => Canonical.isCopied_of_number (Or.inl (all character member))
  cases integer with
  | digits present all => exact digits all
  | plus present all => exact List.forall_mem_cons.mpr ⟨by decide, digits all⟩
  | minus present all => exact List.forall_mem_cons.mpr ⟨by decide, digits all⟩

/-- An exponent does not start with a letter. -/
theorem stops_exponent : Stops Char.isAlpha exponent := by
  cases integer with
  | digits present all =>
    obtain ⟨first, rest, rfl⟩ := List.exists_cons_of_ne_nil present
    exact stops_cons.mpr (Canonical.isAlpha_of_isDigit (all first List.mem_cons_self))
  | plus present all => exact stops_cons.mpr (by decide)
  | minus present all => exact stops_cons.mpr (by decide)

/-- **What is written behind the constant** spells tokens and does not go on with its digits: the
digits of the exponent are set off, and a sign needs no gap. -/
theorem exists_spells_exponent :
    Stops startsNumber (gap exponent.head? ++ exponent) ∧
      ∃ written, Spells (gap exponent.head? ++ exponent) written := by
  have digits {list : List Char} (present : list ≠ [])
      (all : ∀ digit ∈ list, digit.isDigit = true) : ∃ written, Spells list written := by
    have plain := Literal.plain_of_digits present all
    have spells : Spells (Literal.text ⟨list, []⟩ ++ []) _ := .lexeme (plain.lexeme stops_nil) .nil
    rw [List.append_nil, Literal.text_of_fraction_nil rfl] at spells
    exact ⟨_, spells⟩
  cases integer with
  | digits present all =>
    obtain ⟨first, rest, rfl⟩ := List.exists_cons_of_ne_nil present
    obtain ⟨written, spells⟩ := digits present all
    rw [List.head?_cons, gap_digit (all first List.mem_cons_self)]
    exact ⟨stops_cons.mpr (by decide), written, .blank (by decide) spells⟩
  | plus present all =>
    obtain ⟨written, spells⟩ := digits present all
    rw [List.head?_cons, gap_sign (Text.not_sticks_of_mem (by decide)), List.nil_append]
    exact ⟨stops_cons.mpr (by decide), _, .symbol rfl (by decide) spells⟩
  | minus present all =>
    obtain ⟨written, spells⟩ := digits present all
    rw [List.head?_cons, gap_sign (Text.not_sticks_of_mem (by decide)), List.nil_append]
    exact ⟨stops_cons.mpr (by decide), _, .symbol rfl (by decide) spells⟩

end Exponents

section Scaled

variable {literal : Literal} {exponent : List Char} (plain : literal.Plain)
  (integer : IsExponent exponent) (negative : Bool)

include plain integer

/-- **What is written for a literal with an exponent**: the literal, and set off from it the
constant. -/
theorem ofTyped_scaled :
    ofTyped (signed negative (literal.text ++ 'e' :: exponent)) =
      signed negative
        (literal.text ++ ' ' :: (eulerLiteral ++ (gap exponent.head? ++ exponent))) := by
  obtain ⟨front, last, equal, digit⟩ := plain.text_eq_concat
  have copied : ∀ character ∈ front ++ [last], isCopied character = true := by
    rw [← equal]
    exact fun _ member => Canonical.isCopied_of_number (plain.mem_text member)
  have constant : ofTypedAfter (some last) ('e' :: exponent) =
      ' ' :: (eulerLiteral ++ (gap exponent.head? ++ exponent)) := by
    have word := Canonical.ofTypedAfter_letters (List.cons_ne_nil 'e' [])
      (List.forall_mem_singleton.mpr (by decide)) (stops_exponent integer) (some last)
    rw [Canonical.ofTypedAfter_copied (isCopied_of_mem_exponent integer), Canonical.ofWord,
      if_pos rfl, Canonical.setOff, gap_digit digit, List.append_assoc, List.append_assoc] at word
    exact word
  have written : ofTyped (literal.text ++ 'e' :: exponent) =
      literal.text ++ ' ' :: (eulerLiteral ++ (gap exponent.head? ++ exponent)) := by
    rw [equal, List.append_assoc, List.append_assoc, List.singleton_append, List.singleton_append,
      ofTyped, Canonical.ofTypedAfter_run_concat copied, constant]
  cases negative with
  | true =>
    rw [Numeral.signed_true, Numeral.signed_true,
      Canonical.ofTyped_cons (Text.not_sticks_of_mem (by decide)) (by decide) (by decide), written]
  | false => exact written

/-- **A numeral with an exponent is refused**: the constant in it is a second value. -/
theorem evaluate_scaled (mode : AngleMode) :
    evaluate (String.ofList (signed negative (literal.text ++ 'e' :: exponent))) mode =
      .error (.malformed .adjacentValues) := by
  obtain ⟨stops, others, behind⟩ := exists_spells_exponent integer
  have euler : Literal.Plain ⟨['2'], "718281828459045".toList⟩ :=
    ⟨by decide, List.all_eq_true.mp rfl, List.all_eq_true.mp rfl⟩
  have constant : Spells (' ' :: (eulerLiteral ++ (gap exponent.head? ++ exponent))) _ :=
    .blank (by decide) (.lexeme (euler.lexeme stops) behind)
  have apart : Stops startsNumber (' ' :: (eulerLiteral ++ (gap exponent.head? ++ exponent))) :=
    stops_cons.mpr (by decide)
  have spells := spells_signed plain negative apart constant
  have made := canonicalText_of_spells (ofTyped_scaled plain integer negative) spells
  have read : tokens _ = .ok _ :=
    mapError_eq_ok_iff.mpr (Token.tokenize_eq_ok_iff.mpr spells)
  -- The constant comes where an operator is expected; what follows it is not looked at.
  have refused : postfixOrder (signedTokens negative literal.toFloat
      (.num (Literal.toFloat ⟨['2'], "718281828459045".toList⟩) :: others)) =
        .error (.malformed .adjacentValues) := by
    cases negative <;> rfl
  rw [evaluate, String.toList_ofList, if_neg (by rw [isBlank_signed plain]; decide), ofExpression]
  simp only [made, read, refused, bind, Except.bind]
  rfl

end Scaled

section Words

variable {word : List Char} (present : word ≠ []) (letters : ∀ letter ∈ word, letter.isAlpha = true)

include present letters

/-- A word that is not the constant is written as it is typed. -/
theorem ofTyped_word (other : word ≠ ['e']) : ofTyped word = word := by
  have written := Canonical.ofTypedAfter_letters present letters stops_nil none
  rwa [List.append_nil, List.head?_nil, Canonical.ofWord, if_neg other, if_neg (by decide),
    ofTypedAfter, List.append_nil] at written

/-- Only the names of functions are tokens. -/
theorem tokenize_word (unknown : Func.ofName? (String.ofList word) = none) :
    Token.tokenize word = .error (.unknownWord word) := by
  cases word with
  | nil => contradiction
  | cons first rest =>
    obtain ⟨letter, others⟩ := List.forall_mem_cons.mp letters
    obtain ⟨solid, sign, number⟩ := Token.solid_of_isAlpha letter
    have parts : rest.takeWhile Token.isWordPart = rest :=
      List.takeWhile_eq_self_iff.mpr fun next member => by
        rw [Token.isWordPart, Char.isAlphanum, others next member]
        rfl
    have star : ¬(first = '*' ∧ rest.head? = some '*') := by
      rintro ⟨rfl, -⟩
      cases letter
    rw [Token.tokenize_next solid, Token.next, if_neg star, sign]
    simp only [number, letter, Bool.false_eq_true, if_false, if_true, Token.word, parts, unknown]

/-- **A word that names nothing is refused**, with a minus sign or without. -/
theorem evaluate_word (other : word ≠ ['e'])
    (unknown : Func.ofName? (String.ofList word) = none) (negative : Bool) (mode : AngleMode) :
    evaluate (String.ofList (signed negative word)) mode =
      .error (.malformed (.unknownWord word)) := by
  have typed : ofTyped (signed negative word) = signed negative word := by
    cases negative with
    | true =>
      rw [Numeral.signed_true,
        Canonical.ofTyped_cons (Text.not_sticks_of_mem (by decide)) (by decide) (by decide),
        ofTyped_word present letters other]
    | false => exact ofTyped_word present letters other
  have unmarked (mark : Canonical.Mark) : mark.sign ∉ signed negative word := by
    have foreign : mark.sign ∉ word := fun member =>
      absurd (letters _ member) (by cases mark <;> decide)
    cases negative with
    | true =>
      rw [Numeral.signed_true, List.mem_cons, not_or]
      exact ⟨by cases mark <;> decide, foreign⟩
    | false => exact foreign
  have made : canonicalText (signed negative word) = .ok (signed negative word) := by
    have factorials := Canonical.resolve_of_notMem .factorial (unmarked .factorial)
    have percents := Canonical.resolve_of_notMem .percent (unmarked .percent)
    rw [canonicalText, typed]
    show Except.map _ (Canonical.Mark.factorial.resolve _) = _
    rw [factorials]
    exact percents
  have read : tokens (signed negative word) = .error (.malformed (.unknownWord word)) := by
    have alone := tokenize_word present letters unknown
    rw [tokens]
    cases negative with
    | true =>
      rw [Numeral.signed_true, Token.tokenize_next (by decide)]
      show ((Token.tokenize word).map _).mapError _ = _
      rw [alone]
      rfl
    | false =>
      rw [Numeral.signed_false, alone]
      rfl
  have solid : isBlank (signed negative word) = false := by
    obtain ⟨first, rest, rfl⟩ := List.exists_cons_of_ne_nil present
    have letter := letters first List.mem_cons_self
    refine isBlank_eq_false_iff.mpr ⟨first, ?_, (Token.solid_of_isAlpha letter).1⟩
    cases negative <;> simp
  rw [evaluate, String.toList_ofList, solid, if_neg Bool.false_ne_true, ofExpression]
  simp only [made, read, bind, Except.bind]
  rfl

end Words

end ScientificCalculator.Evaluation
