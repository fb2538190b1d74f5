/-
**Number literals.**

A literal is a run of digits with perhaps a point and a second run, without sign and exponent. Its
value is an exact quotient, rounded where a double is needed.

* `Literal`: the two runs of digits.
* `Literal.split`: the literal at the head of a text, and the rest.
* `Literal.toFloat`: the nearest double.
-/

import ScientificCalculator.Binary64.Nearest

namespace ScientificCalculator

/-- The digits before and after the point. -/
structure Literal where
  whole : List Char
  fraction : List Char
  deriving DecidableEq

namespace Literal

/-- The numerator of the exact value: all digits as one number. -/
def numerator (literal : Literal) : Nat :=
  Nat.ofDigitChars 10 (literal.whole ++ literal.fraction) 0

/-- The denominator of the exact value: a power of ten. -/
def denominator (literal : Literal) : Nat :=
  Nat.pow 10 literal.fraction.length

/-- The nearest double, ties to even. -/
def toFloat (literal : Literal) : Float :=
  Binary64.nearest literal.numerator literal.denominator

/-- The text of a literal; the point is written only before digits. -/
def text (literal : Literal) : List Char :=
  if literal.fraction = [] then literal.whole else literal.whole ++ '.' :: literal.fraction

/-- The longest literal at the head of a text, in which digits may be missing on either side of the
point, and the rest of the text. -/
def split (input : List Char) : Literal × List Char :=
  let whole := input.takeWhile Char.isDigit
  match input.dropWhile Char.isDigit with
  | '.' :: rest => (⟨whole, rest.takeWhile Char.isDigit⟩, rest.dropWhile Char.isDigit)
  | rest => (⟨whole, []⟩, rest)

/-- A literal that starts with a digit or a point takes at least this character. -/
theorem length_split_cons_le {first : Char} {rest : List Char}
    (starts : (first.isDigit || first = '.') = true) :
    (split (first :: rest)).2.length ≤ rest.length := by
  have shorter (text : List Char) : (text.dropWhile Char.isDigit).length ≤ text.length :=
    (List.dropWhile_sublist Char.isDigit).length_le
  unfold split
  by_cases digit : first.isDigit = true
  · simp only [List.dropWhile_cons_of_pos digit]
    split
    · rename_i tail equal
      have before := shorter rest
      rw [equal, List.length_cons] at before
      exact Nat.le_trans (shorter tail) (by omega)
    · exact shorter rest
  · simp only [List.dropWhile_cons_of_neg digit]
    have point : first = '.' := by simpa [digit] using starts
    subst point
    exact shorter rest

end Literal

end ScientificCalculator
