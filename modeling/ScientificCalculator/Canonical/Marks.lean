/-
**Marks after a literal.**

A factorial or percent mark belongs to the literal directly before it: digits, perhaps with a point
and more digits. A text is cut into such marked literals and the rest.

* `Piece`: a marked literal, or text that is copied.
* `markedLiteral?`: the marked literal at the head of a text.
* `pieces`: all pieces of a text.
* `powerOfTen`, `operandDenominator`: the scale of the literal that a mark is applied to.
* `literalText`: the literal written for a number, infinity included.
-/

import ScientificCalculator.Literal
import ScientificCalculator.Numeral.Printer

namespace ScientificCalculator.Canonical

/-- A piece of a text seen with one mark in view. -/
inductive Piece
  | plain (text : List Char)
  | marked (literal : Literal) (furtherMarks : Nat)
  deriving DecidableEq

/-- The literal just read, if the mark comes next, and what comes after the mark. -/
def beforeMark? (mark : Char) (literal : Literal) : List Char → Option (Literal × List Char)
  | [] => none
  | next :: after => if next = mark then some (literal, after) else none

/-- The literal at the head of a text that the mark follows at once, and what comes after this mark.
A point belongs to the literal only between digits. -/
def markedLiteral? (mark : Char) (input : List Char) : Option (Literal × List Char) :=
  let whole := input.takeWhile Char.isDigit
  if whole = [] then none
  else
    match input.dropWhile Char.isDigit with
    | '.' :: rest =>
      let fraction := rest.takeWhile Char.isDigit
      if fraction = [] then none
      else beforeMark? mark ⟨whole, fraction⟩ (rest.dropWhile Char.isDigit)
    | rest => beforeMark? mark ⟨whole, []⟩ rest

/-- What is copied where no marked literal starts: a run of digits, or one other character; and the
rest. -/
def copied (first : Char) (rest : List Char) : List Char × List Char :=
  if first.isDigit then (first :: rest.takeWhile Char.isDigit, rest.dropWhile Char.isDigit)
  else ([first], rest)

/-- What comes after the mark is shorter than what comes after the literal. -/
theorem length_beforeMark?_lt {mark : Char} {literal found : Literal} {rest after : List Char}
    (read : beforeMark? mark literal rest = some (found, after)) : after.length < rest.length := by
  cases rest with
  | nil => cases read
  | cons next tail =>
    simp only [beforeMark?, Option.ite_none_right_eq_some, Option.some.injEq, Prod.mk.injEq] at read
    rw [← read.2.2, List.length_cons]
    exact Nat.lt_succ_self _

/-- What comes after a marked literal is shorter than the text. -/
theorem length_markedLiteral?_lt {mark : Char} {input after : List Char} {literal : Literal}
    (read : markedLiteral? mark input = some (literal, after)) : after.length < input.length := by
  have shorter (text : List Char) : (text.dropWhile Char.isDigit).length ≤ text.length :=
    (List.dropWhile_sublist Char.isDigit).length_le
  have outer := shorter input
  simp only [markedLiteral?] at read
  split at read
  · cases read
  · split at read
    · rename_i rest equal
      have inner := shorter rest
      rw [equal, List.length_cons] at outer
      split at read
      · cases read
      · have := length_beforeMark?_lt read
        omega
    · exact Nat.lt_of_lt_of_le (length_beforeMark?_lt read) outer

/-- What is left after copying is no longer than what follows the first character. -/
theorem length_copied_le (first : Char) (rest : List Char) :
    (copied first rest).2.length ≤ rest.length := by
  unfold copied
  split
  · exact (List.dropWhile_sublist Char.isDigit).length_le
  · exact Nat.le_refl _

/-- The pieces of a text. All marks in a row belong to the literal in front of them; those after the
first one are counted. -/
def pieces (mark : Char) : List Char → List Piece
  | [] => []
  | first :: rest =>
    match _read : markedLiteral? mark (first :: rest) with
    | some (literal, after) =>
      .marked literal (after.takeWhile (· = mark)).length ::
        pieces mark (after.dropWhile (· = mark))
    | none => .plain (copied first rest).1 :: pieces mark (copied first rest).2
termination_by input => input.length
decreasing_by
  · have := length_markedLiteral?_lt _read
    have := (List.dropWhile_sublist (· = mark) (l := after)).length_le
    simp only [List.length_cons] at *
    omega
  · have := length_copied_le first rest
    simp only [List.length_cons]
    omega

/-- The marked literal as it stands in the text. -/
def markedText (mark : Char) (literal : Literal) (furtherMarks : Nat) : List Char :=
  literal.text ++ List.replicate (furtherMarks + 1) mark

/-- A power of ten, whose exponent is held in 32 bits: the higher ones are lost. -/
def powerOfTen (exponent : Nat) : Nat :=
  Nat.pow 10 exponent.toUInt32.toNat

theorem powerOfTen_pos (exponent : Nat) : 0 < powerOfTen exponent :=
  Nat.pow_pos (by decide)

/-- The denominator of the value that a mark is applied to. -/
def operandDenominator (literal : Literal) : Nat :=
  powerOfTen literal.fraction.length

theorem operandDenominator_pos (literal : Literal) : 0 < operandDenominator literal :=
  powerOfTen_pos _

/-- The literal of `10 ^ 309`, which reads as infinity. -/
def overflowLiteral : List Char := '1' :: List.replicate 309 '0'

/-- A literal that reads as the given number, which is not negative. -/
def literalText (number : Float) : List Char :=
  if Binary64.isFinite number then Numeral.text number else overflowLiteral

end ScientificCalculator.Canonical
