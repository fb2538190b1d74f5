/-
**Canonical text of typed text.**

Typed text is read word by word: the constants become number literals, the typed names of functions
their canonical names where a parenthesis follows, and `^` becomes `**`. A literal that would touch
a letter, a digit or a point is set off by a space, so that it stays a number of its own.

* `setOff`: a literal between its neighbours.
* `ofTyped`: the canonical text, percent and factorial marks still in place.
-/

import ScientificCalculator.Func
import ScientificCalculator.Text.Alphanumeric

namespace ScientificCalculator.Canonical

/-- The literal written for `π`. -/
def piLiteral : List Char := "3.141592653589793".toList

/-- The literal written for the word `e`. -/
def eulerLiteral : List Char := "2.718281828459045".toList

/-- A number next to this character would be read together with it, or look so. -/
def sticks (character : Char) : Bool :=
  Text.isAlphanumeric character || character = '.'

/-- A space, if the neighbour sticks. -/
def gap (neighbour : Option Char) : List Char :=
  if neighbour.any sticks then [' '] else []

/-- A literal set off from the character written before it and the one that comes after it. -/
def setOff (literal : List Char) (before after : Option Char) : List Char :=
  gap before ++ literal ++ gap after

/-- What is written for a word of ASCII letters. -/
def ofWord (word : List Char) (before after : Option Char) : List Char :=
  if word = ['e'] then setOff eulerLiteral before after
  else if after = some '(' then
    match Func.ofTyped? (String.ofList word) with
    | some func => func.name.toList
    | none => word
  else word

/-- What is written for a character that is no ASCII letter. -/
def ofSymbol (symbol : Char) (before after : Option Char) : List Char :=
  if symbol = 'π' then setOff piLiteral before after
  else if symbol = '^' then "**".toList
  else if symbol = '√' ∧ after = some '(' then Func.sqrt.name.toList
  else [symbol]

/-- The canonical text of what remains, after the character written last. -/
def ofTypedAfter (before : Option Char) : List Char → List Char
  | [] => []
  | first :: rest =>
    if first.isAlpha then
      let remaining := rest.dropWhile Char.isAlpha
      let written := ofWord (first :: rest.takeWhile Char.isAlpha) before remaining.head?
      written ++ ofTypedAfter written.getLast? remaining
    else
      let written := ofSymbol first before rest.head?
      written ++ ofTypedAfter written.getLast? rest
termination_by input => input.length
decreasing_by
  · have := (List.dropWhile_sublist Char.isAlpha (l := rest)).length_le
    simp only [List.length_cons]
    omega
  · simp

/-- The canonical text of a typed text. -/
def ofTyped (input : List Char) : List Char :=
  ofTypedAfter none input

end ScientificCalculator.Canonical
