/-
**Reading tokens.**

Canonical text is cut into tokens from left to right: blanks are skipped, `**` is one operator, a
number is the longest literal, a word the longest run of ASCII letters, digits and underscores.

* `next`: the token at the head of a text, and the rest.
* `length_next_le`: the rest is shorter than the text.
* `tokenize`: all tokens of a text.
-/

import ScientificCalculator.Fault
import ScientificCalculator.Literal
import ScientificCalculator.Text.Blank
import ScientificCalculator.Token.Basic

namespace ScientificCalculator.Token

/-- The token that one character makes. -/
def ofSymbol? : Char → Option Token
  | '(' => some lparen
  | ')' => some rparen
  | '+' => some (op .add)
  | '-' => some (op .sub)
  | '*' => some (op .mul)
  | '/' => some (op .div)
  | _ => none

/-- A word goes on with ASCII letters, digits and underscores. -/
def isWordPart (character : Char) : Bool :=
  character.isAlphanum || character = '_'

/-- A number starts with a digit or a point. -/
def startsNumber (character : Char) : Bool :=
  character.isDigit || character = '.'

/-- The number at the head of a text; a point alone is none. -/
def number (input : List Char) : Except Malformed (Token × List Char) :=
  let (literal, rest) := Literal.split input
  if literal.whole = [] ∧ literal.fraction = [] then .error .lonePoint
  else .ok (num literal.toFloat, rest)

/-- The function named by the word at the head of a text. -/
def word (first : Char) (rest : List Char) : Except Malformed (Token × List Char) :=
  let letters := first :: rest.takeWhile isWordPart
  match Func.ofName? (String.ofList letters) with
  | some found => .ok (func found, rest.dropWhile isWordPart)
  | none => .error (.unknownWord letters)

/-- The token at the head of a text that does not start with a blank, and the rest. -/
def next (first : Char) (rest : List Char) : Except Malformed (Token × List Char) :=
  if first = '*' ∧ rest.head? = some '*' then .ok (op .pow, rest.drop 1)
  else
    match ofSymbol? first with
    | some symbol => .ok (symbol, rest)
    | none =>
      if startsNumber first then number (first :: rest)
      else if first.isAlpha then word first rest
      else .error (.unexpectedCharacter first)

/-- A number takes at least the character it starts with. -/
theorem length_number_le {first : Char} {rest after : List Char} {token : Token}
    (starts : startsNumber first = true) (read : number (first :: rest) = .ok (token, after)) :
    after.length ≤ rest.length := by
  have remainder : (Literal.split (first :: rest)).2 = after := by
    unfold number at read
    simp only at read
    split at read
    · cases read
    · simp only [Except.ok.injEq, Prod.mk.injEq] at read
      exact read.2
  rw [← remainder]
  exact Literal.length_split_cons_le starts

/-- What remains after a token is shorter than the text. -/
theorem length_next_le {first : Char} {rest after : List Char} {token : Token}
    (read : next first rest = .ok (token, after)) : after.length ≤ rest.length := by
  unfold next at read
  split at read
  · simp only [Except.ok.injEq, Prod.mk.injEq] at read
    rw [← read.2, List.length_drop]
    exact Nat.sub_le _ _
  · split at read
    · simp only [Except.ok.injEq, Prod.mk.injEq] at read
      exact Nat.le_of_eq (congrArg List.length read.2.symm)
    · split at read
      · rename_i starts
        exact length_number_le starts read
      · split at read
        · unfold word at read
          simp only at read
          split at read
          · simp only [Except.ok.injEq, Prod.mk.injEq] at read
            rw [← read.2]
            exact (List.dropWhile_sublist isWordPart).length_le
          · cases read
        · cases read

/-- The tokens of a text, or the first thing in it that is no token. -/
def tokenize : List Char → Except Malformed (List Token)
  | [] => .ok []
  | first :: rest =>
    if Text.isBlank first then tokenize rest
    else
      match _read : next first rest with
      | .error cause => .error cause
      | .ok (token, after) => (tokenize after).map (token :: ·)
termination_by input => input.length
decreasing_by
  · simp
  · have := length_next_le _read
    simp only [List.length_cons]
    omega

end ScientificCalculator.Token
