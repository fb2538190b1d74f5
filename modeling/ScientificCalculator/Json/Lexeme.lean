/-
**The lexemes of a JSON text.**

Spaces, tabs and line ends are skipped. A string literal ends at its closing quote, holds no control
character and only the escapes of the format; a number has no sign but a minus and no zero in front.

* `Lexeme`: brackets, separators, scalars and strings.
* `next?`: the lexeme at the head of a text, and the rest.
* `length_next?_le`: the rest is shorter than the text.
* `ofText?`: all lexemes of a text.
-/

import ScientificCalculator.Json.Basic

namespace ScientificCalculator

/-- The smallest parts of a JSON text. -/
inductive Lexeme
  | openArray
  | closeArray
  | openObject
  | closeObject
  | comma
  | colon
  | scalar
  | string (items : List StringItem)
  deriving DecidableEq

namespace Lexeme

/-- The white space of the format. -/
def isSpace (character : Char) : Bool :=
  character = ' ' || character = '\t' || character = '\n' || character = '\r'

/-- The value of a hexadecimal digit, in letters of either case. -/
def hexValue? (digit : Char) : Option Nat :=
  if digit.isDigit then some (digit.toNat - '0'.toNat)
  else if 'a' ≤ digit ∧ digit ≤ 'f' then some (digit.toNat - 'a'.toNat + 10)
  else if 'A' ≤ digit ∧ digit ≤ 'F' then some (digit.toNat - 'A'.toNat + 10)
  else none

/-- The unit that four hexadecimal digits stand for. -/
def unit? (first second third fourth : Char) : Option Nat := do
  some (16 * (16 * (16 * (← hexValue? first) + (← hexValue? second)) + (← hexValue? third)) +
    (← hexValue? fourth))

/-- The character that a short escape stands for. -/
def escaped? : Char → Option Char
  | '"' => some '"'
  | '\\' => some '\\'
  | '/' => some '/'
  | 'b' => some '\x08'
  | 'f' => some '\x0C'
  | 'n' => some '\n'
  | 'r' => some '\r'
  | 't' => some '\t'
  | _ => none

/-- The items up to the closing quote, and what comes after it. -/
def items? : List Char → Option (List StringItem × List Char)
  | [] => none
  | '"' :: rest => some ([], rest)
  | '\\' :: 'u' :: first :: second :: third :: fourth :: rest => do
    let code ← unit? first second third fourth
    let (items, after) ← items? rest
    some (.unit code :: items, after)
  | '\\' :: letter :: rest => do
    let character ← escaped? letter
    let (items, after) ← items? rest
    some (.char character :: items, after)
  | character :: rest =>
    if character.toNat < 0x20 ∨ character = '\\' then none
    else do
      let (items, after) ← items? rest
      some (.char character :: items, after)

/-- What comes after one digit or more. -/
def afterDigits? : List Char → Option (List Char)
  | [] => none
  | first :: rest => if first.isDigit then some (rest.dropWhile Char.isDigit) else none

/-- What comes after the integer part of a number: a zero alone, or digits. -/
def afterWhole? : List Char → Option (List Char)
  | '0' :: rest => some rest
  | text => afterDigits? text

/-- What comes after the fraction of a number, if it has one. -/
def afterFraction? : List Char → Option (List Char)
  | '.' :: rest => afterDigits? rest
  | text => some text

/-- What comes after the sign of an exponent, if it has one. -/
def afterSign : List Char → List Char
  | '+' :: rest => rest
  | '-' :: rest => rest
  | text => text

/-- What comes after the exponent of a number, if it has one. -/
def afterExponent? : List Char → Option (List Char)
  | 'e' :: rest => afterDigits? (afterSign rest)
  | 'E' :: rest => afterDigits? (afterSign rest)
  | text => some text

/-- What comes after a number without a minus sign. -/
def afterNumber? (text : List Char) : Option (List Char) := do
  afterExponent? (← afterFraction? (← afterWhole? text))

/-- What comes after the word, if the text starts with it. -/
def afterWord? (word text : List Char) : Option (List Char) :=
  if word.isPrefixOf text then some (text.drop word.length) else none

/-- The lexeme at the head of a text that does not start with white space, and the rest. -/
def next? (first : Char) (rest : List Char) : Option (Lexeme × List Char) :=
  match first with
  | '[' => some (openArray, rest)
  | ']' => some (closeArray, rest)
  | '{' => some (openObject, rest)
  | '}' => some (closeObject, rest)
  | ',' => some (comma, rest)
  | ':' => some (colon, rest)
  | '"' => (items? rest).map fun (items, after) => (string items, after)
  | 'n' => (afterWord? "ull".toList rest).map (scalar, ·)
  | 't' => (afterWord? "rue".toList rest).map (scalar, ·)
  | 'f' => (afterWord? "alse".toList rest).map (scalar, ·)
  | '-' => (afterNumber? rest).map (scalar, ·)
  | _ => (afterNumber? (first :: rest)).map (scalar, ·)

/-! ### Every lexeme takes its first character -/

theorem length_items?_lt {text after : List Char} {items : List StringItem}
    (found : items? text = some (items, after)) : after.length < text.length := by
  fun_induction items? text generalizing items after with
  | case1 => cases found
  | case2 rest =>
    cases found
    simp
  | case3 first second third fourth rest ih =>
    simp only [Option.bind_eq_bind, Option.bind_eq_some_iff, Option.some.injEq, Prod.mk.injEq,
      Prod.exists] at found
    obtain ⟨_, _, _, _, read, _, rfl⟩ := found
    have := ih read
    simp only [List.length_cons]
    omega
  | case4 letter rest _ ih =>
    simp only [Option.bind_eq_bind, Option.bind_eq_some_iff, Option.some.injEq, Prod.mk.injEq,
      Prod.exists] at found
    obtain ⟨_, _, _, _, read, _, rfl⟩ := found
    have := ih read
    simp only [List.length_cons]
    omega
  | case5 => cases found
  | case6 character rest _ _ _ _ ih =>
    simp only [Option.bind_eq_bind, Option.bind_eq_some_iff, Option.some.injEq, Prod.mk.injEq,
      Prod.exists] at found
    obtain ⟨_, _, read, _, rfl⟩ := found
    have := ih read
    simp only [List.length_cons]
    omega

theorem length_afterDigits?_lt {text after : List Char} (found : afterDigits? text = some after) :
    after.length < text.length := by
  cases text with
  | nil => cases found
  | cons first rest =>
    have shorter := (List.dropWhile_sublist Char.isDigit (l := rest)).length_le
    simp only [afterDigits?, Option.ite_none_right_eq_some, Option.some.injEq] at found
    rw [← found.2, List.length_cons]
    omega

theorem length_afterWhole?_lt {text after : List Char} (found : afterWhole? text = some after) :
    after.length < text.length := by
  unfold afterWhole? at found
  split at found
  · cases found
    simp
  · exact length_afterDigits?_lt found

theorem length_afterFraction?_le {text after : List Char}
    (found : afterFraction? text = some after) : after.length ≤ text.length := by
  unfold afterFraction? at found
  split at found
  · have := length_afterDigits?_lt found
    simp only [List.length_cons]
    omega
  · cases found
    exact Nat.le_refl _

theorem length_afterSign_le (text : List Char) : (afterSign text).length ≤ text.length := by
  unfold afterSign
  split <;> simp

theorem length_afterExponent?_le {text after : List Char}
    (found : afterExponent? text = some after) : after.length ≤ text.length := by
  unfold afterExponent? at found
  split at found
  · rename_i rest
    have := length_afterDigits?_lt found
    have := length_afterSign_le rest
    simp only [List.length_cons]
    omega
  · rename_i rest
    have := length_afterDigits?_lt found
    have := length_afterSign_le rest
    simp only [List.length_cons]
    omega
  · cases found
    exact Nat.le_refl _

theorem length_afterNumber?_lt {text after : List Char} (found : afterNumber? text = some after) :
    after.length < text.length := by
  simp only [afterNumber?, Option.bind_eq_bind, Option.bind_eq_some_iff] at found
  obtain ⟨afterWhole, whole, afterFraction, fraction, exponent⟩ := found
  have := length_afterWhole?_lt whole
  have := length_afterFraction?_le fraction
  have := length_afterExponent?_le exponent
  omega

theorem length_afterWord?_le {word text after : List Char}
    (found : afterWord? word text = some after) : after.length ≤ text.length := by
  unfold afterWord? at found
  split at found
  · cases found
    simp
  · cases found

/-- What remains after a lexeme is shorter than the text. -/
theorem length_next?_le {first : Char} {rest after : List Char} {lexeme : Lexeme}
    (found : next? first rest = some (lexeme, after)) : after.length ≤ rest.length := by
  unfold next? at found
  split at found
  case h_7 =>
    simp only [Option.map_eq_some_iff, Prod.mk.injEq, Prod.exists] at found
    obtain ⟨_, _, read, _, rfl⟩ := found
    exact Nat.le_of_lt (length_items?_lt read)
  case h_8 | h_9 | h_10 =>
    simp only [Option.map_eq_some_iff, Prod.mk.injEq] at found
    obtain ⟨_, read, _, rfl⟩ := found
    exact length_afterWord?_le read
  case h_11 =>
    simp only [Option.map_eq_some_iff, Prod.mk.injEq] at found
    obtain ⟨_, read, _, rfl⟩ := found
    exact Nat.le_of_lt (length_afterNumber?_lt read)
  case h_12 =>
    simp only [Option.map_eq_some_iff, Prod.mk.injEq] at found
    obtain ⟨_, read, _, rfl⟩ := found
    exact Nat.le_of_lt_succ (length_afterNumber?_lt read)
  all_goals
    cases found
    exact Nat.le_refl _

/-- The lexemes of a text, if it is made of lexemes and white space. -/
def ofText? : List Char → Option (List Lexeme)
  | [] => some []
  | first :: rest =>
    if isSpace first then ofText? rest
    else
      match _found : next? first rest with
      | none => none
      | some (lexeme, after) => (ofText? after).map (lexeme :: ·)
termination_by text => text.length
decreasing_by
  · simp
  · have := length_next?_le _found
    simp only [List.length_cons]
    omega

end Lexeme

end ScientificCalculator
