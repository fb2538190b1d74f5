/-
**JSON values.**

A history keeps only strings. Truth values, numbers and `null` are recognised and forgotten, and the
strings of values that are skipped are never decoded: a string is kept as its items, which need not
make a text.

* `StringItem`: a character, or a unit of UTF-16 written by its number.
* `StringItem.decode?`: the text that items make, if every surrogate has its partner.
* `Json`: the values.
-/

namespace ScientificCalculator

/-- What a string literal holds between its quotes. -/
inductive StringItem
  | char (character : Char)
  | unit (code : Nat)
  deriving DecidableEq

namespace StringItem

/-- The first unit of a surrogate pair. -/
def isHighSurrogate (code : Nat) : Bool :=
  0xD800 ≤ code ∧ code < 0xDC00

/-- The second unit of a surrogate pair. -/
def isLowSurrogate (code : Nat) : Bool :=
  0xDC00 ≤ code ∧ code < 0xE000

/-- The character of a surrogate pair. -/
def joined (high low : Nat) : Char :=
  Char.ofNat (0x10000 + (high - 0xD800) * 0x400 + (low - 0xDC00))

/-- The text that items make: a high surrogate must be followed at once by a low one, and a low one
stands nowhere else. -/
def decode? : List StringItem → Option (List Char)
  | [] => some []
  | .char character :: rest => (decode? rest).map (character :: ·)
  | .unit code :: rest =>
    if isHighSurrogate code then
      match rest with
      | .unit low :: after =>
        if isLowSurrogate low then (decode? after).map (joined code low :: ·) else none
      | _ => none
    else if isLowSurrogate code then none
    else (decode? rest).map (Char.ofNat code :: ·)

end StringItem

/-- The text of a string literal, if its items make one. -/
def decodeString? (items : List StringItem) : Option String :=
  (StringItem.decode? items).map String.ofList

/-- A value; `scalar` stands for `null`, the truth values and all numbers. -/
inductive Json
  | scalar
  | string (items : List StringItem)
  | array (values : List Json)
  | object (fields : List (List StringItem × Json))

end ScientificCalculator
