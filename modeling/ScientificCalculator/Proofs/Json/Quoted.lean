/-
**A written string is read back.**

What the writer puts between quotes is read as one lexeme, however the text goes on, and the items
of that lexeme make the string again. Every character is written as one item: by a letter behind a
reverse solidus, by the four digits of its number, or as itself.

* `Json.item`, `Json.items`: what a character and a string are read as once they are written.
* `escape_lettered`, `escape_of_notMem`: the three ways to write a character.
* `items?_escape`, `next?_quoted`: a character and a string, read in front of a text.
* `decodeString?_items`: the items of a string make the string.
-/

import ScientificCalculator.Json.Lexeme
import ScientificCalculator.Json.Quoted

namespace ScientificCalculator

namespace Json

open Lexeme (escaped?)

/-- The characters that are written with a letter, or a sign, behind a reverse solidus. -/
def lettered : List Char := ['"', '\\', '\x08', '\x0C', '\n', '\r', '\t']

/-- The item that a character is read as once it is written: control characters without a letter
are written by number. -/
def item (character : Char) : StringItem :=
  if character.toNat < 0x20 ∧ character ∉ lettered then .unit character.toNat else .char character

/-- The items of a written string. -/
def items (text : String) : List StringItem :=
  text.toList.map item

/-- A letter that stands for a character is not the mark of a number. -/
theorem escape_lettered {character : Char} (member : character ∈ lettered) :
    ∃ letter, letter ≠ 'u' ∧ escape character = ['\\', letter] ∧
      escaped? letter = some character := by
  simp only [lettered, List.mem_cons, List.not_mem_nil, or_false] at member
  obtain rfl | rfl | rfl | rfl | rfl | rfl | rfl := member
  · exact ⟨'"', by decide, rfl, rfl⟩
  · exact ⟨'\\', by decide, rfl, rfl⟩
  · exact ⟨'b', by decide, rfl, rfl⟩
  · exact ⟨'f', by decide, rfl, rfl⟩
  · exact ⟨'n', by decide, rfl, rfl⟩
  · exact ⟨'r', by decide, rfl, rfl⟩
  · exact ⟨'t', by decide, rfl, rfl⟩

theorem escape_of_notMem {character : Char} (other : character ∉ lettered) :
    escape character =
      if character.toNat < 0x20 then
        ['\\', 'u', '0', '0', hexDigit (character.toNat / 16), hexDigit (character.toNat % 16)]
      else [character] := by
  simp only [lettered, List.mem_cons, not_or] at other
  simp only [escape, other, if_false]

end Json

namespace Lexeme

open Json (escape hexDigit item lettered)

section Items

variable {character : Char} (rest : List Char)

/-- The digits of a control character make its number. -/
theorem unit?_hexDigit {code : Nat} (control : code < 0x20) :
    unit? '0' '0' (hexDigit (code / 16)) (hexDigit (code % 16)) = some code := by
  have all : ∀ small : Fin 0x20,
      unit? '0' '0' (hexDigit (small.val / 16)) (hexDigit (small.val % 16)) = some small.val := by
    decide
  exact all ⟨code, control⟩

/-- A letter behind a reverse solidus is one item. -/
theorem items?_letter {letter : Char} (short : letter ≠ 'u')
    (known : escaped? letter = some character) :
    items? ('\\' :: letter :: rest) =
      (items? rest).map fun read => (.char character :: read.1, read.2) := by
  rw [items?]
  · rw [known]
    cases items? rest <;> rfl
  · intro _ _ _ _ _ equal
    exact absurd equal short

/-- The four digits of a control character are one item. -/
theorem items?_number (control : character.toNat < 0x20) :
    items? ('\\' :: 'u' :: '0' :: '0' :: hexDigit (character.toNat / 16) ::
        hexDigit (character.toNat % 16) :: rest) =
      (items? rest).map fun read => (.unit character.toNat :: read.1, read.2) := by
  rw [items?, unit?_hexDigit control]
  cases items? rest <;> rfl

/-- A character that stands for itself is one item. -/
theorem items?_plain (quote : character ≠ '"') (solidus : character ≠ '\\')
    (printable : ¬character.toNat < 0x20) :
    items? (character :: rest) =
      (items? rest).map fun read => (.char character :: read.1, read.2) := by
  rw [items?]
  · rw [if_neg (not_or.mpr ⟨printable, solidus⟩)]
    cases items? rest <;> rfl
  · exact quote
  · intro _ _ _ _ _ equal
    exact absurd equal solidus
  · intro _ _ equal
    exact absurd equal solidus

/-- **A written character is read as its item**, whatever comes after it. -/
theorem items?_escape (character : Char) :
    items? (escape character ++ rest) =
      (items? rest).map fun read => (item character :: read.1, read.2) := by
  by_cases member : character ∈ lettered
  · obtain ⟨letter, short, written, known⟩ := Json.escape_lettered member
    rw [written, item, if_neg fun numbered => numbered.2 member]
    exact items?_letter rest short known
  · rw [Json.escape_of_notMem member]
    by_cases control : character.toNat < 0x20
    · rw [if_pos control, item, if_pos ⟨control, member⟩]
      exact items?_number rest control
    · have quote : character ≠ '"' := fun equal => member (by rw [equal]; decide)
      have solidus : character ≠ '\\' := fun equal => member (by rw [equal]; decide)
      rw [if_neg control, item, if_neg fun numbered => control numbered.1]
      exact items?_plain rest quote solidus control

/-- **A written string is read up to its closing quote.** -/
theorem items?_flatMap_escape (text : List Char) :
    items? (text.flatMap escape ++ '"' :: rest) = some (text.map item, rest) := by
  induction text with
  | nil => rw [List.flatMap_nil, List.nil_append, items?, List.map_nil]
  | cons first others ih =>
    rw [List.flatMap_cons, List.append_assoc, items?_escape, ih]
    rfl

/-- **A written string is one lexeme.** -/
theorem next?_quoted (text : String) :
    next? '"' (text.toList.flatMap escape ++ '"' :: rest) = some (string (Json.items text), rest) := by
  show (items? _).map _ = _
  rw [items?_flatMap_escape]
  rfl

end Items

end Lexeme

section Decoding

open Json (item items)

/-- No character is a surrogate. -/
theorem StringItem.isSurrogate_toNat (character : Char) :
    isHighSurrogate character.toNat = false ∧ isLowSurrogate character.toNat = false := by
  have valid : character.toNat < 0xD800 ∨ 0xDFFF < character.toNat :=
    character.valid.imp id And.left
  simp only [isHighSurrogate, isLowSurrogate, decide_eq_false_iff_not]
  omega

/-- The number of a character is decoded to it. -/
theorem StringItem.decode?_unit (character : Char) (rest : List StringItem) :
    decode? (.unit character.toNat :: rest) = (decode? rest).map (character :: ·) := by
  obtain ⟨high, low⟩ := isSurrogate_toNat character
  rw [decode?.eq_def]
  simp only [high, low, Char.ofNat_toNat, Bool.false_eq_true, if_false]

/-- The item of a character makes the character. -/
theorem StringItem.decode?_item (character : Char) (rest : List StringItem) :
    decode? (item character :: rest) = (decode? rest).map (character :: ·) := by
  unfold item
  split
  · exact decode?_unit character rest
  · rw [decode?]

theorem StringItem.decode?_map_item (text : List Char) : decode? (text.map item) = some text := by
  induction text with
  | nil => rfl
  | cons first rest ih => rw [List.map_cons, decode?_item, ih, Option.map_some]

/-- **The items of a written string make the string.** -/
theorem decodeString?_items (text : String) : decodeString? (items text) = some text := by
  rw [decodeString?, items, StringItem.decode?_map_item, Option.map_some, String.ofList_toList]

end Decoding

end ScientificCalculator
