/-
**The text that items make.**

A character is written as itself, or by its units of UTF-16: one unit, or the two of a surrogate
pair. A unit read from four digits has sixteen bits, so the items of a string that was read make
exactly the texts that they stand for, and a surrogate without its partner stands for none.

* `StringItem.utf16`: the units of a character.
* `StringItem.Denotes`: the texts that items stand for.
* `StringItem.Narrow`: units of sixteen bits.
* `StringItem.decode?_eq_some_iff`, `decodeString?_eq_some_iff`: the text that is decoded.
-/

import ScientificCalculator.Proofs.Json.Grammar

namespace ScientificCalculator

namespace StringItem

section Units

/-- The units of a character in UTF-16. -/
def utf16 (character : Char) : List Nat :=
  if character.toNat < 0x10000 then [character.toNat]
  else
    [0xD800 + (character.toNat - 0x10000) / 0x400, 0xDC00 + (character.toNat - 0x10000) % 0x400]

/-- The items stand for the text: each character is there itself or by all of its units. -/
inductive Denotes : List StringItem → List Char → Prop
  | nil : Denotes [] []
  | char {items : List StringItem} {text : List Char} (character : Char) :
    Denotes items text → Denotes (.char character :: items) (character :: text)
  | units {items : List StringItem} {text : List Char} (character : Char) :
    Denotes items text → Denotes ((utf16 character).map .unit ++ items) (character :: text)

/-- The units have sixteen bits. -/
def Narrow (items : List StringItem) : Prop :=
  ∀ code, .unit code ∈ items → code < 0x10000

variable {character : Char} {code high low : Nat}

theorem toNat_lt (character : Char) : character.toNat < 0x110000 := by
  rcases character.valid with small | ⟨-, large⟩
  · exact Nat.lt_trans small (by decide)
  · exact large

theorem toNat_ofNat (valid : code.isValidChar) : (Char.ofNat code).toNat = code := by
  rw [Char.ofNat, dif_pos valid]
  rfl

/-- A unit that is no surrogate is the only one of its character. -/
theorem utf16_ofNat (narrow : code < 0x10000) (notHigh : isHighSurrogate code = false)
    (notLow : isLowSurrogate code = false) : utf16 (Char.ofNat code) = [code] := by
  simp only [isHighSurrogate, isLowSurrogate, decide_eq_false_iff_not] at notHigh notLow
  have valid : code.isValidChar := by
    unfold Nat.isValidChar
    omega
  rw [utf16, toNat_ofNat valid, if_pos narrow]

/-- The units of a surrogate pair are those of its character. -/
theorem utf16_joined (isHigh : isHighSurrogate high = true) (isLow : isLowSurrogate low = true) :
    utf16 (joined high low) = [high, low] := by
  simp only [isHighSurrogate, isLowSurrogate, decide_eq_true_eq] at isHigh isLow
  obtain ⟨whole, equal⟩ : ∃ whole, whole = 0x10000 + (high - 0xD800) * 0x400 + (low - 0xDC00) :=
    ⟨_, rfl⟩
  have valid : whole.isValidChar := by
    unfold Nat.isValidChar
    omega
  have first : 0xD800 + (whole - 0x10000) / 0x400 = high := by omega
  have second : 0xDC00 + (whole - 0x10000) % 0x400 = low := by omega
  rw [utf16, joined, ← equal, toNat_ofNat valid, if_neg (by omega), first, second]

/-- A character is joined from the two units it has. -/
theorem joined_utf16 (wide : ¬character.toNat < 0x10000) :
    isHighSurrogate (0xD800 + (character.toNat - 0x10000) / 0x400) = true ∧
      isLowSurrogate (0xDC00 + (character.toNat - 0x10000) % 0x400) = true ∧
      joined (0xD800 + (character.toNat - 0x10000) / 0x400)
        (0xDC00 + (character.toNat - 0x10000) % 0x400) = character := by
  have bound := toNat_lt character
  refine ⟨by rw [isHighSurrogate, decide_eq_true_eq]; omega,
    by rw [isLowSurrogate, decide_eq_true_eq]; omega, ?_⟩
  have whole : 0x10000 + (0xD800 + (character.toNat - 0x10000) / 0x400 - 0xD800) * 0x400 +
      (0xDC00 + (character.toNat - 0x10000) % 0x400 - 0xDC00) = character.toNat := by omega
  rw [joined, whole, Char.ofNat_toNat]

end Units

section Decoding

variable {items : List StringItem} {text : List Char}

/-- **The units of a character are decoded to it.** -/
theorem decode?_utf16 (character : Char) (rest : List StringItem) :
    decode? ((utf16 character).map .unit ++ rest) = (decode? rest).map (character :: ·) := by
  unfold utf16
  split
  · exact decode?_unit character rest
  · rename_i wide
    obtain ⟨isHigh, isLow, equal⟩ := joined_utf16 wide
    rw [List.map_cons, List.map_singleton, List.cons_append, List.singleton_append, decode?.eq_def]
    simp only [isHigh, isLow, if_true, equal]

/-- **The text that items make is what they stand for**, and none is made of items that stand for
nothing. -/
theorem decode?_eq_some_iff (narrow : Narrow items) :
    decode? items = some text ↔ Denotes items text := by
  constructor
  · intro found
    fun_induction decode? items generalizing text with
    | case1 =>
      cases found
      exact .nil
    | case2 character rest ih =>
      obtain ⟨others, read, rfl⟩ := Option.map_eq_some_iff.mp found
      exact .char character (ih (fun code member => narrow code (.tail _ member)) read)
    | case3 high isHigh low after isLow ih =>
      obtain ⟨others, read, rfl⟩ := Option.map_eq_some_iff.mp found
      have pair := utf16_joined isHigh isLow
      have denotes :=
        ih (fun code member => narrow code (.tail _ (.tail _ member))) read
      simpa [pair] using denotes.units (joined high low)
    | case4 => cases found
    | case5 => cases found
    | case6 => cases found
    | case7 code rest notHigh notLow ih =>
      obtain ⟨others, read, rfl⟩ := Option.map_eq_some_iff.mp found
      have alone := utf16_ofNat (narrow code (.head _)) (Bool.eq_false_iff.mpr notHigh)
        (Bool.eq_false_iff.mpr notLow)
      have denotes := ih (fun code member => narrow code (.tail _ member)) read
      simpa [alone] using denotes.units (Char.ofNat code)
  · intro denotes
    clear narrow
    induction denotes with
    | nil => rfl
    | char character _ ih => rw [decode?, ih, Option.map_some]
    | units character _ ih => rw [decode?_utf16, ih, Option.map_some]

end Decoding

end StringItem

open StringItem (Denotes Narrow)

section Strings

variable {items : List StringItem}

/-- **The string that items make.** -/
theorem decodeString?_eq_some_iff {text : String} (narrow : Narrow items) :
    decodeString? items = some text ↔ Denotes items text.toList := by
  rw [← StringItem.decode?_eq_some_iff narrow, decodeString?, Option.map_eq_some_iff]
  constructor
  · rintro ⟨characters, read, rfl⟩
    rwa [String.toList_ofList]
  · exact fun read => ⟨_, read, String.ofList_toList⟩

/-- Four digits make a unit of sixteen bits. -/
theorem Lexeme.Body.narrow {body : List Char} (isBody : Body body items) : Narrow items := by
  induction isBody with
  | nil => exact nofun
  | plain _ _ _ ih => exact fun code member => ih code (by simpa using member)
  | short _ _ ih => exact fun code member => ih code (by simpa using member)
  | unit isOne isTwo isThree isFour _ ih =>
    intro code member
    rcases List.mem_cons.mp member with equal | member
    · have one := isOne.1
      have two := isTwo.1
      have three := isThree.1
      have four := isFour.1
      rw [StringItem.unit.injEq] at equal
      omega
    · exact ih code member

/-- **The strings of a text that was read have units of sixteen bits.** -/
theorem Lexeme.Spells.narrow {text : List Char} {lexemes : List Lexeme}
    (spells : Spells text lexemes) (member : .string items ∈ lexemes) : Narrow items := by
  induction spells with
  | nil => cases member
  | cons _ spelling _ ih =>
    rcases List.mem_cons.mp member with rfl | member
    · cases spelling with
      | sign known => exact absurd known (by simp [signs])
      | quoted isBody => exact isBody.narrow
    · exact ih member

end Strings

end ScientificCalculator
