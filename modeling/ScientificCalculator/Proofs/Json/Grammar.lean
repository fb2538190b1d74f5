/-
**The values of JSON texts.**

A text denotes a value if it spells the lexemes of the value, and the reader finds the value of
exactly these texts. Once the containers of a stack are open, the lexemes of what they hold so far
have been read: together with the lexemes that are left they are those of the whole value, at every
step of the reader and however deep the values are nested.

* `Json.opened`: the lexemes that were read when the containers of a stack are open.
* `Json.lexemes_of_read`: what is read and what is left are the lexemes of the whole, at every step.
* `Json.value?_eq_some_iff`: a value is read from its lexemes only.
* `Json.apart_lexemes`: no two scalars stand side by side in a value.
* `Json.ofText?_eq_some_iff`: the values of texts.
-/

import ScientificCalculator.Proofs.Json.Spelling

namespace ScientificCalculator

namespace Json

/-! ### Open containers -/

section Containers

/-- What was read of an array with these members, the last one first. -/
def openedArray : List Json → List Lexeme
  | [] => [.openArray]
  | last :: before => openedArray before ++ (last.lexemes ++ [.comma])

/-- What was read of an object with these fields, the last one first. -/
def openedObject : List (List StringItem × Json) → List Lexeme
  | [] => [.openObject]
  | (key, last) :: before =>
    openedObject before ++ (.string key :: .colon :: (last.lexemes ++ [.comma]))

/-- What was read when the containers are open, the innermost first. -/
def opened : List Context → List Lexeme
  | [] => []
  | .inArray before :: stack => opened stack ++ openedArray before
  | .inObject before key :: stack =>
    opened stack ++ (openedObject before ++ [.string key, .colon])

/-- An open array that is filled up and closed. -/
theorem openedArray_append (before : List Json) (ended : Json) (others : List Json) :
    openedArray before ++ (ended.lexemes ++ lexemesAfterValue others) =
      (array (before.reverse ++ ended :: others)).lexemes := by
  induction before generalizing ended others with
  | nil => rw [openedArray, List.reverse_nil, List.nil_append, lexemes, List.singleton_append]
  | cons last before ih =>
    have next := ih last (ended :: others)
    rw [lexemesAfterValue] at next
    rw [openedArray, List.reverse_cons, List.append_assoc, List.append_assoc, List.append_assoc,
      List.singleton_append, List.singleton_append]
    exact next

/-- An open object that is filled up and closed. -/
theorem openedObject_append (before : List (List StringItem × Json)) (key : List StringItem)
    (ended : Json) (others : List (List StringItem × Json)) :
    openedObject before ++ (.string key :: .colon :: (ended.lexemes ++ lexemesAfterField others)) =
      (object (before.reverse ++ (key, ended) :: others)).lexemes := by
  induction before generalizing key ended others with
  | nil => rw [openedObject, List.reverse_nil, List.nil_append, lexemes, List.singleton_append]
  | cons last before ih =>
    obtain ⟨name, value⟩ := last
    have next := ih name value ((key, ended) :: others)
    rw [lexemesAfterField] at next
    rw [openedObject, List.reverse_cons, List.append_assoc, List.append_assoc, List.cons_append,
      List.cons_append, List.append_assoc, List.singleton_append, List.singleton_append]
    exact next

end Containers

/-! ### Reading -/

section Reading

/-- **A value that is read has the lexemes it is read from**: those of the containers that are open,
of the value that has just ended, and those that are left. -/
theorem lexemes_of_read (whole : Json) :
    (∀ rest stack, value? rest stack = some whole → whole.lexemes = opened stack ++ rest) ∧
      ∀ ended rest stack, filled? ended rest stack = some whole →
        whole.lexemes = opened stack ++ (ended.lexemes ++ rest) := by
  -- One case for each step of the reader, and for each of its two phases the one where it gives up.
  refine value?.mutual_induct
    (fun rest stack => value? rest stack = some whole → whole.lexemes = opened stack ++ rest)
    (fun ended rest stack => filled? ended rest stack = some whole →
      whole.lexemes = opened stack ++ (ended.lexemes ++ rest))
    ?scalar ?string ?emptyArray ?array ?emptyObject ?object ?noValue
    ?whole ?nextValue ?endArray ?nextField ?endObject ?noEnd
  case scalar | string | emptyArray | emptyObject =>
    intros
    rename_i ih found
    rw [value?] at found
    have equal := ih found
    rw [lexemes] at equal
    exact equal
  case array =>
    intro rest stack filled ih found
    rw [value?] at found
    · have equal := ih found
      rwa [opened, openedArray, List.append_assoc, List.singleton_append] at equal
    · exact filled
  case object =>
    intro key rest stack ih found
    rw [value?] at found
    have equal := ih found
    rwa [opened, openedObject, List.append_assoc, List.append_assoc] at equal
  case noValue =>
    intros
    rename_i found
    rw [value?] at found
    · cases found
    all_goals assumption
  case whole =>
    intro ended found
    rw [filled?] at found
    rw [Option.some.inj found, opened, List.nil_append, List.append_nil]
  case nextValue =>
    intro ended rest before stack ih found
    rw [filled?] at found
    have equal := ih found
    simpa only [opened, openedArray, List.append_assoc, List.singleton_append] using equal
  case endArray =>
    intro ended rest before stack ih found
    rw [filled?] at found
    have equal := ih found
    have closed := openedArray_append before ended []
    rw [List.reverse_cons, ← closed, lexemesAfterValue] at equal
    simpa only [opened, List.append_assoc, List.singleton_append] using equal
  case nextField =>
    intro ended next rest before key stack ih found
    rw [filled?] at found
    have equal := ih found
    simpa only [opened, openedObject, List.append_assoc, List.cons_append, List.nil_append]
      using equal
  case endObject =>
    intro ended rest before key stack ih found
    rw [filled?] at found
    have equal := ih found
    have closed := openedObject_append before key ended []
    rw [List.reverse_cons, ← closed, lexemesAfterField] at equal
    simpa only [opened, List.append_assoc, List.cons_append, List.nil_append] using equal
  case noEnd =>
    intros
    rename_i found
    rw [filled?] at found
    · cases found
    all_goals assumption

/-- **A value is read from its lexemes only.** -/
theorem value?_eq_some_iff {whole : Json} {rest : List Lexeme} :
    value? rest [] = some whole ↔ rest = whole.lexemes := by
  constructor
  · intro found
    exact ((lexemes_of_read whole).1 rest [] found).symm
  · rintro rfl
    have read := value?_lexemes whole [] []
    rwa [List.append_nil, filled?] at read

end Reading

/-! ### Scalars -/

section Apart

open Lexeme (Apart)

variable {lexeme : Lexeme} {rest : List Lexeme}

theorem apart_cons (other : lexeme ≠ .scalar) (apart : Apart rest) : Apart (lexeme :: rest) :=
  List.isChain_cons.mpr ⟨fun _ _ equal => absurd equal other, apart⟩

mutual

/-- A value ends in front of what is no scalar. -/
theorem apart_lexemes_append (value : Json) (rest : List Lexeme)
    (behind : ∀ next ∈ rest.head?, next ≠ .scalar)
    (apart : Apart rest) : Apart (value.lexemes ++ rest) :=
  match value with
  | scalar => List.isChain_cons.mpr ⟨fun next head _ => behind next head, apart⟩
  | string _ => apart_cons nofun apart
  | array [] => apart_cons nofun (apart_cons nofun apart)
  | array (first :: others) => by
    rw [lexemes, List.cons_append, List.append_assoc]
    obtain ⟨separate, others⟩ := apart_lexemesAfterValue others rest apart
    exact apart_cons nofun (apart_lexemes_append first _ separate others)
  | object [] => apart_cons nofun (apart_cons nofun apart)
  | object ((key, first) :: others) => by
    rw [lexemes, List.cons_append, List.cons_append, List.cons_append, List.append_assoc]
    obtain ⟨separate, others⟩ := apart_lexemesAfterField others rest apart
    exact apart_cons nofun (apart_cons nofun (apart_cons nofun
      (apart_lexemes_append first _ separate others)))

/-- What comes behind a value of an array is no scalar. -/
theorem apart_lexemesAfterValue (others : List Json) (rest : List Lexeme) (apart : Apart rest) :
    (∀ next ∈ (lexemesAfterValue others ++ rest).head?, next ≠ .scalar) ∧
      Apart (lexemesAfterValue others ++ rest) :=
  match others with
  | [] => ⟨by rintro _ ⟨⟩; decide, apart_cons nofun apart⟩
  | next :: others => by
    rw [lexemesAfterValue, List.cons_append, List.append_assoc]
    obtain ⟨separate, others⟩ := apart_lexemesAfterValue others rest apart
    exact ⟨by rintro _ ⟨⟩; decide,
      apart_cons nofun (apart_lexemes_append next _ separate others)⟩

/-- What comes behind the value of a field is no scalar. -/
theorem apart_lexemesAfterField (others : List (List StringItem × Json)) (rest : List Lexeme)
    (apart : Apart rest) :
    (∀ next ∈ (lexemesAfterField others ++ rest).head?, next ≠ .scalar) ∧
      Apart (lexemesAfterField others ++ rest) :=
  match others with
  | [] => ⟨by rintro _ ⟨⟩; decide, apart_cons nofun apart⟩
  | (_, next) :: others => by
    rw [lexemesAfterField, List.cons_append, List.cons_append, List.cons_append, List.append_assoc]
    obtain ⟨separate, others⟩ := apart_lexemesAfterField others rest apart
    exact ⟨by rintro _ ⟨⟩; decide, apart_cons nofun (apart_cons nofun (apart_cons nofun
      (apart_lexemes_append next _ separate others)))⟩

end

/-- **No two scalars stand side by side in a value.** -/
theorem apart_lexemes (value : Json) : Apart value.lexemes := by
  have alone := value.apart_lexemes_append [] nofun .nil
  rwa [List.append_nil] at alone

end Apart

/-- **The values of texts.** A value is read from the texts that spell its lexemes, and from no
others. -/
theorem ofText?_eq_some_iff {text : List Char} {value : Json} :
    ofText? text = some value ↔ Lexeme.Spells text value.lexemes := by
  rw [← Lexeme.ofText?_eq_some_iff value.apart_lexemes, ofText?, Option.bind_eq_bind,
    Option.bind_eq_some_iff]
  simp only [value?_eq_some_iff, exists_eq_right]

end Json

end ScientificCalculator
