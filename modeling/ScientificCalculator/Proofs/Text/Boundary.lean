/-
**Where reading stops.**

All passes read runs of characters: digits, letters, marks. A run that ends before the second of two
texts is the same with and without that text.

* `Stops`, `EndsWithout`: a text does not go on, or does not end, with a character of a class.
* `takeWhile_append`, `dropWhile_append`: a run that ends within the first of two texts.
* `EndsWithout.takeWhile_append`, `EndsWithout.dropWhile_append`: so does one in a text that does not
  end with it.
* `isBoundary`: the characters at which every pass stops, and which every pass copies.
* `isBoundary_of_isBlank`: the blanks are such characters.
-/

import ScientificCalculator.Canonical.Typed
import ScientificCalculator.Literal
import ScientificCalculator.Text.Blank

namespace ScientificCalculator.Text

section Runs

/-- The text does not start with a character of the class. -/
def Stops (test : Char → Bool) (text : List Char) : Prop :=
  ∀ character ∈ text.head?, test character = false

variable {test : Char → Bool} {text : List Char}

theorem stops_nil : Stops test [] := fun _ member => by cases member

theorem stops_cons {first : Char} {rest : List Char} :
    Stops test (first :: rest) ↔ test first = false := by
  simp [Stops]

theorem takeWhile_of_stops (stops : Stops test text) : text.takeWhile test = [] := by
  cases text with
  | nil => rfl
  | cons first rest => rw [List.takeWhile_cons, stops_cons.mp stops]; rfl

theorem dropWhile_of_stops (stops : Stops test text) : text.dropWhile test = text := by
  cases text with
  | nil => rfl
  | cons first rest => rw [List.dropWhile_cons, stops_cons.mp stops]; rfl

/-- A text whose first character is known. -/
theorem stops_of_head? {first : Char} (start : text.head? = some first)
    (other : test first = false) : Stops test text := by
  intro character member
  rw [start] at member
  rwa [← Option.some.inj member]

/-- The text does not end with a character of the class. -/
def EndsWithout (test : Char → Bool) (text : List Char) : Prop :=
  ∀ character ∈ text.getLast?, test character = false

theorem endsWithout_concat {last : Char} :
    EndsWithout test (text ++ [last]) ↔ test last = false := by
  simp [EndsWithout]

theorem endsWithout_singleton {last : Char} : EndsWithout test [last] ↔ test last = false := by
  simp [EndsWithout]

theorem EndsWithout.suffix {front : List Char} (ends : EndsWithout test (front ++ text))
    (present : text ≠ []) : EndsWithout test text := by
  obtain ⟨inner, last, rfl⟩ := List.eq_nil_or_concat text |>.resolve_left present
  rw [List.concat_eq_append, ← List.append_assoc, endsWithout_concat] at ends
  rwa [List.concat_eq_append, endsWithout_concat]

theorem EndsWithout.of_append (front : List Char) (ends : EndsWithout test (front ++ text)) :
    EndsWithout test text := by
  by_cases none : text = []
  · subst none
    exact fun _ member => by cases member
  · exact ends.suffix none

/-- What is left after a run. -/
theorem stops_dropWhile (test : Char → Bool) (text : List Char) :
    Stops test (text.dropWhile test) := by
  intro character member
  have ends := List.head?_dropWhile_not test text
  rw [Option.mem_def.mp member] at ends
  exact ends

/-- A run within the first of two texts. -/
theorem takeWhile_append (before : List Char) (stops : Stops test text) :
    (before ++ text).takeWhile test = before.takeWhile test := by
  induction before with
  | nil => exact takeWhile_of_stops stops
  | cons first rest ih => rw [List.cons_append, List.takeWhile_cons, List.takeWhile_cons, ih]

/-- What follows a run within the first of two texts. -/
theorem dropWhile_append (before : List Char) (stops : Stops test text) :
    (before ++ text).dropWhile test = before.dropWhile test ++ text := by
  induction before with
  | nil => exact dropWhile_of_stops stops
  | cons first rest ih =>
    rw [List.cons_append, List.dropWhile_cons, List.dropWhile_cons, ih]
    split <;> rfl

/-- A text is cut in one way into a run and what follows it. -/
theorem Stops.append_inj {run run' after : List Char}
    (inside : ∀ character ∈ run, test character = true)
    (inside' : ∀ character ∈ run', test character = true) (stops : Stops test text)
    (stops' : Stops test after) (equal : run ++ text = run' ++ after) :
    run = run' ∧ text = after := by
  have runs := congrArg (List.takeWhile test) equal
  rw [List.takeWhile_append_of_pos inside, List.takeWhile_append_of_pos inside',
    takeWhile_of_stops stops, takeWhile_of_stops stops', List.append_nil, List.append_nil] at runs
  exact ⟨runs, List.append_cancel_left (runs ▸ equal)⟩

/-- A run ends within a text that does not end with a character of the class, whatever follows. -/
theorem EndsWithout.takeWhile_append (ends : EndsWithout test text) (present : text ≠ [])
    (after : List Char) : (text ++ after).takeWhile test = text.takeWhile test := by
  obtain ⟨front, last, rfl⟩ := List.eq_nil_or_concat text |>.resolve_left present
  rw [List.concat_eq_append] at ends ⊢
  have inner : Stops test (last :: after) := stops_cons.mpr (endsWithout_concat.mp ends)
  have alone : Stops test [last] := stops_cons.mpr (endsWithout_concat.mp ends)
  rw [List.append_assoc, List.singleton_append, Text.takeWhile_append front inner,
    Text.takeWhile_append front alone]

/-- What follows the run then ends with the text that follows. -/
theorem EndsWithout.dropWhile_append (ends : EndsWithout test text) (present : text ≠ [])
    (after : List Char) : (text ++ after).dropWhile test = text.dropWhile test ++ after := by
  obtain ⟨front, last, rfl⟩ := List.eq_nil_or_concat text |>.resolve_left present
  rw [List.concat_eq_append] at ends ⊢
  have inner : Stops test (last :: after) := stops_cons.mpr (endsWithout_concat.mp ends)
  have alone : Stops test [last] := stops_cons.mpr (endsWithout_concat.mp ends)
  rw [List.append_assoc, List.singleton_append, Text.dropWhile_append front inner,
    Text.dropWhile_append front alone, List.append_assoc, List.singleton_append]

end Runs

section Boundary

/-- The signs that stick to no number and still mean something for what stands beside them. -/
def specialSigns : List Char :=
  ['(', '!', '%', '*', '^', '_', '√']

/-- Every pass stops at the character and copies it: it sticks to no number, is part of no word and
no mark, opens no argument and is not rewritten. -/
def isBoundary (character : Char) : Bool :=
  !Canonical.sticks character && !specialSigns.contains character

/-- The signs of expressions stick to no number. -/
theorem not_sticks_of_mem {sign : Char} (member : sign ∈ [')', '+', '-', '/'] ++ specialSigns) :
    Canonical.sticks sign = false := by
  have all : (([')', '+', '-', '/'] ++ specialSigns).all fun sign => !Canonical.sticks sign) =
      true := by
    decide +kernel
  exact (Bool.not_eq_true' _).mp (List.all_eq_true.mp all sign member)

theorem isBoundary_rparen : isBoundary ')' = true := by
  rw [isBoundary, not_sticks_of_mem (by decide)]
  decide

/-- Spaces of all kinds are boundaries. -/
theorem isBoundary_of_isBlank {character : Char} (blank : isBlank character = true) :
    isBoundary character = true := by
  have codes : ∀ code ∈ blankCodes, isBoundary (Char.ofNat code) = true := by decide +kernel
  have within := codes character.toNat (List.contains_iff_mem.mp blank)
  rwa [Char.ofNat_toNat] at within

variable {character : Char}

theorem not_sticks_of_isBoundary (boundary : isBoundary character = true) :
    Canonical.sticks character = false := by
  simp only [isBoundary, Bool.and_eq_true, Bool.not_eq_true'] at boundary
  exact boundary.1

/-- A character that sticks to nothing is no ASCII letter or digit. -/
theorem isAlphanum_of_not_sticks (free : Canonical.sticks character = false) :
    character.isAlphanum = false := by
  refine Bool.eq_false_iff.mpr fun inside => ?_
  have wide := isAlphanumeric_of_isAlphanum inside
  simp [Canonical.sticks, wide] at free

theorem isAlpha_of_not_sticks (free : Canonical.sticks character = false) :
    character.isAlpha = false := by
  have outside := isAlphanum_of_not_sticks free
  rw [Char.isAlphanum, Bool.or_eq_false_iff] at outside
  exact outside.1

theorem isDigit_of_not_sticks (free : Canonical.sticks character = false) :
    character.isDigit = false := by
  have outside := isAlphanum_of_not_sticks free
  rw [Char.isAlphanum, Bool.or_eq_false_iff] at outside
  exact outside.2

theorem ne_point_of_not_sticks (free : Canonical.sticks character = false) : character ≠ '.' := by
  rintro rfl
  exact absurd free (by decide)

/-- A boundary is none of the characters with a meaning for what stands beside them. -/
theorem ne_of_isBoundary (boundary : isBoundary character = true) {other : Char}
    (special : other ∈ specialSigns) : character ≠ other := by
  rintro rfl
  simp [isBoundary, special] at boundary

end Boundary

end ScientificCalculator.Text
