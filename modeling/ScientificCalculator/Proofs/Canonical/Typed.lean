/-
**Typed text in two parts.**

What is written for a word or a symbol depends on the character written last and on the one that
comes next, and only through two questions: does a neighbour stick to a number, and does an argument
open. Two texts are made canonical apart when the second one starts with neither.

* `isCopied`, `ofTypedAfter_run`: the characters written as they are typed.
* `ofTypedAfter_letters`: a word of letters and what comes after it.
* `Apart`: the second text sticks to nothing and opens no argument.
* `ofTypedAfter_append`, `ofTyped_append`: the canonical text of both parts.
* `ofTyped_cons`: a character that sticks to nothing, in front of a text.
* `ofTypedBetween`, `ofTypedAfter_cut`: the parts of a text at any place that is not inside a word.
* `ofTypedAfter_ending`: a number at the end of a text.
-/

import Mathlib.Data.List.TakeWhile
import Mathlib.Tactic.SplitIfs
import ScientificCalculator.Proofs.Text.Boundary

namespace ScientificCalculator.Canonical

open Text (EndsWithout Stops stops_cons stops_nil isAlpha_of_not_sticks)

section Copied

/-- The character is written as it is typed, whatever stands beside it. -/
def isCopied (character : Char) : Bool :=
  !character.isAlpha && character ≠ 'π' && character ≠ '^' && character ≠ '√'

theorem ofTypedAfter_of_isCopied {first : Char} (copied : isCopied first = true)
    (before : Option Char) (rest : List Char) :
    ofTypedAfter before (first :: rest) = first :: ofTypedAfter (some first) rest := by
  simp only [isCopied, Bool.and_eq_true, Bool.not_eq_true', decide_eq_true_eq] at copied
  obtain ⟨⟨⟨letter, constant⟩, power⟩, root⟩ := copied
  rw [ofTypedAfter, if_neg (by simp [letter])]
  simp only [ofSymbol, constant, power, root, false_and, if_false]
  rfl

/-- **A run of such characters** is written as it is typed. -/
theorem ofTypedAfter_run {run : List Char} (all : ∀ character ∈ run, isCopied character = true)
    (rest : List Char) (before : Option Char) :
    ∃ last, ofTypedAfter before (run ++ rest) = run ++ ofTypedAfter last rest := by
  induction run generalizing before with
  | nil => exact ⟨before, rfl⟩
  | cons first others ih =>
    obtain ⟨copied, remaining⟩ := List.forall_mem_cons.mp all
    obtain ⟨last, equal⟩ := ih remaining (some first)
    refine ⟨last, ?_⟩
    rw [List.cons_append, ofTypedAfter_of_isCopied copied, equal, List.cons_append]

/-- A text of such characters is written as it is typed. -/
theorem ofTypedAfter_copied {text : List Char}
    (all : ∀ character ∈ text, isCopied character = true) (before : Option Char) :
    ofTypedAfter before text = text := by
  obtain ⟨last, equal⟩ := ofTypedAfter_run all [] before
  rwa [List.append_nil, ofTypedAfter, List.append_nil] at equal

/-- The character written last before a text is the last one of a run in front of it. -/
theorem ofTypedAfter_run_concat {run : List Char} {last : Char}
    (all : ∀ character ∈ run ++ [last], isCopied character = true) (rest : List Char)
    (before : Option Char) :
    ofTypedAfter before (run ++ last :: rest) = run ++ last :: ofTypedAfter (some last) rest := by
  obtain ⟨copied, final⟩ := List.forall_mem_append.mp all
  obtain ⟨next, equal⟩ := ofTypedAfter_run copied (last :: rest) before
  rw [equal, ofTypedAfter_of_isCopied (final last List.mem_cons_self)]

/-- **A word of letters** is written as a whole. -/
theorem ofTypedAfter_letters {letters : List Char} (present : letters ≠ [])
    (all : ∀ letter ∈ letters, letter.isAlpha = true) {rest : List Char}
    (stops : Stops Char.isAlpha rest) (before : Option Char) :
    ofTypedAfter before (letters ++ rest) = ofWord letters before rest.head? ++
      ofTypedAfter (ofWord letters before rest.head?).getLast? rest := by
  cases letters with
  | nil => exact absurd rfl present
  | cons first others =>
    obtain ⟨letter, more⟩ := List.forall_mem_cons.mp all
    rw [List.cons_append, ofTypedAfter, if_pos letter]
    dsimp only
    rw [Text.takeWhile_append others stops, Text.dropWhile_append others stops,
      List.takeWhile_eq_self_iff.mpr more, List.dropWhile_eq_nil_iff.mpr more, List.nil_append]

end Copied

section Apart

/-- The text neither sticks to a number in front of it nor opens an argument. -/
def Apart (after : List Char) : Prop :=
  Stops (fun character => sticks character || character = '(') after

variable {after : List Char}

theorem Apart.stops_sticks (apart : Apart after) : Stops sticks after := by
  intro character member
  have none := apart character member
  rw [Bool.or_eq_false_iff] at none
  exact none.1

theorem Apart.stops_alpha (apart : Apart after) : Stops Char.isAlpha after :=
  fun character member => isAlpha_of_not_sticks (apart.stops_sticks character member)

theorem Apart.gap_head? (apart : Apart after) : gap after.head? = gap none := by
  cases after with
  | nil => rfl
  | cons first rest =>
    have free := stops_cons.mp apart.stops_sticks
    simp [gap, free]

theorem Apart.head?_ne (apart : Apart after) : after.head? ≠ some '(' := by
  intro opens
  have none := apart '(' opens
  simp at none

/-- A word at the end of a text is written the same before a text that stands apart. -/
theorem ofWord_head? (apart : Apart after) (word : List Char) (before : Option Char) :
    ofWord word before after.head? = ofWord word before none := by
  simp [ofWord, setOff, apart.head?_ne, apart.gap_head?]

/-- So is a symbol. -/
theorem ofSymbol_head? (apart : Apart after) (symbol : Char) (before : Option Char) :
    ofSymbol symbol before after.head? = ofSymbol symbol before none := by
  simp [ofSymbol, setOff, apart.head?_ne, apart.gap_head?]

/-- What depends on the next character alone is the same before a text that stands apart. -/
theorem lookahead_append {α : Type} {written : Option Char → α}
    (same : written after.head? = written none) (rest : List Char) :
    written (rest ++ after).head? = written rest.head? := by
  cases rest with
  | nil => exact same
  | cons first rest => rfl

end Apart

section Append

theorem ne_pi_of_not_sticks {character : Char} (free : sticks character = false) :
    character ≠ 'π' := by
  have letter : sticks 'π' = true := by decide +kernel
  rintro rfl
  rw [letter] at free
  cases free

/-- **A text that sticks to nothing does not depend on what was written before it.** -/
theorem ofTypedAfter_of_stops {text : List Char} (stops : Stops sticks text)
    (before : Option Char) : ofTypedAfter before text = ofTyped text := by
  cases text with
  | nil => rw [ofTyped, ofTypedAfter, ofTypedAfter]
  | cons first rest =>
    have free := stops_cons.mp stops
    have letter := isAlpha_of_not_sticks free
    have other := ne_pi_of_not_sticks free
    rw [ofTyped, ofTypedAfter, ofTypedAfter]
    simp [letter, ofSymbol, other]

/-- A neighbour that does not stick is as good as none. -/
theorem ofTypedAfter_some {last : Char} (free : sticks last = false) (text : List Char) :
    ofTypedAfter (some last) text = ofTyped text := by
  have same : gap (some last) = gap none := by simp [gap, free]
  cases text with
  | nil => rw [ofTyped, ofTypedAfter, ofTypedAfter]
  | cons first rest =>
    rw [ofTyped, ofTypedAfter, ofTypedAfter]
    simp only [ofWord, ofSymbol, setOff, same]

/-- **The canonical text of two parts**, the second of which stands apart. The induction is on the
length of the first part. -/
theorem ofTypedAfter_append {after : List Char} (apart : Apart after) (before : Option Char)
    (text : List Char) :
    ofTypedAfter before (text ++ after) = ofTypedAfter before text ++ ofTyped after := by
  cases text with
  | nil =>
    rw [List.nil_append, ofTypedAfter_of_stops apart.stops_sticks, ofTypedAfter]
    rfl
  | cons first rest =>
    rw [List.cons_append, ofTypedAfter, ofTypedAfter]
    have shorter : (rest.dropWhile Char.isAlpha).length < (first :: rest).length :=
      Nat.lt_succ_of_le (List.dropWhile_sublist _).length_le
    split_ifs with letter
    · dsimp only
      rw [Text.takeWhile_append rest apart.stops_alpha,
        Text.dropWhile_append rest apart.stops_alpha,
        lookahead_append (ofWord_head? apart _ before), ofTypedAfter_append apart,
        List.append_assoc]
    · dsimp only
      rw [lookahead_append (ofSymbol_head? apart first before), ofTypedAfter_append apart,
        List.append_assoc]
termination_by text.length
decreasing_by
  · exact shorter
  · exact Nat.lt_succ_self _

/-- The canonical text of two parts. -/
theorem ofTyped_append (text : List Char) {after : List Char} (apart : Apart after) :
    ofTyped (text ++ after) = ofTyped text ++ ofTyped after :=
  ofTypedAfter_append apart none text

/-- **A character that sticks to nothing in front of a text** is copied, unless it is rewritten. -/
theorem ofTyped_cons {first : Char} (free : sticks first = false) (power : first ≠ '^')
    (root : first ≠ '√') (rest : List Char) : ofTyped (first :: rest) = first :: ofTyped rest := by
  have copied : isCopied first = true := by
    simp [isCopied, isAlpha_of_not_sticks free, ne_pi_of_not_sticks free, power, root]
  rw [ofTyped, ofTypedAfter_of_isCopied copied, ofTypedAfter_some free]

/-- An opening parenthesis is copied. -/
theorem ofTyped_lparen (rest : List Char) : ofTyped ('(' :: rest) = '(' :: ofTyped rest :=
  ofTyped_cons (Text.not_sticks_of_mem (by decide)) (by decide) (by decide) rest

end Append

section Between

theorem ofWord_ne_nil {word : List Char} (present : word ≠ []) (before after : Option Char) :
    ofWord word before after ≠ [] := by
  rw [ofWord]
  split
  · rw [setOff]
    exact List.append_ne_nil_of_left_ne_nil
      (List.append_ne_nil_of_right_ne_nil _ (by decide)) _
  · split
    · split
      · rename_i found _
        cases found <;> decide
      · exact present
    · exact present

theorem ofSymbol_ne_nil (symbol : Char) (before after : Option Char) :
    ofSymbol symbol before after ≠ [] := by
  rw [ofSymbol]
  split
  · rw [setOff]
    exact List.append_ne_nil_of_left_ne_nil
      (List.append_ne_nil_of_right_ne_nil _ (by decide)) _
  · split
    · decide
    · split
      · decide
      · exact List.cons_ne_nil _ _

/-- **What is written for a text between two characters**: the one written last before it and the one
that comes next behind it. -/
def ofTypedBetween (before after : Option Char) : List Char → List Char
  | [] => []
  | first :: rest =>
    if first.isAlpha then
      let remaining := rest.dropWhile Char.isAlpha
      let written := ofWord (first :: rest.takeWhile Char.isAlpha) before (remaining.head?.or after)
      written ++ ofTypedBetween written.getLast? after remaining
    else
      let written := ofSymbol first before (rest.head?.or after)
      written ++ ofTypedBetween written.getLast? after rest
termination_by input => input.length
decreasing_by
  · exact Nat.lt_succ_of_le (List.dropWhile_sublist _).length_le
  · exact Nat.lt_succ_self _

theorem ofTypedBetween_eq_nil_iff {text : List Char} {before after : Option Char} :
    ofTypedBetween before after text = [] ↔ text = [] := by
  cases text with
  | nil =>
    rw [ofTypedBetween]
  | cons first rest =>
    refine iff_of_false ?_ (List.cons_ne_nil _ _)
    rw [ofTypedBetween]
    split
    · exact List.append_ne_nil_of_left_ne_nil (ofWord_ne_nil (List.cons_ne_nil _ _) _ _) _
    · exact List.append_ne_nil_of_left_ne_nil (ofSymbol_ne_nil _ _ _) _

/-- The character written last for two texts, where something is written for the first one. -/
theorem getLast?_append_or {one : List Char} (some : one ≠ []) (more : List Char)
    (before : Option Char) :
    (one ++ more).getLast?.or before = more.getLast?.or one.getLast? := by
  obtain ⟨front, last, rfl⟩ := List.eq_nil_or_concat one |>.resolve_left some
  rw [List.getLast?_append, List.concat_eq_append, List.getLast?_concat, Option.or_assoc]
  rfl

/-- **A text is written in two parts** at any place that is not inside a word. The induction is on the
length of the first part. -/
theorem ofTypedAfter_cut {front rest : List Char}
    (cut : EndsWithout Char.isAlpha front ∨ Stops Char.isAlpha rest) (before : Option Char) :
    ofTypedAfter before (front ++ rest) = ofTypedBetween before rest.head? front ++
      ofTypedAfter ((ofTypedBetween before rest.head? front).getLast?.or before) rest := by
  cases front with
  | nil =>
    rw [ofTypedBetween]
    rfl
  | cons first more =>
    rw [List.cons_append, ofTypedAfter, ofTypedBetween]
    by_cases letter : first.isAlpha = true
    · have shorter : (more.dropWhile Char.isAlpha).length < (first :: more).length :=
        Nat.lt_succ_of_le (List.dropWhile_sublist _).length_le
      have word : (more ++ rest).takeWhile Char.isAlpha = more.takeWhile Char.isAlpha ∧
          (more ++ rest).dropWhile Char.isAlpha = more.dropWhile Char.isAlpha ++ rest := by
        rcases cut with ends | stops
        · have taken := ends.takeWhile_append (List.cons_ne_nil _ _) rest
          have left := ends.dropWhile_append (List.cons_ne_nil _ _) rest
          rw [List.cons_append, List.takeWhile_cons_of_pos letter,
            List.takeWhile_cons_of_pos letter] at taken
          rw [List.cons_append, List.dropWhile_cons_of_pos letter,
            List.dropWhile_cons_of_pos letter] at left
          exact ⟨(List.cons.inj taken).2, left⟩
        · exact ⟨Text.takeWhile_append more stops, Text.dropWhile_append more stops⟩
      have inner : EndsWithout Char.isAlpha (more.dropWhile Char.isAlpha) ∨
          Stops Char.isAlpha rest := by
        refine cut.imp_left fun ends => ?_
        rw [← List.takeWhile_append_dropWhile (p := Char.isAlpha) (l := more)] at ends
        exact ends.of_append (first :: more.takeWhile Char.isAlpha)
      rw [if_pos letter, if_pos letter, word.1, word.2]
      dsimp only
      rw [List.head?_append, ofTypedAfter_cut inner,
        getLast?_append_or (ofWord_ne_nil (List.cons_ne_nil _ _) _ _), List.append_assoc]
    · have inner : EndsWithout Char.isAlpha more ∨ Stops Char.isAlpha rest :=
        cut.imp_left fun ends => ends.of_append [first]
      rw [if_neg letter, if_neg letter]
      dsimp only
      rw [List.head?_append, ofTypedAfter_cut inner,
        getLast?_append_or (ofSymbol_ne_nil _ _ _), List.append_assoc]
termination_by front.length
decreasing_by
  · subst_vars
    exact shorter
  · subst_vars
    exact Nat.lt_succ_self _

end Between

section Numbers

/-- A digit is no letter. -/
theorem isAlpha_of_isDigit {character : Char} (digit : character.isDigit = true) :
    character.isAlpha = false := by
  have low : character.val ≤ '9'.val := of_decide_eq_true (Bool.and_eq_true_iff.mp digit).2
  have upper : character.isUpper = false :=
    decide_eq_false fun bounds => absurd (bounds.1 : 'A'.val ≤ character.val) (by grind)
  have lower : character.isLower = false :=
    Bool.and_eq_false_iff.mpr
      (Or.inl (decide_eq_false fun (bound : 'a'.val ≤ character.val) => absurd bound (by grind)))
  exact Bool.or_eq_false_iff.mpr ⟨upper, lower⟩

theorem isCopied_of_number {first : Char} (number : first.isDigit = true ∨ first = '.') :
    isCopied first = true := by
  have other {special : Char} (none : special.isDigit = false) (point : special ≠ '.') :
      first ≠ special := by
    rintro rfl
    rcases number with digit | equal
    · exact Bool.noConfusion (digit.symm.trans none)
    · exact point equal
  have letter : first.isAlpha = false := by
    rcases number with digit | rfl
    · exact isAlpha_of_isDigit digit
    · rfl
  simp [isCopied, letter, @other 'π' (by decide) (by decide), @other '^' (by decide) (by decide),
    @other '√' (by decide) (by decide)]

/-- The characters of number literals are copied one by one. -/
theorem ofTypedAfter_cons {first : Char} (number : first.isDigit = true ∨ first = '.')
    (before : Option Char) (rest : List Char) :
    ofTypedAfter before (first :: rest) = first :: ofTypedAfter (some first) rest :=
  ofTypedAfter_of_isCopied (isCopied_of_number number) before rest

/-- **A number at the end of a text is copied.** -/
theorem ofTypedAfter_ending {ending : List Char}
    (number : ∀ character ∈ ending, character.isDigit = true ∨ character = '.')
    (before : Option Char) (front : List Char) :
    ∃ written, ofTypedAfter before (front ++ ending) = written ++ ending := by
  have copied := ofTypedAfter_copied fun character member =>
    isCopied_of_number (number character member)
  have stops : Stops Char.isAlpha ending := by
    intro character member
    rcases number character (List.mem_of_mem_head? member) with digit | rfl
    · exact isAlpha_of_isDigit digit
    · rfl
  exact ⟨_, by rw [ofTypedAfter_cut (Or.inr stops), copied]⟩

end Numbers

end ScientificCalculator.Canonical
