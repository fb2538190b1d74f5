/-
**Marks in two texts, one after the other.**

The search for marked literals can be made in two texts apart when no literal and no row of marks
lies across the seam: the second text goes on with neither, or the first one ends where none is
under way, or a point follows that has no digit in front of it.

* `Seam`: nothing that is searched for lies across.
* `pieces_append`: the pieces on both sides of a seam.
* `Mark`: the factorial and the percent mark, each with the pass that resolves it.
* `Mark.resolve_append`: the resolved texts on both sides.
* `Mark.resolve_cons`: a character that is no digit is copied.
* `resolveFactorials_error`: only a factorial is ever refused.
-/

import Mathlib.Data.List.TakeWhile
import Mathlib.Tactic.SplitIfs
import ScientificCalculator.Canonical.Factorial
import ScientificCalculator.Canonical.Percent
import ScientificCalculator.Proofs.Joined
import ScientificCalculator.Proofs.Text.Boundary

namespace ScientificCalculator.Canonical

open Text (Stops EndsWithout stops_cons stops_nil stops_of_head? endsWithout_concat)

section Seam

/-- A character that goes on with a literal or with its marks. -/
def extends? (mark character : Char) : Bool :=
  character.isDigit || character = '.' || character = mark

/-- **No marked literal lies across the seam of two texts.** The second one does not go on with a
literal or a mark; or the first one ends with a character of no literal, after which no mark of the
same row follows; or the second one starts with a point, in front of which there is no digit. -/
inductive Seam (mark : Char) (before after : List Char) : Prop
  | ahead (stops : Stops (extends? mark) after)
  | behind {front : List Char} {last : Char} (equal : before = front ++ [last])
      (digit : last.isDigit = false) (point : last ≠ '.')
      (marks : last = mark → Stops (· = mark) after)
  | point (other : mark ≠ '.') (start : after.head? = some '.')
      (ends : EndsWithout Char.isDigit before)

variable {mark : Char} {before after : List Char}

/-- A seam is one for all that stands directly before it. -/
theorem Seam.suffix {front : List Char} (seam : Seam mark (front ++ before) after)
    (present : before ≠ []) : Seam mark before after := by
  cases seam with
  | ahead stops => exact .ahead stops
  | behind equal digit point marks =>
    obtain ⟨inner, final, rfl⟩ := List.eq_nil_or_concat before |>.resolve_left present
    rw [List.concat_eq_append, ← List.append_assoc] at equal
    obtain ⟨-, rfl⟩ := List.append_singleton_inj.mp equal
    exact .behind List.concat_eq_append digit point marks
  | point other start ends => exact .point other start (ends.suffix present)

theorem Seam.tail {first : Char} (seam : Seam mark (first :: before) after)
    (present : before ≠ []) :
    Seam mark before after := by
  rw [← List.singleton_append] at seam
  exact seam.suffix present

theorem stops_digit (stops : Stops (extends? mark) after) : Stops Char.isDigit after := by
  intro character member
  have none := stops character member
  simp only [extends?, Bool.or_eq_false_iff] at none
  exact none.1.1

theorem stops_mark (stops : Stops (extends? mark) after) : Stops (· = mark) after := by
  intro character member
  have none := stops character member
  simp only [extends?, Bool.or_eq_false_iff] at none
  exact none.2

theorem ne_point_of_stops {rest : List Char} (stops : Stops (extends? mark) after) :
    after ≠ '.' :: rest := by
  rintro rfl
  have none := stops_cons.mp stops
  simp [extends?] at none

/-- A run of digits before a seam ends there. -/
theorem Seam.digits (seam : Seam mark before after) :
    (before ++ after).takeWhile Char.isDigit = before.takeWhile Char.isDigit ∧
      (before ++ after).dropWhile Char.isDigit = before.dropWhile Char.isDigit ++ after := by
  have apart (stops : Stops Char.isDigit after) :
      (before ++ after).takeWhile Char.isDigit = before.takeWhile Char.isDigit ∧
        (before ++ after).dropWhile Char.isDigit = before.dropWhile Char.isDigit ++ after :=
    ⟨Text.takeWhile_append before stops, Text.dropWhile_append before stops⟩
  cases seam with
  | ahead stops => exact apart (stops_digit stops)
  | behind equal digit _ _ =>
    have ends : EndsWithout Char.isDigit before := equal ▸ endsWithout_concat.mpr digit
    have present : before ≠ [] := equal ▸ List.append_ne_nil_of_right_ne_nil _ (List.cons_ne_nil _ _)
    exact ⟨ends.takeWhile_append present after, ends.dropWhile_append present after⟩
  | point _ start _ => exact apart (stops_of_head? start (by decide))

/-- A text that ends with a digit has a seam only before a text that goes on with no literal. -/
theorem Seam.stops_of_digit {last : Char} (seam : Seam mark (before ++ [last]) after)
    (inside : last.isDigit = true) : Stops (extends? mark) after := by
  cases seam with
  | ahead stops => exact stops
  | behind equal digit _ _ =>
    obtain ⟨-, rfl⟩ := List.append_singleton_inj.mp equal
    exact Bool.noConfusion (digit.symm.trans inside)
  | point _ _ ends => exact Bool.noConfusion ((endsWithout_concat.mp ends).symm.trans inside)

/-- A text that ends with a point has a seam only before a text that does not start with a digit. -/
theorem Seam.stops_of_point (seam : Seam mark (before ++ ['.']) after) :
    Stops Char.isDigit after := by
  cases seam with
  | ahead stops => exact stops_digit stops
  | behind equal _ point _ =>
    obtain ⟨-, rfl⟩ := List.append_singleton_inj.mp equal
    exact absurd rfl point
  | point _ start _ => exact stops_of_head? start (by decide)

/-- Where the digits of a text go on to its end, the text after the seam has none. -/
theorem Seam.stops_of_dropWhile (seam : Seam mark before after) (present : before ≠ [])
    (none : before.dropWhile Char.isDigit = []) : Stops (extends? mark) after := by
  obtain ⟨front, last, rfl⟩ := List.eq_nil_or_concat before |>.resolve_left present
  rw [List.concat_eq_append] at seam none
  have digit := List.dropWhile_eq_nil_iff.mp none last (by simp)
  exact seam.stops_of_digit digit

end Seam

section Literals

variable {mark : Char} {literal : Literal}

theorem beforeMark?_of_stops {after : List Char} (stops : Stops (· = mark) after) :
    beforeMark? mark literal after = none := by
  cases after with
  | nil => rfl
  | cons next rest =>
    have other := stops_cons.mp stops
    rw [beforeMark?, if_neg (by simpa using other)]

theorem beforeMark?_append (first : Char) (rest after : List Char) :
    beforeMark? mark literal (first :: rest ++ after) =
      (beforeMark? mark literal (first :: rest)).map
        fun (found, left) => (found, left ++ after) := by
  rw [List.cons_append, beforeMark?, beforeMark?]
  split <;> rfl

/-- The marked literal of a text whose digits are followed by a point. -/
theorem markedLiteral?_of_point {input rest : List Char}
    (point : input.dropWhile Char.isDigit = '.' :: rest) :
    markedLiteral? mark input =
      if input.takeWhile Char.isDigit = [] ∨ rest.takeWhile Char.isDigit = [] then none
      else beforeMark? mark ⟨input.takeWhile Char.isDigit, rest.takeWhile Char.isDigit⟩
        (rest.dropWhile Char.isDigit) := by
  rw [markedLiteral?, point]
  by_cases whole : input.takeWhile Char.isDigit = [] <;>
    by_cases fraction : rest.takeWhile Char.isDigit = [] <;> simp [whole, fraction]

/-- The marked literal of a text whose digits are not followed by a point. -/
theorem markedLiteral?_of_no_point {input : List Char}
    (point : ∀ rest, input.dropWhile Char.isDigit ≠ '.' :: rest) :
    markedLiteral? mark input =
      if input.takeWhile Char.isDigit = [] then none
      else beforeMark? mark ⟨input.takeWhile Char.isDigit, []⟩ (input.dropWhile Char.isDigit) := by
  rw [markedLiteral?]
  generalize input.dropWhile Char.isDigit = rest at point
  split
  · rfl
  · split
    · exact absurd rfl (point _)
    · rfl

/-- No point follows the digits of a text because of what stands after a seam. -/
theorem Seam.ne_point {before after : List Char} (seam : Seam mark before after)
    (present : before ≠ []) (point : ∀ rest, before.dropWhile Char.isDigit ≠ '.' :: rest) :
    ∀ rest, (before ++ after).dropWhile Char.isDigit ≠ '.' :: rest := by
  intro rest
  rw [seam.digits.2]
  cases shape : before.dropWhile Char.isDigit with
  | nil => exact ne_point_of_stops (seam.stops_of_dropWhile present shape)
  | cons next more =>
    intro equal
    exact point more (by rw [shape, (List.cons.inj equal).1])

/-- The mark behind the digits of a text is found with and without what stands after a seam. -/
theorem Seam.beforeMark?_rest {before after : List Char} (seam : Seam mark before after)
    (present : before ≠ []) :
    beforeMark? mark literal ((before ++ after).dropWhile Char.isDigit) =
      (beforeMark? mark literal (before.dropWhile Char.isDigit)).map
        fun (found, left) => (found, left ++ after) := by
  rw [seam.digits.2]
  cases shape : before.dropWhile Char.isDigit with
  | nil =>
    have stops := seam.stops_of_dropWhile present shape
    rw [List.nil_append, beforeMark?_of_stops (stops_mark stops)]
    rfl
  | cons next more => exact beforeMark?_append _ _ _

/-- **A marked literal before a seam** is found with and without the text after it. -/
theorem markedLiteral?_append {before after : List Char} (seam : Seam mark before after)
    (present : before ≠ []) :
    markedLiteral? mark (before ++ after) =
      (markedLiteral? mark before).map fun (found, left) => (found, left ++ after) := by
  obtain ⟨whole, remaining⟩ := seam.digits
  by_cases point : ∃ rest, before.dropWhile Char.isDigit = '.' :: rest
  · obtain ⟨rest, point⟩ := point
    have equal : before = before.takeWhile Char.isDigit ++ '.' :: rest := by
      rw [← point, List.takeWhile_append_dropWhile]
    rw [point, List.cons_append] at remaining
    rw [markedLiteral?_of_point remaining, markedLiteral?_of_point point, whole]
    rw [equal] at seam
    cases rest with
    | nil =>
      rw [List.nil_append, Text.takeWhile_of_stops seam.stops_of_point]
      simp
    | cons inner more =>
      have fractional : Seam mark (inner :: more) after :=
        Seam.tail (seam.suffix (List.cons_ne_nil _ _)) (List.cons_ne_nil _ _)
      rw [fractional.digits.1, fractional.beforeMark?_rest (List.cons_ne_nil _ _)]
      split_ifs with missing
      · rfl
      · rfl
  · have none := not_exists.mp point
    rw [markedLiteral?_of_no_point (seam.ne_point present none), markedLiteral?_of_no_point none,
      whole, seam.beforeMark?_rest present]
    split_ifs with missing
    · rfl
    · rfl

/-- **A marked literal stands in the text as it is read**: its digits, the mark, and the rest. -/
theorem eq_of_markedLiteral? {input left : List Char} {mark : Char} {literal : Literal}
    (found : markedLiteral? mark input = some (literal, left)) :
    input = literal.text ++ mark :: left := by
  have parts := List.takeWhile_append_dropWhile (p := Char.isDigit) (l := input)
  have marked {read other : Literal} {rest after : List Char}
      (next : beforeMark? mark read rest = some (other, after)) :
      read = other ∧ rest = mark :: after := by
    cases rest with
    | nil => cases next
    | cons first rest =>
      simp only [beforeMark?, Option.ite_none_right_eq_some, Option.some.injEq,
        Prod.mk.injEq] at next
      exact ⟨next.2.1, by rw [next.1, next.2.2]⟩
  by_cases point : ∃ rest, input.dropWhile Char.isDigit = '.' :: rest
  · obtain ⟨rest, point⟩ := point
    rw [markedLiteral?_of_point point] at found
    split_ifs at found with missing
    obtain ⟨rfl, ending⟩ := marked found
    have fraction := List.takeWhile_append_dropWhile (p := Char.isDigit) (l := rest)
    rw [ending] at fraction
    rw [Literal.text, if_neg (fun none => missing (Or.inr none)), List.append_assoc,
      List.cons_append, fraction, ← point, parts]
  · rw [markedLiteral?_of_no_point fun rest equal => point ⟨rest, equal⟩] at found
    split_ifs at found with missing
    obtain ⟨rfl, ending⟩ := marked found
    rw [Literal.text, if_pos rfl, ← ending, parts]

end Literals

section Pieces

variable {mark : Char} {before after : List Char}

theorem pieces_of_marked {input left : List Char} {literal : Literal}
    (found : markedLiteral? mark input = some (literal, left)) :
    pieces mark input = .marked literal (left.takeWhile (· = mark)).length ::
      pieces mark (left.dropWhile (· = mark)) := by
  cases input with
  | nil => cases found
  | cons first rest =>
    rw [pieces]
    split
    · rename_i found'
      rw [found] at found'
      obtain ⟨rfl, rfl⟩ := Prod.mk.inj (Option.some.inj found')
      rfl
    · rename_i none
      rw [found] at none
      cases none

theorem pieces_of_plain {first : Char} {rest : List Char}
    (none : markedLiteral? mark (first :: rest) = none) :
    pieces mark (first :: rest) =
      .plain (copied first rest).1 :: pieces mark (copied first rest).2 := by
  rw [pieces]
  split
  · rename_i found
    rw [none] at found
    cases found
  · rfl

/-- No literal starts with a character that is no digit. -/
theorem pieces_cons {first : Char} (digit : first.isDigit = false) (rest : List Char) :
    pieces mark (first :: rest) = .plain [first] :: pieces mark rest := by
  have none : markedLiteral? mark (first :: rest) = none := by
    rw [markedLiteral?, List.takeWhile_cons_of_neg (by simp [digit])]
    rfl
  rw [pieces_of_plain none, copied, if_neg (by simp [digit])]

/-- A row of marks before a seam ends there. -/
theorem Seam.marks (seam : Seam mark before after) :
    (before ++ after).takeWhile (· = mark) = before.takeWhile (· = mark) ∧
      (before ++ after).dropWhile (· = mark) = before.dropWhile (· = mark) ++ after := by
  have apart (stops : Stops (· = mark) after) :
      (before ++ after).takeWhile (· = mark) = before.takeWhile (· = mark) ∧
        (before ++ after).dropWhile (· = mark) = before.dropWhile (· = mark) ++ after :=
    ⟨Text.takeWhile_append before stops, Text.dropWhile_append before stops⟩
  cases seam with
  | ahead stops => exact apart (stops_mark stops)
  | @behind front last equal _ _ marks =>
    by_cases same : last = mark
    · exact apart (marks same)
    · have ends : EndsWithout (· = mark) before :=
        equal ▸ endsWithout_concat.mpr (decide_eq_false same)
      have present : before ≠ [] :=
        equal ▸ List.append_ne_nil_of_right_ne_nil _ (List.cons_ne_nil _ _)
      exact ⟨ends.takeWhile_append present after, ends.dropWhile_append present after⟩
  | point other start _ => exact apart (stops_of_head? start (by simpa using other.symm))

/-- What is copied before a seam is copied with and without the text after it. -/
theorem copied_append {first : Char} {rest : List Char} (seam : Seam mark (first :: rest) after) :
    copied first (rest ++ after) =
      ((copied first rest).1, (copied first rest).2 ++ after) := by
  obtain ⟨digits, left⟩ := seam.digits
  by_cases digit : first.isDigit = true
  · rw [List.cons_append, List.takeWhile_cons_of_pos digit, List.takeWhile_cons_of_pos digit]
      at digits
    rw [List.cons_append, List.dropWhile_cons_of_pos digit, List.dropWhile_cons_of_pos digit]
      at left
    rw [copied, copied, if_pos digit, if_pos digit, digits, left]
  · rw [copied, copied, if_neg digit, if_neg digit]

/-- A run that is copied ends within the first of two texts, or all of that text is digits. -/
theorem copied_cases (first : Char) (rest ending : List Char) :
    (∃ left : List Char, left.length ≤ rest.length ∧
      (copied first (rest ++ ending)).2 = left ++ ending) ∨
    (∀ character ∈ first :: rest, character.isDigit = true) ∧
      (copied first (rest ++ ending)).2 = ending.dropWhile Char.isDigit := by
  by_cases leading : first.isDigit = true
  · rw [copied, if_pos leading, List.dropWhile_append]
    split
    · rename_i all
      have digits := List.dropWhile_eq_nil_iff.mp (List.isEmpty_iff.mp all)
      exact Or.inr ⟨List.forall_mem_cons.mpr ⟨leading, digits⟩, rfl⟩
    · exact Or.inl ⟨_, (List.dropWhile_sublist _).length_le, rfl⟩
  · rw [copied, if_neg leading]
    exact Or.inl ⟨rest, Nat.le_refl _, rfl⟩

theorem copied_suffix (first : Char) (rest : List Char) :
    (copied first rest).1 ++ (copied first rest).2 = first :: rest := by
  unfold copied
  split
  · rw [List.cons_append, List.takeWhile_append_dropWhile]
  · rfl

/-- **The pieces on both sides of a seam.** The induction is on the length of the first text, each
piece of which leaves a shorter one before the same seam. -/
theorem pieces_append {mark : Char} {before after : List Char} (seam : Seam mark before after) :
    pieces mark (before ++ after) = pieces mark before ++ pieces mark after := by
  cases before with
  | nil =>
    rw [pieces]
    rfl
  | cons first rest =>
    have rejoin {front left : List Char} (shorter : left.length < (first :: rest).length)
        (equal : first :: rest = front ++ left) :
        pieces mark (left ++ after) = pieces mark left ++ pieces mark after := by
      cases left with
      | nil =>
        rw [pieces.eq_1]
        rfl
      | cons next more => exact pieces_append (Seam.suffix (equal ▸ seam) (List.cons_ne_nil _ _))
    have both := markedLiteral?_append seam (List.cons_ne_nil _ _)
    rw [List.cons_append] at both
    cases found : markedLiteral? mark (first :: rest) with
    | none =>
      rw [found] at both
      have suffix := copied_suffix first rest
      have shorter : (copied first rest).2.length < (first :: rest).length :=
        Nat.lt_succ_of_le (length_copied_le first rest)
      rw [pieces_of_plain found, List.cons_append, List.cons_append, pieces_of_plain both,
        copied_append seam]
      exact congrArg _ (rejoin shorter suffix.symm)
    | some outcome =>
      obtain ⟨literal, left⟩ := outcome
      rw [found] at both
      have equal := eq_of_markedLiteral? found
      have row : Seam mark (mark :: left) after := Seam.suffix (equal ▸ seam) (List.cons_ne_nil _ _)
      obtain ⟨marks, ending⟩ := row.marks
      rw [List.cons_append, List.takeWhile_cons_of_pos (by simp),
        List.takeWhile_cons_of_pos (by simp), List.cons.injEq] at marks
      rw [List.cons_append, List.dropWhile_cons_of_pos (by simp),
        List.dropWhile_cons_of_pos (by simp)] at ending
      have shorter : (left.dropWhile (· = mark)).length < (first :: rest).length :=
        Nat.lt_of_le_of_lt (List.dropWhile_sublist _).length_le (length_markedLiteral?_lt found)
      have suffix : first :: rest = literal.text ++ mark :: left.takeWhile (· = mark) ++
          left.dropWhile (· = mark) := by
        rw [List.append_assoc, List.cons_append, List.takeWhile_append_dropWhile, equal]
      rw [pieces_of_marked found, List.cons_append, List.cons_append, pieces_of_marked both,
        marks.2, ending]
      exact congrArg _ (rejoin shorter suffix)
termination_by before.length
decreasing_by
  subst_vars
  exact shorter

end Pieces

/-- The two marks. -/
inductive Mark
  | factorial
  | percent
  deriving DecidableEq

namespace Mark

/-- The sign of a mark. -/
def sign : Mark → Char
  | factorial => '!'
  | percent => '%'

/-- What is written for a piece in which marks of a kind are sought. -/
def write : Mark → Piece → Except Fault (List Char)
  | factorial, piece => resolveFactorial piece
  | percent, piece => .ok (resolvePercent piece)

/-- What is written for all pieces. -/
def writeAll (mark : Mark) : List Piece → Except Fault (List Char)
  | [] => .ok []
  | piece :: found => joined (mark.write piece) (mark.writeAll found)

/-- The text with all marks of a kind resolved. -/
def resolve : Mark → List Char → Except Fault (List Char)
  | factorial, text => resolveFactorials text
  | percent, text => .ok (resolvePercents text)

theorem sign_isDigit (mark : Mark) : mark.sign.isDigit = false := by
  cases mark <;> rfl

theorem sign_ne_point (mark : Mark) : mark.sign ≠ '.' := by
  cases mark <;> decide

theorem writeAll_append (mark : Mark) (first second : List Piece) :
    mark.writeAll (first ++ second) = joined (mark.writeAll first) (mark.writeAll second) := by
  induction first with
  | nil => exact (nil_joined _).symm
  | cons piece first ih => rw [List.cons_append, writeAll, writeAll, ih, joined_assoc]

/-- A pass writes its pieces in a row. -/
theorem resolve_eq (mark : Mark) (text : List Char) :
    mark.resolve text = mark.writeAll (pieces mark.sign text) := by
  cases mark with
  | factorial =>
    show ((pieces '!' text).mapM resolveFactorial).map List.flatten =
      factorial.writeAll (pieces '!' text)
    induction pieces '!' text with
    | nil => rfl
    | cons piece found ih =>
      rw [writeAll, ← ih, write, List.mapM_cons]
      cases resolveFactorial piece with
      | error fault => rfl
      | ok written => cases found.mapM resolveFactorial <;> rfl
  | percent =>
    show Except.ok ((pieces '%' text).flatMap resolvePercent) = percent.writeAll (pieces '%' text)
    induction pieces '%' text with
    | nil => rfl
    | cons piece found ih => rw [writeAll, ← ih, List.flatMap_cons]; rfl

/-- **Marks of a kind on both sides of a seam.** -/
theorem resolve_append (mark : Mark) {before after : List Char}
    (seam : Seam mark.sign before after) :
    mark.resolve (before ++ after) = joined (mark.resolve before) (mark.resolve after) := by
  rw [resolve_eq, pieces_append seam, writeAll_append, ← resolve_eq, ← resolve_eq]

/-- A character that is no digit is copied. -/
theorem resolve_cons (mark : Mark) {first : Char} (digit : first.isDigit = false)
    (rest : List Char) :
    mark.resolve (first :: rest) = (mark.resolve rest).map (first :: ·) := by
  rw [resolve_eq, pieces_cons digit, writeAll, ← resolve_eq]
  cases mark <;> rfl

end Mark

section Resolving

variable {before after : List Char}

/-- Factorials on both sides of a seam. -/
theorem resolveFactorials_append (seam : Seam '!' before after) :
    resolveFactorials (before ++ after) =
      joined (resolveFactorials before) (resolveFactorials after) :=
  Mark.factorial.resolve_append seam

/-- Percentages on both sides of a seam. -/
theorem resolvePercents_append (seam : Seam '%' before after) :
    resolvePercents (before ++ after) = resolvePercents before ++ resolvePercents after :=
  Except.ok.inj (Mark.percent.resolve_append seam)

variable {first : Char} (digit : first.isDigit = false) (rest : List Char)

include digit in
theorem resolveFactorials_cons :
    resolveFactorials (first :: rest) = (resolveFactorials rest).map (first :: ·) :=
  Mark.factorial.resolve_cons digit rest

include digit in
theorem resolvePercents_cons :
    resolvePercents (first :: rest) = first :: resolvePercents rest :=
  Except.ok.inj (Mark.percent.resolve_cons digit rest)

/-- A piece is refused for its factorial. -/
theorem resolveFactorial_error {piece : Piece} {fault : Fault}
    (refused : resolveFactorial piece = .error fault) : ∃ operand, fault = .factorial operand := by
  unfold resolveFactorial at refused
  split at refused
  · cases refused
  · split_ifs at refused
    exact ⟨_, (Except.error.inj refused).symm⟩
  · cases refused

/-- **Only a factorial is ever refused.** -/
theorem resolveFactorials_error {input : List Char} {fault : Fault}
    (refused : resolveFactorials input = .error fault) : ∃ operand, fault = .factorial operand := by
  change Mark.factorial.resolve input = .error fault at refused
  rw [Mark.resolve_eq] at refused
  generalize pieces Mark.factorial.sign input = found at refused
  induction found with
  | nil => cases refused
  | cons piece found ih =>
    rw [Mark.writeAll, Mark.write] at refused
    cases written : resolveFactorial piece with
    | error cause =>
      rw [written] at refused
      obtain rfl := Except.error.inj refused
      exact resolveFactorial_error written
    | ok text =>
      rw [written, joined_ok] at refused
      cases remaining : Mark.factorial.writeAll found with
      | error cause =>
        rw [remaining] at refused
        obtain rfl := Except.error.inj refused
        exact ih remaining
      | ok rest =>
        rw [remaining] at refused
        cases refused

end Resolving

end ScientificCalculator.Canonical
