/-
**The operations found in a text.**

A mark directly behind a digit belongs to the longest literal that ends there, together with the
marks of the same row. The search from left to right finds all of these operations, and no others:
what it copies ends with no literal that a mark follows, and a run of digits that it copies as a
whole would have been found as part of a literal.

* `Operation`, `Operations`: the operations of a text, told without the search.
* `Marking`: the same, told from one operation to the next.
* `exists_marking`: the search finds them.
* `Marking.operations`: what holds between two operations holds in the whole text.
* `Operations.unique`: the operations of a text are told in one way only.
-/

import Mathlib.Data.List.Chain
import ScientificCalculator.Proofs.Canonical.Operand
import ScientificCalculator.Proofs.Numeral.Value

namespace ScientificCalculator.Canonical

open Text (Stops stops_cons)

/-- An operation in a text: what is kept in front of its operand, the operand, and how many marks
follow the first one. -/
structure Operation where
  kept : List Char
  operand : Literal
  furtherMarks : Nat

/-- The operation as it stands in the text. -/
def Operation.text (mark : Char) (operation : Operation) : List Char :=
  operation.kept ++ markedText mark operation.operand operation.furtherMarks

theorem Operation.text_eq (mark : Char) (operation : Operation) :
    operation.text mark = operation.kept ++ operation.operand.text ++
      List.replicate (operation.furtherMarks + 1) mark :=
  (List.append_assoc _ _ _).symm

/-- All literals that end where the operand does are at its end. -/
def Longest (front : List Char) (operand : Literal) : Prop :=
  ∀ longer : Literal, longer.Plain → longer.text <:+ front ++ operand.text →
    longer.text <:+ operand.text

/-- **The operations of a text.** They and the ending are the text; each operand is the longest
literal in front of its marks, which are all marks in a row; and every mark directly behind a digit
belongs to one. -/
structure Operations (mark : Char) (text : List Char) (found : List Operation)
    (ending : List Char) : Prop where
  whole : text = found.flatMap (Operation.text mark) ++ ending
  attached : ∀ earlier operation later, found = earlier ++ operation :: later →
    operation.operand.Plain ∧
      Longest (earlier.flatMap (Operation.text mark) ++ operation.kept) operation.operand ∧
      Stops (· = mark) (later.flatMap (Operation.text mark) ++ ending)
  complete : ∀ front digit rest, text = front ++ digit :: mark :: rest → digit.isDigit = true →
    ∃ earlier operation later, found = earlier ++ operation :: later ∧
      front ++ [digit] = earlier.flatMap (Operation.text mark) ++
        (operation.kept ++ operation.operand.text)

section Marking

/-- No mark stands directly behind a digit. -/
def Unmarked (mark : Char) (text : List Char) : Prop :=
  text.IsChain fun digit next => digit.isDigit = true → next ≠ mark

/-- What holds of an operation and the text behind it. -/
structure Operation.Attached (mark : Char) (operation : Operation) (rest : List Char) : Prop where
  plain : operation.operand.Plain
  unmarked : Unmarked mark (operation.kept ++ operation.operand.text)
  longest : Longest operation.kept operation.operand
  stops : Stops (· = mark) rest

/-- **A text with its operations**, from one to the next. -/
inductive Marking (mark : Char) : List Char → List Operation → List Char → Prop
  | ending {text : List Char} (unmarked : Unmarked mark text) : Marking mark text [] text
  | operation {operation : Operation} {rest ending : List Char} {found : List Operation}
      (attached : operation.Attached mark rest) (others : Marking mark rest found ending) :
      Marking mark (operation.text mark ++ rest) (operation :: found) ending

variable {mark : Char}

theorem unmarked_of_notMem {text : List Char} (absent : mark ∉ text) : Unmarked mark text := by
  refine List.Pairwise.isChain (List.pairwise_of_forall_mem_list fun _ _ next member _ => ?_)
  rintro rfl
  exact absent member

end Marking

section Copied

theorem suffix_append_cases {part front behind : List Char} (suffix : part <:+ front ++ behind) :
    part <:+ behind ∨ ∃ inside, inside ≠ [] ∧ inside <:+ front ∧ part = inside ++ behind := by
  obtain ⟨before, equal⟩ := suffix
  rcases List.append_eq_append_iff.mp equal with ⟨inside, rfl, rfl⟩ | ⟨outside, rfl, rfl⟩
  · by_cases none : inside = []
    · subst none
      exact Or.inl List.suffix_rfl
    · exact Or.inr ⟨inside, none, List.suffix_append _ _, rfl⟩
  · exact Or.inl (List.suffix_append _ _)

theorem isDigit_of_mem_copied {first character : Char} {rest : List Char}
    (leading : first.isDigit = true) (member : character ∈ (copied first rest).1) :
    character.isDigit = true := by
  rw [copied, if_pos leading] at member
  rcases List.mem_cons.mp member with rfl | inside
  · exact leading
  · exact List.mem_takeWhile_imp inside

variable {mark : Char} (digit : mark.isDigit = false) (point : mark ≠ '.') {first : Char}
  {rest : List Char} (none : markedLiteral? mark (first :: rest) = none)

include digit point none

/-- **No literal that the mark follows starts within what is copied**: the digits in front of it
would belong to it, and it would have been found. -/
theorem not_plain_of_copied {literal : Literal} {part behind after : List Char}
    (present : part ≠ []) (inside : part <:+ (copied first rest).1)
    (text : literal.text = part ++ behind)
    (left : (copied first rest).2 = behind ++ mark :: after) : ¬literal.Plain := by
  intro plain
  obtain ⟨more, run⟩ := inside
  have whole := copied_suffix first rest
  by_cases leading : first.isDigit = true
  · have digits : ∀ character ∈ more, character.isDigit = true := fun character member =>
      isDigit_of_mem_copied leading (run ▸ List.mem_append_left _ member)
    obtain ⟨longer, plainer, equal⟩ := plain_of_digits_append plain digits
    have found := markedLiteral?_text plainer digit point after
    rw [equal, text, ← List.append_assoc, run, List.append_assoc, ← left, whole, none] at found
    cases found
  · rw [copied, if_neg leading] at run
    obtain ⟨head, tail, start, opening⟩ := plain.text_eq_cons
    obtain ⟨character, others, rfl⟩ := List.exists_cons_of_ne_nil present
    rw [List.cons_append] at text
    obtain rfl := (List.cons.inj (start.symm.trans text)).1
    have member : head ∈ more ++ head :: others := by simp
    rw [run, List.mem_singleton] at member
    exact leading (member ▸ opening)

theorem unmarked_copied {behind after : List Char} (unmarked : Unmarked mark behind)
    (left : (copied first rest).2 = behind ++ after) :
    Unmarked mark ((copied first rest).1 ++ behind) := by
  refine List.isChain_append.mpr ⟨?_, unmarked, ?_⟩
  · by_cases leading : first.isDigit = true
    · refine unmarked_of_notMem fun member => ?_
      rw [isDigit_of_mem_copied leading member] at digit
      cases digit
    · rw [copied, if_neg leading]
      exact List.isChain_singleton _
  · rintro last ending next start inside rfl
    have present : (copied first rest).1 ≠ [] := by
      rintro none
      rw [none] at ending
      cases ending
    have leading : first.isDigit = true := by
      by_contra other
      rw [copied, if_neg other] at ending
      obtain rfl := Option.some.inj ending
      exact other inside
    obtain ⟨head, more, rfl⟩ := List.exists_cons_of_ne_nil (l := behind) (by rintro rfl; cases start)
    obtain rfl := Option.some.inj start
    have plain := Literal.plain_of_digits present fun _ => isDigit_of_mem_copied leading
    exact absurd plain
      (not_plain_of_copied digit point none present List.suffix_rfl (List.append_nil _).symm left)

theorem longest_copied {kept after : List Char} {operand : Literal} (longest : Longest kept operand)
    (left : (copied first rest).2 = kept ++ operand.text ++ mark :: after) :
    Longest ((copied first rest).1 ++ kept) operand := by
  intro longer plain suffix
  rw [List.append_assoc] at suffix
  rcases suffix_append_cases suffix with inside | ⟨part, present, inside, text⟩
  · exact longest longer plain inside
  · exact absurd plain (not_plain_of_copied digit point none present inside text left)

end Copied

section Search

/-- The pieces of a text with its operations. -/
def Operation.pieces (operation : Operation) : List Piece :=
  [.plain operation.kept, .marked operation.operand operation.furtherMarks]

/-- All pieces, the ending included. -/
def piecesOf (found : List Operation) (ending : List Char) : List Piece :=
  found.flatMap Operation.pieces ++ [.plain ending]

/-- **What is copied is kept in front of the next operation**, or in front of the ending. -/
theorem Marking.keep {mark : Char} (digit : mark.isDigit = false) (point : mark ≠ '.')
    {first : Char} {rest : List Char} (none : markedLiteral? mark (first :: rest) = none)
    {left ending : List Char} {found : List Operation} (marking : Marking mark left found ending)
    (remaining : (copied first rest).2 = left) :
    ∃ now last more others, Marking mark (first :: rest) now last ∧
      piecesOf found ending = .plain more :: others ∧
      piecesOf now last = .plain ((copied first rest).1 ++ more) :: others := by
  have whole := copied_suffix first rest
  cases marking with
  | ending unmarked =>
    refine ⟨[], (copied first rest).1 ++ left, left, [], ?_, rfl, rfl⟩
    rw [← whole, remaining]
    exact .ending
      (unmarked_copied digit point none unmarked (remaining.trans (List.append_nil _).symm))
  | @operation operation behind _ found attached others =>
    have shape : (copied first rest).2 = operation.kept ++ operation.operand.text ++
        mark :: (List.replicate operation.furtherMarks mark ++ behind) := by
      rw [remaining, Operation.text, markedText, List.replicate_succ]
      simp only [List.append_assoc, List.cons_append]
    let longer : Operation :=
      { operation with kept := (copied first rest).1 ++ operation.kept }
    have text : longer.text mark = (copied first rest).1 ++ operation.text mark :=
      List.append_assoc _ _ _
    have unmarked := unmarked_copied digit point none attached.unmarked shape
    rw [← List.append_assoc] at unmarked
    refine ⟨longer :: found, ending, operation.kept, _, ?_, rfl, rfl⟩
    rw [← whole, remaining, ← List.append_assoc, ← text]
    exact .operation ⟨attached.plain, unmarked,
      longest_copied digit point none attached.longest shape, attached.stops⟩ others

/-- **A marked literal is an operation** in front of which nothing is kept. -/
theorem attached_of_markedLiteral? {mark : Char} (digit : mark.isDigit = false) (point : mark ≠ '.')
    {input left : List Char} {operand : Literal}
    (found : markedLiteral? mark input = some (operand, left)) :
    Operation.Attached mark ⟨[], operand, (left.takeWhile (· = mark)).length⟩
        (left.dropWhile (· = mark)) ∧
      Operation.text mark ⟨[], operand, (left.takeWhile (· = mark)).length⟩ ++
        left.dropWhile (· = mark) = input := by
  have plain := plain_of_markedLiteral? found
  have row : List.replicate (left.takeWhile (· = mark)).length mark = left.takeWhile (· = mark) := by
    refine (List.eq_replicate_of_mem fun character member => ?_).symm
    have same := List.mem_takeWhile_imp member
    exact of_decide_eq_true same
  refine ⟨⟨plain, unmarked_of_notMem (mark_notMem_text plain digit point), fun _ _ inside => inside,
    Text.stops_dropWhile _ _⟩, ?_⟩
  rw [eq_of_markedLiteral? found, Operation.text_eq, List.replicate_succ, row, List.nil_append,
    List.append_assoc, List.cons_append, List.takeWhile_append_dropWhile]

/-- **The search finds the operations of a text**, and writes their pieces. The induction is on the
length of the text, of which each piece leaves a shorter one. -/
theorem exists_marking (mark : Mark) (text : List Char) :
    ∃ found ending, Marking mark.sign text found ending ∧
      mark.resolve text = mark.writeAll (piecesOf found ending) := by
  have digit := mark.sign_isDigit
  have point := mark.sign_ne_point
  cases text with
  | nil =>
    refine ⟨[], [], .ending .nil, ?_⟩
    rw [Mark.resolve_eq, pieces]
    cases mark <;> rfl
  | cons first rest =>
    cases outcome : markedLiteral? mark.sign (first :: rest) with
    | none =>
      have fewer : (copied first rest).2.length < (first :: rest).length :=
        Nat.lt_succ_of_le (length_copied_le first rest)
      obtain ⟨found, ending, marking, written⟩ := exists_marking mark (copied first rest).2
      obtain ⟨now, last, more, others, whole, before, behind⟩ :=
        marking.keep digit point outcome rfl
      refine ⟨now, last, whole, ?_⟩
      rw [Mark.resolve_eq, pieces_of_plain outcome, Mark.writeAll, ← Mark.resolve_eq, written,
        before, behind, Mark.writeAll, Mark.writeAll, ← joined_assoc, mark.write_plain,
        mark.write_plain, mark.write_plain]
      rfl
    | some result =>
      obtain ⟨operand, left⟩ := result
      have fewer : (left.dropWhile (· = mark.sign)).length < (first :: rest).length :=
        Nat.lt_of_le_of_lt (List.dropWhile_sublist _).length_le (length_markedLiteral?_lt outcome)
      obtain ⟨found, ending, marking, written⟩ :=
        exists_marking mark (left.dropWhile (· = mark.sign))
      obtain ⟨attached, whole⟩ := attached_of_markedLiteral? digit point outcome
      have longer := Marking.operation attached marking
      rw [whole] at longer
      refine ⟨_, ending, longer, ?_⟩
      rw [Mark.resolve_eq, pieces_of_marked outcome, Mark.writeAll, ← Mark.resolve_eq, written]
      show _ = mark.writeAll (.plain [] :: .marked operand _ :: piecesOf found ending)
      rw [Mark.writeAll, mark.write_plain, nil_joined]
      rfl
termination_by text.length
decreasing_by
  all_goals
    subst_vars
    exact fewer

end Search

section Whole

variable {mark : Char}

/-- **No literal goes on over a character** that stands in none. -/
theorem Longest.behind {last : Char} (digit : last.isDigit = false) (point : last ≠ '.')
    {front : List Char} {operand : Literal} (longest : Longest front operand)
    (before : List Char) : Longest (before ++ last :: front) operand := by
  intro longer plain suffix
  rw [List.append_cons, List.append_assoc] at suffix
  rcases suffix_append_cases suffix with inside | ⟨part, present, inside, text⟩
  · exact longest longer plain inside
  · obtain ⟨left, equal⟩ := inside
    have ending := congrArg List.getLast? equal
    rw [List.getLast?_append_of_ne_nil _ present, List.getLast?_concat] at ending
    refine absurd ?_ (mark_notMem_text plain digit point)
    rw [text]
    exact List.mem_append_left _ (List.mem_of_getLast? ending)

/-- **No literal goes on over an operation**, which ends with a mark. -/
theorem Longest.behind_operation (digit : mark.isDigit = false) (point : mark ≠ '.')
    {front : List Char} {operand : Literal} (longest : Longest front operand)
    (operation : Operation) : Longest (operation.text mark ++ front) operand := by
  rw [Operation.text_eq, List.replicate_succ', ← List.append_assoc, ← List.append_cons]
  exact longest.behind digit point _

/-- **A mark behind a digit** is the one of the operation, or stands in the text behind it. -/
theorem Operation.Attached.cut {operation : Operation} {rest front after : List Char} {last : Char}
    (attached : operation.Attached mark rest) (digit : mark.isDigit = false)
    (inside : last.isDigit = true)
    (equal : front ++ [last] ++ mark :: after = operation.text mark ++ rest) :
    front ++ [last] = operation.kept ++ operation.operand.text ∨
      ∃ between, rest = between ++ last :: mark :: after ∧
        front = operation.text mark ++ between := by
  rw [Operation.text_eq, List.append_assoc _ _ rest] at equal
  have unmarked := attached.unmarked
  rw [Operation.text_eq]
  generalize operation.kept ++ operation.operand.text = before at equal unmarked ⊢
  rcases List.append_eq_append_iff.mp equal with ⟨more, rfl, two⟩ | ⟨more, one, two⟩
  · -- the digit stands in front of the row of marks: it is the last one there
    left
    cases more with
    | nil => rw [List.append_nil]
    | cons next more =>
      obtain rfl := (List.cons.inj two).1
      rw [List.append_assoc, List.singleton_append] at unmarked
      exact absurd rfl ((List.isChain_append_cons_cons.mp unmarked).2.1 inside)
  · rcases List.eq_nil_or_concat more with rfl | ⟨row, final, rfl⟩
    · exact Or.inl (one.trans (List.append_nil _))
    · -- the digit stands behind the row of marks: no digit is one of them
      right
      rw [List.concat_eq_append, ← List.append_assoc] at one
      obtain ⟨rfl, rfl⟩ := List.append_singleton_inj.mp one
      rw [List.concat_eq_append, List.append_assoc, List.singleton_append] at two
      rcases List.append_eq_append_iff.mp two with ⟨between, rfl, rest⟩ | ⟨outside, marks, rest⟩
      · exact ⟨between, rest, (List.append_assoc _ _ _).symm⟩
      · cases outside with
        | nil =>
          rw [List.append_nil] at marks
          exact ⟨[], rest.symm, by rw [marks, List.append_nil]⟩
        | cons head outside =>
          obtain rfl := (List.cons.inj rest).1
          have member : last ∈ List.replicate (operation.furtherMarks + 1) mark := by
            rw [marks]
            simp
          rw [List.eq_of_mem_replicate member, digit] at inside
          cases inside

/-- **The operations of a text, from one to the next, are those of the whole text.** -/
theorem Marking.operations (digit : mark.isDigit = false) (point : mark ≠ '.')
    {text ending : List Char} {found : List Operation} (marking : Marking mark text found ending) :
    Operations mark text found ending := by
  induction marking with
  | @ending text unmarked =>
    refine ⟨rfl, fun _ _ _ equal => absurd equal (by simp), ?_⟩
    rintro front last rest rfl inside
    exact absurd rfl ((List.isChain_append_cons_cons.mp unmarked).2.1 inside)
  | @operation operation rest ending found attached others ih =>
    refine ⟨?_, ?_, ?_⟩
    · rw [List.flatMap_cons, List.append_assoc, ← ih.whole]
    · rintro (_ | ⟨first, earlier⟩) other later equal
      · obtain ⟨rfl, rfl⟩ := List.cons.inj equal
        exact ⟨attached.plain, attached.longest, ih.whole ▸ attached.stops⟩
      · obtain ⟨rfl, rfl⟩ := List.cons.inj equal
        obtain ⟨plain, longest, stops⟩ := ih.attached earlier other later rfl
        rw [List.flatMap_cons, List.append_assoc]
        exact ⟨plain, longest.behind_operation digit point operation, stops⟩
    · intro front last after equal inside
      rw [← List.singleton_append, ← List.append_assoc] at equal
      rcases attached.cut digit inside equal.symm with here | ⟨between, rfl, rfl⟩
      · exact ⟨[], operation, found, rfl, here⟩
      · obtain ⟨earlier, other, later, rfl, place⟩ := ih.complete between last after rfl inside
        refine ⟨operation :: earlier, other, later, rfl, ?_⟩
        rw [List.append_assoc, place, List.flatMap_cons, List.append_assoc]

end Whole

section First

variable {mark : Char} {text ending : List Char} {operation : Operation} {found : List Operation}
  (operations : Operations mark text (operation :: found) ending)

include operations

/-- The first operand ends with a digit, and the mark follows it. -/
theorem Operations.exists_digit : ∃ front digit rest, digit.isDigit = true ∧
    operation.kept ++ operation.operand.text = front ++ [digit] ∧
      text = front ++ digit :: mark :: rest := by
  obtain ⟨plain, -, -⟩ := operations.attached [] operation found rfl
  obtain ⟨front, digit, equal, inside⟩ := plain.text_eq_concat
  refine ⟨operation.kept ++ front, digit, List.replicate operation.furtherMarks mark ++
    (found.flatMap (Operation.text mark) ++ ending), inside, ?_, ?_⟩
  · rw [equal, List.append_assoc]
  · rw [operations.whole, List.flatMap_cons, Operation.text_eq, equal, List.replicate_succ]
    simp only [List.append_assoc, List.cons_append, List.nil_append]

/-- No mark stands behind a digit in front of the first operation. -/
theorem Operations.first_prefix {front rest : List Char} {digit : Char}
    (equal : text = front ++ digit :: mark :: rest) (inside : digit.isDigit = true) :
    operation.kept ++ operation.operand.text <+: front ++ [digit] := by
  obtain ⟨_ | ⟨first, earlier⟩, other, later, same, place⟩ :=
    operations.complete front digit rest equal inside
  · obtain ⟨rfl, -⟩ := List.cons.inj same
    rw [place]
    exact List.prefix_rfl
  · obtain ⟨rfl, -⟩ := List.cons.inj same
    rw [place, List.flatMap_cons, Operation.text_eq, List.append_assoc, List.append_assoc]
    exact List.prefix_append _ _

/-- The other operations are those of the text behind the first one. -/
theorem Operations.tail :
    Operations mark (found.flatMap (Operation.text mark) ++ ending) found ending := by
  refine ⟨rfl, ?_, ?_⟩
  · rintro earlier other later rfl
    obtain ⟨plain, longest, stops⟩ := operations.attached (operation :: earlier) other later rfl
    refine ⟨plain, fun longer plainer suffix => longest longer plainer ?_, stops⟩
    rw [List.flatMap_cons, List.append_assoc, List.append_assoc]
    rw [List.append_assoc] at suffix
    exact List.suffix_append_of_suffix suffix
  · intro front digit rest equal inside
    have whole : text = operation.text mark ++ front ++ digit :: mark :: rest := by
      rw [operations.whole, List.flatMap_cons, List.append_assoc, equal, List.append_assoc]
    obtain ⟨_ | ⟨first, earlier⟩, other, later, same, place⟩ :=
      operations.complete _ digit rest whole inside
    · obtain ⟨rfl, -⟩ := List.cons.inj same
      have length := congrArg List.length place
      simp only [Operation.text_eq, List.length_append, List.length_replicate,
        List.flatMap_nil, List.length_nil] at length
      omega
    · obtain ⟨rfl, rfl⟩ := List.cons.inj same
      refine ⟨earlier, other, later, rfl, ?_⟩
      rw [List.flatMap_cons, List.append_assoc, List.append_assoc] at place
      exact List.append_cancel_left place

end First

section Unique

variable {mark : Char}

/-- A row of marks ends in front of a text that does not start with one. -/
theorem row_inj {count count' : Nat} {rest rest' : List Char} (stops : Stops (· = mark) rest)
    (stops' : Stops (· = mark) rest')
    (same : List.replicate count mark ++ rest = List.replicate count' mark ++ rest') :
    count = count' ∧ rest = rest' := by
  have row (count : Nat) : (List.replicate count mark).takeWhile (· = mark) =
      List.replicate count mark :=
    List.takeWhile_eq_self_iff.mpr fun _ member => decide_eq_true (List.eq_of_mem_replicate member)
  have taken := congrArg (List.takeWhile (· = mark)) same
  rw [Text.takeWhile_append _ stops, Text.takeWhile_append _ stops', row, row] at taken
  have length := congrArg List.length taken
  rw [List.length_replicate, List.length_replicate] at length
  subst length
  exact ⟨rfl, List.append_cancel_left same⟩

variable {text ending ending' : List Char} {found found' : List Operation}

/-- The first operation of a text, and the text behind it. -/
theorem Operations.first_inj {operation other : Operation}
    (operations : Operations mark text (operation :: found) ending)
    (operations' : Operations mark text (other :: found') ending') :
    operation = other ∧ found.flatMap (Operation.text mark) ++ ending =
      found'.flatMap (Operation.text mark) ++ ending' := by
  obtain ⟨front, digit, rest, inside, one, equal⟩ := operations.exists_digit
  obtain ⟨front', digit', rest', inside', two, equal'⟩ := operations'.exists_digit
  obtain ⟨plain, longest, stops⟩ := operations.attached [] operation found rfl
  obtain ⟨plain', longest', stops'⟩ := operations'.attached [] other found' rfl
  have backward := one ▸ operations'.first_prefix equal inside
  have forward := two ▸ operations.first_prefix equal' inside'
  have fronts := forward.eq_of_length (le_antisymm forward.length_le backward.length_le)
  have suffix : other.operand.text <:+ operation.operand.text :=
    longest _ plain' (fronts ▸ List.suffix_append _ _)
  have suffix' : operation.operand.text <:+ other.operand.text :=
    longest' _ plain (fronts ▸ List.suffix_append _ _)
  have operands := plain.text_inj plain'
    (suffix'.eq_of_length (le_antisymm suffix'.length_le suffix.length_le))
  have whole := operations.whole.symm.trans operations'.whole
  rw [List.flatMap_cons, List.flatMap_cons, Operation.text_eq, Operation.text_eq, fronts] at whole
  simp only [List.append_assoc] at whole
  obtain ⟨row, behind⟩ := row_inj stops stops'
    (List.append_cancel_left (List.append_cancel_left whole))
  rw [operands] at fronts
  refine ⟨?_, behind⟩
  cases operation
  cases other
  simp only [Operation.mk.injEq]
  exact ⟨List.append_cancel_right fronts, operands, Nat.succ.inj row⟩

/-- **The operations of a text are told in one way only.** -/
theorem Operations.unique (operations : Operations mark text found ending)
    (operations' : Operations mark text found' ending') : found = found' ∧ ending = ending' := by
  induction found generalizing text found' with
  | nil =>
    cases found' with
    | nil => exact ⟨rfl, operations.whole.symm.trans operations'.whole⟩
    | cons other found' =>
      obtain ⟨front, digit, rest, inside, -, equal⟩ := operations'.exists_digit
      obtain ⟨earlier, _, _, same, -⟩ := operations.complete front digit rest equal inside
      exact absurd same (by simp)
  | cons operation found ih =>
    cases found' with
    | nil =>
      obtain ⟨front, digit, rest, inside, -, equal⟩ := operations.exists_digit
      obtain ⟨earlier, _, _, same, -⟩ := operations'.complete front digit rest equal inside
      exact absurd same (by simp)
    | cons other found' =>
      obtain ⟨rfl, behind⟩ := operations.first_inj operations'
      obtain ⟨rfl, rfl⟩ := ih operations.tail (behind ▸ operations'.tail)
      exact ⟨rfl, rfl⟩

end Unique

end ScientificCalculator.Canonical
