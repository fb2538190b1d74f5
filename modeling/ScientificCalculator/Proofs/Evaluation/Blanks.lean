/-
**Blanks separate, and do nothing else.**

The passes on texts treat what stands on both sides of a gap of blanks apart. At either end of a
text a gap makes no difference: the same tokens are read or the same fault is found.

* `front_leading`, `front_trailing`: a gap in front of a text and behind it.
* `value_eq_of_front`: the value of a text is that of its tokens.
* `front_gap`: blanks in the middle and at the ends.
-/

import ScientificCalculator.Proofs.Canonical.Settled
import ScientificCalculator.Proofs.Evaluation.Composition

namespace ScientificCalculator.Evaluation

open Canonical (ofTyped resolveFactorials resolvePercents)

section Gap

variable {gap : List Char} (blank : isBlank gap = true)

include blank

theorem spells_gap : Token.Spells gap [] := by
  induction gap with
  | nil => exact .nil
  | cons first rest ih =>
    obtain ⟨leading, others⟩ := List.forall_mem_cons.mp (isBlank_iff.mp blank)
    exact .blank leading (ih (isBlank_iff.mpr others))

/-- **A gap in front of a text.** -/
theorem front_leading (text : List Char) : front (gap ++ text) = front text := by
  induction gap with
  | nil => rfl
  | cons first rest ih =>
    obtain ⟨leading, others⟩ := List.forall_mem_cons.mp (isBlank_iff.mp blank)
    rw [List.cons_append, front_blank leading, ih (isBlank_iff.mpr others)]

/-- **A gap behind a text.** -/
theorem front_trailing (text : List Char) : front (text ++ gap) = front text := by
  cases gap with
  | nil => rw [List.append_nil]
  | cons first rest =>
    have boundary := Text.isBoundary_of_isBlank (isBlank_iff.mp blank first List.mem_cons_self)
    have spells := spells_gap blank
    have typed : ofTyped (first :: rest) = first :: rest :=
      Canonical.ofTypedAfter_of_spells spells none
    have factorials : resolveFactorials (first :: rest) = .ok (first :: rest) :=
      Canonical.resolve_of_spells spells .factorial
    have percents : resolvePercents (first :: rest) = first :: rest :=
      Except.ok.inj (Canonical.resolve_of_spells spells .percent)
    have none := Token.tokenize_eq_ok_iff.mpr spells
    show canonicalText (text ++ first :: rest) >>= tokens = canonicalText text >>= tokens
    rw [canonicalText, canonicalText, Canonical.ofTyped_append _ (apart_of_isBoundary boundary _),
      typed, Canonical.resolveFactorials_append (seam_of_isBoundary boundary _ (by decide) _),
      factorials]
    cases resolveFactorials (ofTyped text) with
    | error fault => rfl
    | ok resolved =>
      show tokens (resolvePercents (resolved ++ first :: rest)) = tokens (resolvePercents resolved)
      rw [Canonical.resolvePercents_append (seam_of_isBoundary boundary _ (by decide) _), percents,
        tokens, Token.tokenize_append _ (separate_of_isBoundary boundary _), none, joined_nil,
        tokens]

end Gap

section Values

/-- **The value of a text is that of its tokens**, and so are its faults. -/
theorem value_eq_of_front {first second : List Char} (same : front first = front second)
    (mode : AngleMode) :
    (ofExpression first mode).map value = (ofExpression second mode).map value := by
  have reads (text : List Char) : (ofExpression text mode).map value =
      front text >>= fun written => postfixOrder written >>= fun rpn =>
        (Rpn.toExpr rpn).map (Expr.eval mode) := by
    simp only [ofExpression, front, bind, Except.bind]
    cases canonicalText text with
    | error fault => rfl
    | ok canonical =>
      dsimp only
      cases tokens canonical with
      | error fault => rfl
      | ok written =>
        dsimp only
        cases postfixOrder written with
        | error fault => rfl
        | ok rpn =>
          dsimp only
          cases Rpn.toExpr rpn <;> rfl
  rw [reads, reads, same]

/-- Texts with the same tokens have the same outcome when both are blank or none is. -/
theorem outcome_eq_of_front {first second : List Char} (same : front first = front second)
    (blanks : isBlank first = isBlank second) (mode : AngleMode) :
    (evaluate (String.ofList first) mode).map (Option.map value) =
      (evaluate (String.ofList second) mode).map (Option.map value) := by
  have inside (found : Except Fault Evaluation) :
      (found.map some).map (Option.map value) = (found.map value).map some := by
    cases found <;> rfl
  rw [evaluate, evaluate, String.toList_ofList, String.toList_ofList, blanks]
  split
  · rfl
  · rw [inside, inside, value_eq_of_front same]

/-- **Blanks separate.** A text with a gap in the middle has tokens exactly when both parts have,
and they are those of the first part and then those of the second. A gap at either end of a text
leaves its outcome as it is: no value, the value, or the fault. -/
theorem front_gap {gap : List Char} (blank : isBlank gap = true) (present : gap ≠ []) :
    (∀ first second written, front (first ++ gap ++ second) = .ok written ↔
      ∃ before after, front first = .ok before ∧ front second = .ok after ∧
        written = before ++ after) ∧
    ∀ text mode,
      (evaluate (String.ofList (gap ++ text)) mode).map (Option.map value) =
        (evaluate (String.ofList text) mode).map (Option.map value) ∧
      (evaluate (String.ofList (text ++ gap)) mode).map (Option.map value) =
        (evaluate (String.ofList text) mode).map (Option.map value) := by
  refine ⟨fun first second written => ?_, fun text mode => ⟨?_, ?_⟩⟩
  · obtain ⟨leading, others, rfl⟩ := List.exists_cons_of_ne_nil present
    have boundary := Text.isBoundary_of_isBlank (isBlank_iff.mp blank leading List.mem_cons_self)
    rw [List.append_assoc, List.cons_append, front_append boundary, ← List.cons_append,
      front_leading blank]
  · refine outcome_eq_of_front (front_leading blank text) ?_ mode
    rw [isBlank, List.all_append, ← isBlank, blank, Bool.true_and, isBlank]
  · refine outcome_eq_of_front (front_trailing blank text) ?_ mode
    rw [isBlank, List.all_append, ← isBlank, ← isBlank, blank, Bool.and_true]

/-- A factorial and the number behind a gap are two values. -/
theorem front_gap_factorial :
    isBlank ['\u00a0', ' '] = true ∧ ['\u00a0', ' '] ≠ [] ∧
      front ("5!".toList ++ ['\u00a0', ' '] ++ "2".toList) =
        .ok [.num (Binary64.nearest 120 1), .num (Binary64.nearest 2 1)] ∧
      (evaluate (String.ofList (['\u00a0', ' '] ++ "5!".toList)) .radians).map (Option.map value) =
        .ok (some (Binary64.nearest 120 1)) := by
  have blank : isBlank ['\u00a0', ' '] = true := by decide
  have present : ['\u00a0', ' '] ≠ [] := by decide
  obtain ⟨parts, outcomes⟩ := front_gap blank present
  refine ⟨blank, present, (parts _ _ _).mpr ?_, (outcomes _ .radians).1.trans (by decide +kernel)⟩
  exact ⟨[.num (Binary64.nearest 120 1)], [.num (Binary64.nearest 2 1)], by decide +kernel,
    by decide +kernel, rfl⟩

end Values

end ScientificCalculator.Evaluation
