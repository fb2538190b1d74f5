/-
**Texts of tokens are canonical already.**

The passes on texts rewrite constants, typed names and powers and resolve marks. None of these is
left in a text that spells tokens: its only words are canonical names, which are kept, and all its
other characters are copied. The text need not come out of the passes.

* `kept_of_spells`: nothing is left to rewrite in a text of tokens.
* `ofTypedAfter_of_spells`: a text of tokens is written as it is.
* `resolve_of_spells`: no mark is resolved in it.
-/

import ScientificCalculator.Proofs.Canonical.Kept
import ScientificCalculator.Proofs.Canonical.Operand
import ScientificCalculator.Proofs.Token.Lexeme

namespace ScientificCalculator.Canonical

open Token (Spells)

section Settled

variable {text : List Char} {written : List Token}

theorem isCopied_of_isBlank {character : Char} (blank : Text.isBlank character = true) :
    isCopied character = true := by
  have boundary := Text.isBoundary_of_isBlank blank
  have free := Text.not_sticks_of_isBoundary boundary
  have power : character ≠ '^' := Text.ne_of_isBoundary boundary (by decide)
  have root : character ≠ '√' := Text.ne_of_isBoundary boundary (by decide)
  simp [isCopied, Text.isAlpha_of_not_sticks free, ne_pi_of_not_sticks free, power, root]

/-- Nothing is left to rewrite in a lexeme, be it a name or a run of characters that are copied. -/
theorem kept_lexeme {characters rest : List Char} {token : Token}
    (lexeme : Token.Lexeme characters token rest) (others : Kept rest) :
    Kept (characters ++ rest) := by
  cases lexeme with
  | @symbol sign _ _ made _ =>
    have copied : isCopied sign = true := by
      unfold Token.ofSymbol? at made
      split at made <;> first | decide | cases made
    exact others.run (List.forall_mem_singleton.mpr copied)
  | power => exact others.run (List.all_eq_true.mp rfl)
  | number all _ _ =>
    refine others.run fun character member => isCopied_of_number ?_
    simpa [Token.startsNumber] using all character member
  | word found ends =>
    refine .name found (fun character member => ?_) others
    have none := ends character member
    rw [Token.isWordPart, Bool.or_eq_false_iff, Char.isAlphanum, Bool.or_eq_false_iff] at none
    exact none.1.1

/-- **Nothing is left to rewrite in a text of tokens.** -/
theorem kept_of_spells (spells : Spells text written) : Kept text := by
  induction spells with
  | nil => exact .nil
  | blank blank _ ih => exact .copied (isCopied_of_isBlank blank) ih
  | lexeme lexeme _ ih => exact kept_lexeme lexeme ih

/-- **A text of tokens is written as it is**, whatever stands before it. -/
theorem ofTypedAfter_of_spells (spells : Spells text written) (before : Option Char) :
    ofTypedAfter before text = text :=
  ofTypedAfter_of_kept (kept_of_spells spells) before

/-- **No mark is resolved in a text of tokens.** -/
theorem resolve_of_spells (spells : Spells text written) (mark : Mark) :
    mark.resolve text = .ok text :=
  resolve_of_notMem mark (spells.sign_notMem mark)

end Settled

end ScientificCalculator.Canonical
