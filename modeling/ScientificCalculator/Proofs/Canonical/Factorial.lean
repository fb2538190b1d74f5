/-
**Factorials are rounded once.**

A literal with a factorial mark is refused where the mark is applied to no integer. Else the
factorial is computed exactly and written with digits that read as the double nearest to it. The
factorials that are not computed exceed every double, and what is written for them reads as
infinity.

* `factorial_eq`: the product is the factorial.
* `overflowBound_le_factorial_iff`: the factorials that are rounded to infinity.
* `factorialText_eq`: the text written for a factorial, whatever its size.
* `tokenize_factorial`: the number read for it is the double nearest to the factorial.
* `tokenize_factorial_long`: a literal so long that its point is lost.
-/

import ScientificCalculator.Proofs.Canonical.OperandValue

namespace ScientificCalculator.Canonical

open Binary64 (IsNearest infinity nearest overflowBound)
open Token (tokenize)

section Products

theorem factorial_eq (number : Nat) : factorial number = number.factorial := by
  induction number with
  | zero => rfl
  | succ number ih => rw [factorial, ih, Nat.factorial_succ]

/-- **The factorials that are rounded to infinity** are those of the numbers above `170`. -/
theorem overflowBound_le_factorial_iff (number : Nat) :
    overflowBound ≤ (number.factorial : ℚ) ↔ largestFactorial < number := by
  have whole {low high : Nat} (le : low ≤ high) :
      (2 : ℚ) ^ high - 2 ^ low = ((2 ^ high - 2 ^ low : ℕ) : ℚ) := by
    rw [Nat.cast_sub (Nat.pow_le_pow_right two_pos le), Nat.cast_pow, Nat.cast_pow, Nat.cast_ofNat]
  have next : 2 ^ 1024 - 2 ^ 970 ≤ (largestFactorial + 1).factorial := by decide +kernel
  have last : largestFactorial.factorial < 2 ^ 1024 - 2 ^ 970 := by decide +kernel
  rw [overflowBound, whole (by decide), Nat.cast_le]
  constructor
  · intro above
    by_contra small
    exact absurd (Nat.factorial_le (not_lt.mp small)) (not_le.mpr (last.trans_le above))
  · exact fun large => next.trans (Nat.factorial_le large)

/-- **The text written for a factorial** is that of the double nearest to it, also where the
factorial is not computed. -/
theorem factorialText_eq (number : Nat) :
    factorialText number = literalText (nearest number.factorial 1) := by
  rw [factorialText, factorial_eq]
  split
  · rfl
  · rename_i large
    have beyond := (overflowBound_le_factorial_iff number).mpr (not_le.mp large)
    have one : (number.factorial / (1 : ℕ) : ℚ) = number.factorial := by rw [Nat.cast_one, div_one]
    have infinite := mt (Binary64.isFinite_nearest_iff number.factorial Nat.one_pos).mp
      (by rw [one]; exact not_lt.mpr beyond)
    rw [literalText, if_neg infinite]

/-- The double written for a factorial is the one nearest to it. -/
theorem isNearest_factorial (number : ℕ) :
    IsNearest number.factorial (nearest number.factorial 1) := by
  have rounded := Binary64.isNearest_nearest number.factorial Nat.one_pos
  rwa [Nat.cast_one, div_one] at rounded

end Products

section Literals

variable {literal : Literal}

theorem resolveFactorials_text (plain : literal.Plain) :
    resolveFactorials (literal.text ++ ['!']) =
      if literal.numerator % operandDenominator literal = 0 then
        .ok (factorialText (literal.numerator / operandDenominator literal))
      else .error (.factorial literal.text) := by
  have digit : '!'.isDigit = false := by decide
  have found := markedLiteral?_text plain digit (by decide) []
  rw [resolveFactorials, pieces_of_marked found]
  simp only [pieces, List.takeWhile_nil, List.dropWhile_nil, List.length_nil, List.mapM_cons,
    List.mapM_nil, resolveFactorial]
  split
  · simp [bind, Except.bind, pure, Except.pure, Except.map]
  · rfl

/-- **With `2 ^ 32` places** the factorial is that of the number of the digits. -/
theorem resolveFactorials_behindZeros {zeros : ℕ} {digits : List Char}
    (all : ∀ digit ∈ digits, digit.isDigit = true) (long : zeros + digits.length = 2 ^ 32) :
    resolveFactorials ((behindZeros zeros digits).text ++ ['!']) =
      .ok (factorialText (Nat.ofDigitChars 10 digits 0)) := by
  rw [resolveFactorials_text (plain_behindZeros all), operandDenominator_behindZeros long,
    numerator_behindZeros, Nat.mod_one, if_pos rfl, Nat.div_one]

/-- So a one in the last of these places has the factorial of one. -/
theorem resolveFactorials_one_behindZeros :
    resolveFactorials ((behindZeros (2 ^ 32 - 1) ['1']).text ++ ['!']) = .ok ['1'] := by
  have all : ∀ digit ∈ ['1'], digit.isDigit = true := List.forall_mem_singleton.mpr (by decide)
  have long : 2 ^ 32 - 1 + ['1'].length = 2 ^ 32 := Nat.sub_add_cancel (Nat.two_pow_pos 32)
  have one : factorialText (Nat.ofDigitChars 10 ['1'] 0) = ['1'] := by decide +kernel
  rw [resolveFactorials_behindZeros all long, one]

end Literals

section Rounding

variable {literal : Literal}

/-- **A factorial is rounded once.** A literal with a factorial mark is refused, with the literal as
the cause, exactly where the mark is applied to no integer. Else it is resolved to the text of one
number, the double nearest to the exact factorial, ties to even, which is infinite from the middle
between the largest double and the next power of two on. Below `2 ^ 32` places the mark is applied
to what the literal stands for. -/
theorem tokenize_factorial (plain : literal.Plain) :
    (literal.fraction.length < 2 ^ 32 → operandValue literal = literal.toRat) ∧
    (∀ fault, resolveFactorials (literal.text ++ ['!']) = .error fault ↔
      fault = .factorial literal.text ∧ ¬∃ integer : ℤ, operandValue literal = integer) ∧
    ∀ number : ℕ, operandValue literal = number →
      ∃ text value, resolveFactorials (literal.text ++ ['!']) = .ok text ∧
        tokenize text = .ok [.num value] ∧
        (∀ other, IsNearest number.factorial other ↔ other = value) ∧
        (value = infinity ↔ overflowBound ≤ number.factorial) ∧
        (value = infinity ↔ largestFactorial < number) := by
  rw [resolveFactorials_text plain]
  refine ⟨operandValue_of_lt, fun fault => ?_, fun number equal => ?_⟩
  · rw [← operandValue_eq_int_iff]
    split
    · rename_i integer
      exact iff_of_false nofun fun refused => refused.2 integer
    · rename_i broken
      exact ⟨fun refused => ⟨(Except.error.inj refused).symm, broken⟩,
        fun refused => congrArg _ refused.1.symm⟩
  · obtain ⟨whole, quotient⟩ := div_operandDenominator_eq equal
    have rounded := isNearest_factorial number
    have infinite : nearest number.factorial 1 = infinity ↔ overflowBound ≤ number.factorial :=
      rounded.eq_infinity_iff
    rw [if_pos whole, quotient, factorialText_eq]
    exact ⟨_, nearest number.factorial 1, rfl, tokenize_literalText _ _,
      fun _ => rounded.iff_eq, infinite, infinite.trans (overflowBound_le_factorial_iff number)⟩

/-- The factorial of five is read for a five with a decimal. -/
theorem tokenize_factorial_five :
    Literal.Plain ⟨['0', '5'], ['0']⟩ ∧ Literal.toRat ⟨['0', '5'], ['0']⟩ = (5 : ℕ) ∧
      ∃ text value, resolveFactorials "05.0!".toList = .ok text ∧
        tokenize text = .ok [.num value] ∧
        ∀ other, IsNearest 120 other ↔ other = value := by
  have plain : Literal.Plain ⟨['0', '5'], ['0']⟩ :=
    ⟨List.cons_ne_nil _ _, by simp, by simp⟩
  have exact : Literal.toRat ⟨['0', '5'], ['0']⟩ = (5 : ℕ) := by
    have numerator : Literal.numerator ⟨['0', '5'], ['0']⟩ = 50 := by decide
    have denominator : Literal.denominator ⟨['0', '5'], ['0']⟩ = 10 := by decide
    rw [Literal.toRat, numerator, denominator]
    norm_num
  obtain ⟨same, -, accepted⟩ := tokenize_factorial plain
  obtain ⟨text, value, resolved, read, unique, -⟩ := accepted 5 ((same (by decide)).trans exact)
  exact ⟨plain, exact, text, value, resolved, read, unique⟩

/-- A literal with `2 ^ 32` places is no integer, and has the factorial of one. -/
theorem tokenize_factorial_long :
    let literal := behindZeros (2 ^ 32 - 1) ['1']
    literal.Plain ∧ (¬∃ integer : ℤ, literal.toRat = integer) ∧
      resolveFactorials (literal.text ++ ['!']) = .ok ['1'] := by
  intro literal
  have all : ∀ digit ∈ ['1'], digit.isDigit = true := List.forall_mem_singleton.mpr (by decide)
  have some : ∃ digit ∈ ['1'], digit ≠ '0' := ⟨'1', List.mem_singleton.mpr rfl, by decide⟩
  exact ⟨plain_behindZeros all, toRat_behindZeros_ne_int all some,
    resolveFactorials_one_behindZeros⟩

end Rounding

end ScientificCalculator.Canonical
