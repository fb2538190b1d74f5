/-
**Rounding a quotient to an integer.**

* `halfEven`: the integer nearest to a quotient, a half going to the even neighbour.
* `halfEven_eq_or`: it is one of the two integers around the quotient.
* `halfEven_of_dvd`: an exact quotient is kept.
-/

namespace ScientificCalculator.Rounding

/-- The integer nearest to `numerator / denominator`; a half goes to the even neighbour. -/
def halfEven (numerator denominator : Nat) : Nat :=
  let quotient := numerator / denominator
  let twice := 2 * (numerator % denominator)
  if denominator < twice ∨ denominator = twice ∧ quotient % 2 = 1 then quotient + 1 else quotient

/-- The rounded quotient is the quotient or its successor. -/
theorem halfEven_eq_or (numerator denominator : Nat) :
    halfEven numerator denominator = numerator / denominator ∨
      halfEven numerator denominator = numerator / denominator + 1 := by
  simp only [halfEven]
  split
  · exact Or.inr rfl
  · exact Or.inl rfl

/-- A quotient without remainder is not changed. -/
theorem halfEven_of_dvd {numerator denominator : Nat} (positive : 0 < denominator)
    (divides : denominator ∣ numerator) :
    halfEven numerator denominator = numerator / denominator := by
  have exact : numerator % denominator = 0 := Nat.mod_eq_zero_of_dvd divides
  simp only [halfEven, exact]
  rw [if_neg (by omega)]

end ScientificCalculator.Rounding
