/-
**Results of passes, one after the other.**

A pass that treats two parts of its input apart gives the results of the parts in a row, or the
first refusal.

* `joined`: the results of two parts.
* `joined_assoc`, `joined_nil`, `nil_joined`: parts may be grouped at will.
* `joined_eq_ok_iff`: nothing is refused when neither part is.
-/

namespace ScientificCalculator

section Joined

variable {α ε : Type}

/-- The results of two parts in a row, or the first refusal. -/
def joined (first second : Except ε (List α)) : Except ε (List α) :=
  match first with
  | .error cause => .error cause
  | .ok before => second.map (before ++ ·)

@[simp] theorem joined_ok (before : List α) (second : Except ε (List α)) :
    joined (.ok before) second = second.map (before ++ ·) := rfl

@[simp] theorem joined_error (cause : ε) (second : Except ε (List α)) :
    joined (.error cause) second = .error cause := rfl

theorem map_append_map (before middle : List α) (last : Except ε (List α)) :
    (last.map (middle ++ ·)).map (before ++ ·) = last.map (before ++ middle ++ ·) := by
  cases last with
  | error cause => rfl
  | ok after => simp only [Except.map, List.append_assoc]

theorem map_nil_append (last : Except ε (List α)) : last.map ([] ++ ·) = last := by
  cases last <;> rfl

theorem map_eq_ok_iff {β : Type} {change : α → β} {first : Except ε α} {whole : β} :
    first.map change = .ok whole ↔ ∃ value, first = .ok value ∧ change value = whole := by
  cases first with
  | error cause => simp [Except.map]
  | ok value => simp [Except.map]

theorem mapError_eq_ok_iff {δ : Type} {change : ε → δ} {first : Except ε α} {value : α} :
    first.mapError change = .ok value ↔ first = .ok value := by
  cases first with
  | error cause =>
    show Except.error (change cause) = .ok value ↔ Except.error cause = .ok value
    exact iff_of_false nofun nofun
  | ok found =>
    show Except.ok found = .ok value ↔ Except.ok found = .ok value
    rw [Except.ok.injEq, Except.ok.injEq]

theorem bind_eq_ok_iff {β : Type} {first : Except ε α} {next : α → Except ε β} {value : β} :
    first >>= next = .ok value ↔ ∃ middle, first = .ok middle ∧ next middle = .ok value := by
  cases first with
  | error cause => simp [bind, Except.bind]
  | ok middle => simp [bind, Except.bind]

theorem nil_joined (second : Except ε (List α)) : joined (.ok []) second = second :=
  map_nil_append second

theorem joined_nil (first : Except ε (List α)) : joined first (.ok []) = first := by
  cases first with
  | error cause => rfl
  | ok before => simp [Except.map]

theorem joined_map_cons (first : α) (second third : Except ε (List α)) :
    joined (second.map (first :: ·)) third = (joined second third).map (first :: ·) := by
  cases second with
  | error cause => rfl
  | ok before => cases third <;> rfl

theorem joined_assoc (first second third : Except ε (List α)) :
    joined (joined first second) third = joined first (joined second third) := by
  cases first with
  | error cause => rfl
  | ok before =>
    cases second with
    | error cause => rfl
    | ok middle => exact (map_append_map before middle third).symm

/-- **Both parts are accepted when the whole is.** -/
theorem joined_eq_ok_iff {first second : Except ε (List α)} {whole : List α} :
    joined first second = .ok whole ↔
      ∃ before after, first = .ok before ∧ second = .ok after ∧ whole = before ++ after := by
  cases first with
  | error cause => simp
  | ok before =>
    cases second with
    | error cause => simp [Except.map]
    | ok after => simp [Except.map, eq_comm]

end Joined

end ScientificCalculator
