/-
**The history of results.**

The last ten results with the expressions they came from, the newest first.

* `Entry`: an expression and the result shown for it.
* `History`: at most ten entries.
* `History.record`: a new entry at the head; the oldest one goes when there is no room.
-/

namespace ScientificCalculator

/-- An expression as it was typed, and the result shown for it. -/
structure Entry where
  expression : String
  result : String
  deriving DecidableEq

/-- The entries, the newest first; there are never more than ten. -/
structure History where
  entries : List Entry
  length_le : entries.length ≤ 10

namespace History

/-- How many entries are kept. -/
def capacity : Nat := 10

/-- The first entries of a list, as many as are kept. -/
def ofEntries (entries : List Entry) : History :=
  ⟨entries.take capacity, by rw [List.length_take]; exact Nat.min_le_left _ _⟩

/-- No entries. -/
def empty : History := ⟨[], by decide⟩

/-- A new entry at the head. -/
def record (history : History) (entry : Entry) : History :=
  ofEntries (entry :: history.entries)

/-- The entry at a position, counted from the newest. -/
def get? (history : History) (index : Nat) : Option Entry :=
  history.entries[index]?

/-- How many entries there are. -/
def size (history : History) : Nat :=
  history.entries.length

/-- There are no entries. -/
def isEmpty (history : History) : Bool :=
  history.entries.isEmpty

/-- Histories with the same entries are the same. -/
theorem ext {first second : History} (equal : first.entries = second.entries) : first = second := by
  cases first
  cases second
  cases equal
  rfl

end History

end ScientificCalculator
