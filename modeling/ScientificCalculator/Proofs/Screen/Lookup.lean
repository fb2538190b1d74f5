/-
**What a label on the screen stands for.**

A click is given by a text, and the first such text on the screen is clicked. The keys come first
and have labels of their own. A line of the history has a space in it, which no key and no header
has, and its result has none, so the line shows where its result starts: lines with the same text
are those of equal entries.

* `History.Displayed`, `Calculator.act_displayed`: results are numbers as they are displayed.
* `Screen.line_inj`: a line is that of one entry.
* `Screen.find?_key`, `Screen.find?_line`, `Screen.find?_clear`: the first text of a label.
* `Screen.mem_items_cases`: what the texts on the screen are.
-/

import Mathlib.Data.List.Basic
import ScientificCalculator.Calculator.Screen
import ScientificCalculator.Proofs.Display.Characters
import ScientificCalculator.Proofs.Session.Run

namespace ScientificCalculator

section Results

/-- The results of the entries are numbers as they are displayed. -/
def History.Displayed (history : History) : Prop :=
  ∀ entry ∈ history.entries, ∃ number, entry.result = String.ofList (Display.text number)

theorem History.displayed_empty : History.empty.Displayed :=
  fun _ member => absurd member List.not_mem_nil

theorem History.Displayed.space_notMem {history : History} (displayed : history.Displayed)
    {entry : Entry} (member : entry ∈ history.entries) : ' ' ∉ entry.result.toList := by
  obtain ⟨number, result⟩ := displayed entry member
  rw [result, String.toList_ofList]
  exact Display.notMem_text rfl (by decide) number

/-- **Only displayed numbers come into the history.** -/
theorem Calculator.act_displayed {calculator : Calculator} (displayed : calculator.history.Displayed)
    (action : Action) : (calculator.act action).calculator.history.Displayed := by
  rcases calculator.act_cases action with ⟨added, recorded, history, -⟩ | ⟨-, history, -⟩ |
    ⟨-, -, history, -⟩
  · obtain ⟨-, evaluation, -, rfl⟩ := recorded?_eq_some_iff.mp recorded
    intro entry member
    rw [history] at member
    rcases List.mem_cons.mp (List.mem_of_mem_take member) with rfl | old
    · exact ⟨evaluation.value, rfl⟩
    · exact displayed entry old
  · rw [history]
    exact History.displayed_empty
  · rwa [history]

end Results

namespace Screen

section Lines

variable {one other : Entry}

/-- The last space of a text is in one place. -/
theorem append_space_inj {front front' last last' : List Char} (solid : ' ' ∉ last)
    (solid' : ' ' ∉ last') (equal : front ++ ' ' :: last = front' ++ ' ' :: last') :
    front = front' ∧ last = last' := by
  rcases List.append_eq_append_iff.mp equal with ⟨between, rfl, rest⟩ | ⟨between, rfl, rest⟩
  · cases between with
    | nil => exact ⟨(List.append_nil _).symm, (List.cons.inj rest).2⟩
    | cons first between =>
      rw [(List.cons.inj rest).2] at solid
      exact absurd (List.mem_append_right _ List.mem_cons_self) solid
  · cases between with
    | nil => exact ⟨List.append_nil _, (List.cons.inj rest).2.symm⟩
    | cons first between =>
      rw [(List.cons.inj rest).2] at solid'
      exact absurd (List.mem_append_right _ List.mem_cons_self) solid'

theorem toList_line (entry : Entry) :
    (line entry).toList =
      entry.expression.toList ++ [' ', ' ', '='] ++ ' ' :: entry.result.toList := by
  simp [line, String.toList_append]

/-- **A line is that of one entry**, as its result starts behind the last space. -/
theorem line_inj (solid : ' ' ∉ one.result.toList) (solid' : ' ' ∉ other.result.toList)
    (equal : line one = line other) : one = other := by
  have texts := congrArg String.toList equal
  rw [toList_line, toList_line] at texts
  obtain ⟨fronts, results⟩ := append_space_inj solid solid' texts
  cases one
  cases other
  rw [Entry.mk.injEq]
  exact ⟨String.toList_inj.mp (List.append_cancel_right fronts), String.toList_inj.mp results⟩

theorem mem_entryLines {entries : List Entry} {item : Item} :
    item ∈ entryLines entries ↔
      ∃ index entry, entries[index]? = some entry ∧ item = ⟨line entry, .act (.reuse index)⟩ := by
  simp only [entryLines, List.mem_map, Prod.exists, List.mem_zipIdx_iff_getElem?, eq_comm]
  exact exists_comm

end Lines

section Lookup

variable {screen : Screen} {label : String} {action : Action} {index : Nat} {entry : Entry}

/-- No two keys have one label. -/
theorem find?_keyItems : ∀ key ∈ KeyPad.keys,
    keyItems.find? (fun item => item.text = key.1) = some ⟨key.1, .act key.2⟩ := by
  decide +kernel

/-- **A key is found by its label**, whatever else is on the screen. -/
theorem find?_key (onPad : (label, action) ∈ KeyPad.keys) :
    screen.find? label = some (.act action) := by
  rw [find?, items, List.find?_append, find?_keyItems _ onPad]
  rfl

/-- No key has a space in its label. -/
theorem space_notMem_keyItems : ∀ item ∈ keyItems, ' ' ∉ item.text.toList := by
  decide +kernel

/-- A label with a space in it is looked for below the header of the history. -/
theorem find?_of_space (space : ' ' ∈ label.toList) (shown : screen.historyOpen = true)
    {item : Item} {panel : List Item} {rest : List Item}
    (inside : historyPanel screen.calculator.history = panel ++ rest)
    (found : panel.find? (fun item => item.text = label) = some item) :
    screen.find? label = some item.target := by
  have keys : keyItems.find? (fun item => item.text = label) = none := by
    refine List.find?_eq_none.mpr fun item member equal => ?_
    rw [← of_decide_eq_true equal] at space
    exact space_notMem_keyItems item member space
  have header : historyHeader.text ≠ label := by
    rintro rfl
    exact absurd space (by decide)
  rw [find?, items, List.find?_append, keys, panels, if_pos shown, inside, List.cons_append,
    List.append_assoc, List.find?_cons_of_neg (by simpa using header), List.find?_append, found]
  rfl

/-- **A line is found by its text**: its entry is reused, be it from another place where the same
entry stands. -/
theorem find?_line (displayed : screen.calculator.history.Displayed)
    (shown : screen.historyOpen = true) (found : screen.calculator.history.get? index = some entry) :
    ∃ place, screen.calculator.history.get? place = some entry ∧
      screen.find? (line entry) = some (.act (.reuse place)) := by
  have own := mem_entryLines.mpr ⟨index, entry, found, rfl⟩
  have space : ' ' ∈ (line entry).toList := by simp [toList_line]
  obtain ⟨item, first⟩ : ∃ item,
      (entryLines screen.calculator.history.entries).find? (fun item => item.text = line entry) =
        some item :=
    Option.isSome_iff_exists.mp (List.find?_isSome.mpr ⟨_, own, decide_eq_true rfl⟩)
  obtain ⟨place, same, stands, rfl⟩ := mem_entryLines.mp (List.mem_of_find?_eq_some first)
  have text : line same = line entry := by simpa using List.find?_some first
  have solid := displayed.space_notMem (List.mem_of_getElem? stands)
  obtain rfl := line_inj solid (displayed.space_notMem (List.mem_of_getElem? found)) text
  have filled : screen.calculator.history.isEmpty = false := by
    rw [History.isEmpty, List.isEmpty_eq_false_iff]
    exact List.ne_nil_of_mem (List.mem_of_getElem? found)
  exact ⟨place, stands, find?_of_space space shown (by rw [historyPanel, filled]; rfl) first⟩

/-- **The button that clears the history is found by its text.** -/
theorem find?_clear (shown : screen.historyOpen = true)
    (filled : screen.calculator.history.isEmpty = false) :
    screen.find? "Effacer l’historique" = some (.act .clearHistory) := by
  have lines : (entryLines screen.calculator.history.entries).find?
      (fun item => item.text = "Effacer l’historique") = none := by
    refine List.find?_eq_none.mpr fun item member equal => ?_
    obtain ⟨index, entry, -, rfl⟩ := mem_entryLines.mp member
    have sign : '=' ∈ (line entry).toList := by simp [toList_line]
    rw [show line entry = "Effacer l’historique" from of_decide_eq_true equal] at sign
    exact absurd sign (by decide)
  have found : (historyPanel screen.calculator.history).find?
      (fun item => item.text = "Effacer l’historique") =
        some ⟨"Effacer l’historique", .act .clearHistory⟩ := by
    rw [historyPanel, filled, if_neg Bool.false_ne_true, List.find?_append, lines]
    rfl
  have space : ' ' ∈ "Effacer l’historique".toList := by decide
  exact find?_of_space space shown (List.append_nil _).symm found

/-- The texts inside the history panel. -/
theorem mem_historyPanel_cases {history : History} {item : Item}
    (member : item ∈ historyPanel history) :
    (∃ index entry, history.get? index = some entry ∧ item = ⟨line entry, .act (.reuse index)⟩) ∨
    (history.isEmpty = false ∧ item = ⟨"Effacer l’historique", .act .clearHistory⟩) ∨
    item.target = .nothing := by
  unfold historyPanel at member
  split at member
  · obtain rfl := List.mem_singleton.mp member
    exact Or.inr (Or.inr rfl)
  · rename_i filled
    rcases List.mem_append.mp member with lines | button
    · exact Or.inl (mem_entryLines.mp lines)
    · exact Or.inr (Or.inl ⟨Bool.eq_false_iff.mpr filled, List.mem_singleton.mp button⟩)

/-- **The texts on the screen**: the keys, the lines of the open history and the button that clears
it, the headers, and texts without effect. -/
theorem mem_items_cases {item : Item} (member : item ∈ screen.items) :
    (∃ action, (item.text, action) ∈ KeyPad.keys ∧ item.target = .act action) ∨
    (screen.historyOpen = true ∧ ∃ index entry, screen.calculator.history.get? index = some entry ∧
      item = ⟨line entry, .act (.reuse index)⟩) ∨
    (screen.historyOpen = true ∧ screen.calculator.history.isEmpty = false ∧
      item = ⟨"Effacer l’historique", .act .clearHistory⟩) ∨
    item ∈ [historyHeader, derivationHeader] ∨ item.target = .nothing := by
  rcases List.mem_append.mp member with key | below
  · obtain ⟨⟨label, action⟩, onPad, rfl⟩ := List.mem_map.mp key
    exact Or.inl ⟨action, onPad, rfl⟩
  · refine Or.inr ?_
    rw [panels, List.cons_append, List.mem_cons, List.mem_append, List.mem_cons] at below
    rcases below with rfl | inside | rfl | steps
    · exact Or.inr (Or.inr (Or.inl List.mem_cons_self))
    · split at inside
      · rename_i shown
        rcases mem_historyPanel_cases inside with lines | button | nothing
        · exact Or.inl ⟨shown, lines⟩
        · exact Or.inr (Or.inl ⟨shown, button⟩)
        · exact Or.inr (Or.inr (Or.inr nothing))
      · cases inside
    · exact Or.inr (Or.inr (Or.inl (List.mem_cons_of_mem _ List.mem_cons_self)))
    · split at steps
      · obtain ⟨text, -, rfl⟩ := List.mem_map.mp steps
        exact Or.inr (Or.inr (Or.inr rfl))
      · cases steps

end Lookup

end Screen

end ScientificCalculator
