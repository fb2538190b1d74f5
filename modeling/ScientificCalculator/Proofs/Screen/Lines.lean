/-
**Clicking a line of the history.**

On the screen an expression is typed with keys, written by the memory or taken from a line, and a
result is a displayed number. There is no equals sign in any of these, as the key of this sign
evaluates. A line has one, and spaces in front of it, so its text is none of those above: not the
title, nor what is shown of the calculator, nor a key, nor the header of the lines. The first place
where it is found is then a line, and one of an equal entry.

* `Action.isPlain`, `Screen.Performs.isPlain`: nothing with an equals sign is typed.
* `Calculator.WithoutEquals`: no equals sign in the expression, in the result and in those reused.
* `Screen.run_withoutEquals`: a run of events keeps this.
* `Screen.above`, `Screen.line_notMem_above`: the texts above the lines are no lines.
* `Screen.click_line`: what a click on a line does.
-/

import ScientificCalculator.Proofs.Numeral.Text
import ScientificCalculator.Proofs.Screen.Refinement

namespace ScientificCalculator

/-- The action types no equals sign. -/
def Action.isPlain : Action → Bool
  | insert text => !text.toList.contains '='
  | _ => true

theorem Action.isPlain_insert {text : String} :
    (insert text).isPlain = true ↔ '=' ∉ text.toList := by
  simp [isPlain]

namespace Calculator

/-- There is no equals sign in the expression and in the result, and what may be reused are
displayed numbers. -/
structure WithoutEquals (calculator : Calculator) : Prop where
  expression : '=' ∉ calculator.expression.toList
  result : '=' ∉ calculator.result.toList
  displayed : calculator.history.Displayed

section Actions

variable {calculator : Calculator}

/-- The first result has no equals sign. -/
theorem equalsSign_notMem_initialResult : '=' ∉ initialResult.toList := by
  decide

theorem start_withoutEquals (mode : AngleMode) : (start mode .empty).WithoutEquals :=
  ⟨List.not_mem_nil, equalsSign_notMem_initialResult, History.displayed_empty⟩

/-- A displayed number has no equals sign. -/
theorem equalsSign_notMem_text (number : Float) :
    '=' ∉ (String.ofList (Display.text number)).toList := by
  rw [String.toList_ofList]
  exact Display.notMem_text rfl (by decide) number

theorem WithoutEquals.insert (without : calculator.WithoutEquals) {text : String}
    (plain : '=' ∉ text.toList) : (calculator.insert text).WithoutEquals := by
  refine ⟨?_, without.result, without.displayed⟩
  rw [Calculator.insert, String.toList_append]
  exact fun member => (List.mem_append.mp member).elim without.expression plain

/-- The result and the expression after an evaluation. -/
theorem WithoutEquals.equals (without : calculator.WithoutEquals) :
    calculator.equals.calculator.WithoutEquals := by
  have displayed : calculator.equals.calculator.history.Displayed :=
    act_displayed without.displayed .equals
  have failure : '=' ∉ (String.ofList Display.failure).toList := by decide
  unfold Calculator.equals at displayed ⊢
  split at displayed
  · exact without
  · exact ⟨List.not_mem_nil, equalsSign_notMem_text _, displayed⟩
  · exact ⟨without.expression, failure, displayed⟩

/-- Those after a result was reused. -/
theorem WithoutEquals.reuse (without : calculator.WithoutEquals) (index : Nat) :
    (calculator.reuse index).WithoutEquals := by
  unfold Calculator.reuse
  split
  · rename_i entry found
    obtain ⟨number, result⟩ := without.displayed entry (List.mem_of_getElem? found)
    have plain : '=' ∉ entry.result.toList := by
      rw [result]
      exact equalsSign_notMem_text number
    exact ⟨plain, plain, without.displayed⟩
  · exact without

/-- **An action that types no equals sign brings none in.** -/
theorem WithoutEquals.act (without : calculator.WithoutEquals) {action : Action}
    (plain : action.isPlain = true) : (calculator.act action).calculator.WithoutEquals := by
  cases action with
  | insert text => exact without.insert (Action.isPlain_insert.mp plain)
  | backspace =>
    refine ⟨?_, without.result, without.displayed⟩
    show '=' ∉ (String.ofList calculator.expression.toList.dropLast).toList
    rw [String.toList_ofList]
    exact fun member => without.expression (List.mem_of_mem_dropLast member)
  | allClear => exact ⟨List.not_mem_nil, equalsSign_notMem_initialResult, without.displayed⟩
  | clear => exact ⟨List.not_mem_nil, without.result, without.displayed⟩
  | equals => exact without.equals
  | memoryRecall =>
    refine without.insert ?_
    rw [String.toList_ofList]
    exact Numeral.notMem_text rfl (by decide) calculator.memory
  | reuse index => exact without.reuse index
  | clearHistory => exact ⟨without.expression, without.result, History.displayed_empty⟩
  | _ => exact ⟨without.expression, without.result, without.displayed⟩

theorem WithoutEquals.perform (without : calculator.WithoutEquals) {list : List Action}
    (plain : ∀ action ∈ list, action.isPlain = true) : (calculator.perform list).WithoutEquals := by
  induction list generalizing calculator with
  | nil => exact without
  | cons action rest ih =>
    obtain ⟨first, others⟩ := List.forall_mem_cons.mp plain
    exact ih (without.act first) others

end Actions

end Calculator

namespace Screen

section Events

variable {screen : Screen} {event : Event} {list : List Action}

/-- The key of the equals sign evaluates, and no other one types it. -/
theorem isPlain_ofKey? {key : Char} {action : Action} (typed : Action.ofKey? key = some action) :
    action.isPlain = true := by
  unfold Action.ofKey? at typed
  split at typed
  · rename_i sign
    obtain rfl := Option.some.inj typed
    rw [Action.isPlain_insert, String.toList_ofList, List.mem_singleton]
    rintro rfl
    exact absurd sign (by decide)
  · split at typed
    · obtain rfl := Option.some.inj typed
      decide
    · split at typed
      · obtain rfl := Option.some.inj typed
        rfl
      · cases typed

/-- **Nothing with an equals sign is typed on the screen.** -/
theorem Performs.isPlain (performs : screen.Performs event list) :
    ∀ action ∈ list, action.isPlain = true := by
  have keys : ∀ key ∈ KeyPad.keys, key.2.isPlain = true := by decide +kernel
  cases performs with
  | key onPad => exact List.forall_mem_singleton.mpr (keys _ onPad)
  | typed text =>
    intro action member
    obtain ⟨key, -, typed⟩ := List.mem_filterMap.mp member
    exact isPlain_ofKey? typed
  | line | clear | enter | escape | erase => exact List.forall_mem_singleton.mpr rfl
  | _ => exact List.forall_mem_nil _

/-- The screen after events, one after the other. -/
def run (screen : Screen) (events : List Event) : Screen :=
  events.foldl handle screen

/-- An event brings no equals sign in. -/
theorem handle_withoutEquals (without : screen.calculator.WithoutEquals) (event : Event) :
    (screen.handle event).calculator.WithoutEquals := by
  obtain ⟨list, performs⟩ := exists_performs screen event
  rw [performs.handle_calculator without.displayed]
  exact without.perform performs.isPlain

/-- **A run of events keeps the calculator without equals signs.** -/
theorem run_withoutEquals (without : screen.calculator.WithoutEquals) (events : List Event) :
    (screen.run events).calculator.WithoutEquals := by
  induction events generalizing screen with
  | nil => exact without
  | cons event rest ih => exact ih (handle_withoutEquals without event)

end Events

section Lines

variable {screen : Screen}

/-- The texts above the lines of the history, from top to bottom: the title, what is shown of the
calculator, the keys, and the header of the lines. -/
def above (screen : Screen) : List String :=
  "Calculatrice scientifique" :: screen.head ++ keyItems.map Item.text ++ [historyHeader.text]

/-- **The texts above the lines are no lines.** -/
theorem line_notMem_above (without : screen.calculator.WithoutEquals) (entry : Entry) :
    line entry ∉ screen.above := by
  have sign : '=' ∈ (line entry).toList := by simp [toList_line]
  have space : ' ' ∈ (line entry).toList := by simp [toList_line]
  have other {text : String} (plain : '=' ∉ text.toList) : line entry ≠ text := by
    rintro rfl
    exact plain sign
  have labels (mode : AngleMode) : '=' ∉ mode.label.toList := by cases mode <;> decide
  have expression : '=' ∉
      (if screen.calculator.expression = "" then " " else screen.calculator.expression).toList := by
    split
    · decide
    · exact without.expression
  intro member
  simp only [above, head, List.mem_append, List.mem_cons, List.not_mem_nil, or_false] at member
  rcases member with ((title | mode | typed | result) | key) | header
  · exact other (by decide) title
  · exact other (labels _) mode
  · exact other expression typed
  · exact other without.result result
  · obtain ⟨item, onPad, text⟩ := List.mem_map.mp key
    exact space_notMem_keyItems item onPad (text ▸ space)
  · exact other (by decide) header

/-- **A click on a line reuses its result.** On every screen that a run of events leads to, if the
history is open, the text of a line is none of those above, and a click on the first text that equals
it makes the result of its entry the expression and the result, and changes nothing else. -/
theorem click_line {mode : AngleMode} {events : List Event} {index : Nat} {entry : Entry}
    (shown : ((start mode).run events).historyOpen = true)
    (found : ((start mode).run events).calculator.history.get? index = some entry) :
    let screen := (start mode).run events
    line entry ∉ screen.above ∧
      screen.handle (.click (line entry)) =
        { screen with calculator :=
          { screen.calculator with expression := entry.result, result := entry.result } } := by
  intro screen
  have started : (start mode).calculator.WithoutEquals := Calculator.start_withoutEquals mode
  have without := run_withoutEquals started events
  -- The line that is clicked may be another one, of an equal entry.
  obtain ⟨place, stands, clicked⟩ := find?_line without.displayed shown found
  refine ⟨line_notMem_above without entry, ?_⟩
  rw [handle_click clicked]
  show { screen with calculator := screen.calculator.reuse place } = _
  rw [Calculator.reuse, stands]

/-- The older of two lines with one text is clicked, with another line between them, once the history
was closed and opened again. -/
theorem click_line_older :
    let events := [.text "5", .click "n!", .press "Enter", .text "1+p=", .text "5", .click "n!",
      .click "=", .click "Historique", .click "Historique"]
    let screen := (start .degrees).run events
    screen.historyOpen = true ∧
      screen.calculator.history.entries =
        [⟨"5!", "120"⟩, ⟨"1+π", "4.1415926536"⟩, ⟨"5!", "120"⟩] ∧
      screen.calculator.history.get? 2 = some ⟨"5!", "120"⟩ ∧
      "5!  = 120" ∉ screen.above ∧
      screen.handle (.click "5!  = 120") =
        { screen with calculator :=
          { screen.calculator with expression := "120", result := "120" } } := by
  intro events screen
  have shown : screen.historyOpen = true := by decide +kernel
  have entries : screen.calculator.history.entries =
      [⟨"5!", "120"⟩, ⟨"1+π", "4.1415926536"⟩, ⟨"5!", "120"⟩] := by
    decide +kernel
  have found : screen.calculator.history.get? 2 = some ⟨"5!", "120"⟩ := by
    rw [History.get?, entries]
    rfl
  obtain ⟨apart, clicked⟩ := click_line shown found
  exact ⟨shown, entries, found, apart, clicked⟩

end Lines

end Screen

end ScientificCalculator
