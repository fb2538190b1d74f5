/-
**The screen does what the keys do.**

An event on the screen stands for actions of the calculator: a label of the key pad for the action of
its key, a line of the open history for the reuse of its entry, typed text for the actions of its
characters. The headers, the texts without effect, the labels that are not shown and all other keys
stand for none. Along every run of events the calculator on the screen is that of a session in memory
that performs these actions.

* `Screen.Performs`: the actions that an event stands for.
* `Screen.Performs.handle_calculator`: the screen performs them.
* `Screen.Translates`: a run of events as commands of a session.
* `Screen.screen_refines_session`: both show the same calculators.
-/

import ScientificCalculator.Proofs.Screen.Lookup
import ScientificCalculator.Proofs.Session.Visible

namespace ScientificCalculator

section Performed

variable {calculator : Calculator}

/-- Actions show only displayed numbers in the history. -/
theorem Calculator.perform_displayed (displayed : calculator.history.Displayed)
    (list : List Action) : (calculator.perform list).history.Displayed := by
  induction list generalizing calculator with
  | nil => exact displayed
  | cons action rest ih => exact ih (act_displayed displayed action)

/-- An entry is reused with the same effect wherever it stands. -/
theorem Calculator.act_reuse_eq {index place : Nat} {entry : Entry}
    (found : calculator.history.get? index = some entry)
    (stands : calculator.history.get? place = some entry) :
    calculator.act (.reuse index) = calculator.act (.reuse place) := by
  show Reaction.mk (calculator.reuse index) false = ⟨calculator.reuse place, false⟩
  rw [reuse, reuse, found, stands]

end Performed

namespace Screen

/-- **The actions that an event stands for.** -/
inductive Performs (screen : Screen) : Event → List Action → Prop
  /-- A label of the key pad stands for the action of its key. -/
  | key {label : String} {action : Action} :
      (label, action) ∈ KeyPad.keys → Performs screen (.click label) [action]
  /-- A line of the open history stands for the reuse of its entry. -/
  | line {index : Nat} {entry : Entry} :
      screen.historyOpen = true → screen.calculator.history.get? index = some entry →
        Performs screen (.click (line entry)) [.reuse index]
  /-- The button below the lines clears the history. -/
  | clear :
      screen.historyOpen = true → screen.calculator.history.isEmpty = false →
        Performs screen (.click "Effacer l’historique") [.clearHistory]
  /-- The headers stand for no action. -/
  | header {item : Item} :
      item ∈ [historyHeader, derivationHeader] → Performs screen (.click item.text) []
  /-- Texts without effect stand for no action, nor do labels that are not shown. -/
  | plain {label : String} :
      (∀ item ∈ screen.items, item.text = label → item.target = .nothing) →
        Performs screen (.click label) []
  /-- A text stands for the keys of its characters, in their order. -/
  | typed (text : String) : Performs screen (.text text) (Action.ofKeys text)
  | enter : Performs screen (.press "Enter") [.equals]
  | escape : Performs screen (.press "Escape") [.allClear]
  | erase : Performs screen (.press "Backspace") [.backspace]
  /-- The other keys stand for no action. -/
  | otherKey {key : String} :
      key ∉ ["Enter", "Escape", "Backspace"] → Performs screen (.press key) []
  /-- A key that is released stands for no action. -/
  | release (key : String) : Performs screen (.release key) []

section Events

variable {screen : Screen} {event : Event} {list : List Action} {label : String}

/-- The headers have no space in them, are labelled like no key and do not act. -/
theorem header_plain {header : Item} (among : header ∈ [historyHeader, derivationHeader]) :
    ' ' ∉ header.text.toList ∧ (∀ action, (header.text, action) ∉ KeyPad.keys) ∧
      ∀ action, header.target ≠ .act action := by
  have apart : ∀ key ∈ KeyPad.keys,
      key.1 ≠ historyHeader.text ∧ key.1 ≠ derivationHeader.text := by
    decide +kernel
  simp only [List.mem_cons, List.not_mem_nil, or_false] at among
  rcases among with rfl | rfl
  · exact ⟨by decide, fun _ onPad => (apart _ onPad).1 rfl, nofun⟩
  · exact ⟨by decide, fun _ onPad => (apart _ onPad).2 rfl, nofun⟩

/-- **A click on a header does not act.** -/
theorem not_acting_header {header : Item} (among : header ∈ [historyHeader, derivationHeader])
    {item : Item} (member : item ∈ screen.items) (same : item.text = header.text) (action : Action) :
    item.target ≠ .act action := by
  obtain ⟨solid, unlabelled, -⟩ := header_plain among
  intro acts
  rcases mem_items_cases member with ⟨found, onPad, -⟩ | ⟨-, index, entry, -, rfl⟩ | ⟨-, -, rfl⟩ |
    headers | nothing
  · rw [same] at onPad
    exact unlabelled found onPad
  · rw [← same] at solid
    exact solid (by simp [toList_line])
  · rw [← same] at solid
    exact solid (by decide)
  · exact (header_plain headers).2.2 action acts
  · rw [nothing] at acts
    cases acts

theorem handle_click {target : Target} (found : screen.find? label = some target) :
    screen.handle (.click label) = screen.select target := by
  rw [handle, found]

/-- A click on a text none of whose places acts leaves the calculator as it is. -/
theorem handle_click_calculator
    (idle : ∀ item ∈ screen.items, item.text = label → ∀ action, item.target ≠ .act action) :
    (screen.handle (.click label)).calculator = screen.calculator := by
  cases found : screen.find? label with
  | none => rw [handle, found]
  | some target =>
    rw [handle_click found]
    obtain ⟨item, first, rfl⟩ := Option.map_eq_some_iff.mp found
    have text : item.text = label := by simpa using List.find?_some first
    have acts := idle item (List.mem_of_find?_eq_some first) text
    cases effect : item.target with
    | act action => exact absurd effect (acts action)
    | toggleHistory => rfl
    | toggleDerivation => rfl
    | nothing => rfl

/-- The screen performs typed actions like its calculator. -/
theorem foldl_act_calculator (screen : Screen) (list : List Action) :
    (list.foldl act screen).calculator = screen.calculator.perform list := by
  induction list generalizing screen with
  | nil => rfl
  | cons action rest ih => exact ih (screen.act action)

/-- **The screen performs the actions that an event stands for.** -/
theorem Performs.handle_calculator (displayed : screen.calculator.history.Displayed)
    (performs : screen.Performs event list) :
    (screen.handle event).calculator = screen.calculator.perform list := by
  cases performs with
  | key onPad =>
    rw [handle_click (find?_key onPad)]
    rfl
  | line shown found =>
    -- The line that is clicked may stand higher up, where it is the line of an equal entry.
    obtain ⟨place, stands, clicked⟩ := find?_line displayed shown found
    rw [handle_click clicked]
    show (screen.calculator.act (.reuse place)).calculator = _
    rw [Calculator.act_reuse_eq stands found]
    rfl
  | clear shown filled =>
    rw [handle_click (find?_clear shown filled)]
    rfl
  | header among =>
    exact handle_click_calculator fun item member same => not_acting_header among member same
  | plain nothing =>
    refine handle_click_calculator fun item member same action acts => ?_
    rw [nothing item member same] at acts
    cases acts
  | typed text => exact foldl_act_calculator screen (Action.ofKeys text)
  | @otherKey key other =>
    simp only [List.mem_cons, List.not_mem_nil, or_false, not_or] at other
    have unnamed : KeyPad.ofName? key = none := by
      rw [KeyPad.ofName?, if_neg other.1, if_neg other.2.1, if_neg other.2.2]
    rw [handle, unnamed]
    rfl
  | _ => rfl

/-- Every event stands for actions. -/
theorem exists_performs (screen : Screen) (event : Event) : ∃ list, screen.Performs event list := by
  cases event with
  | text typed => exact ⟨_, .typed typed⟩
  | release key => exact ⟨_, .release key⟩
  | press key =>
    by_cases named : key ∈ ["Enter", "Escape", "Backspace"]
    · simp only [List.mem_cons, List.not_mem_nil, or_false] at named
      rcases named with rfl | rfl | rfl
      · exact ⟨_, .enter⟩
      · exact ⟨_, .escape⟩
      · exact ⟨_, .erase⟩
    · exact ⟨_, .otherKey named⟩
  | click label =>
    by_cases plain : ∀ item ∈ screen.items, item.text = label → item.target = .nothing
    · exact ⟨_, .plain plain⟩
    · push Not at plain
      obtain ⟨item, member, rfl, effect⟩ := plain
      rcases mem_items_cases member with ⟨action, onPad, -⟩ | ⟨shown, index, entry, found, rfl⟩ |
        ⟨shown, filled, rfl⟩ | header | nothing
      · exact ⟨_, .key onPad⟩
      · exact ⟨_, .line shown found⟩
      · exact ⟨_, .clear shown filled⟩
      · exact ⟨_, .header header⟩
      · exact absurd nothing effect

end Events

section Runs

/-- **A run of events as commands of a session**: each event as the actions it stands for on the
screen it meets. -/
inductive Translates : Screen → List Event → List Command → Prop
  | nil {screen : Screen} : Translates screen [] []
  | cons {screen : Screen} {event : Event} {list : List Action} {events : List Event}
      {commands : List Command} :
      screen.Performs event list → Translates (screen.handle event) events commands →
        Translates screen (event :: events) (.actions list :: commands)

/-- The calculators on the screen at the start of a run and after each of its events. -/
def seenAlong (screen : Screen) : List Event → List Calculator
  | [] => [screen.calculator]
  | event :: rest => screen.calculator :: (screen.handle event).seenAlong rest

variable {screen : Screen} {session : Session} {events : List Event} {commands : List Command}

/-- Every run of events can be translated. -/
theorem exists_translates (screen : Screen) (events : List Event) :
    ∃ commands, Translates screen events commands := by
  induction events generalizing screen with
  | nil => exact ⟨[], .nil⟩
  | cons event rest ih =>
    obtain ⟨list, performs⟩ := exists_performs screen event
    obtain ⟨commands, translated⟩ := ih (screen.handle event)
    exact ⟨.actions list :: commands, .cons performs translated⟩

/-- **A screen and a session with the same calculator stay in step.** -/
theorem Translates.seenAlong_eq (translated : Translates screen events commands)
    (displayed : screen.calculator.history.Displayed)
    (same : screen.calculator = session.calculator) :
    screen.seenAlong events = session.seenAlong commands := by
  -- The panels may open and close on the way: only the calculators are kept equal, and what they
  -- show as results stays a displayed number, by which the lines are told apart.
  induction translated generalizing session with
  | nil => exact congrArg (fun shown => [shown]) same
  | @cons screen event list events commands performs _ ih =>
    have handled := performs.handle_calculator displayed
    have next : (screen.handle event).calculator = (session.run (.actions list)).calculator := by
      rw [handled, same]
      exact (Session.foldl_act_calculator session list).symm
    have kept : (screen.handle event).calculator.history.Displayed := by
      rw [handled]
      exact Calculator.perform_displayed displayed list
    rw [seenAlong, Session.seenAlong, same, ih kept next]

/-- **The screen refines the session.** Every run of events on the screen can be translated into
commands, and however it is translated, the calculators on the screen are those of a session in
memory, at the start and after every event. -/
theorem screen_refines_session (mode : AngleMode) (events : List Event) :
    (∃ commands, Translates (start mode) events commands) ∧
    ∀ commands, Translates (start mode) events commands →
      (start mode).seenAlong events = (Session.start mode .memory).seenAlong commands :=
  ⟨exists_translates (start mode) events,
    fun _ translated => translated.seenAlong_eq History.displayed_empty rfl⟩

/-- The line of an evaluation is clicked once the history was closed and opened again, and its result
goes on. -/
theorem screen_refines_session_line :
    let events := [.text "5", .click "n!", .press "Enter", .click "Historique", .click "Historique",
      .click "5!  = 120", .text "+p", .release "Enter"]
    let commands := [.actions [.insert "5"], .actions [.insert "!"], .actions [.equals], .actions [],
      .actions [], .actions [.reuse 0], .actions [.insert "+", .insert "π"], .actions []]
    Translates (start .degrees) events commands ∧
      (start .degrees).seenAlong events = (Session.start .degrees .memory).seenAlong commands ∧
      ((start .degrees).seenAlong events).map Calculator.expression =
        ["", "5", "5!", "", "", "", "120", "120+π", "120+π"] := by
  intro events commands
  have translated : Translates (start .degrees) events commands :=
    .cons (.typed "5") <| .cons (.key (by decide +kernel)) <| .cons .enter <|
      .cons (@Performs.header _ historyHeader (by decide)) <|
      .cons (@Performs.header _ historyHeader (by decide)) <|
      .cons (@Performs.line _ 0 ⟨"5!", "120"⟩ (by decide +kernel) (by decide +kernel)) <|
      .cons (.typed "+p") <| .cons (.release "Enter") .nil
  obtain ⟨-, refined⟩ := screen_refines_session .degrees events
  exact ⟨translated, refined commands translated, by decide +kernel⟩

end Runs

end Screen

end ScientificCalculator
