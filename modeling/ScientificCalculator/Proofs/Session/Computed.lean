/-
**Every entry of the history was computed.**

A session that starts with nothing stored shows in its history only what was evaluated in it: each
entry goes back to a step of the run at which its expression stood there and had a value in the mode
then in force, the one shown as its result. Neither what is stored nor what is loaded again adds
anything to that.

* `Session.RecordedIn`: the entry was recorded at a step of the run.
* `Session.Accounted`: all entries shown or stored were recorded so far.
* `Session.runAll_accounted`: a run keeps this.
* `Session.history_computed`: what this says of each entry.
-/

import ScientificCalculator.Proofs.Display.Characters
import ScientificCalculator.Proofs.Evaluation.Canonical
import ScientificCalculator.Proofs.Session.Mirror

namespace ScientificCalculator

namespace Session

section Records

variable {session : Session} {steps : List Command} {entry : Entry}

/-- The entry was recorded at one of the steps of a run, by the evaluation made there. -/
def RecordedIn (session : Session) (steps : List Command) (entry : Entry) : Prop :=
  ∃ before after, steps = before ++ .actions [.equals] :: after ∧
    (session.runAll before).calculator.recorded? .equals = some entry

/-- What was recorded stays recorded as the run goes on. -/
theorem RecordedIn.append (recorded : RecordedIn session steps entry) (more : List Command) :
    RecordedIn session (steps ++ more) entry := by
  obtain ⟨before, after, rfl, found⟩ := recorded
  exact ⟨before, after ++ more, by rw [List.append_assoc, List.cons_append], found⟩

/-- The evaluation made last. -/
theorem recordedIn_concat (found : (session.runAll steps).calculator.recorded? .equals = some entry) :
    RecordedIn session (steps ++ [.actions [.equals]]) entry :=
  ⟨steps, [], rfl, found⟩

theorem mem_record {history : History} {added : Entry}
    (member : entry ∈ (history.record added).entries) :
    entry = added ∨ entry ∈ history.entries :=
  List.mem_cons.mp (List.mem_of_mem_take member)

end Records

section Runs

variable {session here : Session} {done : List Command}

/-- All entries that are shown or stored after some steps of a run were recorded at one of them. -/
structure Accounted (session : Session) (done : List Command) (here : Session) : Prop where
  reached : here = session.runAll done
  shown : ∀ entry ∈ here.calculator.history.entries, RecordedIn session done entry
  stored : ∀ entry ∈ here.storage.load.entries, RecordedIn session done entry

/-- One more command of the run. -/
theorem Accounted.run_eq (accounted : Accounted session done here) (command : Command) :
    here.run command = session.runAll (done ++ [command]) := by
  rw [runAll_append, ← accounted.reached]
  rfl

/-- A session just started where nothing is stored. -/
theorem start_accounted {mode : AngleMode} {storage : Storage}
    (none : storage.load.entries = []) :
    Accounted (start mode storage) [] (start mode storage) := by
  have nothing : ∀ entry ∈ storage.load.entries, RecordedIn (start mode storage) [] entry := by
    rw [none]
    exact fun _ member => absurd member List.not_mem_nil
  exact ⟨rfl, nothing, nothing⟩

/-- What is stored after a save was stored before or is shown. -/
theorem stored_of_holding {storage : Storage} {history : History} {holds : Entry → Prop}
    (shown : ∀ entry ∈ history.entries, holds entry)
    (stored : ∀ entry ∈ storage.load.entries, holds entry) :
    ∀ entry ∈ (storage.holding history).load.entries, holds entry := by
  rcases storage.load_holding history with written | unchanged
  · rwa [written]
  · rwa [unchanged]

/-- **An action shows and stores only what was recorded so far**, itself included. -/
theorem act_accounted (accounted : Accounted session done here) (action : Action) :
    Accounted session (done ++ [.actions [action]]) (here.act action) := by
  have shown : ∀ entry ∈ (here.act action).calculator.history.entries,
      RecordedIn session (done ++ [.actions [action]]) entry := by
    intro entry member
    rw [act_calculator] at member
    rcases here.calculator.act_cases action with ⟨added, recorded, history, -⟩ |
      ⟨-, history, -⟩ | ⟨-, -, history, -⟩
    · rw [history] at member
      rcases mem_record member with rfl | old
      · obtain ⟨rfl, -⟩ := Calculator.recorded?_eq_some_iff.mp recorded
        exact recordedIn_concat (accounted.reached ▸ recorded)
      · exact (accounted.shown entry old).append _
    · rw [history] at member
      exact absurd member List.not_mem_nil
    · rw [history] at member
      exact (accounted.shown entry member).append _
  refine ⟨accounted.run_eq (.actions [action]), shown, ?_⟩
  have stored := fun entry member => (accounted.stored entry member).append [.actions [action]]
  rw [act_storage]
  split
  · rw [act_calculator] at shown
    exact stored_of_holding shown stored
  · exact stored

/-- **In a run in which nothing is recorded but by evaluation**, all entries are accounted for. -/
theorem runAll_accounted {commands : List Command} (started : Accounted session [] session)
    (kept : ∀ entry, .record entry ∉ commands) :
    Accounted session (commands.flatMap Command.steps) (session.runAll commands) := by
  refine runAll_induction started ?_ ?_ ?_ ?_
  · exact fun action accounted => act_accounted accounted action
  · exact fun given _ => absurd given (kept _)
  · intro done here accounted
    have shown := fun entry member => (accounted.shown entry member).append [.save]
    have stored := fun entry member => (accounted.stored entry member).append [.save]
    refine ⟨accounted.run_eq .save, ?_, ?_⟩
    · rwa [persist_eq]
    · rw [persist_eq]
      exact stored_of_holding shown stored
  · intro done here accounted
    have stored := fun entry member => (accounted.stored entry member).append [.reload]
    exact ⟨accounted.run_eq .reload, stored, stored⟩

/-- **Every entry of the history was computed** in a session that starts with nothing stored and in
which nothing is recorded but by evaluation. There is a step of the run at which the expression of
the entry was evaluated in the mode then in force, and its value is shown as the result of the
entry, as a failure exactly when it is not finite. The expression is not blank, and it is refused in
no mode. -/
theorem history_computed {mode : AngleMode} {storage : Storage} {commands : List Command}
    {entry : Entry} (none : storage.load.entries = []) (kept : ∀ entry, .record entry ∉ commands)
    (member : entry ∈ ((start mode storage).runAll commands).calculator.history.entries) :
    ∃ before after evaluation,
      commands.flatMap Command.steps = before ++ .actions [.equals] :: after ∧
      ((start mode storage).runAll before).calculator.expression = entry.expression ∧
      evaluate entry.expression ((start mode storage).runAll before).calculator.mode =
        .ok (some evaluation) ∧
      entry.result = String.ofList (Display.text evaluation.value) ∧
      (entry.result = "Error" ↔ Binary64.isFinite evaluation.value = false) ∧
      (∃ character ∈ entry.expression.toList, Text.isBlank character = false) ∧
      ∀ other, ∃ found, evaluate entry.expression other = .ok (some found) := by
  obtain ⟨before, after, split, recorded⟩ :=
    (runAll_accounted (start_accounted none) kept).shown entry member
  obtain ⟨-, evaluation, accepted, rfl⟩ := Calculator.recorded?_eq_some_iff.mp recorded
  refine ⟨before, after, evaluation, split, rfl, accepted, rfl, ?_,
    Evaluation.exists_solid accepted, Evaluation.exists_evaluate accepted⟩
  rw [← Display.text_eq_failure_iff]
  exact String.ofList_inj

/-- An entry that was recorded in degrees, stored over a text that is no document, and loaded again
in radians. -/
theorem history_computed_reload :
    let storage := Storage.file (some "[1,".toUTF8)
    let commands := [.actions (Action.enter "5!"), .actions [.toggleMode], .reload]
    storage.load.entries = [] ∧ (∀ entry, .record entry ∉ commands) ∧
      ⟨"5!", "120"⟩ ∈ ((start .degrees storage).runAll commands).calculator.history.entries ∧
      ∃ before after evaluation,
        commands.flatMap Command.steps = before ++ .actions [.equals] :: after ∧
        evaluate "5!" ((start .degrees storage).runAll before).calculator.mode =
          .ok (some evaluation) ∧
        "120" = String.ofList (Display.text evaluation.value) := by
  intro storage commands
  have kept : ∀ entry, .record entry ∉ commands := by simp [commands]
  have none : storage.load = .empty := by
    rw [Storage.load, Storage.text?_file]
    cbv
  have mirrors : ((start .degrees storage).runAll
      [.actions (Action.enter "5!"), .actions [.toggleMode]]).Mirrors :=
    runAll_mirrors (start_mirrors .degrees _) (by simp)
  have shown : ⟨"5!", "120"⟩ ∈ ((start .degrees storage).runAll
      [.actions (Action.enter "5!"), .actions [.toggleMode]]).calculator.history.entries := by
    rw [start, none]
    decide +kernel
  have member : ⟨"5!", "120"⟩ ∈
      ((start .degrees storage).runAll commands).calculator.history.entries := by
    rwa [← mirrors.load_eq] at shown
  have nothing : storage.load.entries = [] := congrArg History.entries none
  obtain ⟨before, after, evaluation, split, -, accepted, result, -⟩ :=
    history_computed nothing kept member
  exact ⟨nothing, kept, member, before, after, evaluation, split, accepted, result⟩

end Runs

end Session

end ScientificCalculator
