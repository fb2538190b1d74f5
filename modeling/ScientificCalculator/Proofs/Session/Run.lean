/-
**Runs of a session.**

A run is a list of commands, one after the other. All that an action can do to the history is to
record an entry, to clear it, or to leave it; it is saved in the first two cases and in no other. A
save changes a file and no other place, and never the calculator.

* `Calculator.recorded?`: the entry that an action records.
* `Calculator.act_cases`: what an action does to the history, and when it is saved.
* `Storage.holding`, `Session.act_storage`: the place of the history after a save.
* `Session.runAll`, `Command.steps`: runs, and the steps they are made of.
* `Session.runAll_induction`: what every step keeps, a run keeps.
-/

import ScientificCalculator.Calculator.Session
import ScientificCalculator.Proofs.History.Document

namespace ScientificCalculator

namespace Calculator

section Recording

variable {calculator : Calculator} {action : Action} {entry : Entry} {evaluation : Evaluation}

/-- The entry that an action records: where the expression has a value, its evaluation records the
expression as it was typed and the value as it is shown. -/
def recorded? (calculator : Calculator) : Action → Option Entry
  | .equals =>
    match evaluate calculator.expression calculator.mode with
    | .ok (some evaluation) =>
      some ⟨calculator.expression, String.ofList (Display.text evaluation.value)⟩
    | _ => none
  | _ => none

theorem recorded?_equals
    (accepted : evaluate calculator.expression calculator.mode = .ok (some evaluation)) :
    calculator.recorded? .equals =
      some ⟨calculator.expression, String.ofList (Display.text evaluation.value)⟩ := by
  rw [recorded?, accepted]

/-- **An entry is recorded by the evaluation of an expression with a value**, and by nothing else. -/
theorem recorded?_eq_some_iff :
    calculator.recorded? action = some entry ↔
      action = .equals ∧ ∃ evaluation,
        evaluate calculator.expression calculator.mode = .ok (some evaluation) ∧
          entry = ⟨calculator.expression, String.ofList (Display.text evaluation.value)⟩ := by
  constructor
  · intro recorded
    unfold recorded? at recorded
    split at recorded
    · split at recorded
      · rename_i evaluation accepted
        exact ⟨rfl, evaluation, accepted, (Option.some.inj recorded).symm⟩
      · cases recorded
    · cases recorded
  · rintro ⟨rfl, evaluation, accepted, rfl⟩
    exact recorded?_equals accepted

/-- **All that an action does to the history**: it records an entry or clears the history, which is
then saved, or it leaves the history as it is, which is then not saved. -/
theorem act_cases (calculator : Calculator) (action : Action) :
    (∃ entry, calculator.recorded? action = some entry ∧
      (calculator.act action).calculator.history = calculator.history.record entry ∧
      (calculator.act action).saves = true) ∨
    (action = .clearHistory ∧ (calculator.act action).calculator.history = .empty ∧
      (calculator.act action).saves = true) ∨
    (action ≠ .clearHistory ∧ calculator.recorded? action = none ∧
      (calculator.act action).calculator.history = calculator.history ∧
      (calculator.act action).saves = false) := by
  cases action with
  | equals =>
    have reaction : calculator.act .equals = calculator.equals := rfl
    rw [reaction, equals, recorded?]
    match evaluate calculator.expression calculator.mode with
    | .ok (some evaluation) => exact Or.inl ⟨_, rfl, rfl, rfl⟩
    | .ok none => exact Or.inr (Or.inr ⟨nofun, rfl, rfl, rfl⟩)
    | .error fault => exact Or.inr (Or.inr ⟨nofun, rfl, rfl, rfl⟩)
  | clearHistory => exact Or.inr (Or.inl ⟨rfl, rfl, rfl⟩)
  | reuse index =>
    refine Or.inr (Or.inr ⟨nofun, rfl, ?_, rfl⟩)
    show (calculator.reuse index).history = calculator.history
    unfold reuse
    split <;> rfl
  | _ => exact Or.inr (Or.inr ⟨nofun, rfl, rfl, rfl⟩)

end Recording

end Calculator

namespace Storage

/-- The place once it was tried to save a history there: a file holds its document, and nothing else
is changed. -/
def holding (storage : Storage) (history : History) : Storage :=
  match storage with
  | file _ => file (some history.document.toUTF8)
  | other => other

/-- What is loaded after a save: the history from a file, and what was loaded before from any other
place. -/
theorem load_holding (storage : Storage) (history : History) :
    (storage.holding history).load = history ∨
      storage.holding history = storage := by
  cases storage with
  | file content => exact Or.inl (load_document history)
  | _ => exact Or.inr rfl

end Storage

namespace Session

section Steps

variable (session : Session) (action : Action)

theorem persist_eq :
    session.persist = ⟨session.calculator, session.storage.holding session.calculator.history⟩ := by
  obtain ⟨calculator, storage⟩ := session
  cases storage <;> rfl

/-- The calculator does not see where its history is stored. -/
theorem act_calculator :
    (session.act action).calculator = (session.calculator.act action).calculator := by
  unfold act
  dsimp only
  split
  · rw [persist_eq]
  · rfl

/-- **The place of the history after an action**: it is changed when the history is saved. -/
theorem act_storage :
    (session.act action).storage =
      if (session.calculator.act action).saves then
        session.storage.holding (session.calculator.act action).calculator.history
      else session.storage := by
  unfold act
  dsimp only
  split
  · rw [persist_eq]
  · rfl

end Steps

section Runs

/-- The session after commands, one after the other. -/
def runAll (session : Session) (commands : List Command) : Session :=
  commands.foldl run session

theorem runAll_append (session : Session) (first second : List Command) :
    session.runAll (first ++ second) = (session.runAll first).runAll second :=
  List.foldl_append

end Runs

end Session

namespace Command

/-- The steps of a command: its actions one by one, or the command itself. -/
def steps : Command → List Command
  | actions list => list.map fun action => actions [action]
  | command => [command]

/-- The kinds of steps. -/
theorem mem_steps {commands : List Command} {step : Command}
    (member : step ∈ commands.flatMap steps) :
    (∃ action, step = actions [action]) ∨ (∃ entry, step = record entry ∧ step ∈ commands) ∨
      step = save ∨ step = reload := by
  obtain ⟨command, among, part⟩ := List.mem_flatMap.mp member
  cases command with
  | actions list =>
    obtain ⟨action, -, rfl⟩ := List.mem_map.mp part
    exact Or.inl ⟨action, rfl⟩
  | record entry =>
    obtain rfl := List.mem_singleton.mp part
    exact Or.inr (Or.inl ⟨entry, rfl, among⟩)
  | save => exact Or.inr (Or.inr (Or.inl (List.mem_singleton.mp part)))
  | reload => exact Or.inr (Or.inr (Or.inr (List.mem_singleton.mp part)))

end Command

namespace Session

section Induction

theorem runAll_steps_command (session : Session) (command : Command) :
    session.runAll command.steps = session.run command := by
  cases command with
  | actions list =>
    show (list.map fun action => Command.actions [action]).foldl run session = list.foldl act session
    rw [List.foldl_map]
    rfl
  | _ => rfl

/-- **A run is the run of its steps.** -/
theorem runAll_steps (session : Session) (commands : List Command) :
    session.runAll (commands.flatMap Command.steps) = session.runAll commands := by
  induction commands generalizing session with
  | nil => rfl
  | cons command rest ih =>
    rw [List.flatMap_cons, runAll_append, runAll_steps_command]
    exact ih (session.run command)

/-- **What every step keeps, a run keeps**: a fact of the steps made so far and of the session they
lead to holds at the end of a run if it holds at its start and each kind of step keeps it. -/
theorem runAll_induction {session : Session} {commands : List Command}
    {motive : List Command → Session → Prop} (start : motive [] session)
    (action : ∀ {done here} action, motive done here →
      motive (done ++ [.actions [action]]) (here.act action))
    (record : ∀ {done here entry}, .record entry ∈ commands → motive done here →
      motive (done ++ [.record entry]) (here.record entry))
    (save : ∀ {done here}, motive done here → motive (done ++ [.save]) here.persist)
    (reload : ∀ {done here}, motive done here →
      motive (done ++ [.reload]) (.start here.calculator.mode here.storage)) :
    motive (commands.flatMap Command.steps) (session.runAll commands) := by
  have along (rest : List Command) : ∀ done here, motive done here →
      (∀ step ∈ rest, step ∈ commands.flatMap Command.steps) →
        motive (done ++ rest) (here.runAll rest) := by
    induction rest with
    | nil =>
      intro done here reached _
      rwa [List.append_nil]
    | cons step rest ih =>
      intro done here reached among
      obtain ⟨own, others⟩ := List.forall_mem_cons.mp among
      have next : motive (done ++ [step]) (here.run step) := by
        rcases Command.mem_steps own with ⟨one, rfl⟩ | ⟨entry, rfl, given⟩ | rfl | rfl
        · exact action one reached
        · exact record given reached
        · exact save reached
        · exact reload reached
      have rest_reached := ih (done ++ [step]) (here.run step) next others
      rwa [List.append_assoc] at rest_reached
  rw [← runAll_steps]
  exact along _ [] session start fun _ member => member

end Induction

end Session

end ScientificCalculator
