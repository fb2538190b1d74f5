/-
**The history is the newest part of a log.**

Beside a session runs a log that has no bound: it starts with what is loaded, gets every entry that
is recorded at its head and is emptied when the history is cleared. The history is at every moment
the first ten entries of this log, so the bound alone makes them differ: nothing else is lost,
doubled or put in another place.

* `Calculator.logAfter`, `Session.logAfter`, `Session.logAlong`: the log after an action, a command
  and a run.
* `History.record_ofEntries`: recording and keeping ten can change places.
* `Session.runAll_history`: the history of a run is the first part of its log.
* `Session.history_eq_take_log`: all of it, from any storage.
-/

import ScientificCalculator.Proofs.Session.Run

namespace ScientificCalculator

section Entries

/-- **An entry at the head of the kept ones** is the entry at the head of all, ten of them kept. -/
theorem History.record_ofEntries (entries : List Entry) (entry : Entry) :
    (ofEntries entries).record entry = ofEntries (entry :: entries) := by
  apply ext
  show (entry :: entries.take 10).take 10 = (entry :: entries).take 10
  rw [List.take_succ_cons, List.take_succ_cons, List.take_take]
  rfl

/-- All entries that a storage holds, however many. -/
def Storage.entries (storage : Storage) : List Entry :=
  (storage.text?.bind History.entries?).getD []

theorem Storage.load_eq (storage : Storage) : storage.load = .ofEntries storage.entries := by
  unfold load entries
  cases storage.text? with
  | none => rfl
  | some document =>
    show History.ofDocument document = .ofEntries ((History.entries? document).getD [])
    unfold History.ofDocument
    cases History.entries? document <;> rfl

end Entries

/-- The log after an action: an entry that is recorded comes to the head, and clearing leaves
nothing. -/
def Calculator.logAfter (calculator : Calculator) (log : List Entry) (action : Action) :
    List Entry :=
  if action = .clearHistory then [] else (calculator.recorded? action).toList ++ log

namespace Session

section Logs

/-- The log after actions, one after the other. -/
def logAfterActions (session : Session) (log : List Entry) : List Action → List Entry
  | [] => log
  | action :: rest =>
    (session.act action).logAfterActions (session.calculator.logAfter log action) rest

/-- The log after a command: with a new start it begins again with what is loaded. -/
def logAfter (session : Session) (log : List Entry) : Command → List Entry
  | .actions list => session.logAfterActions log list
  | .record entry => entry :: log
  | .save => log
  | .reload => session.storage.entries

/-- The log after a run. -/
def logAlong (session : Session) (log : List Entry) : List Command → List Entry
  | [] => log
  | command :: rest => (session.run command).logAlong (session.logAfter log command) rest

end Logs

section Refinement

variable {session : Session} {log : List Entry}

/-- **An action keeps the history the first part of the log.** -/
theorem act_history (kept : session.calculator.history = .ofEntries log) (action : Action) :
    (session.act action).calculator.history =
      .ofEntries (session.calculator.logAfter log action) := by
  rw [act_calculator, Calculator.logAfter]
  rcases session.calculator.act_cases action with ⟨entry, recorded, history, -⟩ |
    ⟨rfl, history, -⟩ | ⟨other, none, history, -⟩
  · have other : action ≠ .clearHistory := by
      obtain ⟨rfl, -⟩ := Calculator.recorded?_eq_some_iff.mp recorded
      decide
    rw [history, kept, History.record_ofEntries, if_neg other, recorded]
    rfl
  · rw [history, if_pos rfl]
    rfl
  · rw [history, kept, if_neg other, none]
    rfl

theorem foldl_act_history (kept : session.calculator.history = .ofEntries log)
    (list : List Action) :
    (list.foldl act session).calculator.history = .ofEntries (session.logAfterActions log list) := by
  induction list generalizing session log with
  | nil => exact kept
  | cons action rest ih => exact ih (act_history kept action)

/-- **A command keeps the history the first part of the log.** -/
theorem run_history (kept : session.calculator.history = .ofEntries log) (command : Command) :
    (session.run command).calculator.history = .ofEntries (session.logAfter log command) := by
  cases command with
  | actions list => exact foldl_act_history kept list
  | record entry =>
    show session.calculator.history.record entry = .ofEntries (entry :: log)
    rw [kept, History.record_ofEntries]
  | save =>
    show session.persist.calculator.history = .ofEntries log
    rw [persist_eq, kept]
  | reload => exact session.storage.load_eq

/-- **Along a run the history is the first part of the log.** -/
theorem runAll_history (kept : session.calculator.history = .ofEntries log)
    (commands : List Command) :
    (session.runAll commands).calculator.history = .ofEntries (session.logAlong log commands) := by
  induction commands generalizing session log with
  | nil => exact kept
  | cons command rest ih => exact ih (run_history kept command)

/-- **The history is the first ten entries of the log of the run**, from any storage and in any
mode, whether the log starts with the entries that were loaded or with all that the storage holds.
It never has more than ten entries, and neither a save nor an action that records nothing and does
not clear it makes a difference to it. -/
theorem history_eq_take_log (mode : AngleMode) (storage : Storage) (commands : List Command) :
    ((start mode storage).runAll commands).calculator.history.entries =
        ((start mode storage).logAlong storage.load.entries commands).take 10 ∧
      ((start mode storage).runAll commands).calculator.history.entries =
        ((start mode storage).logAlong storage.entries commands).take 10 ∧
      ((start mode storage).runAll commands).calculator.history.entries.length ≤ 10 ∧
      ∀ session : Session,
        (session.run .save).calculator = session.calculator ∧
        ∀ action, action ≠ .clearHistory → session.calculator.recorded? action = none →
          (session.act action).calculator.history = session.calculator.history := by
  have loaded : ((start mode storage).runAll commands).calculator.history =
      .ofEntries ((start mode storage).logAlong storage.load.entries commands) :=
    runAll_history storage.load.ofEntries_entries.symm commands
  have stored : ((start mode storage).runAll commands).calculator.history =
      .ofEntries ((start mode storage).logAlong storage.entries commands) :=
    runAll_history storage.load_eq commands
  refine ⟨by rw [loaded]; rfl, by rw [stored]; rfl, ?_, fun session => ⟨?_, ?_⟩⟩
  · rw [stored]
    exact List.length_take_le 10 _
  · show session.persist.calculator = session.calculator
    rw [persist_eq]
  · intro action other none
    rw [act_calculator]
    rcases session.calculator.act_cases action with ⟨entry, recorded, -⟩ | ⟨clears, -⟩ |
      ⟨-, -, same, -⟩
    · rw [none] at recorded
      cases recorded
    · exact absurd clears other
    · exact same

end Refinement

end Session

end ScientificCalculator
