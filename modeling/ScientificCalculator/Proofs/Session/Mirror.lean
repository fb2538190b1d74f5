/-
**A file mirrors the history.**

A session whose history is kept in a file loads, at every moment of a run in which nothing is
recorded but by evaluation, the very history it shows: the file is written when the history changes
and when it is saved, and at no other time. So a new start on the same file finds the same entries.

* `Session.Mirrors`: the session's history is what its file holds.
* `Session.act_mirrors`, `Session.runAll_mirrors`: an action and a run keep this.
* `Session.act_storage_cases`: the actions that change what is stored.
* `Session.file_mirrors_history`: all of it, from any file.
-/

import ScientificCalculator.Proofs.Session.Run

namespace ScientificCalculator

namespace Session

section Steps

variable {session : Session}

/-- The history of the session is the one its file holds. -/
structure Mirrors (session : Session) : Prop where
  isFile : ∃ content, session.storage = .file content
  load_eq : session.storage.load = session.calculator.history

/-- A history that was written to a file is mirrored there. -/
theorem mirrors_holding (calculator : Calculator) (content : Option ByteArray) :
    Mirrors ⟨calculator, (Storage.file content).holding calculator.history⟩ :=
  ⟨⟨_, rfl⟩, Storage.load_document calculator.history⟩

/-- **A save makes the file mirror the history**, whatever it held before. -/
theorem persist_mirrors (isFile : ∃ content, session.storage = .file content) :
    session.persist.Mirrors := by
  obtain ⟨content, storage⟩ := isFile
  rw [persist_eq, storage]
  exact mirrors_holding session.calculator content

/-- **An action that changes what is stored** clears the history or evaluates an expression with a
value. -/
theorem act_storage_cases (session : Session) (action : Action) :
    (session.act action).storage = session.storage ∨ action = .clearHistory ∨
      action = .equals ∧ ∃ evaluation,
        evaluate session.calculator.expression session.calculator.mode = .ok (some evaluation) := by
  rcases session.calculator.act_cases action with ⟨entry, recorded, -⟩ | ⟨clears, -⟩ |
    ⟨-, -, -, unsaved⟩
  · obtain ⟨equals, evaluation, accepted, -⟩ := Calculator.recorded?_eq_some_iff.mp recorded
    exact Or.inr (Or.inr ⟨equals, evaluation, accepted⟩)
  · exact Or.inr (Or.inl clears)
  · refine Or.inl ?_
    rw [act_storage, unsaved]
    rfl

/-- **An action keeps the file a mirror**: a history that changed is saved, and one that was not
saved has not changed. -/
theorem act_mirrors (mirrors : session.Mirrors) (action : Action) :
    (session.act action).Mirrors := by
  obtain ⟨content, storage⟩ := mirrors.isFile
  have saved (saves : (session.calculator.act action).saves = true) :
      (session.act action).Mirrors := by
    have stored := session.act_storage action
    rw [saves, if_pos rfl, storage, ← act_calculator] at stored
    have written := mirrors_holding (session.act action).calculator content
    rwa [← stored] at written
  rcases session.calculator.act_cases action with ⟨_, -, -, saves⟩ | ⟨-, -, saves⟩ |
    ⟨-, -, same, unsaved⟩
  · exact saved saves
  · exact saved saves
  · have stored := session.act_storage action
    rw [unsaved, if_neg Bool.false_ne_true] at stored
    refine ⟨⟨content, stored.trans storage⟩, ?_⟩
    rw [stored, act_calculator, same, mirrors.load_eq]

/-- A session just started on a file shows what the file holds. -/
theorem start_mirrors (mode : AngleMode) (content : Option ByteArray) :
    (start mode (.file content)).Mirrors :=
  ⟨⟨content, rfl⟩, rfl⟩

end Steps

section Runs

variable {session : Session} {commands : List Command}

/-- **A run keeps the file a mirror** when nothing is recorded but by evaluation. -/
theorem runAll_mirrors (mirrors : session.Mirrors) (kept : ∀ entry, .record entry ∉ commands) :
    (session.runAll commands).Mirrors := by
  refine runAll_induction (motive := fun _ here => here.Mirrors) mirrors ?_ ?_ ?_ ?_
  · exact fun action reached => act_mirrors reached action
  · exact fun given _ => absurd given (kept _)
  · exact fun reached => persist_mirrors reached.isFile
  · intro _ here reached
    exact ⟨reached.isFile, rfl⟩

/-- A new start on a file that mirrors the history shows the same history. -/
theorem reload_of_mirrors (mirrors : session.Mirrors) :
    session.run .reload =
      ⟨.start session.calculator.mode session.calculator.history, session.storage⟩ := by
  rw [← mirrors.load_eq]
  rfl

/-- **A file mirrors the history** in every run in which nothing is recorded but by evaluation,
whatever the file holds at first. A new start then finds the same entries in the same order and the
same mode, and nothing else of the session. What is stored is changed by the evaluation of an
expression with a value, by clearing the history and by saving it, and by nothing else. -/
theorem file_mirrors_history (mode : AngleMode) (content : Option ByteArray)
    (kept : ∀ entry, .record entry ∉ commands) :
    let session := (start mode (.file content)).runAll commands
    session.storage.load = session.calculator.history ∧
      session.run .reload =
        { calculator :=
            { expression := "", result := "0", derivation := ⟨"", "", "", ""⟩, memory := 0
              mode := session.calculator.mode, history := session.calculator.history }
          storage := session.storage } ∧
      (∀ action, (session.act action).storage = session.storage ∨ action = .clearHistory ∨
        action = .equals ∧ ∃ evaluation, evaluate session.calculator.expression
          session.calculator.mode = .ok (some evaluation)) ∧
      (∀ entry, (session.run (.record entry)).storage = session.storage) ∧
      (session.run .reload).storage = session.storage := by
  intro session
  have mirrors : session.Mirrors := runAll_mirrors (start_mirrors mode content) kept
  exact ⟨mirrors.load_eq, reload_of_mirrors mirrors, session.act_storage_cases,
    fun _ => rfl, rfl⟩

/-- A file with too many entries is loaded in part, and written again with the new entry. -/
theorem file_mirrors_history_eviction :
    let entries := List.replicate 12 ⟨"1+1", "2"⟩
    let commands := [.actions (Action.enter "5!"), .actions [.memoryAdd, .toggleMode]]
    let session := (start .degrees (.file (some (History.documentOf entries).toUTF8))).runAll commands
    (∀ entry, .record entry ∉ commands) ∧ session.storage.load = session.calculator.history ∧
      session.storage.load.entries = ⟨"5!", "120"⟩ :: List.replicate 9 ⟨"1+1", "2"⟩ := by
  intro entries commands session
  have kept : ∀ entry, .record entry ∉ commands := by simp [commands]
  obtain ⟨mirrored, -⟩ :=
    file_mirrors_history .degrees (some (History.documentOf entries).toUTF8) kept
  have started : start .degrees (.file (some (History.documentOf entries).toUTF8)) =
      ⟨.start .degrees (.ofEntries entries), .file (some (History.documentOf entries).toUTF8)⟩ := by
    rw [start, Storage.load_documentOf]
  have shown : session.calculator.history.entries =
      ⟨"5!", "120"⟩ :: List.replicate 9 ⟨"1+1", "2"⟩ := by
    show ((start .degrees _).runAll commands).calculator.history.entries = _
    rw [started]
    decide +kernel
  exact ⟨kept, mirrored, (congrArg History.entries mirrored).trans shown⟩

end Runs

end Session

end ScientificCalculator
