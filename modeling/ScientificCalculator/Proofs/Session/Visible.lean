/-
**The place of the history is not seen.**

What a session shows is its calculator: the expression, the result, the memory, the mode, the
history and the steps of the last evaluation. Once a session has started, its calculator goes on in
the same way wherever the history is stored, whether it can be saved there or not; only a new start
looks at the place again.

* `Calculator.perform`: the calculator after actions, with no place for its history.
* `Session.run_calculator_eq`: a command does the same to the same calculator at any two places.
* `Session.seenAlong`, `Session.seenAmid`: what is shown along a run, at one place and at places
  that change between the commands.
* `Session.storage_unseen`: the runs from places where nothing is found show the same.
-/

import ScientificCalculator.Proofs.Session.Run

namespace ScientificCalculator

section Actions

/-- The calculator after actions, one after the other. -/
def Calculator.perform (calculator : Calculator) (list : List Action) : Calculator :=
  list.foldl (fun here action => (here.act action).calculator) calculator

/-- **The actions of a session are those of its calculator.** -/
theorem Session.foldl_act_calculator (session : Session) (list : List Action) :
    (list.foldl act session).calculator = session.calculator.perform list := by
  induction list generalizing session with
  | nil => rfl
  | cons action rest ih =>
    show (rest.foldl act (session.act action)).calculator = _
    rw [ih, act_calculator]
    rfl

end Actions

namespace Session

section Commands

variable {one other : Session} {command : Command}

/-- **A command does the same to the same calculator**, whatever the two places are and whatever
becomes of a save there. A new start is the one command that looks at the place. -/
theorem run_calculator_eq (same : one.calculator = other.calculator) (kept : command ≠ .reload) :
    (one.run command).calculator = (other.run command).calculator := by
  cases command with
  | actions list =>
    show (list.foldl act one).calculator = (list.foldl act other).calculator
    rw [foldl_act_calculator, foldl_act_calculator, same]
  | record entry =>
    show (one.record entry).calculator = (other.record entry).calculator
    unfold record
    rw [same]
  | save =>
    show one.persist.calculator = other.persist.calculator
    rw [persist_eq, persist_eq]
    exact same
  | reload => exact absurd rfl kept

end Commands

section Runs

/-- What is shown at the start of a run and after each of its commands. -/
def seenAlong (session : Session) : List Command → List Calculator
  | [] => [session.calculator]
  | command :: rest => session.calculator :: (session.run command).seenAlong rest

/-- What is shown along a run when the place of the history is exchanged for another one before each
command. -/
def seenAmid (session : Session) : List (Storage × Command) → List Calculator
  | [] => [session.calculator]
  | (place, command) :: rest =>
    session.calculator :: (run { session with storage := place } command).seenAmid rest

variable {one other : Session}

/-- **Runs from the same calculator show the same**, wherever they store their histories. -/
theorem seenAlong_eq (same : one.calculator = other.calculator) {commands : List Command}
    (kept : .reload ∉ commands) : one.seenAlong commands = other.seenAlong commands := by
  induction commands generalizing one other with
  | nil => exact congrArg (fun shown => [shown]) same
  | cons command rest ih =>
    obtain ⟨own, others⟩ := not_or.mp (mt List.mem_cons.mpr kept)
    have next := run_calculator_eq same (Ne.symm own)
    rw [seenAlong, seenAlong, same, ih next others]

/-- **So do runs whose places change between the commands.** -/
theorem seenAmid_eq (same : one.calculator = other.calculator) {steps : List (Storage × Command)}
    (kept : .reload ∉ steps.map Prod.snd) :
    one.seenAmid steps = other.seenAlong (steps.map Prod.snd) := by
  induction steps generalizing one other with
  | nil => exact congrArg (fun shown => [shown]) same
  | cons step rest ih =>
    obtain ⟨place, command⟩ := step
    obtain ⟨own, others⟩ := not_or.mp (mt List.mem_cons.mpr kept)
    have moved : Session.calculator { one with storage := place } = other.calculator := same
    have next := run_calculator_eq moved (Ne.symm own)
    show one.calculator :: (run { one with storage := place } command).seenAmid rest =
      other.calculator :: (other.run command).seenAlong (rest.map Prod.snd)
    rw [ih next others, same]

/-- Sessions that find the same history start with the same calculator. -/
theorem start_calculator_eq (mode : AngleMode) {first second : Storage}
    (same : first.load = second.load) :
    (start mode first).calculator = (start mode second).calculator :=
  congrArg (Calculator.start mode) same

/-- Nothing is found where no history has been stored yet, and where none can be. -/
theorem load_eq_empty {storage : Storage}
    (vacant : storage ∈ [.memory, .file none, .directory, .underFile]) : storage.load = .empty := by
  simp only [List.mem_cons, List.not_mem_nil, or_false] at vacant
  rcases vacant with rfl | rfl | rfl | rfl <;> rfl

/-- **The place of the history is not seen.** Without a new start, a run in memory, one on a file
that does not exist, one on a directory and one under a regular file show the same at the start and
after every command. So does every run from a place where nothing is found, even when the place is
exchanged before each command, so that each save may succeed or fail whatever became of the
others. -/
theorem storage_unseen (mode : AngleMode) {commands : List Command} (kept : .reload ∉ commands) :
    (∀ first ∈ [.memory, .file none, .directory, .underFile],
      ∀ second ∈ [.memory, .file none, .directory, .underFile],
        (start mode first).seenAlong commands = (start mode second).seenAlong commands) ∧
    ∀ (storage : Storage) (steps : List (Storage × Command)), storage.load = .empty →
      steps.map Prod.snd = commands →
        (start mode storage).seenAmid steps = (start mode .memory).seenAlong commands := by
  constructor
  · intro first among second amongOther
    have same := (load_eq_empty among).trans (load_eq_empty amongOther).symm
    exact seenAlong_eq (start_calculator_eq mode same) kept
  · rintro storage steps nothing rfl
    exact seenAmid_eq (start_calculator_eq mode nothing) kept

/-- A run on a directory, where every save fails, shows what a run on a file shows, where every save
succeeds. -/
theorem storage_unseen_directory :
    let commands := [.actions (Action.enter "5!"), .save, .actions [.toggleMode, .reuse 0]]
    .reload ∉ commands ∧ (∀ calculator, save ⟨calculator, .directory⟩ = .error .isDirectory) ∧
      ((start .degrees .directory).runAll commands).calculator.history.entries = [⟨"5!", "120"⟩] ∧
      (start .degrees .directory).seenAlong commands =
        (start .degrees (.file none)).seenAlong commands ∧
      (start .degrees .directory).seenAmid
          [(.file none, .actions (Action.enter "5!")), (.underFile, .save),
            (.directory, .actions [.toggleMode, .reuse 0])] =
        (start .degrees .memory).seenAlong commands := by
  intro commands
  have kept : .reload ∉ commands := by simp [commands]
  obtain ⟨placed, moved⟩ := storage_unseen .degrees kept
  exact ⟨kept, fun _ => rfl, by decide +kernel, placed _ (by simp) _ (by simp),
    moved .directory _ rfl rfl⟩

end Runs

end Session

end ScientificCalculator
