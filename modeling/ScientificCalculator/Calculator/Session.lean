/-
**A calculator with its storage.**

The history is loaded when a session starts and saved after every successful evaluation and when it
is cleared. A save that fails is forgotten: the session goes on with the history in memory.

* `Session`: a calculator and the place of its history.
* `Command`: actions, and the direct uses of the history.
* `Session.run`: the session after a command.
-/

import ScientificCalculator.Calculator.Basic
import ScientificCalculator.History.Storage

namespace ScientificCalculator

/-- A calculator and the place where its history is stored. -/
structure Session where
  calculator : Calculator
  storage : Storage

/-- What can be asked of a session: actions in their order, an entry recorded without saving, the
history saved, and a new start on the same storage. -/
inductive Command
  | actions (list : List Action)
  | record (entry : Entry)
  | save
  | reload

namespace Session

/-- A session just started, with the history found in its storage. -/
def start (mode : AngleMode) (storage : Storage) : Session :=
  ⟨.start mode storage.load, storage⟩

/-- The storage after an attempt to save the history. -/
def save (session : Session) : Except StorageFault Storage :=
  session.storage.save session.calculator.history

/-- The session after an attempt to save, whatever comes of it. -/
def persist (session : Session) : Session :=
  match session.save with
  | .ok storage => { session with storage := storage }
  | .error _ => session

/-- The session after an action. -/
def act (session : Session) (action : Action) : Session :=
  let reaction := session.calculator.act action
  let next : Session := { session with calculator := reaction.calculator }
  if reaction.saves then next.persist else next

/-- The session with an entry recorded. -/
def record (session : Session) (entry : Entry) : Session :=
  { session with
    calculator := { session.calculator with
      history := session.calculator.history.record entry } }

/-- The session after a command. -/
def run (session : Session) : Command → Session
  | .actions list => list.foldl act session
  | .record entry => session.record entry
  | .save => session.persist
  | .reload => start session.calculator.mode session.storage

end Session

end ScientificCalculator
