/-!
# Tasks

A task handles one chat line. What it does is a list of acts; where it stands is a phase: it has
not begun, it waits for a slot, it runs, it waits for an event while it holds a slot, or it has
ended.

Results:
* `Task.ending?`, `Task.isOver` and `Task.wake?` read the phase.
-/

namespace ChatWarden.Supervision

/-- The number of a task, in the order in which tasks are spawned. -/
abbrev TaskId := Nat

/-- The number of a watch over several tasks. -/
abbrev WatchId := Nat

/-- One act of a task. -/
inductive Act where
  /-- It leaves a mark that can be seen from outside. -/
  | mark (text : String)
  /-- It leaves a mark that tells under which message it runs. -/
  | markMessage
  /-- It waits until an event has happened. -/
  | await (event : String)
  /-- It makes an event happen; events do not unhappen. -/
  | announce (event : String)
  /-- It fails. -/
  | fail (kind : String)
  /-- It ends as if it had been cancelled. -/
  | giveUp
  /-- It ends, unless it is cancelled before: then it goes on behind this act. -/
  | rescue
  /-- It spawns a task that leaves two marks. -/
  | spawn (name : String)
  deriving DecidableEq, Repr

/-- The state of the call that a waiting task hopes for. -/
inductive Wake where
  /-- It has not come. -/
  | pending
  /-- It has come. -/
  | granted
  /-- It will not come, because the task was cancelled first. -/
  | withdrawn
  deriving DecidableEq, Repr

/-- How a task ended. -/
inductive Ending where
  | completed
  | failed (kind : String)
  | cancelled
  deriving DecidableEq, Repr

/-- Where a task stands. -/
inductive Phase where
  /-- It has not begun. -/
  | fresh
  /-- It waits for a slot. -/
  | queued (wake : Wake)
  /-- It holds a slot and does what it has to do. -/
  | running
  /-- It holds a slot and waits for an event. -/
  | waiting (wake : Wake)
  | over (ending : Ending)
  deriving DecidableEq, Repr

/-- A task. -/
structure Task where
  name : String
  /-- What it has still to do. -/
  acts : List Act
  /-- Whether it ends normally when it is cancelled. -/
  survives : Bool := false
  phase : Phase := .fresh
  /-- Whether it will be cancelled as soon as it runs. -/
  isDoomed : Bool := false
  /-- The watches that its end is reported to. -/
  watches : List WatchId := []
  deriving DecidableEq, Repr

namespace Task

/-- How a task ended, if it has. -/
def ending? (task : Task) : Option Ending :=
  match task.phase with
  | .over ending => some ending
  | _ => none

/-- Whether a task has ended. -/
def isOver (task : Task) : Bool := task.ending?.isSome

/-- The call that a task waits for. -/
def wake? (task : Task) : Option Wake :=
  match task.phase with
  | .queued wake => some wake
  | .waiting wake => some wake
  | _ => none

/-- A task in another state of its call; one that waits for none stays as it is. -/
def withWake (wake : Wake) (task : Task) : Task :=
  match task.phase with
  | .queued _ => { task with phase := .queued wake }
  | .waiting _ => { task with phase := .waiting wake }
  | _ => task

end Task

/-- What a task does that was spawned by another one. -/
def childActs : List Act := [.mark "child", .markMessage]

end ChatWarden.Supervision
