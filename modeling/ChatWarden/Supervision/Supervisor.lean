import ChatWarden.Log.Record
import ChatWarden.Supervision.Task

/-!
# The supervisor

Tasks share a bounded number of slots, and each one holds a slot while it handles its line. The
supervisor keeps track of every task from its spawn to its end, counts those that failed, and can
wait for all of them or cancel them all. What is ready to run stands in a queue.

Results:
* `spawn`, `cancel`, `announce`, `join` and `shutDown` are what is asked of the supervisor from
  outside; each of them only changes the state and makes items ready.
-/

namespace ChatWarden.Supervision

/-- What is done once all tasks of a watch have ended. -/
inductive Sequel where
  /-- A wait for all tasks looks again whether some are left. -/
  | join (number : Nat)
  /-- A shutdown that cancelled a number of tasks is complete. -/
  | stopped (number cancelled : Nat)
  deriving DecidableEq, Repr

/-- What is ready to run. -/
inductive Item where
  /-- A task goes on. -/
  | advance (task : TaskId)
  /-- The supervisor learns of the end of a task. -/
  | settle (task : TaskId)
  /-- A watch learns of the end of a task. -/
  | report (watch : WatchId)
  | sequel (sequel : Sequel)
  deriving DecidableEq, Repr

/-- A watch over several tasks: how many of them have not been reported, and what follows. -/
structure Watch where
  missing : Nat
  sequel : Sequel
  deriving DecidableEq, Repr

/-- The state of the supervisor and its tasks. -/
structure Supervisor where
  /-- The number of slots that nobody holds or was granted. -/
  free : Nat
  /-- All tasks that were ever spawned. -/
  tasks : List Task := []
  /-- The tasks that are kept track of. -/
  tracked : List TaskId := []
  /-- The tasks that were given a slot and began, in the order in which they did. -/
  begun : List TaskId := []
  /-- The tasks that were closed after they had been cancelled; one that had not begun never
      will. -/
  closed : List TaskId := []
  failures : Nat := 0
  /-- The tasks that wait for a slot, in the order in which they came. -/
  line : List TaskId := []
  /-- The tasks that wait for events, in the order in which they came. -/
  sleepers : List (String × TaskId) := []
  /-- The events that have happened. -/
  happened : List String := []
  ready : List Item := []
  watches : List Watch := []
  /-- For each wait for all tasks, whether it is over. -/
  joins : List Bool := []
  /-- For each shutdown, whether it is over. -/
  stops : List Bool := []
  /-- The marks that tasks left, with their names. -/
  marks : List (String × String) := []
  /-- The tasks that told under which message they run, in the order in which they first did. -/
  told : List TaskId := []
  records : List Log.Record := []
  deriving DecidableEq, Repr

/-- The record of a failure that escaped from a task. -/
def escaped (name kind : String) : Log.Record :=
  ⟨.error, .supervisor, "Unhandled error in message task " ++ name, none, none, some kind⟩

/-- The record of a shutdown. -/
def stopped (cancelled : Nat) : Log.Record :=
  ⟨.info, .supervisor,
    "Task supervisor stopped (" ++ toString cancelled ++ " task(s) cancelled)", none, none, none⟩

namespace Supervisor

/-- A supervisor with a number of slots, which may not be negative. -/
def ofSlots? (slots : Int) : Option Supervisor :=
  if slots < 0 then none else some { free := slots.toNat }

/-- The supervisor with one task changed. -/
def withTask (s : Supervisor) (id : TaskId) (change : Task → Task) : Supervisor :=
  { s with tasks := s.tasks.modify id change }

/-- The supervisor with one more item ready, behind all others. -/
def soon (s : Supervisor) (item : Item) : Supervisor := { s with ready := s.ready ++ [item] }

/-- The name of a task. -/
def nameOf (s : Supervisor) (id : TaskId) : String := (s.tasks[id]?.map (·.name)).getD ""

/-- The supervisor with one more mark of a task. -/
def marked (s : Supervisor) (id : TaskId) (text : String) : Supervisor :=
  { s with marks := s.marks ++ [(s.nameOf id, text)] }

/-- The supervisor with one more mark that tells under which message a task runs. Messages are
    numbered in the order in which they are first told. -/
def markedMessage (s : Supervisor) (id : TaskId) : Supervisor :=
  let told := if s.told.contains id then s.told else s.told ++ [id]
  { s with told }.marked id ("id" ++ toString (told.idxOf id + 1))

/-- Spawns a task. -/
def spawn (s : Supervisor) (task : Task) : Supervisor :=
  let id := s.tasks.length
  { s with tasks := s.tasks ++ [task], tracked := s.tracked ++ [id] }.soon (.advance id)

/-- The state of the call that a task waits for. -/
def wakeOf (s : Supervisor) (id : TaskId) : Option Wake := s.tasks[id]?.bind Task.wake?

/-- Makes a task that waits ready, with its call come or withdrawn. -/
def callBack (s : Supervisor) (id : TaskId) (wake : Wake) : Supervisor :=
  (s.withTask id (Task.withWake wake)).soon (.advance id)

/-- Gives a task the call it waits for. -/
def grant (s : Supervisor) (id : TaskId) : Supervisor := s.callBack id .granted

/-- Makes an event happen: all tasks that wait for it are called, in the order in which they
    came. -/
def announce (s : Supervisor) (event : String) : Supervisor :=
  if s.happened.contains event then s
  else
    let called := s.sleepers.filter fun sleeper =>
      sleeper.1 == event && s.wakeOf sleeper.2 == some .pending
    called.foldl (fun s sleeper => s.grant sleeper.2)
      { s with happened := s.happened ++ [event] }

/-- Cancels a task. One that waits is called back at once; one that was already called, or has
    not begun, is cancelled when it runs. -/
def cancel (s : Supervisor) (id : TaskId) : Supervisor :=
  match s.tasks[id]? with
  | none => s
  | some task =>
    if task.isOver then s
    else if task.wake? == some .pending then s.callBack id .withdrawn
    else s.withTask id fun task => { task with isDoomed := true }

/-- Gives the first task in line the slot that came free, if a task waits for one. -/
def wakeNext (s : Supervisor) : Supervisor :=
  match s.line.find? fun id => s.wakeOf id == some .pending with
  | none => s
  | some id => { s with free := s.free - 1 }.grant id

/-- Gives a slot back. -/
def release (s : Supervisor) : Supervisor := { s with free := s.free + 1 }.wakeNext

/-- Whether a task that comes now has to wait: no slot is free, or others came before. -/
def isFull (s : Supervisor) : Bool :=
  s.free == 0 || s.line.any fun id => s.wakeOf id != some .withdrawn

/-- Lets a watch learn of the end of a task, also if it has come already. -/
def attend (watch : WatchId) (s : Supervisor) (id : TaskId) : Supervisor :=
  if (s.tasks[id]?.map Task.isOver).getD true then s.soon (.report watch)
  else s.withTask id fun task => { task with watches := task.watches ++ [watch] }

/-- Watches over tasks: what follows becomes ready when the ends of all of them were reported. -/
def watch (s : Supervisor) (ids : List TaskId) (sequel : Sequel) : Supervisor :=
  ids.foldl (attend s.watches.length) { s with watches := s.watches ++ [⟨ids.length, sequel⟩] }

/-- Begins to wait until no task is left. -/
def join (s : Supervisor) : Supervisor :=
  { s with joins := s.joins ++ [false] }.soon (.sequel (.join s.joins.length))

/-- The supervisor with one more record. -/
def wrote (s : Supervisor) (record : Log.Record) : Supervisor :=
  { s with records := s.records ++ [record] }

/-- Begins to shut down: cancels all tasks that are kept track of and watches over them. Without
    such tasks the shutdown is complete at once. -/
def shutDown (s : Supervisor) : Supervisor :=
  let tasks := s.tracked
  let number := s.stops.length
  if tasks.isEmpty then { s with stops := s.stops ++ [true] }.wrote (stopped 0)
  else (tasks.foldl cancel { s with stops := s.stops ++ [false] }).watch tasks
    (.stopped number tasks.length)

end Supervisor

end ChatWarden.Supervision
