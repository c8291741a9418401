import ChatWarden.Log.Record
import ChatWarden.Work.Fault

/-!
# Closers

Components that hold resources register a closer each. When the bot ends, all closers run, the
one that was registered last first; one that fails does not keep the others from running, but one
that is cancelled does. A closer may itself register closers or ask for all closers to run.

Results:
* `Closers.shutDown` runs all closers and those that they make run; it ends because every closer
  that is registered meanwhile is a part of one that was there before.
-/

namespace ChatWarden

/-- How something ends that is waited for. -/
inductive Ending where
  | returned
  | failed (fault : Fault)
  /-- It was cancelled, which no handler of faults stops. -/
  | cancelled
  deriving DecidableEq, Repr

/-- What a closer does. -/
inductive Closer where
  /-- It ends. -/
  | ends (ending : Ending)
  /-- It writes a record and goes on. -/
  | writes (record : Log.Record) (rest : Closer)
  /-- It registers another closer and goes on. -/
  | registers (name : String) (closer rest : Closer)
  /-- It runs all closers that are registered and goes on, in another way if that was cancelled. -/
  | shutsDown (rest cancelled : Closer)
  deriving Repr

namespace Closer

/-- A closer that does nothing that can be seen. -/
def silent : Closer := .ends .returned

/-- An upper bound for the number of steps that a closer takes, those of the closers that it
    registers included. -/
def weight : Closer → Nat
  | .ends _ => 1
  | .writes _ rest => rest.weight + 1
  | .registers _ closer rest => closer.weight + rest.weight + 2
  | .shutsDown rest cancelled => rest.weight + cancelled.weight + 3

end Closer

/-- A closer that was registered under a name, with the number of the registration. -/
structure Registration where
  number : Nat
  name : String
  closer : Closer
  deriving Repr

/-- What can be seen of closers: records, and that the closer of a registration was run. -/
inductive Closers.Event where
  | wrote (record : Log.Record)
  | ran (registration : Nat) (name : String)
  deriving DecidableEq, Repr

/-- The registered closers in the order of their registration, the number of all registrations so
    far, and what could be seen. -/
structure Closers where
  registered : List Registration := []
  count : Nat := 0
  events : List Closers.Event := []
  deriving Repr

namespace Closers

/-- What is left to do while closers run. -/
inductive Task where
  /-- The closer of a registration is to be run. -/
  | run (registration : Registration)
  /-- The rest of a closer that was registered under a name. -/
  | rest (name : String) (closer : Closer)
  /-- A closer goes on behind the shutdown that it asked for. -/
  | resume (name : String) (next cancelled : Closer)
  /-- All closers of a shutdown have been run. -/
  | finish

/-- An upper bound for the number of steps of a task. -/
def Task.weight : Task → Nat
  | .run registration => registration.closer.weight + 1
  | .rest _ closer => closer.weight
  | .resume _ next cancelled => next.weight + cancelled.weight + 1
  | .finish => 1

/-- An upper bound for the number of steps of some tasks. -/
def weightOf : List Task → Nat
  | [] => 0
  | task :: rest => task.weight + weightOf rest

/-- An upper bound for the number of steps of all registered closers. -/
def weight (closers : Closers) : Nat := weightOf (closers.registered.map .run)

/-- A record about closers. -/
def record (level : Log.Level) (message : String) : Log.Record :=
  ⟨level, .closers, message, none, none, none⟩

/-- With one more record. -/
def wrote (closers : Closers) (level : Log.Level) (message : String) : Closers :=
  { closers with events := closers.events ++ [.wrote (record level message)] }

/-- Registers a closer under a name. -/
def register (closers : Closers) (name : String) (closer : Closer) : Closers :=
  let registration : Registration := ⟨closers.count, name, closer⟩
  let closers : Closers := { closers with
    registered := closers.registered ++ [registration], count := closers.count + 1 }
  closers.wrote .debug ("Registered lifecycle component: " ++ name)

/-- The tasks of a shutdown: all registered closers, the last one first. -/
def shutdownTasks (closers : Closers) : List Task :=
  if closers.registered.isEmpty then []
  else closers.registered.reverse.map .run ++ [.finish]

/-- The tasks behind the shutdown that is under way, which was cancelled: those of the closer that
    asked for it, if one did. -/
def unwound : List Task → Option (List Task)
  | [] => none
  | .resume name _ cancelled :: tasks => some (.rest name cancelled :: tasks)
  | _ :: tasks => unwound tasks

theorem weightOf_append (a b : List Task) : weightOf (a ++ b) = weightOf a + weightOf b := by
  induction a with
  | nil => simp [weightOf]
  | cons task rest ih => simp only [List.cons_append, weightOf, ih]; omega

theorem weightOf_reverse (tasks : List Task) : weightOf tasks.reverse = weightOf tasks := by
  induction tasks with
  | nil => rfl
  | cons task rest ih =>
    simp only [List.reverse_cons, weightOf_append, weightOf, ih]; omega

theorem weightOf_shutdownTasks_le (closers : Closers) :
    weightOf closers.shutdownTasks ≤ closers.weight + 1 := by
  unfold shutdownTasks
  split
  · simp [weightOf]
  · rw [weightOf_append, List.map_reverse, weightOf_reverse]
    simp [weightOf, weight, Task.weight]

theorem weightOf_unwound_le {tasks left : List Task} (h : unwound tasks = some left) :
    weightOf left ≤ weightOf tasks := by
  fun_induction unwound tasks with
  | case1 => cases h
  | case2 name next cancelled tasks =>
    obtain rfl := Option.some.inj h
    simp only [weightOf, Task.weight]
    omega
  | case3 task tasks _ ih =>
    have := ih h
    simp only [weightOf]
    omega

/-- Does what is left to do, and tells whether a closer was cancelled and nobody went on behind
    it. -/
def work (closers : Closers) : List Task → Closers × Bool
  | [] => (closers, false)
  | .finish :: tasks => (closers.wrote .info "All lifecycle components stopped").work tasks
  | .run registration :: tasks =>
    let closers := closers.wrote .info ("Stopping " ++ registration.name)
    let closers : Closers := { closers with
      events := closers.events ++ [.ran registration.number registration.name] }
    closers.work (.rest registration.name registration.closer :: tasks)
  | .rest _ (.ends .returned) :: tasks => closers.work tasks
  | .rest name (.ends (.failed fault)) :: tasks =>
    (closers.wrote .error
      ("Error shutting down " ++ name ++ ": " ++ fault.shown)).work tasks
  | .rest _ (.ends .cancelled) :: tasks =>
    match _h : unwound tasks with
    | none => (closers, true)
    | some left => closers.work left
  | .rest name (.writes record rest) :: tasks =>
    let closers : Closers := { closers with events := closers.events ++ [.wrote record] }
    closers.work (.rest name rest :: tasks)
  | .rest name (.registers other closer rest) :: tasks =>
    (closers.register other closer).work (.rest name rest :: tasks)
  | .rest name (.shutsDown rest cancelled) :: tasks =>
    let emptied : Closers := { closers with registered := [] }
    emptied.work (closers.shutdownTasks ++ .resume name rest cancelled :: tasks)
  | .resume name next _ :: tasks => closers.work (.rest name next :: tasks)
termination_by tasks => weightOf tasks + closers.weight
decreasing_by
  · simp [weightOf, weight, wrote, Task.weight]
  · simp [weightOf, weight, wrote, Task.weight]
  · simp [weightOf, weight, Task.weight, Closer.weight]
  · simp [weightOf, weight, wrote, Task.weight, Closer.weight]
  · have := weightOf_unwound_le _h
    simp [weightOf, weight, Task.weight, Closer.weight]
    omega
  · simp [weightOf, weight, Task.weight, Closer.weight]
  · simp [weightOf, weightOf_append, weight, register, wrote, Task.weight, Closer.weight]
    omega
  · have := weightOf_shutdownTasks_le closers
    simp [weightOf, weightOf_append, weight, Task.weight, Closer.weight] at *
    omega
  · simp only [weightOf, Task.weight]
    omega

/-- Runs all registered closers, and tells whether one was cancelled. Those that were not run by
    then are not registered any more. -/
def shutDown (closers : Closers) : Closers × Bool :=
  let emptied : Closers := { closers with registered := [] }
  emptied.work closers.shutdownTasks

/-- The records among what could be seen. -/
def records (closers : Closers) : List Log.Record :=
  closers.events.filterMap fun
    | .wrote record => some record
    | .ran _ _ => none

end Closers

end ChatWarden
