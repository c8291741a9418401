import ChatWarden.Proofs.Closers.Turns
import Mathlib.Data.List.Perm.Basic

/-!
# The history of closers

Everything that happens to closers of which none is ever cancelled, in order, is a history:
registrations, shutdowns that begin, the closers that each shutdown runs, and how they end. The
closers are what their history makes of them, so all that a run comes to can be read off the
history.

Results:
* `played_eq`: the closers after any calls are those of the recorded history.
* `worked_induct`: what every step keeps holds of the history of whole shutdowns.
-/

namespace ChatWarden

/-- The fault of something that ended. -/
def Ending.fault? : Ending → Option Fault
  | .failed fault => some fault
  | _ => none

/-- The fault with which a closer ends that is never cancelled, if it does with one. -/
def Closer.fault? : Closer → Option Fault
  | .ends ending => ending.fault?
  | .writes _ rest => rest.fault?
  | .registers _ _ rest => rest.fault?
  | .shutsDown rest _ => rest.fault?

namespace Closers

/-! ## Histories -/

/-- Something that happens to closers. Shutdowns are numbered from the first one on. -/
inductive Deed where
  /-- A closer is registered. -/
  | registers (registration : Registration)
  /-- A shutdown begins. -/
  | shutsDown
  /-- A shutdown runs a closer. -/
  | runs (shutdown : Nat) (registration : Registration)
  /-- A closer writes a record. -/
  | writes (record : Log.Record)
  /-- The closer that a shutdown runs ends, with a fault or without. -/
  | ends (shutdown : Nat) (registration : Registration) (fault : Option Fault)
  /-- A shutdown that ran closers is over. -/
  | stops
  /-- A closer goes on behind the shutdown that it called. -/
  | resumes

/-- The record about a closer that failed. -/
def failed (name : String) (fault : Fault) : Log.Record :=
  record .error ("Error shutting down " ++ name ++ ": " ++ fault.shown)

namespace Deed

/-- What can be seen of a deed. -/
def events : Deed → List Event
  | .registers r => [.wrote (record .debug ("Registered lifecycle component: " ++ r.name))]
  | .shutsDown => []
  | .runs _ r => [.wrote (record .info ("Stopping " ++ r.name)), .ran r.number r.name]
  | .writes written => [.wrote written]
  | .ends _ r fault => (fault.map fun fault => .wrote (failed r.name fault)).toList
  | .stops => [allStopped]
  | .resumes => []

/-- The registration that is made. -/
def registered? : Deed → Option Registration
  | .registers r => some r
  | _ => none

/-- The registration whose closer is run. -/
def ran? : Deed → Option Registration
  | .runs _ r => some r
  | _ => none

/-- The registration whose closer ends, and the fault with which it does. -/
def ended? : Deed → Option (Registration × Option Fault)
  | .ends _ r fault => some (r, fault)
  | _ => none

/-- The record that a closer writes. -/
def written? : Deed → Option Log.Record
  | .writes written => some written
  | _ => none

/-- Whether a shutdown begins. -/
def isShutdown : Deed → Bool
  | .shutsDown => true
  | _ => false

/-- Whether a shutdown of a number runs a closer, or one that it runs ends. -/
def isOf (shutdown : Nat) : Deed → Bool
  | .runs n _ => n == shutdown
  | .ends n _ _ => n == shutdown
  | _ => false

/-- The registrations that wait for a shutdown. -/
def waitingAfter (waiting : List Registration) : Deed → List Registration
  | .registers r => waiting ++ [r]
  | .shutsDown => []
  | _ => waiting

end Deed

/-- What happened to closers, in order. -/
abbrev History := List Deed

namespace History

/-- All registrations. -/
def registrations (history : History) : List Registration := history.filterMap Deed.registered?

/-- The registrations whose closers were run. -/
def ran (history : History) : List Registration := history.filterMap Deed.ran?

/-- The registrations whose closers ended, and the faults with which they did. -/
def ended (history : History) : List (Registration × Option Fault) :=
  history.filterMap Deed.ended?

/-- The records that closers wrote. -/
def written (history : History) : List Log.Record := history.filterMap Deed.written?

/-- The number of shutdowns that began. -/
def shutdowns (history : History) : Nat := history.countP Deed.isShutdown

/-- The deeds of one shutdown. -/
def deedsOf (shutdown : Nat) (history : History) : List Deed := history.filter (·.isOf shutdown)

/-- The registrations since the last shutdown began, in their order. -/
def waiting (history : History) : List Registration := history.foldl Deed.waitingAfter []

/-- The closers that a history makes. -/
def closers (history : History) : Closers where
  registered := history.waiting
  count := history.registrations.length
  events := history.flatMap Deed.events

theorem waiting_concat (history : History) (deed : Deed) :
    waiting (history ++ [deed]) = deed.waitingAfter history.waiting := by
  rw [waiting, List.foldl_append]
  rfl

theorem waiting_shutsDown (before after : History) :
    waiting (before ++ .shutsDown :: after) = waiting after := by
  rw [waiting, List.foldl_append]
  rfl

theorem shutdowns_concat (history : History) (deed : Deed) :
    shutdowns (history ++ [deed]) = history.shutdowns + if deed.isShutdown then 1 else 0 := by
  rw [shutdowns, List.countP_append, List.countP_singleton]
  rfl

theorem registrations_append (front back : History) :
    registrations (front ++ back) = front.registrations ++ back.registrations :=
  List.filterMap_append

theorem closers_concat (history : History) (deed : Deed) :
    closers (history ++ [deed]) = ⟨deed.waitingAfter history.waiting,
      history.registrations.length + (deed.registered?.toList).length,
      history.closers.events ++ deed.events⟩ := by
  rw [closers, waiting_concat, registrations_append, List.length_append, List.flatMap_append,
    List.flatMap_singleton]
  cases deed <;> rfl

end History

/-! ## Steps -/

/-- What is left to do while closers run, with the shutdown that does it. -/
inductive Chore where
  /-- The closer of a registration is to be run. -/
  | run (shutdown : Nat) (registration : Registration)
  /-- The rest of the closer of a registration. -/
  | rest (shutdown : Nat) (registration : Registration) (closer : Closer)
  /-- The closer of a registration goes on behind the shutdown that it called. -/
  | resume (shutdown : Nat) (registration : Registration) (next cancelled : Closer)
  /-- All closers of a shutdown have been run. -/
  | finish

/-- A chore as a task. -/
def Chore.task : Chore → Task
  | .run _ r => .run r
  | .rest _ r closer => .rest r.name closer
  | .resume _ r next cancelled => .resume r.name next cancelled
  | .finish => .finish

namespace History

/-- The chores of a shutdown: all closers that wait for it, the last one first. -/
def chores (history : History) : List Chore :=
  if history.waiting.isEmpty then []
  else history.waiting.reverse.map (.run history.shutdowns) ++ [.finish]

/-- What a chore comes to at first, and the chores that take its place. -/
def next (history : History) : Chore → Deed × List Chore
  | .run shutdown r => (.runs shutdown r, [.rest shutdown r r.closer])
  | .rest shutdown r (.ends ending) => (.ends shutdown r ending.fault?, [])
  | .rest shutdown r (.writes written rest) => (.writes written, [.rest shutdown r rest])
  | .rest shutdown r (.registers name closer rest) =>
    (.registers ⟨history.registrations.length, name, closer⟩, [.rest shutdown r rest])
  | .rest shutdown r (.shutsDown rest cancelled) =>
    (.shutsDown, history.chores ++ [.resume shutdown r rest cancelled])
  | .resume shutdown r next _ => (.resumes, [.rest shutdown r next])
  | .finish => (.stops, [])

theorem map_task_chores (history : History) :
    history.chores.map Chore.task = history.closers.shutdownTasks := by
  unfold chores shutdownTasks closers
  split
  · rfl
  · simp [Chore.task]

/-- The closers do a chore as the history tells. -/
theorem work_cons (history : History) {chore : Chore} (h : chore.task.isSteady = true)
    (tasks : List Task) :
    history.closers.work (chore.task :: tasks) =
      (closers (history ++ [(history.next chore).1])).work
        ((history.next chore).2.map Chore.task ++ tasks) := by
  cases chore with
  | run shutdown r =>
    rw [Chore.task, work, next, closers_concat]
    simp [wrote, Deed.events, Deed.waitingAfter, Deed.registered?, Chore.task, closers]
  | finish =>
    rw [Chore.task, work, next, closers_concat]
    rfl
  | resume shutdown r more cancelled =>
    rw [Chore.task, work, next, closers_concat]
    simp [Deed.events, Deed.waitingAfter, Deed.registered?, Chore.task, closers]
  | rest shutdown r closer =>
    cases closer with
    | ends ending =>
      cases ending with
      | returned =>
        rw [Chore.task, work, next, closers_concat]
        simp [Ending.fault?, Deed.events, Deed.waitingAfter, Deed.registered?, closers]
      | failed fault =>
        rw [Chore.task, work, next, closers_concat]
        rfl
      | cancelled => cases h
    | writes written rest =>
      rw [Chore.task, work, next, closers_concat]
      rfl
    | registers name closer rest =>
      rw [Chore.task, work, next, closers_concat]
      rfl
    | shutsDown rest cancelled =>
      rw [Chore.task, work, next, closers_concat, List.map_append, map_task_chores,
        List.append_assoc]
      simp [Deed.events, Deed.waitingAfter, Deed.registered?, Chore.task, closers]

/-- What is left to do behind a chore is never cancelled either. -/
theorem steady_next (history : History) {chore : Chore} {tasks : List Task}
    (h : Steady history.closers (chore.task :: tasks)) :
    Steady (closers (history ++ [(history.next chore).1]))
      ((history.next chore).2.map Chore.task ++ tasks) := by
  have hrest (name : String) {closer : Closer} (hcloser : closer.isSteady = true) :
      Steady history.closers (.rest name closer :: tasks) := h.tail.cons hcloser
  rw [closers_concat]
  cases chore with
  | run shutdown r => exact ⟨h.waiting, (hrest r.name h.head).tasks⟩
  | finish => exact ⟨h.waiting, h.tail.tasks⟩
  | resume shutdown r more cancelled => exact ⟨h.waiting, (hrest r.name h.head).tasks⟩
  | rest shutdown r closer =>
    cases closer with
    | ends ending => exact ⟨h.waiting, h.tail.tasks⟩
    | writes written rest =>
      exact ⟨h.waiting, (hrest r.name (show rest.isSteady = true from h.head)).tasks⟩
    | registers name closer rest =>
      obtain ⟨hcloser, hmore⟩ := Bool.and_eq_true_iff.mp h.head
      exact ⟨(h.register name hcloser).waiting, (hrest r.name hmore).tasks⟩
    | shutsDown rest cancelled =>
      have hresumed : Steady history.closers (.resume r.name rest cancelled :: tasks) :=
        h.tail.cons h.head
      refine ⟨nofun, ?_⟩
      rw [next, List.map_append, map_task_chores, List.append_assoc]
      exact hresumed.shutdown.tasks

theorem weight_closers (history : History) :
    history.closers.weight = weightOf (history.waiting.map .run) := rfl

/-- Every chore takes away some of the weight of what is left to do. -/
theorem weight_next (history : History) (chore : Chore) (rest : List Chore) :
    weightOf (((history.next chore).2 ++ rest).map Chore.task) +
        (closers (history ++ [(history.next chore).1])).weight <
      weightOf ((chore :: rest).map Chore.task) + history.closers.weight := by
  cases chore with
  | run shutdown r =>
    simp [next, weight_closers, waiting_concat, Deed.waitingAfter, weightOf, Chore.task,
      Task.weight]
  | finish =>
    simp [next, weight_closers, waiting_concat, Deed.waitingAfter, weightOf, Chore.task,
      Task.weight]
  | resume shutdown r more cancelled =>
    simp only [next, weight_closers, waiting_concat, Deed.waitingAfter, weightOf, Chore.task,
      Task.weight, List.cons_append, List.nil_append, List.map_cons]
    omega
  | rest shutdown r closer =>
    cases closer with
    | ends ending =>
      simp [next, weight_closers, waiting_concat, Deed.waitingAfter, weightOf, Chore.task,
        Task.weight, Closer.weight]
    | writes written rest =>
      simp [next, weight_closers, waiting_concat, Deed.waitingAfter, weightOf, Chore.task,
        Task.weight, Closer.weight]
    | registers name closer rest =>
      simp [next, weight_closers, waiting_concat, Deed.waitingAfter, weightOf, weightOf_append,
        Chore.task, Task.weight, Closer.weight]
      omega
    | shutsDown rest cancelled =>
      have hle := weightOf_shutdownTasks_le history.closers
      simp [next, weight_closers, waiting_concat, Deed.waitingAfter, weightOf, weightOf_append,
        map_task_chores, Chore.task, Task.weight, Closer.weight] at *
      omega

/-- The history after all that is left to do. -/
def worked (history : History) : List Chore → History
  | [] => history
  | chore :: rest => worked (history ++ [(history.next chore).1]) ((history.next chore).2 ++ rest)
termination_by chores => weightOf (chores.map Chore.task) + history.closers.weight
decreasing_by exact weight_next history chore rest

/-- What holds of a history with what is left to do, and is kept by every step, holds at the end. -/
theorem worked_induct {motive : History → List Chore → Prop}
    (step : ∀ history chore rest, motive history (chore :: rest) →
      motive (history ++ [(history.next chore).1]) ((history.next chore).2 ++ rest))
    {history : History} {chores : List Chore} (h : motive history chores) :
    motive (history.worked chores) [] := by
  induction history, chores using worked.induct with
  | case1 history => rwa [worked]
  | case2 history chore rest ih =>
    rw [worked]
    exact ih (step history chore rest h)

/-- What the closers come to is told by the history, and so they are not cancelled. -/
theorem work_eq (history : History) (chores : List Chore)
    (h : Steady history.closers (chores.map Chore.task)) :
    history.closers.work (chores.map Chore.task) = ((history.worked chores).closers, false) := by
  induction history, chores using worked.induct with
  | case1 history => rw [worked, List.map_nil, work]
  | case2 history chore rest ih =>
    have hnext := history.steady_next h
    rw [← List.map_append] at hnext
    rw [worked, List.map_cons, work_cons history h.head, ← List.map_append, ih hnext]

end History

/-! ## Runs of calls -/

/-- A call of what manages closers. -/
inductive Call where
  | register (name : String) (closer : Closer)
  | shutDown

/-- No closer that is registered with a call is ever cancelled. -/
def Call.isSteady : Call → Bool
  | .register _ closer => closer.isSteady
  | .shutDown => true

/-- The closers after a call. -/
def perform (closers : Closers) : Call → Closers
  | .register name closer => closers.register name closer
  | .shutDown => closers.shutDown.1

/-- The closers after calls one after the other. -/
def played (closers : Closers) (calls : List Call) : Closers := calls.foldl perform closers

theorem Steady.perform {closers : Closers} {call : Call} (h : Steady closers [])
    (hcall : call.isSteady = true) : Steady (closers.perform call) [] := by
  cases call with
  | register name closer => exact h.register name hcall
  | shutDown =>
    have htasks := h.shutdown
    rw [List.append_nil] at htasks
    exact htasks.work.2

namespace History

/-- The history after a call. -/
def record (history : History) : Call → History
  | .register name closer =>
    history ++ [.registers ⟨history.registrations.length, name, closer⟩]
  | .shutDown => worked (history ++ [.shutsDown]) history.chores

/-- The history of calls. -/
def ofCalls (calls : List Call) : History := calls.foldl record []

theorem perform_eq (history : History) (call : Call) (h : Steady history.closers []) :
    history.closers.perform call = (history.record call).closers := by
  cases call with
  | register name closer =>
    rw [record, closers_concat]
    rfl
  | shutDown =>
    have hemptied : closers (history ++ [.shutsDown]) =
        { history.closers with registered := [] } := by
      rw [closers_concat]
      simp [closers, Deed.events, Deed.waitingAfter, Deed.registered?]
    have htasks := h.shutdown
    rw [List.append_nil, ← hemptied, ← map_task_chores] at htasks
    rw [record, perform, Closers.shutDown, ← hemptied, ← map_task_chores, work_eq _ _ htasks]

theorem played_eq (calls : List Call) (h : ∀ call ∈ calls, call.isSteady = true) :
    played {} calls = (ofCalls calls).closers := by
  suffices hplayed : ∀ history : History, Steady history.closers [] →
      played history.closers calls = (calls.foldl record history).closers from
    hplayed [] ⟨nofun, nofun⟩
  induction calls with
  | nil => exact fun _ _ => rfl
  | cons call rest ih =>
    intro history hhistory
    obtain ⟨hcall, hrest⟩ := List.forall_mem_cons.mp h
    have hperformed := hhistory.perform hcall
    rw [history.perform_eq call hhistory] at hperformed
    rw [played, List.foldl_cons, history.perform_eq call hhistory, ← played,
      ih hrest _ hperformed]
    rfl

end History

end Closers

end ChatWarden
