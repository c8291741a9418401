import ChatWarden.Supervision.Turn
import Mathlib.Data.List.Basic
import Mathlib.Logic.Relation

/-!
# What a running task does

A task that runs leaves marks, makes events happen and spawns tasks, and in the end it gives its
slot back or waits for an event. So what holds whatever a task does is proved once for each of
these.

Results:
* `Supervisor.perform_cases`: how a turn of a running task ends.
* `Supervisor.tasks_announce`: an event calls the tasks that wait for it, and no others.
* `Supervisor.wakeNext_cases`: a slot goes to one task in line, if any waits.
-/

namespace ChatWarden.Supervision.Supervisor

variable {s s' : Supervisor} {id other : TaskId} {task : Task}

theorem lt_of_task (htask : s.tasks[id]? = some task) : id < s.tasks.length :=
  (List.getElem?_eq_some_iff.mp htask).1

theorem wakeOf_eq_some {wake : Wake} :
    s.wakeOf id = some wake ↔ ∃ task, s.tasks[id]? = some task ∧ task.wake? = some wake := by
  simp [wakeOf, Option.bind_eq_some_iff]

/-! ## Calls -/

theorem tasks_callBack (htask : s.tasks[id]? = some task) (wake : Wake) :
    (s.callBack id wake).tasks[id]? = some (task.withWake wake) := by
  simp [callBack, withTask, soon, htask]

theorem tasks_callBack_ne (h : other ≠ id) (wake : Wake) :
    (s.callBack id wake).tasks[other]? = s.tasks[other]? := by
  simp [callBack, withTask, soon, h.symm]

theorem withWake_withWake (task : Task) (wake wake' : Wake) :
    (task.withWake wake').withWake wake = task.withWake wake := by
  cases hphase : task.phase <;> simp [Task.withWake, hphase]

theorem tasks_grants (ids : List TaskId) (s : Supervisor) (id : TaskId) :
    (ids.foldl grant s).tasks[id]? =
      if id ∈ ids then s.tasks[id]?.map (Task.withWake .granted) else s.tasks[id]? := by
  induction ids generalizing s with
  | nil => simp
  | cons first rest ih =>
    rw [List.foldl_cons, ih]
    rcases eq_or_ne id first with rfl | hne
    · cases htask : s.tasks[id]? with
      | none => simp [grant, callBack, withTask, soon, htask]
      | some task => simp [grant, tasks_callBack htask, withWake_withWake]
    · simp [grant, tasks_callBack_ne hne, hne]

/-- The tasks that an event calls. -/
def calledBy (s : Supervisor) (event : String) : List TaskId :=
  (s.sleepers.filter fun sleeper =>
    sleeper.1 == event && s.wakeOf sleeper.2 == some .pending).map (·.2)

theorem mem_calledBy {event : String} :
    id ∈ s.calledBy event ↔ (event, id) ∈ s.sleepers ∧ s.wakeOf id = some .pending := by
  simp only [calledBy, List.mem_map, List.mem_filter, Bool.and_eq_true, beq_iff_eq, Prod.exists]
  constructor
  · rintro ⟨_, _, ⟨hmem, rfl, hpending⟩, rfl⟩
    exact ⟨hmem, hpending⟩
  · exact fun ⟨hmem, hpending⟩ => ⟨event, id, ⟨hmem, rfl, hpending⟩, rfl⟩

theorem announce_eq (event : String) :
    s.announce event =
      if s.happened.contains event then s
      else (s.calledBy event).foldl grant { s with happened := s.happened ++ [event] } := by
  rw [announce, calledBy, List.foldl_map]

theorem tasks_announce {event : String} (hnew : s.happened.contains event = false)
    (id : TaskId) :
    (s.announce event).tasks[id]? =
      if (event, id) ∈ s.sleepers ∧ s.wakeOf id = some .pending then
        s.tasks[id]?.map (Task.withWake .granted)
      else s.tasks[id]? := by
  rw [announce_eq, hnew, if_neg Bool.false_ne_true, tasks_grants]
  simp only [mem_calledBy]

/-- A task that waits for no call is not called by an event. -/
theorem tasks_announce_of_ne (h : s.wakeOf id ≠ some .pending) (event : String) :
    (s.announce event).tasks[id]? = s.tasks[id]? := by
  cases hnew : s.happened.contains event with
  | true => rw [announce, hnew, if_pos rfl]
  | false => rw [tasks_announce hnew, if_neg fun hcalled => h hcalled.2]

/-- A slot that came free goes to a task in line that waits for it, if there is one. -/
theorem wakeNext_cases (s : Supervisor) :
    s.wakeNext = s ∧ (∀ id ∈ s.line, s.wakeOf id ≠ some .pending) ∨
      ∃ id ∈ s.line, s.wakeOf id = some .pending ∧
        s.wakeNext = { s.callBack id .granted with free := s.free - 1 } := by
  unfold wakeNext
  split
  · next h => exact .inl ⟨rfl, by simpa using h⟩
  · next id h => exact .inr ⟨id, List.mem_of_find?_eq_some h, by simpa using List.find?_some h, rfl⟩

/-! ## Acts -/

/-- A task runs. -/
def IsRunning (s : Supervisor) (id : TaskId) : Prop :=
  ∃ task, s.tasks[id]? = some task ∧ task.phase = .running

/-- What a running task does before its turn ends. -/
inductive Does (id : TaskId) (s : Supervisor) : Supervisor → Prop
  | marked (text : String) : Does id s (s.marked id text)
  | markedMessage : Does id s (s.markedMessage id)
  | announced (event : String) : Does id s (s.announce event)
  | spawned (name : String) : Does id s (s.spawn { name, acts := childActs })

/-- How a turn of a running task ends. -/
inductive Rests (id : TaskId) (s : Supervisor) : Supervisor → Prop
  | finished (ending : Ending) : Rests id s (s.finished id ending)
  | slept {event : String} (hnew : s.happened.contains event = false) (acts : List Act) :
    Rests id s (s.sleep id event acts)

/-- A running task does what it does, and then its turn ends. -/
theorem perform_cases (s : Supervisor) (id : TaskId) (isCancelled : Bool) (acts : List Act) :
    ∃ s', Relation.ReflTransGen (Does id) s s' ∧ Rests id s' (s.perform id isCancelled acts) := by
  fun_induction perform s id isCancelled acts with
  | case1 s => exact ⟨_, .single (.marked "cancelled"), .finished _⟩
  | case2 s rest ih => exact ih
  | case3 s act rest hact ih => exact ih
  | case4 s => exact ⟨s, .refl, .finished _⟩
  | case5 s text rest ih =>
    obtain ⟨s', hdoes, hrests⟩ := ih
    exact ⟨s', .head (.marked text) hdoes, hrests⟩
  | case6 s rest ih =>
    obtain ⟨s', hdoes, hrests⟩ := ih
    exact ⟨s', .head .markedMessage hdoes, hrests⟩
  | case7 s event rest ih =>
    obtain ⟨s', hdoes, hrests⟩ := ih
    exact ⟨s', .head (.announced event) hdoes, hrests⟩
  | case8 s name rest ih =>
    obtain ⟨s', hdoes, hrests⟩ := ih
    exact ⟨s', .head (.spawned name) hdoes, hrests⟩
  | case9 s kind rest => exact ⟨s, .refl, .finished _⟩
  | case10 s rest ih => exact ih
  | case11 s rest => exact ⟨s, .refl, .finished _⟩
  | case12 s event rest hhappened ih => exact ih
  | case13 s event rest hnew => exact ⟨s, .refl, .slept (by simpa using hnew) rest⟩

/-- What holds of a state, and of whatever a running task makes of it, holds when its turn ends. -/
theorem perform_induction {P Q : Supervisor → Prop} (id : TaskId)
    (hdoes : ∀ {s s'}, Does id s s' → P s → P s') (hrests : ∀ {s s'}, Rests id s s' → P s → Q s')
    (isCancelled : Bool) (acts : List Act) (h : P s) : Q (s.perform id isCancelled acts) := by
  obtain ⟨s', hsteps, hlast⟩ := s.perform_cases id isCancelled acts
  have hheld : P s' := by
    clear hlast
    induction hsteps with
    | refl => exact h
    | tail _ hstep ih => exact hdoes hstep ih
  exact hrests hlast hheld

namespace IsRunning

theorem of_tasks (h : s.IsRunning id) (htasks : s'.tasks[id]? = s.tasks[id]?) :
    s'.IsRunning id := by
  rwa [IsRunning, htasks]

theorem wakeOf (h : s.IsRunning id) : s.wakeOf id = none := by
  obtain ⟨task, htask, hphase⟩ := h
  simp [Supervisor.wakeOf, htask, Task.wake?, hphase]

theorem wakeNext (h : s.IsRunning id) : s.wakeNext.IsRunning id := by
  obtain ⟨heq, -⟩ | ⟨next, -, hnext, heq⟩ := s.wakeNext_cases
  · rwa [heq]
  · have hne : id ≠ next := by
      rintro rfl
      simp [h.wakeOf] at hnext
    rw [heq]
    exact h.of_tasks (tasks_callBack_ne hne .granted)

theorem does (h : s.IsRunning id) (hdoes : Does id s s') : s'.IsRunning id := by
  cases hdoes with
  | marked => exact h
  | markedMessage => exact h
  | announced event => exact h.of_tasks (tasks_announce_of_ne (by simp [h.wakeOf]) event)
  | spawned name =>
    obtain ⟨task, htask, hphase⟩ := h
    exact ⟨task, (List.getElem?_append_left (lt_of_task htask)).trans htask, hphase⟩

end IsRunning

theorem isRunning_resume (htask : s.tasks[id]? = some task) : (s.resume id).IsRunning id :=
  ⟨{ task with phase := .running }, by simp [resume, withTask, htask], rfl⟩

theorem isRunning_start (htask : s.tasks[id]? = some task) : (s.start id).IsRunning id :=
  isRunning_resume htask

end ChatWarden.Supervision.Supervisor
