import ChatWarden.Supervision.Turn

/-!
# The life of a task

What the supervisor holds about one task: the task itself, and how often it stands in each of the
lists. `Standing.Fits` tells what the lists hold in each phase, and `Standing.Step` how a task may
get on.

Results:
* `Standing.Step.fits`: a step leads to a standing that fits.
* `Standing.Step.leads`: what a step never undoes: an end, the loss of track, a beginning, and that
  a task was barred from beginning.
-/

namespace ChatWarden.Supervision

namespace Task

/-- Whether a task holds a slot, or was granted one. -/
def holdsSlot (task : Task) : Bool :=
  match task.phase with
  | .queued .granted | .running | .waiting _ => true
  | _ => false

/-- Whether a task was told to stop, or has ended. -/
def isSpent (task : Task) : Bool :=
  task.isDoomed || task.wake? == some .withdrawn || task.isOver

/-- A task that has ended. -/
def endedBy (ending : Ending) (task : Task) : Task :=
  { task with phase := .over ending, acts := [] }

variable {task task' : Task}

theorem ending?_of_wake? {wake : Wake} (h : task.wake? = some wake) : task.ending? = none := by
  cases hphase : task.phase <;> simp_all [wake?, ending?]

theorem ending?_of_isSpent (h : task.isSpent = false) : task.ending? = none := by
  simp only [isSpent, isOver, Bool.or_eq_false_iff] at h
  exact Option.isNone_iff_eq_none.mp (by simpa using h.2)

theorem isSpent_of_phase (hphase : task'.phase = task.phase)
    (hdoomed : task.isDoomed = true → task'.isDoomed = true) (h : task.isSpent = true) :
    task'.isSpent = true := by
  simp only [isSpent, wake?, isOver, ending?, hphase, Bool.or_eq_true] at h ⊢
  exact h.imp_left (.imp_left hdoomed)

theorem isSpent_withWake {wake : Wake} (hpending : task.wake? = some .pending)
    (h : task.isSpent = true) : (task.withWake wake).isSpent = true := by
  have hdoomed : task.isDoomed = true := by
    simpa [isSpent, hpending, isOver, ending?_of_wake? hpending] using h
  have : (task.withWake wake).isDoomed = task.isDoomed := by
    unfold withWake
    split <;> rfl
  simp [isSpent, this, hdoomed]

end Task

/-- How often a task is ready to go on while it waits for a call. -/
def Wake.calls : Wake → Nat
  | .pending => 0
  | _ => 1

namespace Ending

/-- How often a task is closed for an ending. -/
def closings : Ending → Nat
  | .cancelled => 1
  | _ => 0

/-- Whether an ending is a failure. -/
def isFailure : Ending → Bool
  | .failed _ => true
  | _ => false

end Ending

/-- What the supervisor holds about one task. -/
structure Standing where
  /-- The task, once it was spawned. -/
  task? : Option Task := none
  /-- How often it is ready to go on. -/
  calls : Nat := 0
  /-- How often the supervisor will yet learn of its end. -/
  settles : Nat := 0
  /-- How often it is kept track of. -/
  tracked : Nat := 0
  /-- How often it stands in the line for slots. -/
  line : Nat := 0
  /-- How often it waits for an event. -/
  asleep : Nat := 0
  /-- How often it began. -/
  begun : Nat := 0
  /-- How often it was closed. -/
  closed : Nat := 0

/-- What the supervisor holds about a task. -/
def Supervisor.standing (s : Supervisor) (id : TaskId) : Standing where
  task? := s.tasks[id]?
  calls := s.ready.count (.advance id)
  settles := s.ready.count (.settle id)
  tracked := s.tracked.count id
  line := s.line.count id
  asleep := (s.sleepers.map (·.2)).count id
  begun := s.begun.count id
  closed := s.closed.count id

namespace Standing

variable {st st' : Standing}

/-- How a task ended, if it has. -/
def ending? (st : Standing) : Option Ending := st.task?.bind Task.ending?

/-- The number of slots that a task holds or was granted. -/
def slots (st : Standing) : Nat := if st.task?.any Task.holdsSlot then 1 else 0

/-- The number of failures that the supervisor has learned of. -/
def losses (st : Standing) : Nat :=
  if st.tracked = 0 ∧ st.ending?.any Ending.isFailure then 1 else 0

/-- A task that has not begun, and was told to stop or has ended. -/
def IsBarred (st : Standing) : Prop := st.begun = 0 ∧ st.task?.any Task.isSpent = true

/-- What the lists hold about a task in each of its phases. -/
inductive Fits : Standing → Prop
  | unborn : Fits {}
  | fresh {task} (h : task.phase = .fresh) : Fits { task? := some task, calls := 1, tracked := 1 }
  | queued {task wake calls} (h : task.phase = .queued wake) (hcalls : calls = wake.calls) :
    Fits { task? := some task, calls, tracked := 1, line := 1 }
  | running {task} (h : task.phase = .running) :
    Fits { task? := some task, tracked := 1, begun := 1 }
  | waiting {task wake calls} (h : task.phase = .waiting wake) (hcalls : calls = wake.calls) :
    Fits { task? := some task, calls, tracked := 1, asleep := 1, begun := 1 }
  | ending {task ending begun} (h : task.phase = .over ending) (hle : begun ≤ 1)
    (hnever : begun = 0 → ending = .cancelled) :
    Fits { task? := some task, settles := 1, tracked := 1, begun }
  | gone {task ending begun closed} (h : task.phase = .over ending) (hle : begun ≤ 1)
    (hnever : begun = 0 → ending = .cancelled) (hclosed : closed = ending.closings) :
    Fits { task? := some task, begun, closed }

theorem losses_of_tracked (h : st.tracked ≠ 0) : st.losses = 0 := by simp [losses, h]

theorem Fits.asleep_le (h : st.Fits) : st.asleep ≤ 1 := by
  cases h <;> simp

theorem Fits.tracked_le (h : st.Fits) : st.tracked ≤ 1 := by
  cases h <;> simp

theorem Fits.begun_le (h : st.Fits) : st.begun ≤ 1 := by
  cases h <;> first | assumption | simp

/-- A task that began and has not ended holds a slot. -/
theorem Fits.slots_of_begun (h : st.Fits) (hbegun : st.begun ≠ 0) (hending : st.ending? = none) :
    st.slots = 1 := by
  cases h <;> simp_all [slots, ending?, Task.ending?, Task.holdsSlot]

theorem Fits.settles_le (h : st.Fits) : st.settles ≤ 1 := by
  cases h <;> simp

theorem Fits.born_of_calls (h : st.Fits) (hcalls : st.calls ≠ 0) :
    ∃ task, st.task? = some task := by
  cases h <;> simp_all

theorem Fits.born_of_line (h : st.Fits) (hline : st.line ≠ 0) : ∃ task, st.task? = some task := by
  cases h <;> simp_all

theorem Fits.of_settles (h : st.Fits) (hsettles : st.settles ≠ 0) :
    ∃ task ending begun, task.phase = .over ending ∧
      st = { task? := some task, settles := 1, tracked := 1, begun } := by
  cases h with
  | ending hphase => exact ⟨_, _, _, hphase, rfl⟩
  | _ => simp at hsettles

section Fits

variable {task : Task} (h : st.Fits) (htask : st.task? = some task)
include h htask

theorem Fits.of_fresh (hphase : task.phase = .fresh) :
    st = { task? := some task, calls := 1, tracked := 1 } := by
  cases h <;> simp_all

theorem Fits.of_queued {wake : Wake} (hphase : task.phase = .queued wake) :
    st = { task? := some task, calls := wake.calls, tracked := 1, line := 1 } := by
  cases h <;> simp_all

theorem Fits.of_running (hphase : task.phase = .running) :
    st = { task? := some task, tracked := 1, begun := 1 } := by
  cases h <;> simp_all

theorem Fits.of_waiting {wake : Wake} (hphase : task.phase = .waiting wake) :
    st = { task? := some task, calls := wake.calls, tracked := 1, asleep := 1, begun := 1 } := by
  cases h <;> simp_all

theorem Fits.tracked_of_wake? {wake : Wake} (hwake : task.wake? = some wake) : st.tracked ≠ 0 := by
  cases h <;> simp_all [Task.wake?]

theorem Fits.tracked_of_ending? (hending : task.ending? = none) : st.tracked ≠ 0 := by
  cases h <;> simp_all [Task.ending?]

theorem Fits.phase_of_calls (hcalls : st.calls ≠ 0) :
    task.phase = .fresh ∨
      ∃ wake, wake ≠ .pending ∧ (task.phase = .queued wake ∨ task.phase = .waiting wake) := by
  cases h with
  | fresh => simp_all
  | @queued _ wake => cases wake <;> simp_all [Wake.calls]
  | @waiting _ wake => cases wake <;> simp_all [Wake.calls]
  | _ => simp at hcalls

theorem Fits.queued_of_line (hline : st.line ≠ 0) : ∃ wake, task.phase = .queued wake := by
  cases h <;> simp_all

theorem Fits.waiting_of_asleep (hasleep : st.asleep ≠ 0) :
    ∃ wake, task.phase = .waiting wake := by
  cases h <;> simp_all

end Fits

/-- How a task may get on. -/
inductive Step : Standing → Standing → Prop
  | spawned {task} (h : task.phase = .fresh) :
    Step {} { task? := some task, calls := 1, tracked := 1 }
  /-- It is told to stop as soon as it runs, or watched. -/
  | noted {st task task'} (h : st.task? = some task) (hphase : task'.phase = task.phase)
    (hdoomed : task.isDoomed = true → task'.isDoomed = true) :
    Step st { st with task? := some task' }
  /-- The call that it waits for comes, or is withdrawn. -/
  | called {st task wake} (h : st.task? = some task) (hpending : task.wake? = some .pending)
    (hwake : wake ≠ .pending) :
    Step st { st with task? := some (task.withWake wake), calls := st.calls + 1 }
  | lined {task} (h : task.phase = .fresh) :
    Step { task? := some task, calls := 1, tracked := 1 }
      { task? := some { task with phase := .queued .pending }, tracked := 1, line := 1 }
  | started {task line} (h : Fits { task? := some task, calls := 1, tracked := 1, line })
    (hspent : task.isSpent = false) :
    Step { task? := some task, calls := 1, tracked := 1, line }
      { task? := some { task with phase := .running }, tracked := 1, begun := 1 }
  /-- It is cancelled before it begins. -/
  | quit {task line} (h : Fits { task? := some task, calls := 1, tracked := 1, line }) :
    Step { task? := some task, calls := 1, tracked := 1, line }
      { task? := some (task.endedBy .cancelled), settles := 1, tracked := 1 }
  | slept {task} (h : task.phase = .running) (acts : List Act) :
    Step { task? := some task, tracked := 1, begun := 1 }
      { task? := some { task with acts, phase := .waiting .pending, isDoomed := false },
        tracked := 1, asleep := 1, begun := 1 }
  | woken {task wake} (h : task.phase = .waiting wake) (hwake : wake ≠ .pending) :
    Step { task? := some task, calls := 1, tracked := 1, asleep := 1, begun := 1 }
      { task? := some { task with phase := .running }, tracked := 1, begun := 1 }
  | ended {task} (h : task.phase = .running) (ending : Ending) :
    Step { task? := some task, tracked := 1, begun := 1 }
      { task? := some (task.endedBy ending), settles := 1, tracked := 1, begun := 1 }
  | settled {task ending begun} (h : task.phase = .over ending) :
    Step { task? := some task, settles := 1, tracked := 1, begun }
      { task? := some task, begun, closed := ending.closings }

/-- What no step undoes. -/
structure Leads (st st' : Standing) : Prop where
  born : st.task?.isSome = true → st'.task?.isSome = true
  ending : ∀ ending, st.ending? = some ending → st'.ending? = some ending
  untracked : st.task?.isSome = true → st.tracked = 0 → st'.tracked = 0
  begun : st.begun ≤ st'.begun
  barred : st.IsBarred → st'.IsBarred

@[refl] theorem Leads.refl (st : Standing) : st.Leads st :=
  ⟨id, fun _ => id, fun _ => id, Nat.le_refl _, id⟩

theorem Leads.trans {st'' : Standing} (h : st.Leads st') (h' : st'.Leads st'') : st.Leads st'' :=
  ⟨h'.born ∘ h.born, fun e => h'.ending e ∘ h.ending e,
    fun hborn => h'.untracked (h.born hborn) ∘ h.untracked hborn, Nat.le_trans h.begun h'.begun,
    h'.barred ∘ h.barred⟩

theorem Step.fits (h : st.Step st') (hfits : st.Fits) : st'.Fits := by
  cases h with
  | spawned h => exact .fresh h
  | noted h hphase =>
    cases hfits <;> simp only [Option.some.injEq, reduceCtorEq] at h <;> subst h
    · exact .fresh (hphase.trans ‹_›)
    · exact .queued (hphase.trans ‹_›) ‹_›
    · exact .running (hphase.trans ‹_›)
    · exact .waiting (hphase.trans ‹_›) ‹_›
    · exact .ending (hphase.trans ‹_›) ‹_› ‹_›
    · exact .gone (hphase.trans ‹_›) ‹_› ‹_› ‹_›
  | @called _ _ wake h hpending hwake =>
    have hcalls : Wake.pending.calls + 1 = wake.calls := by cases wake <;> simp_all [Wake.calls]
    cases hfits <;> simp only [Option.some.injEq, reduceCtorEq] at h <;> subst h <;>
      simp only [Task.wake?, *, Option.some.injEq, reduceCtorEq] at hpending
    · subst hpending
      exact .queued (show _ = Phase.queued wake by simp [Task.withWake, *]) (by simp [*])
    · subst hpending
      exact .waiting (show _ = Phase.waiting wake by simp [Task.withWake, *]) (by simp [*])
  | lined h => exact .queued rfl rfl
  | started => exact .running rfl
  | quit => exact .ending rfl (by simp) (by simp)
  | slept => exact .waiting rfl rfl
  | woken => exact .running rfl
  | ended => exact .ending rfl (Nat.le_refl 1) (by simp)
  | settled h =>
    cases hfits with
    | ending h' hle hnever =>
      obtain rfl := Phase.over.inj (h'.symm.trans h)
      exact .gone h hle hnever rfl

theorem Step.leads (h : st.Step st') (hfits : st.Fits) : st.Leads st' := by
  cases h with
  | spawned => exact ⟨by simp, by simp [ending?], by simp, by simp, by simp [IsBarred]⟩
  | noted h hphase hdoomed =>
    refine ⟨by simp, ?_, by simp [h], Nat.le_refl _, ?_⟩
    · simp [ending?, h, Task.ending?, hphase]
    · simpa [IsBarred, h] using fun hbegun hspent =>
        ⟨hbegun, Task.isSpent_of_phase hphase hdoomed hspent⟩
  | called h hpending =>
    refine ⟨by simp, ?_, by simp [h], Nat.le_refl _, ?_⟩
    · simp [ending?, h, Task.ending?_of_wake? hpending]
    · simpa [IsBarred, h] using fun hbegun hspent =>
        ⟨hbegun, Task.isSpent_withWake hpending hspent⟩
  | lined h =>
    refine ⟨by simp, by simp [ending?, Task.ending?, h], by simp, by simp, ?_⟩
    simp [IsBarred, Task.isSpent, Task.wake?, Task.isOver, Task.ending?, h]
  | started _ hspent =>
    exact ⟨by simp, by simp [ending?, Task.ending?_of_isSpent hspent], by simp, by simp,
      by simp [IsBarred, hspent]⟩
  | quit h =>
    refine ⟨by simp, ?_, by simp, by simp, by simp [IsBarred, Task.isSpent, Task.isOver,
      Task.ending?, Task.endedBy]⟩
    cases h <;> simp [ending?, Task.ending?, *]
  | slept h =>
    exact ⟨by simp, by simp [ending?, Task.ending?, h], by simp, Nat.le_refl _, by simp [IsBarred]⟩
  | woken h =>
    exact ⟨by simp, by simp [ending?, Task.ending?, h], by simp, Nat.le_refl _, by simp [IsBarred]⟩
  | ended h =>
    exact ⟨by simp, by simp [ending?, Task.ending?, h], by simp, Nat.le_refl _, by simp [IsBarred]⟩
  | settled h => exact ⟨by simp, by simp [ending?], by simp, Nat.le_refl _, by simp [IsBarred]⟩

end Standing

end ChatWarden.Supervision
