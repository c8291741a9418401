import ChatWarden.Proofs.Supervision.Entries
import Mathlib.Data.List.Perm.Basic

/-!
# What turns enter into the ledger

A turn takes an item out of the queue. What the item does then is told by entries of the ledger: of
the task that goes on, and of others that it calls.

Results:
* `Supervisor.turn_steps`: whatever item runs, the books tell.
-/

namespace ChatWarden.Supervision.Supervisor

open Ledger (Steps)

variable {slots : Nat} {s r : Supervisor} {id other : TaskId} {task : Task}

/-! ## Turns of a task -/

/-- A task that has not begun is called: it is no longer ready, and stands in no line. -/
structure IsCalled (s r : Supervisor) (id : TaskId) (task : Task) : Prop where
  before : ∃ line, s.standing id = { task? := some task, calls := 1, tracked := 1, line }
  after : r.standing id = { task? := some task, tracked := 1 }
  others : ∀ other, other ≠ id → r.standing other = s.standing other
  tasks : r.tasks = s.tasks
  failures : r.failures = s.failures
  records : r.records = s.records

theorem standing_resume (htask : s.tasks[id]? = some task) :
    (s.resume id).standing id =
      { s.standing id with task? := some { task with phase := .running } } := by
  simp [standing, resume, withTask, htask]

theorem standing_resume_ne (h : other ≠ id) :
    (s.resume id).standing other = s.standing other := by
  simp [standing, resume, withTask, h.symm]

theorem standing_start (htask : s.tasks[id]? = some task) :
    (s.start id).standing id =
      { s.standing id with
        task? := some { task with phase := .running }, begun := (s.standing id).begun + 1 } := by
  simp [standing, start, resume, withTask, htask]

theorem standing_start_ne (h : other ≠ id) : (s.start id).standing other = s.standing other := by
  simp [standing, start, resume, withTask, h.symm]

namespace IsCalled

variable (h : s.IsCalled r id task) (hsound : s.ledger.Sound slots)
include h

theorem task? : s.tasks[id]? = some task :=
  have ⟨_, hbefore⟩ := h.before
  congrArg Standing.task? hbefore

include hsound

theorem start_step (hspent : task.isSpent = false)
    (hfree : r.free + 1 = s.free + if task.holdsSlot then 1 else 0) :
    Ledger.Step id s.ledger (r.start id).ledger := by
  obtain ⟨line, hbefore⟩ := h.before
  have htask : r.tasks[id]? = some task := h.tasks ▸ h.task?
  refine entry hbefore ((standing_start htask).trans (by rw [h.after]))
    (.started (hbefore ▸ fits hsound id) hspent)
    (fun other hne => (standing_start_ne hne).trans (h.others other hne)) (lt_of_task h.task?)
    (by simp [start, resume, withTask, h.tasks]) ?_ (by simp) (by simp) h.failures h.records
  simpa [Standing.slots, Task.holdsSlot, start, resume, withTask] using hfree

theorem quit_step (hfree : r.free = s.free + if task.holdsSlot then 1 else 0) :
    Ledger.Step id s.ledger (r.ended id .cancelled).ledger := by
  obtain ⟨line, hbefore⟩ := h.before
  have htask : r.tasks[id]? = some task := h.tasks ▸ h.task?
  refine entry hbefore ((standing_ended htask .cancelled).trans (by rw [h.after]))
    (.quit (hbefore ▸ fits hsound id))
    (fun other hne => (standing_ended_ne hne _).trans (h.others other hne)) (lt_of_task h.task?)
    (by simp [ended, withTask, h.tasks]) ?_ (by simp) (by simp) h.failures h.records
  simpa [Standing.slots, Task.holdsSlot, Task.endedBy, ended, withTask] using hfree

end IsCalled

section Called

variable {rest : List Item} (hready : s.ready.Perm (.advance id :: rest))
  (hsound : s.ledger.Sound slots) (htask : s.tasks[id]? = some task)
include hready hsound htask

omit htask in
theorem phase_of_called (htask : s.tasks[id]? = some task) :
    task.phase = .fresh ∨
      ∃ wake, wake ≠ .pending ∧ (task.phase = .queued wake ∨ task.phase = .waiting wake) :=
  (fits hsound id).phase_of_calls htask (by simp [standing, hready.count_eq])

theorem isCalled_fresh (hphase : task.phase = .fresh) :
    s.IsCalled { s with ready := rest } id task := by
  have hbefore := (fits hsound id).of_fresh htask hphase
  refine ⟨⟨_, hbefore⟩, ?_, fun other h => ?_, rfl, rfl, rfl⟩
  · simp only [standing, Standing.mk.injEq, hready.count_eq] at hbefore
    simp_all [standing]
  · simp [standing, hready.count_eq, h.symm]

theorem isCalled_queued {wake : Wake} (hphase : task.phase = .queued wake) :
    s.IsCalled { s with ready := rest, line := s.line.erase id } id task := by
  have hbefore := (fits hsound id).of_queued htask hphase
  have hcalls : wake.calls = 1 := by
    have := congrArg Standing.calls hbefore
    simp only [standing, hready.count_eq, List.count_cons_self] at this
    cases wake <;> simp_all [Wake.calls]
  rw [hcalls] at hbefore
  refine ⟨⟨_, hbefore⟩, ?_, fun other h => ?_, rfl, rfl, rfl⟩
  · simp only [standing, Standing.mk.injEq, hready.count_eq] at hbefore
    simp_all [standing]
  · simp [standing, hready.count_eq, h.symm, List.count_erase_of_ne h]

theorem lined_step (hphase : task.phase = .fresh) :
    Ledger.Step id s.ledger ({ s with ready := rest }.lineUp id).ledger := by
  have hcalled := isCalled_fresh hready hsound htask hphase
  have hnow := hcalled.after
  refine entry ((fits hsound id).of_fresh htask hphase) ?_ (.lined hphase) (fun other h => ?_)
    (lt_of_task htask) (by simp [lineUp, withTask]) ?_ (by simp) (by simp) rfl rfl
  · simp only [standing, Standing.mk.injEq] at hnow
    simp [standing, lineUp, withTask, hnow]
  · rw [← hcalled.others other h]
    simp [standing, lineUp, withTask, h.symm]
  · simp [Standing.slots, Task.holdsSlot, hphase, lineUp, withTask]

/-- A task that finds a free slot begins. -/
theorem begin_started (hphase : task.phase = .fresh) (hdoomed : task.isDoomed = false)
    (hfull : s.isFull = false) :
    Ledger.Step id s.ledger ({ s with ready := rest, free := s.free - 1 }.start id).ledger := by
  have hcalled := isCalled_fresh hready hsound htask hphase
  have hfree : s.free ≠ 0 := by
    intro h
    simp [isFull, h] at hfull
  refine IsCalled.start_step ⟨hcalled.before, hcalled.after, hcalled.others, rfl, rfl, rfl⟩ hsound
    ?_ ?_
  · simp [Task.isSpent, Task.wake?, Task.isOver, Task.ending?, hphase, hdoomed]
  · simp [Task.holdsSlot, hphase]
    omega

theorem begin_steps (hphase : task.phase = .fresh) (hdoomed : task.isDoomed = false) :
    Steps s.ledger ({ s with ready := rest }.begin id task.acts).ledger := by
  unfold begin
  split
  · exact .single (lined_step hready hsound htask hphase)
  · next hfull =>
    have hstep := begin_started hready hsound htask hphase hdoomed (eq_false_of_ne_true hfull)
    exact (Steps.single hstep).trans
      (perform_steps id false task.acts (hstep.sound hsound) (isRunning_start htask))

/-- A task in line is called when it was granted a slot or cancelled. -/
theorem wake_of_queued {wake : Wake} (hphase : task.phase = .queued wake) : wake ≠ .pending := by
  obtain ⟨line, hbefore⟩ := (isCalled_queued hready hsound htask hphase).before
  have := congrArg Standing.calls (hbefore.symm.trans ((fits hsound id).of_queued htask hphase))
  cases wake <;> simp_all [Wake.calls]

/-- A task that was granted a slot begins, unless it is cancelled. -/
theorem enter_started {wake : Wake} (hphase : task.phase = .queued wake)
    (hspent : (task.isDoomed || wake == .withdrawn) = false) :
    Ledger.Step id s.ledger
      ({ s with ready := rest, line := s.line.erase id }.start id).ledger := by
  have hpending := wake_of_queued hready hsound htask hphase
  obtain rfl : wake = .granted := by cases wake <;> simp_all
  refine (isCalled_queued hready hsound htask hphase).start_step hsound ?_ ?_
  · simp_all [Task.isSpent, Task.wake?, Task.isOver, Task.ending?]
  · simp [Task.holdsSlot, hphase]

theorem enter_steps {wake : Wake} (hphase : task.phase = .queued wake) :
    Steps s.ledger ({ s with ready := rest }.enter id task wake).ledger := by
  have hcalled := isCalled_queued hready hsound htask hphase
  have hpending := wake_of_queued hready hsound htask hphase
  unfold enter
  extract_lets left started
  split_ifs with hspent hwithdrawn hfree
  · obtain rfl : wake = .withdrawn := by simpa using hwithdrawn
    exact .single (hcalled.quit_step hsound (by simp [Task.holdsSlot, hphase]))
  · obtain rfl : wake = .granted := by cases wake <;> simp_all
    have hstep := IsCalled.quit_step (r := { left with free := left.free + 1 })
      ⟨hcalled.before, hcalled.after, hcalled.others, rfl, rfl, rfl⟩ hsound
      (by simp [left, Task.holdsSlot, hphase])
    exact (Steps.single hstep).trans
      (release_ended_steps (s := left) htask (by simp [Task.wake?, hphase]) (hstep.sound hsound))
  all_goals
    have hstep := enter_started hready hsound htask hphase (by simpa using hspent)
    have hrunning : started.IsRunning id := isRunning_start htask
  · exact (Steps.single hstep).trans
      (perform_steps id false task.acts (hstep.sound hsound) hrunning)
  · have hsteps := (Steps.single hstep).trans
      (wakeNext_steps (s := started) (hstep.sound hsound) (by simpa using hfree))
    exact hsteps.trans (perform_steps id false task.acts (hsteps.sound hsound) hrunning.wakeNext)

theorem woken_step {wake : Wake} (hwake : wake ≠ .pending) (hphase : task.phase = .waiting wake) :
    Ledger.Step id s.ledger
      ({ s with ready := rest, sleepers := s.sleepers.filter (·.2 != id) }.resume id).ledger := by
  have hcalls : wake.calls = 1 := by cases wake <;> simp_all [Wake.calls]
  have hbefore := (fits hsound id).of_waiting htask hphase
  rw [hcalls] at hbefore
  have hasleep : (s.sleepers.filter (·.2 != id)).map (·.2) =
      (s.sleepers.map (·.2)).filter (· != id) := by
    rw [List.filter_map]
    rfl
  have hresumed := standing_resume
    (s := { s with ready := rest, sleepers := s.sleepers.filter (·.2 != id) }) htask
  refine entry hbefore (hresumed.trans ?_) (.woken hphase hwake) (fun other h => ?_)
    (lt_of_task htask) (by simp [resume, withTask]) ?_ (by simp) (by simp) rfl rfl
  · simp only [standing, Standing.mk.injEq, hready.count_eq] at hbefore
    simp_all [standing, List.count_eq_zero]
  · rw [standing_resume_ne h]
    have hcount := List.count_filter (p := (· != id)) (l := s.sleepers.map (·.2))
      (bne_iff_ne.mpr h)
    simp [standing, hready.count_eq, hasleep, hcount, h.symm]
  · simp [Standing.slots, Task.holdsSlot, hphase, resume, withTask]

theorem advance_steps : Steps s.ledger ({ s with ready := rest }.advance id).ledger := by
  obtain hphase | ⟨wake, hwake, hphase | hphase⟩ := phase_of_called hready hsound htask
  · simp only [advance, htask, hphase]
    split
    · exact .single ((isCalled_fresh hready hsound htask hphase).quit_step hsound
        (by simp [Task.holdsSlot, hphase]))
    · next hdoomed => exact begin_steps hready hsound htask hphase (by simpa using hdoomed)
  · simp only [advance, htask, hphase]
    exact enter_steps hready hsound htask hphase
  · simp only [advance, htask, hphase]
    have hstep := woken_step hready hsound htask hwake hphase
    exact (Steps.single hstep).trans
      (perform_steps id _ task.acts (hstep.sound hsound) (isRunning_resume htask))

end Called

/-! ## What the ledger does not tell -/

theorem ledger_wrote {record : Log.Record} (h : record.level ≠ .error) :
    (s.wrote record).ledger = s.ledger := by
  have herrors : (s.wrote record).errors = s.errors := by simp [errors, wrote, h]
  rw [ledger, herrors]
  rfl

theorem ledger_soon {item : Item} (hitem : ∀ id, item ≠ .advance id ∧ item ≠ .settle id) :
    (s.soon item).ledger = s.ledger := by
  have hstanding : (s.soon item).standing = s.standing :=
    funext fun id => by simp [standing, soon, hitem id]
  rw [ledger, hstanding]
  rfl

theorem ledger_popped {item : Item} {rest : List Item} (hready : s.ready.Perm (item :: rest))
    (hitem : ∀ id, item ≠ .advance id ∧ item ≠ .settle id) :
    ({ s with ready := rest } : Supervisor).ledger = s.ledger := by
  have hstanding : ({ s with ready := rest } : Supervisor).standing = s.standing :=
    funext fun id => by simp [standing, hready.count_eq, hitem id]
  rw [ledger, hstanding]
  rfl

theorem ledger_report (watch : WatchId) : (s.report watch).ledger = s.ledger := by
  unfold report
  split
  · rfl
  · split
    · exact ledger_soon (by simp)
    · rfl

/-! ## Callbacks -/

section Callbacks

variable {rest : List Item} (hsound : s.ledger.Sound slots)
include hsound

theorem settle_step (hready : s.ready.Perm (.settle id :: rest)) :
    Ledger.Step id s.ledger ({ s with ready := rest }.settle id).ledger := by
  have hsettles : (s.standing id).settles ≠ 0 := by simp [standing, hready.count_eq]
  obtain ⟨task, ending, begun, hphase, hbefore⟩ := (fits hsound id).of_settles hsettles
  have hlt : id < s.tasks.length := lt_of_task (congrArg Standing.task? hbefore)
  have hending : s.tasks[id]?.bind Task.ending? = some ending := by
    rw [show s.tasks[id]? = some task from congrArg Standing.task? hbefore]
    simp [Task.ending?, hphase]
  have hafter : ({ s with ready := rest }.settle id).standing id =
      { task? := some task, begun, closed := ending.closings } := by
    simp only [standing, Standing.mk.injEq, hready.count_eq] at hbefore
    cases ending <;> simp_all [settle, standing, Ending.closings, wrote]
  have hothers : ∀ other, other ≠ id →
      ({ s with ready := rest }.settle id).standing other = s.standing other := by
    intro other h
    cases ending <;> simp [settle, hending, standing, wrote, hready.count_eq, h.symm,
      List.count_erase_of_ne h]
  have hlosses : ({ task? := some task, begun, closed := ending.closings } : Standing).losses =
      if ending.isFailure then 1 else 0 := by
    simp [Standing.losses, Standing.ending?, Task.ending?, hphase]
  have hnone : ({ task? := some task, settles := 1, tracked := 1, begun } : Standing).losses = 0 :=
    Standing.losses_of_tracked (by simp)
  refine ⟨?_, hothers, ?_, ?_, ?_, ?_⟩
  all_goals simp only [ledger, hbefore, hafter, hlosses, hnone]
  · exact .settled hphase
  · cases ending <;> simp [settle, hending, wrote] <;> exact Nat.succ_le_of_lt hlt
  · cases ending <;> simp [settle, hending, wrote, Standing.slots]
  · cases ending <;> simp [settle, hending, wrote, Ending.isFailure]
  · cases ending <;> simp [settle, hending, wrote, Ending.isFailure, errors, escaped]

theorem attend_steps (watch : WatchId) (id : TaskId) :
    Steps s.ledger (s.attend watch id).ledger := by
  unfold attend
  cases htask : s.tasks[id]? with
  | none =>
    simp only [Option.map_none, Option.getD_none, if_true]
    rw [ledger_soon (by simp)]
    exact .refl _
  | some task =>
    split
    · rw [ledger_soon (by simp)]
      exact .refl _
    · next hover =>
      exact .single (noted_step hsound htask (by simpa [Task.isOver] using hover) rfl fun h => h)

end Callbacks

theorem each_steps {op : Supervisor → TaskId → Supervisor}
    (hop : ∀ {s : Supervisor}, s.ledger.Sound slots → ∀ id, Steps s.ledger (op s id).ledger)
    (ids : List TaskId) {s : Supervisor} (hsound : s.ledger.Sound slots) :
    Steps s.ledger (ids.foldl op s).ledger :=
  List.foldlRecOn (motive := fun r : Supervisor => Steps s.ledger r.ledger) ids op (.refl _)
    fun _ hsteps id _ => hsteps.trans (hop (hsteps.sound hsound) id)

theorem watch_steps (hsound : s.ledger.Sound slots) (ids : List TaskId) (sequel : Sequel) :
    Steps s.ledger (s.watch ids sequel).ledger :=
  each_steps (fun h => attend_steps h s.watches.length) ids
    (s := { s with watches := s.watches ++ [⟨ids.length, sequel⟩] }) hsound

theorem follow_steps (hsound : s.ledger.Sound slots) (sequel : Sequel) :
    Steps s.ledger (s.follow sequel).ledger := by
  cases sequel with
  | stopped number cancelled =>
    rw [follow, ledger_wrote (by simp [stopped])]
    exact .refl _
  | join number =>
    simp only [follow]
    split
    · exact .refl _
    · exact watch_steps hsound ..

theorem shutDown_steps (hsound : s.ledger.Sound slots) : Steps s.ledger s.shutDown.ledger := by
  unfold shutDown
  extract_lets tasks number
  split
  · rw [ledger_wrote (by simp [stopped])]
    exact .refl _
  · have hsteps := each_steps (s := { s with stops := s.stops ++ [false] }) cancel_steps tasks
      hsound
    exact hsteps.trans (watch_steps (hsteps.sound hsound) ..)

theorem perm_popped {place : Nat} {item : Item} (hitem : s.ready[place]? = some item) :
    s.ready.Perm (item :: s.ready.eraseIdx place) := by
  obtain ⟨hlt, rfl⟩ := List.getElem?_eq_some_iff.mp hitem
  exact (List.getElem_cons_eraseIdx_perm hlt).symm

/-- A task that is ready to go on was spawned. -/
theorem born_of_ready {rest : List Item} (hready : s.ready.Perm (.advance id :: rest))
    (hsound : s.ledger.Sound slots) : ∃ task, s.tasks[id]? = some task :=
  (fits hsound id).born_of_calls (by simp [standing, hready.count_eq])

/-- Whatever item runs, the books tell. -/
theorem turn_steps (hsound : s.ledger.Sound slots) (place : Nat) :
    Steps s.ledger (s.turn place).ledger := by
  unfold turn
  split
  · exact .refl _
  · next item hitem =>
    have hready := perm_popped hitem
    cases item with
    | advance id =>
      obtain ⟨task, htask⟩ := born_of_ready hready hsound
      exact advance_steps hready hsound htask
    | settle id => exact .single (settle_step hsound hready)
    | report watch =>
      rw [runItem, ledger_report, ledger_popped hready (by simp)]
      exact .refl _
    | sequel sequel =>
      have hledger := ledger_popped hready (by simp)
      exact hledger ▸ follow_steps (hledger ▸ hsound) sequel

end ChatWarden.Supervision.Supervisor
