import ChatWarden.Proofs.Supervision.Doings
import ChatWarden.Proofs.Supervision.Ledger
import Mathlib.Data.List.Perm.Basic

/-!
# What operations enter into the ledger

Results:
* `Supervisor.perform_steps`: all that a running task does is told by entries of the ledger.
-/

namespace ChatWarden.Supervision.Supervisor

open Ledger (Steps)

variable {slots : Nat} {s r : Supervisor} {id other : TaskId} {task : Task}

/-! ## Entries -/

/-- An entry about a task that is kept track of: no failure is learned of. -/
theorem entry {st st' : Standing} (hst : s.standing id = st) (hst' : r.standing id = st')
    (hstep : st.Step st') (hothers : ∀ other, other ≠ id → r.standing other = s.standing other)
    (hid : id < s.tasks.length) (hsize : r.tasks.length = s.tasks.length)
    (hfree : r.free + st'.slots = s.free + st.slots) (htracked : st.tracked ≠ 0)
    (htracked' : st'.tracked ≠ 0) (hfailures : r.failures = s.failures)
    (hrecords : r.records = s.records) : Ledger.Step id s.ledger r.ledger := by
  subst hst hst'
  refine ⟨hstep, hothers, hsize.trans (Nat.max_eq_left hid).symm, hfree, ?_, ?_⟩
  · show r.failures + (s.standing id).losses = s.failures + (r.standing id).losses
    rw [hfailures, Standing.losses_of_tracked htracked, Standing.losses_of_tracked htracked']
  · show r.errors + (s.standing id).losses = s.errors + (r.standing id).losses
    rw [errors, hrecords, Standing.losses_of_tracked htracked,
      Standing.losses_of_tracked htracked', errors]

@[simp] theorem standing_task? : (s.standing id).task? = s.tasks[id]? := rfl

theorem fits (hsound : s.ledger.Sound slots) (id : TaskId) : (s.standing id).Fits := hsound.fits id

/-! ## Spawns -/

theorem spawn_step (hsound : s.ledger.Sound slots) (hfresh : task.phase = .fresh) :
    Ledger.Step s.tasks.length s.ledger (s.spawn task).ledger := by
  have hunborn : s.standing s.tasks.length = {} := hsound.unborn _ (Nat.le_refl _)
  have hborn : (s.spawn task).standing s.tasks.length =
      { task? := some task, calls := 1, tracked := 1 } := by
    simp only [standing, Standing.mk.injEq] at hunborn
    simp [standing, spawn, soon, hunborn]
  have hslots : Standing.slots { task? := some task, calls := 1, tracked := 1 } = 0 := by
    simp [Standing.slots, Task.holdsSlot, hfresh]
  refine ⟨?_, fun other h => ?_, ?_, ?_, ?_, ?_⟩
  · show (s.standing _).Step ((s.spawn task).standing _)
    rw [hunborn, hborn]
    exact .spawned hfresh
  · show (s.spawn task).standing other = s.standing other
    have h : other ≠ s.tasks.length := h
    have htask : (s.tasks ++ [task])[other]? = s.tasks[other]? := by
      rcases Nat.lt_or_gt_of_ne h with hlt | hgt
      · exact List.getElem?_append_left hlt
      · rw [List.getElem?_eq_none (Nat.le_of_lt hgt), List.getElem?_eq_none]
        simpa using Nat.succ_le_of_lt hgt
    simp [standing, spawn, soon, h.symm, htask]
  · simp [ledger, spawn, soon]
  · show s.free + ((s.spawn task).standing _).slots = s.free + (s.standing _).slots
    rw [hunborn, hborn, hslots]
    rfl
  · show s.failures + (s.standing _).losses = s.failures + ((s.spawn task).standing _).losses
    rw [hunborn, hborn]
    rfl
  · show s.errors + (s.standing _).losses = s.errors + ((s.spawn task).standing _).losses
    rw [hunborn, hborn]
    rfl

/-! ## Notes -/

theorem standing_withTask (htask : s.tasks[id]? = some task) (change : Task → Task) :
    (s.withTask id change).standing id =
      { s.standing id with task? := some (change task) } := by
  simp [standing, withTask, htask]

theorem standing_withTask_ne (h : other ≠ id) (change : Task → Task) :
    (s.withTask id change).standing other = s.standing other := by
  simp [standing, withTask, h.symm]

theorem noted_step (hsound : s.ledger.Sound slots) (htask : s.tasks[id]? = some task)
    (hending : task.ending? = none) {change : Task → Task}
    (hphase : (change task).phase = task.phase)
    (hdoomed : task.isDoomed = true → (change task).isDoomed = true) :
    Ledger.Step id s.ledger (s.withTask id change).ledger := by
  have htracked := (fits hsound id).tracked_of_ending? htask hending
  refine entry rfl (standing_withTask htask change) (.noted htask hphase hdoomed)
    (fun other h => standing_withTask_ne h change) (lt_of_task htask) (by simp [withTask]) ?_
    htracked htracked rfl rfl
  simp [Standing.slots, htask, Task.holdsSlot, hphase, withTask]

/-! ## Calls -/

theorem standing_callBack (htask : s.tasks[id]? = some task) (wake : Wake) :
    (s.callBack id wake).standing id =
      { s.standing id with
        task? := some (task.withWake wake), calls := (s.standing id).calls + 1 } := by
  simp [standing, callBack, withTask, soon, htask]

theorem standing_callBack_ne (h : other ≠ id) (wake : Wake) :
    (s.callBack id wake).standing other = s.standing other := by
  simp [standing, callBack, withTask, soon, h.symm]

theorem callBack_step (hsound : s.ledger.Sound slots) (htask : s.tasks[id]? = some task)
    (hpending : task.wake? = some .pending) {wake : Wake} (hwake : wake ≠ .pending) (free : Nat)
    (hfree : free + (if (task.withWake wake).holdsSlot then 1 else 0) =
      s.free + if task.holdsSlot then 1 else 0) :
    Ledger.Step id s.ledger { s.callBack id wake with free }.ledger := by
  have htracked := (fits hsound id).tracked_of_wake? htask hpending
  refine entry rfl (r := { s.callBack id wake with free }) (standing_callBack htask wake)
    (.called htask hpending hwake) (fun other h => standing_callBack_ne h wake) (lt_of_task htask)
    (by simp [callBack, withTask, soon]) ?_ htracked htracked rfl rfl
  simpa [Standing.slots, htask, standing] using hfree

/-- Tasks that wait for events are called one after the other. -/
theorem grants_steps {ids : List TaskId} (hnodup : ids.Nodup) :
    ∀ {s : Supervisor}, s.ledger.Sound slots →
      (∀ id ∈ ids, ∃ task, s.tasks[id]? = some task ∧ task.phase = .waiting .pending) →
      Steps s.ledger (ids.foldl grant s).ledger := by
  induction ids with
  | nil => exact fun _ _ => .refl _
  | cons id rest ih =>
    intro s hsound hwaiting
    obtain ⟨task, htask, hphase⟩ := hwaiting id List.mem_cons_self
    have hstep : Ledger.Step id s.ledger (s.grant id).ledger :=
      callBack_step hsound htask (by simp [Task.wake?, hphase]) (show Wake.granted ≠ _ from nofun)
        s.free (by simp [Task.withWake, Task.holdsSlot, hphase])
    obtain ⟨hid, hnodup⟩ := List.nodup_cons.mp hnodup
    refine (Steps.single hstep).trans (ih hnodup (hstep.sound hsound) fun other hother => ?_)
    obtain ⟨task, htask, hphase⟩ := hwaiting other (List.mem_cons_of_mem _ hother)
    refine ⟨task, ?_, hphase⟩
    have hne : other ≠ id := fun h => hid (h ▸ hother)
    rw [← htask]
    exact congrArg Standing.task? (standing_callBack_ne hne .granted)

theorem announce_steps (hsound : s.ledger.Sound slots) (event : String) :
    Steps s.ledger (s.announce event).ledger := by
  unfold announce
  split
  · exact .refl _
  · rw [← List.foldl_map]
    refine grants_steps ?_ (s := { s with happened := s.happened ++ [event] }) hsound ?_
    · refine (List.nodup_iff_count_le_one.mpr fun id => (fits hsound id).asleep_le).sublist ?_
      exact List.filter_sublist.map _
    · intro id hid
      obtain ⟨⟨_, id⟩, hmem, rfl⟩ := List.mem_map.mp hid
      obtain ⟨hmem, hcalled⟩ := List.mem_filter.mp hmem
      obtain ⟨task, htask, hpending⟩ := wakeOf_eq_some.mp
        (eq_of_beq (Bool.and_eq_true _ _ ▸ hcalled).2)
      have hasleep : (s.standing id).asleep ≠ 0 := by
        simpa [standing, List.count_eq_zero] using ⟨_, hmem⟩
      obtain ⟨wake, hphase⟩ := (fits hsound id).waiting_of_asleep htask hasleep
      obtain rfl : wake = .pending := by simpa [Task.wake?, hphase] using hpending
      exact ⟨task, htask, hphase⟩

theorem cancel_steps (hsound : s.ledger.Sound slots) (id : TaskId) :
    Steps s.ledger (s.cancel id).ledger := by
  unfold cancel
  split
  · exact .refl _
  · next task htask =>
    split_ifs with hover hpending
    · exact .refl _
    · refine .single (callBack_step hsound htask (by simpa using hpending)
        (show Wake.withdrawn ≠ _ from nofun) s.free ?_)
      have hpending : task.wake? = some .pending := by simpa using hpending
      cases hphase : task.phase <;>
        simp_all [Task.wake?, Task.withWake, Task.holdsSlot]
    · exact .single (noted_step hsound htask (by simpa [Task.isOver] using hover) rfl fun _ => rfl)

theorem wakeNext_steps (hsound : s.ledger.Sound slots) (hfree : s.free ≠ 0) :
    Steps s.ledger s.wakeNext.ledger := by
  obtain ⟨heq, -⟩ | ⟨id, hline, hpending, heq⟩ := s.wakeNext_cases
  · rw [heq]
    exact .refl _
  · obtain ⟨task, htask, hpending⟩ := wakeOf_eq_some.mp hpending
    have hline : (s.standing id).line ≠ 0 := by
      simpa [standing, List.count_eq_zero] using hline
    obtain ⟨wake, hphase⟩ := (fits hsound id).queued_of_line htask hline
    obtain rfl : wake = .pending := by simpa [Task.wake?, hphase] using hpending
    rw [heq]
    refine .single (callBack_step hsound htask hpending (show Wake.granted ≠ _ from fun h => by cases h) _ ?_)
    simp [Task.withWake, Task.holdsSlot, hphase]
    omega

/-! ## Ends -/

theorem standing_ended (htask : s.tasks[id]? = some task) (ending : Ending) :
    (s.ended id ending).standing id =
      { s.standing id with
        task? := some (task.endedBy ending), settles := (s.standing id).settles + 1 } := by
  simp [standing, ended, withTask, htask, Task.endedBy, List.count_eq_zero]

theorem standing_ended_ne (h : other ≠ id) (ending : Ending) :
    (s.ended id ending).standing other = s.standing other := by
  simp [standing, ended, withTask, h.symm, List.count_eq_zero]

theorem standing_callBack_ended {next : TaskId} (h : next ≠ id) (wake : Wake) (ending : Ending) :
    ((s.callBack next wake).ended id ending).standing =
      ((s.ended id ending).callBack next wake).standing := by
  funext other
  rcases eq_or_ne other id with rfl | hid
  · rw [standing_callBack_ne h.symm]
    simp [standing, callBack, ended, withTask, soon, h]
  · rw [standing_ended_ne hid]
    simp [standing, callBack, ended, withTask, soon, List.getElem?_modify, hid.symm,
      List.count_eq_zero]

/-- That the slot of a task that ends goes to the next in line is an entry of its own, though both
    happen at once. -/
theorem release_ended_steps (htask : s.tasks[id]? = some task)
    (hpending : task.wake? ≠ some .pending) {ending : Ending}
    (hsound : ({ s with free := s.free + 1 }.ended id ending).ledger.Sound slots) :
    Steps ({ s with free := s.free + 1 }.ended id ending).ledger
      (s.release.ended id ending).ledger := by
  unfold release
  obtain ⟨heq, -⟩ | ⟨next, hline, hnext, heq⟩ := wakeNext_cases { s with free := s.free + 1 }
  · rw [heq]
    exact .refl _
  · obtain ⟨task', htask', hpending'⟩ := wakeOf_eq_some.mp hnext
    have hne : next ≠ id := by
      rintro rfl
      exact hpending (Option.some.inj (htask.symm.trans htask') ▸ hpending')
    have hstanding := standing_ended_ne (s := { s with free := s.free + 1 }) hne ending
    have htask' : ({ s with free := s.free + 1 }.ended id ending).tasks[next]? = some task' :=
      (congrArg Standing.task? hstanding).trans htask'
    have hline : (({ s with free := s.free + 1 }.ended id ending).standing next).line ≠ 0 := by
      rw [hstanding]
      simpa [standing, List.count_eq_zero] using hline
    obtain ⟨wake, hphase⟩ := (fits hsound next).queued_of_line htask' hline
    obtain rfl : wake = .pending := by simpa [Task.wake?, hphase] using hpending'
    have hstep := callBack_step hsound htask' hpending' (show Wake.granted ≠ _ from fun h => by cases h)
      s.free (by simp [Task.withWake, Task.holdsSlot, hphase, ended, withTask])
    -- The next in line is called before the task ends, but the books do not tell the order.
    have hledger : ({ callBack { s with free := s.free + 1 } next .granted with
        free := s.free }.ended id ending).ledger =
          { ({ s with free := s.free + 1 }.ended id ending).callBack next .granted with
            free := s.free }.ledger := by
      simp only [ledger, Ledger.mk.injEq]
      exact ⟨rfl, by simp [ended, callBack, withTask, soon], rfl, rfl,
        standing_callBack_ended hne .granted ending⟩
    rw [heq]
    exact .single (hledger ▸ hstep)

theorem finished_steps (hsound : s.ledger.Sound slots) (htask : s.tasks[id]? = some task)
    (hphase : task.phase = .running) (ending : Ending) :
    Steps s.ledger (s.finished id ending).ledger := by
  have hrunning := (fits hsound id).of_running htask hphase
  have hafter : ({ s with free := s.free + 1 }.ended id ending).standing id =
      { task? := some (task.endedBy ending), settles := 1, tracked := 1, begun := 1 } := by
    refine (standing_ended htask ending).trans ?_
    simp only [standing, Standing.mk.injEq] at hrunning
    simp [standing, hrunning]
  have hstep := entry hrunning hafter (.ended hphase ending)
    (fun other h => standing_ended_ne h ending) (lt_of_task htask) (by simp [ended, withTask])
    (by simp [Standing.slots, Task.holdsSlot, Task.endedBy, hphase, ended, withTask])
    (by simp) (by simp) rfl rfl
  refine (Steps.single hstep).trans (release_ended_steps htask ?_ (hstep.sound hsound))
  simp [Task.wake?, hphase]

/-! ## Acts -/

theorem sleep_step (hsound : s.ledger.Sound slots) (htask : s.tasks[id]? = some task)
    (hphase : task.phase = .running) (event : String) (acts : List Act) :
    Ledger.Step id s.ledger (s.sleep id event acts).ledger := by
  have hrunning := (fits hsound id).of_running htask hphase
  refine entry hrunning (r := s.sleep id event acts) ?_ (.slept hphase acts) (fun other h => ?_)
    (lt_of_task htask) (by simp [sleep, withTask]) ?_ (by simp) (by simp) rfl rfl
  · simp only [standing, Standing.mk.injEq] at hrunning
    simp [standing, sleep, withTask, hrunning]
  · simp [standing, sleep, withTask, h.symm]
  · simp [Standing.slots, Task.holdsSlot, hphase, sleep, withTask]

theorem does_steps (hsound : s.ledger.Sound slots) (hdoes : Does id s r) :
    Steps s.ledger r.ledger := by
  cases hdoes with
  | marked => exact .refl _
  | markedMessage => exact .refl _
  | announced event => exact announce_steps hsound event
  | spawned name => exact .single (spawn_step hsound rfl)

theorem rests_steps (hsound : s.ledger.Sound slots) (hrunning : s.IsRunning id)
    (hrests : Rests id s r) : Steps s.ledger r.ledger := by
  obtain ⟨task, htask, hphase⟩ := hrunning
  cases hrests with
  | finished ending => exact finished_steps hsound htask hphase ending
  | slept _ acts => exact .single (sleep_step hsound htask hphase _ acts)

/-- Whatever a running task does, the books tell. -/
theorem perform_steps (id : TaskId) (isCancelled : Bool) (acts : List Act) {s : Supervisor}
    (hsound : s.ledger.Sound slots) (hrunning : s.IsRunning id) :
    Steps s.ledger (s.perform id isCancelled acts).ledger := by
  refine perform_induction (P := fun r => Steps s.ledger r.ledger ∧ r.IsRunning id)
    (Q := fun r => Steps s.ledger r.ledger) id ?_ ?_ isCancelled acts ⟨.refl _, hrunning⟩
  · intro r r' hdoes ⟨hsteps, hrunning⟩
    exact ⟨hsteps.trans (does_steps (hsteps.sound hsound) hdoes), hrunning.does hdoes⟩
  · intro r r' hrests ⟨hsteps, hrunning⟩
    exact hsteps.trans (rests_steps (hsteps.sound hsound) hrunning hrests)

end ChatWarden.Supervision.Supervisor
