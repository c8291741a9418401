import ChatWarden.Proofs.Supervision.Moves

/-!
# No task is lost

A task that waits is called when what it waits for is there. A slot is never free while a task waits
for one, unless another task in line was granted one and has not run yet; and no task waits for an
event that has happened. So when nothing is ready any more, every task has ended, or waits for
something that will only come from outside.

Results:
* `Supervisor.Prompt.moved`: no move loses a task.
-/

namespace ChatWarden.Supervision.Supervisor

variable {slots : Nat} {s s' : Supervisor} {id other : TaskId} {task : Task}
  {current : Option TaskId}

/-- The phase of a task. -/
def phaseOf (s : Supervisor) (id : TaskId) : Option Phase := s.tasks[id]?.map (·.phase)

theorem phaseOf_eq_some {phase : Phase} :
    s.phaseOf id = some phase ↔ ∃ task, s.tasks[id]? = some task ∧ task.phase = phase := by
  simp [phaseOf]

/-- Only the current task runs. -/
def Idle (current : Option TaskId) (s : Supervisor) : Prop :=
  ∀ id, s.phaseOf id = some .running → current = some id

/-- While a task waits for a slot, none is free, or a task in line was granted one. -/
def Alert (s : Supervisor) : Prop :=
  ∀ id, s.phaseOf id = some (.queued .pending) →
    s.free = 0 ∨ ∃ other, s.phaseOf other = some (.queued .granted)

/-- No task waits for an event that has happened. -/
def Awake (s : Supervisor) : Prop :=
  ∀ event id, (event, id) ∈ s.sleepers → s.phaseOf id = some (.waiting .pending) →
    event ∉ s.happened

/-- No task is lost. -/
structure Prompt (current : Option TaskId) (s : Supervisor) : Prop where
  idle : s.Idle current
  alert : s.Alert
  awake : s.Awake

/-! ## Phases -/

/-- A phase changes to one in which the task neither runs nor waits, and did not hold a slot that it
    was granted before. -/
structure Eased (phase phase' : Option Phase) : Prop where
  granted : phase ≠ some (.queued .granted)
  running : phase' ≠ some .running
  queued : phase' ≠ some (.queued .pending)
  waiting : phase' ≠ some (.waiting .pending)

/-- No task comes to run or to wait, and none that was granted a slot loses it. -/
def Eases (s s' : Supervisor) : Prop :=
  ∀ id, s'.phaseOf id = s.phaseOf id ∨ Eased (s.phaseOf id) (s'.phaseOf id)

namespace Eases

variable (h : s.Eases s')
include h

theorem back {phase : Phase} (hphase : s'.phaseOf id = some phase)
    (hwaits : phase = .running ∨ phase = .queued .pending ∨ phase = .waiting .pending) :
    s.phaseOf id = some phase := by
  rcases h id with heq | heased
  · exact heq ▸ hphase
  · rcases hwaits with rfl | rfl | rfl
    · exact absurd hphase heased.running
    · exact absurd hphase heased.queued
    · exact absurd hphase heased.waiting

theorem idle (hidle : s.Idle current) : s'.Idle current :=
  fun id hrunning => hidle id (h.back hrunning (by simp))

theorem alert (halert : s.Alert) (hfree : s.free = 0 → s'.free = 0) : s'.Alert := by
  intro id hqueued
  refine (halert id (h.back hqueued (by simp))).imp hfree fun ⟨other, hgranted⟩ => ⟨other, ?_⟩
  exact ((h other).resolve_right fun heased => heased.granted hgranted).trans hgranted

theorem awake (hawake : s.Awake) (hsleepers : s'.sleepers = s.sleepers)
    (hhappened : s'.happened = s.happened) : s'.Awake := by
  intro event id hmem hwaiting
  rw [hhappened]
  exact hawake event id (hsleepers ▸ hmem) (h.back hwaiting (by simp))

end Eases

theorem Eases.of_tasks (h : s'.tasks = s.tasks) : Eases s s' :=
  fun id => .inl (by rw [phaseOf, h, phaseOf])

theorem phaseOf_withTask (change : Task → Task) :
    (s.withTask id change).phaseOf id = s.tasks[id]?.map fun task => (change task).phase := by
  cases htask : s.tasks[id]? <;> simp [phaseOf, withTask, htask]

theorem phaseOf_withTask_ne (h : other ≠ id) (change : Task → Task) :
    (s.withTask id change).phaseOf other = s.phaseOf other := by
  simp [phaseOf, withTask, h.symm]

/-- A phase that no task changes to was there before. -/
theorem phaseOf_back {change : Task → Task} {phase : Phase}
    (h : (s.withTask id change).phaseOf other = some phase)
    (hchange : ∀ task, (change task).phase ≠ phase) :
    other ≠ id ∧ s.phaseOf other = some phase := by
  rcases eq_or_ne other id with rfl | hne
  · obtain ⟨task, -, hphase⟩ := Option.map_eq_some_iff.mp (phaseOf_withTask change ▸ h)
    exact absurd hphase (hchange task)
  · exact ⟨hne, phaseOf_withTask_ne hne change ▸ h⟩

/-- A phase that the task which changes was not in is still there. -/
theorem phaseOf_still {change : Task → Task} {phase : Phase} (h : s.phaseOf other = some phase)
    (hid : s.phaseOf id ≠ some phase) : (s.withTask id change).phaseOf other = some phase := by
  have hne : other ≠ id := by
    rintro rfl
    exact hid h
  exact (phaseOf_withTask_ne hne change).trans h

theorem Eases.of_phase {change : Task → Task} (h : ∀ task, (change task).phase = task.phase) :
    Eases s (s.withTask id change) := by
  intro other
  rcases eq_or_ne other id with rfl | hne
  · exact .inl (by rw [phaseOf_withTask, phaseOf]; simp only [h])
  · exact .inl (phaseOf_withTask_ne hne change)

theorem eased_withWake (hpending : task.wake? = some .pending) {wake : Wake}
    (hwake : wake ≠ .pending) :
    Eased (some task.phase) (some (task.withWake wake).phase) := by
  cases hphase : task.phase <;>
    simp only [Task.wake?, hphase, Option.some.injEq, reduceCtorEq] at hpending
  all_goals
    subst hpending
    constructor <;> simp [Task.withWake, hphase, hwake]

theorem eases_callBack (hpending : s.wakeOf id = some .pending) {wake : Wake}
    (hwake : wake ≠ .pending) : Eases s (s.callBack id wake) := by
  obtain ⟨task, htask, hwaits⟩ := wakeOf_eq_some.mp hpending
  intro other
  rcases eq_or_ne other id with rfl | hne
  · refine .inr ?_
    rw [phaseOf, phaseOf, tasks_callBack htask, htask]
    exact eased_withWake hwaits hwake
  · exact .inl (by rw [phaseOf, tasks_callBack_ne hne, phaseOf])

theorem eases_wakeNext : Eases s s.wakeNext := by
  obtain ⟨heq, -⟩ | ⟨next, -, hnext, heq⟩ := s.wakeNext_cases
  · rw [heq]
    exact .of_tasks rfl
  · rw [heq]
    exact eases_callBack hnext nofun

theorem eases_announce (event : String) : Eases s (s.announce event) := by
  intro id
  cases hnew : s.happened.contains event with
  | true =>
    rw [announce, hnew, if_pos rfl]
    exact .inl rfl
  | false =>
    rw [phaseOf, tasks_announce hnew]
    split_ifs with hcalled
    · obtain ⟨task, htask, hpending⟩ := wakeOf_eq_some.mp hcalled.2
      rw [phaseOf, htask]
      exact .inr (eased_withWake hpending fun h => by cases h)
    · exact .inl rfl

theorem eases_cancel : Eases s (s.cancel id) := by
  unfold cancel
  split
  · exact .of_tasks rfl
  · next task htask =>
    split_ifs with hover hpending
    · exact .of_tasks rfl
    · exact eases_callBack (wakeOf_eq_some.mpr ⟨task, htask, by simpa using hpending⟩) nofun
    · exact .of_phase fun _ => rfl

theorem eases_ended (hgranted : s.phaseOf id ≠ some (.queued .granted)) (ending : Ending) :
    Eases s (s.ended id ending) := by
  intro other
  rcases eq_or_ne other id with rfl | hne
  · have hafter : (s.ended other ending).phaseOf other =
        s.tasks[other]?.map fun _ => .over ending := phaseOf_withTask _
    rw [hafter]
    refine .inr ⟨hgranted, ?_, ?_, ?_⟩ <;> simp
  · exact .inl (phaseOf_withTask_ne hne _)

theorem eases_spawn (hfresh : task.phase = .fresh) : Eases s (s.spawn task) := by
  intro id
  rcases Nat.lt_trichotomy id s.tasks.length with hlt | rfl | hgt
  · exact .inl (by rw [phaseOf, spawn, soon, List.getElem?_append_left hlt, phaseOf])
  · have hbefore : s.phaseOf s.tasks.length = none := by simp [phaseOf]
    have hafter : (s.spawn task).phaseOf s.tasks.length = some .fresh := by
      simp [phaseOf, spawn, soon, hfresh]
    rw [hbefore, hafter]
    exact .inr ⟨by simp, by simp, by simp, by simp⟩
  · have hbefore : s.tasks[id]? = none := List.getElem?_eq_none (Nat.le_of_lt hgt)
    have hafter : (s.tasks ++ [task])[id]? = none :=
      List.getElem?_eq_none (by simpa using Nat.succ_le_of_lt hgt)
    exact .inl (by rw [phaseOf, spawn, soon, hafter, phaseOf, hbefore])

/-! ## Slots and events -/

theorem wakeOf_iff_phaseOf {wake : Wake} :
    s.wakeOf id = some wake ↔
      s.phaseOf id = some (.queued wake) ∨ s.phaseOf id = some (.waiting wake) := by
  cases htask : s.tasks[id]? with
  | none => simp [wakeOf, phaseOf, htask]
  | some task => cases hphase : task.phase <;> simp [wakeOf, phaseOf, htask, Task.wake?, hphase]

/-- The tasks that wait for a slot are those in line whose call has not come. -/
def Lined (s : Supervisor) : Prop :=
  ∀ id, s.phaseOf id = some (.queued .pending) ↔ id ∈ s.line ∧ s.wakeOf id = some .pending

/-- A task in line waits for a slot, or was called. -/
theorem queued_of_line (hsound : s.ledger.Sound slots) (hmem : id ∈ s.line) :
    ∃ wake, s.phaseOf id = some (.queued wake) := by
  have hline : (s.standing id).line ≠ 0 := by simpa [standing, List.count_eq_zero] using hmem
  obtain ⟨task, htask⟩ := (fits hsound id).born_of_line hline
  obtain ⟨wake, hphase⟩ := (fits hsound id).queued_of_line htask hline
  exact ⟨wake, phaseOf_eq_some.mpr ⟨task, htask, hphase⟩⟩

theorem lined (hsound : s.ledger.Sound slots) : s.Lined := by
  intro id
  constructor
  · intro hqueued
    obtain ⟨task, htask, hphase⟩ := phaseOf_eq_some.mp hqueued
    have hline : s.line.count id = 1 :=
      congrArg Standing.line ((fits hsound id).of_queued htask hphase)
    exact ⟨List.count_pos_iff.mp (hline ▸ Nat.zero_lt_one), wakeOf_iff_phaseOf.mpr (.inl hqueued)⟩
  · rintro ⟨hmem, hpending⟩
    obtain ⟨wake, hqueued⟩ := queued_of_line hsound hmem
    rcases wakeOf_iff_phaseOf.mp hpending with hphase | hphase
    · exact hphase
    · simp [hqueued] at hphase

/-- If a task still waits for a slot, another one that waited was granted the one that was free. -/
theorem granted_wakeNext (hlined : s.Lined)
    (hqueued : s.wakeNext.phaseOf id = some (.queued .pending)) :
    ∃ next, s.wakeOf next = some .pending ∧
      s.wakeNext.phaseOf next = some (.queued .granted) := by
  obtain ⟨hmem, hpending⟩ := (hlined id).mp (eases_wakeNext.back hqueued (by simp))
  obtain ⟨heq, hnone⟩ | ⟨next, hmem, hnext, heq⟩ := s.wakeNext_cases
  · exact absurd hpending (hnone id hmem)
  · obtain ⟨task, htask, hphase⟩ := phaseOf_eq_some.mp ((hlined next).mpr ⟨hmem, hnext⟩)
    refine ⟨next, hnext, ?_⟩
    rw [heq, phaseOf]
    show (s.callBack next .granted).tasks[next]?.map _ = _
    rw [tasks_callBack htask]
    simp [Task.withWake, hphase]

theorem alert_wakeNext (hlined : s.Lined) : s.wakeNext.Alert := fun _ hqueued =>
  have ⟨next, _, hgranted⟩ := granted_wakeNext hlined hqueued
  .inr ⟨next, hgranted⟩

theorem Prompt.of_eases (h : Prompt current s) (heases : Eases s s') (hfree : s'.free = s.free)
    (hsleepers : s'.sleepers = s.sleepers) (hhappened : s'.happened = s.happened) :
    Prompt current s' :=
  ⟨heases.idle h.idle, heases.alert h.alert fun hzero => hfree.trans hzero,
    heases.awake h.awake hsleepers hhappened⟩

/-- Changes that leave alone what tasks wait for and where they stand. -/
theorem Prompt.of_tasks (h : Prompt current s) (htasks : s'.tasks = s.tasks)
    (hfree : s'.free = s.free) (hsleepers : s'.sleepers = s.sleepers)
    (hhappened : s'.happened = s.happened) : Prompt current s' :=
  h.of_eases (.of_tasks htasks) hfree hsleepers hhappened

theorem fields_grants (ids : List TaskId) (s : Supervisor) :
    (ids.foldl grant s).free = s.free ∧ (ids.foldl grant s).sleepers = s.sleepers ∧
      (ids.foldl grant s).happened = s.happened :=
  List.foldlRecOn
    (motive := fun r : Supervisor =>
      r.free = s.free ∧ r.sleepers = s.sleepers ∧ r.happened = s.happened)
    ids grant ⟨rfl, rfl, rfl⟩ fun _ hfields _ _ => hfields

theorem fields_wakeNext (s : Supervisor) :
    s.wakeNext.sleepers = s.sleepers ∧ s.wakeNext.happened = s.happened := by
  obtain ⟨heq, -⟩ | ⟨next, -, -, heq⟩ := s.wakeNext_cases
  · rw [heq]
    exact ⟨rfl, rfl⟩
  · rw [heq]
    exact ⟨rfl, rfl⟩

/-- The task that has a slot gives it back and ends: the slot goes to one that waits for it. -/
theorem prompt_release_ended (hlined : s.Lined) (hidle : s.Idle (some id)) (hawake : s.Awake)
    (hid : s.wakeOf id ≠ some .pending) (ending : Ending) :
    Prompt none (s.release.ended id ending) := by
  have hrelease : Eases s s.release := eases_wakeNext (s := { s with free := s.free + 1 })
  obtain ⟨hsleepers, hhappened⟩ := fields_wakeNext { s with free := s.free + 1 }
  refine ⟨fun other hother => ?_, fun other hother => ?_, fun event other hmem hother => ?_⟩
  · obtain ⟨hne, hrunning⟩ := phaseOf_back hother (by simp)
    exact absurd (Option.some.inj (hidle other (hrelease.back hrunning (by simp)))).symm hne
  · obtain ⟨-, hqueued⟩ := phaseOf_back hother (by simp)
    obtain ⟨next, hnext, hgranted⟩ :=
      granted_wakeNext (s := { s with free := s.free + 1 }) hlined hqueued
    have hne : next ≠ id := by
      rintro rfl
      exact hid hnext
    exact .inr ⟨next, (phaseOf_withTask_ne hne _).trans hgranted⟩
  · obtain ⟨-, hwaiting⟩ := phaseOf_back hother (by simp)
    exact hrelease.awake hawake hsleepers hhappened event other hmem hwaiting

theorem Prompt.announce (h : Prompt current s) (event : String) :
    Prompt current (s.announce event) := by
  have heases := s.eases_announce event
  cases hnew : s.happened.contains event with
  | true =>
    rw [Supervisor.announce, hnew, if_pos rfl]
    exact h
  | false =>
    have heq : s.announce event =
        (s.calledBy event).foldl grant { s with happened := s.happened ++ [event] } := by
      rw [announce_eq, hnew, if_neg Bool.false_ne_true]
    obtain ⟨hfree, hsleepers, hhappened⟩ :=
      fields_grants (s.calledBy event) { s with happened := s.happened ++ [event] }
    rw [← heq] at hfree hsleepers hhappened
    refine ⟨heases.idle h.idle, heases.alert h.alert fun hzero => hfree.trans hzero, ?_⟩
    intro other id hmem hwaiting
    rw [hsleepers] at hmem
    have hbefore := heases.back hwaiting (by simp)
    -- Those who wait for the event itself are called by it.
    have hne : other ≠ event := by
      rintro rfl
      obtain ⟨task, htask, hphase⟩ := phaseOf_eq_some.mp hbefore
      have hpending : s.wakeOf id = some .pending := wakeOf_iff_phaseOf.mpr (.inr hbefore)
      rw [phaseOf, tasks_announce hnew, if_pos ⟨hmem, hpending⟩, htask] at hwaiting
      simp [Task.withWake, hphase] at hwaiting
    rw [hhappened]
    simp [hne, h.awake other id hmem hbefore]

theorem Prompt.does (h : Prompt current s) (hdoes : Does id s s') : Prompt current s' := by
  cases hdoes with
  | marked => exact h.of_tasks rfl rfl rfl rfl
  | markedMessage => exact h.of_tasks rfl rfl rfl rfl
  | announced event => exact h.announce event
  | spawned name => exact h.of_eases (eases_spawn rfl) rfl rfl rfl

theorem Prompt.sleep (h : Prompt (some id) s) (hsound : s.ledger.Sound slots)
    (hrunning : s.IsRunning id) {event : String} (hnew : s.happened.contains event = false)
    (acts : List Act) : Prompt none (s.sleep id event acts) := by
  obtain ⟨task, htask, hphase⟩ := hrunning
  have hbefore : s.phaseOf id = some .running := phaseOf_eq_some.mpr ⟨task, htask, hphase⟩
  have hasleep : (s.sleepers.map (·.2)).count id = 0 :=
    congrArg Standing.asleep ((fits hsound id).of_running htask hphase)
  refine ⟨fun other hother => ?_, fun other hother => ?_, fun e other hmem hother => ?_⟩
  · obtain ⟨hne, hrunning⟩ := phaseOf_back hother (by simp)
    exact absurd (Option.some.inj (h.idle other hrunning)).symm hne
  · obtain ⟨-, hqueued⟩ := phaseOf_back hother (by simp)
    exact (h.alert other hqueued).imp_right fun ⟨next, hgranted⟩ =>
      ⟨next, phaseOf_still hgranted (by simp [hbefore])⟩
  · rcases List.mem_append.mp hmem with hmem | hmem
    · have hne : other ≠ id := fun heq =>
        List.count_eq_zero.mp hasleep (List.mem_map.mpr ⟨(e, other), hmem, heq⟩)
      exact h.awake e other hmem (phaseOf_withTask_ne hne _ ▸ hother)
    · obtain ⟨rfl, -⟩ := Prod.mk.inj (List.mem_singleton.mp hmem)
      show e ∉ s.happened
      simpa using hnew

theorem Prompt.rests (h : Prompt (some id) s) (hsound : s.ledger.Sound slots)
    (hrunning : s.IsRunning id) (hrests : Rests id s s') : Prompt none s' := by
  cases hrests with
  | finished ending =>
    exact prompt_release_ended (lined hsound) h.idle h.awake (by simp [hrunning.wakeOf]) ending
  | slept hnew acts => exact h.sleep hsound hrunning hnew acts

theorem Prompt.perform (h : Prompt (some id) s) (hsound : s.ledger.Sound slots)
    (hrunning : s.IsRunning id) (isCancelled : Bool) (acts : List Act) :
    Prompt none (s.perform id isCancelled acts) := by
  refine perform_induction
    (P := fun r => Prompt (some id) r ∧ r.ledger.Sound slots ∧ r.IsRunning id)
    (Q := Prompt none) id ?_ ?_ isCancelled acts ⟨h, hsound, hrunning⟩
  · exact fun hdoes ⟨h, hsound, hrunning⟩ =>
      ⟨h.does hdoes, (does_steps hsound hdoes).sound hsound, hrunning.does hdoes⟩
  · exact fun hrests ⟨h, hsound, hrunning⟩ => h.rests hsound hrunning hrests

/-! ## Turns -/

/-- A task that goes on is the one that runs. -/
theorem idle_resume (h : s.Idle none) : (s.resume id).Idle (some id) := by
  intro other hother
  rcases eq_or_ne other id with rfl | hne
  · rfl
  · exact absurd (h other (phaseOf_withTask_ne hne _ ▸ hother)) nofun

theorem awake_resume (h : s.Awake) : (s.resume id).Awake := fun event other hmem hother =>
  h event other hmem (phaseOf_back hother (by simp)).2

theorem alert_resume (h : s.Alert) (hgranted : s.phaseOf id ≠ some (.queued .granted)) :
    (s.resume id).Alert := fun other hother =>
  (h other (phaseOf_back hother (by simp)).2).imp_right fun ⟨next, hnext⟩ =>
    ⟨next, phaseOf_still hnext hgranted⟩

/-- When a slot is free and nobody came before, no task waits for one. -/
theorem not_queued_of_isFull (hlined : s.Lined) (hfull : s.isFull = false) (id : TaskId) :
    s.phaseOf id ≠ some (.queued .pending) := by
  intro hqueued
  obtain ⟨hmem, hpending⟩ := (hlined id).mp hqueued
  have hnone : ∀ other ∈ s.line, s.wakeOf other = some .withdrawn := by
    simpa using (Bool.or_eq_false_iff.mp hfull).2
  simp [hnone id hmem] at hpending

/-- A task stands in line when no slot is free, or others wait for one that was granted. -/
theorem Prompt.lineUp (h : Prompt none s) (hsound : s.ledger.Sound slots)
    (hfull : s.isFull = true) (hfresh : s.phaseOf id = some .fresh) :
    Prompt none (s.lineUp id) := by
  have hreason : s.free = 0 ∨ ∃ other, s.phaseOf other = some (.queued .granted) := by
    rcases Bool.or_eq_true_iff.mp hfull with hzero | hline
    · exact .inl (by simpa using hzero)
    · obtain ⟨first, hmem, hwake⟩ := List.any_eq_true.mp hline
      obtain ⟨wake, hqueued⟩ := queued_of_line hsound hmem
      cases wake with
      | pending => exact h.alert first hqueued
      | granted => exact .inr ⟨first, hqueued⟩
      | withdrawn => simp [wakeOf_iff_phaseOf.mpr (.inl hqueued)] at hwake
  refine ⟨fun other hother => ?_, fun _ _ => ?_, fun event other hmem hother => ?_⟩
  · exact h.idle other (phaseOf_back hother (by simp)).2
  · exact hreason.imp_right fun ⟨next, hnext⟩ => ⟨next, phaseOf_still hnext (by simp [hfresh])⟩
  · exact h.awake event other hmem (phaseOf_back hother (by simp)).2

theorem Lined.erase (hlined : s.Lined) (hid : s.wakeOf id ≠ some .pending) (rest : List Item) :
    Lined { s with ready := rest, line := s.line.erase id } := by
  intro other
  show s.phaseOf other = _ ↔ other ∈ s.line.erase id ∧ s.wakeOf other = _
  rw [hlined other]
  rcases eq_or_ne other id with rfl | hne
  · simp [hid]
  · rw [List.mem_erase_of_ne hne]

section Called

variable {rest : List Item} (hready : s.ready.Perm (.advance id :: rest))
  (hsound : s.ledger.Sound slots) (htask : s.tasks[id]? = some task) (h : Prompt none s)
include hready hsound htask h

theorem Prompt.begin (hphase : task.phase = .fresh) (hdoomed : task.isDoomed = false) :
    Prompt none ({ s with ready := rest }.begin id task.acts) := by
  have hbefore : s.phaseOf id = some .fresh := phaseOf_eq_some.mpr ⟨task, htask, hphase⟩
  unfold Supervisor.begin
  split
  · next hfull => exact (h.lineUp hsound hfull hbefore).of_tasks rfl rfl rfl rfl
  · next hfull =>
    have hstep := begin_started hready hsound htask hphase hdoomed (eq_false_of_ne_true hfull)
    refine Prompt.perform (s := start { s with ready := rest, free := s.free - 1 } id)
      ⟨idle_resume h.idle, fun other hother => ?_, awake_resume h.awake⟩ (hstep.sound hsound)
      (isRunning_start htask) false task.acts
    -- It takes a slot that nobody else waits for.
    exact absurd (phaseOf_back hother (by simp)).2
      (not_queued_of_isFull (lined hsound) (eq_false_of_ne_true hfull) other)

theorem Prompt.enter {wake : Wake} (hphase : task.phase = .queued wake) :
    Prompt none ({ s with ready := rest }.enter id task wake) := by
  have hwake := wake_of_queued hready hsound htask hphase
  have hbefore : s.phaseOf id = some (.queued wake) := phaseOf_eq_some.mpr ⟨task, htask, hphase⟩
  have hcalled : s.wakeOf id ≠ some .pending := by
    simpa [wakeOf_iff_phaseOf.mpr (.inl hbefore)] using hwake
  unfold Supervisor.enter
  extract_lets left started
  split_ifs with hspent hwithdrawn hfree
  · obtain rfl : wake = .withdrawn := by simpa using hwithdrawn
    refine h.of_eases (eases_ended (s := left) ?_ _) rfl rfl rfl
    show s.phaseOf id ≠ _
    simp [hbefore]
  · exact prompt_release_ended (s := left) ((lined hsound).erase hcalled rest)
      (fun other hother => absurd (h.idle other hother) nofun) h.awake hcalled _
  -- It takes the slot that it was granted, so it leaves a free one to the next in line.
  all_goals
    have hstep := enter_started hready hsound htask hphase (eq_false_of_ne_true hspent)
    have hrunning : started.IsRunning id := isRunning_start htask
    have hidle : started.Idle (some id) := idle_resume (s := left) h.idle
    have hawake : started.Awake := awake_resume (s := left) h.awake
  · exact Prompt.perform ⟨hidle, fun _ _ => .inl (by simpa using hfree), hawake⟩
      (hstep.sound hsound) hrunning false task.acts
  · have hsteps := wakeNext_steps (s := started) (hstep.sound hsound) (by simpa using hfree)
    obtain ⟨hsleepers, hhappened⟩ := fields_wakeNext started
    exact Prompt.perform ⟨eases_wakeNext.idle hidle, alert_wakeNext (lined (hstep.sound hsound)),
      eases_wakeNext.awake hawake hsleepers hhappened⟩ (hsteps.sound (hstep.sound hsound))
      hrunning.wakeNext false task.acts

theorem Prompt.advance : Prompt none ({ s with ready := rest }.advance id) := by
  have hbefore : s.phaseOf id = some task.phase := phaseOf_eq_some.mpr ⟨task, htask, rfl⟩
  obtain hphase | ⟨wake, hwake, hphase | hphase⟩ := phase_of_called hready hsound htask
  · simp only [Supervisor.advance, htask, hphase]
    split
    · refine h.of_eases (eases_ended (s := { s with ready := rest }) ?_ _) rfl rfl rfl
      show s.phaseOf id ≠ _
      simp [hbefore, hphase]
    · next hdoomed => exact h.begin hready hsound htask hphase (by simpa using hdoomed)
  · simp only [Supervisor.advance, htask, hphase]
    exact h.enter hready hsound htask hphase
  · simp only [Supervisor.advance, htask, hphase]
    have hstep := woken_step hready hsound htask hwake hphase
    refine Prompt.perform (s := resume { s with ready := rest, sleepers := _ } id)
      ⟨idle_resume h.idle, alert_resume h.alert ?_, awake_resume fun event other hmem => ?_⟩
      (hstep.sound hsound) (isRunning_resume htask) _ task.acts
    · show s.phaseOf id ≠ _
      simp [hbefore, hphase]
    · exact h.awake event other (List.mem_filter.mp hmem).1

end Called

/-! ## Moves -/

theorem Prompt.settle (h : Prompt current s) (id : TaskId) : Prompt current (s.settle id) := by
  unfold Supervisor.settle
  extract_lets
  split <;> exact h.of_tasks rfl rfl rfl rfl

theorem Prompt.report (h : Prompt current s) (watch : WatchId) :
    Prompt current (s.report watch) := by
  unfold Supervisor.report
  split
  · exact h
  · split <;> exact h.of_tasks rfl rfl rfl rfl

theorem Prompt.cancel (h : Prompt current s) (id : TaskId) : Prompt current (s.cancel id) := by
  have hfields : (s.cancel id).free = s.free ∧ (s.cancel id).sleepers = s.sleepers ∧
      (s.cancel id).happened = s.happened := by
    unfold Supervisor.cancel
    split
    · exact ⟨rfl, rfl, rfl⟩
    · split_ifs <;> exact ⟨rfl, rfl, rfl⟩
  exact h.of_eases eases_cancel hfields.1 hfields.2.1 hfields.2.2

theorem Prompt.attend (h : Prompt current s) (watch : WatchId) (id : TaskId) :
    Prompt current (s.attend watch id) := by
  unfold Supervisor.attend
  split
  · exact h.of_tasks rfl rfl rfl rfl
  · exact h.of_eases (.of_phase fun _ => rfl) rfl rfl rfl

theorem Prompt.watch (h : Prompt current s) (ids : List TaskId) (sequel : Sequel) :
    Prompt current (s.watch ids sequel) :=
  List.foldlRecOn ids _ (h.of_tasks rfl rfl rfl rfl) fun _ h id _ => h.attend _ id

theorem Prompt.follow (h : Prompt current s) (sequel : Sequel) :
    Prompt current (s.follow sequel) := by
  unfold Supervisor.follow
  split
  · exact h.of_tasks rfl rfl rfl rfl
  · split
    · exact h.of_tasks rfl rfl rfl rfl
    · exact h.watch ..

theorem Prompt.shutDown (h : Prompt current s) : Prompt current s.shutDown := by
  unfold Supervisor.shutDown
  extract_lets tasks number
  split
  · exact h.of_tasks rfl rfl rfl rfl
  · have hstopping : Prompt current { s with stops := s.stops ++ [false] } :=
      h.of_tasks rfl rfl rfl rfl
    have hcancelled := List.foldlRecOn tasks Supervisor.cancel hstopping
      fun _ h id _ => h.cancel id
    exact hcancelled.watch ..

theorem Prompt.turn (h : Prompt none s) (hsound : s.ledger.Sound slots) (place : Nat) :
    Prompt none (s.turn place) := by
  unfold Supervisor.turn
  split
  · exact h
  · next item hitem =>
    have hready := perm_popped hitem
    have hpopped : Prompt none { s with ready := s.ready.eraseIdx place } :=
      h.of_tasks rfl rfl rfl rfl
    cases item with
    | advance id =>
      obtain ⟨task, htask⟩ := born_of_ready hready hsound
      exact h.advance hready hsound htask
    | settle id => exact hpopped.settle id
    | report watch => exact hpopped.report watch
    | sequel sequel => exact hpopped.follow sequel

/-- No move loses a task. -/
theorem Prompt.moved (h : Prompt none s) (hsound : s.ledger.Sound slots) (move : Move) :
    Prompt none (s.moved move) := by
  cases move with
  | spawn name acts survives => exact h.of_eases (eases_spawn rfl) rfl rfl rfl
  | announce event => exact h.announce event
  | cancel id => exact h.cancel id
  | join => exact h.of_tasks rfl rfl rfl rfl
  | shutDown => exact h.shutDown
  | advance id => exact h.turn hsound _
  | callback => exact h.turn hsound _

end ChatWarden.Supervision.Supervisor
