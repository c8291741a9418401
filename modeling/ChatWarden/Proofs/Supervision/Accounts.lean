import ChatWarden.Proofs.Supervision.Prompt
import ChatWarden.Proofs.Supervision.Slots

/-!
# What the supervisor accounts for

A supervisor that starts with free slots and no tasks keeps its books in order, whatever moves
follow. So it knows of every task, and it counts and writes down every failure.

Results:
* `Supervisor.Kept.played`: what holds of the books, of the watches and of those who wait is kept by
  all moves.
* `Supervisor.Kept.accounted`: what the state of such a supervisor tells about its tasks.
-/

namespace ChatWarden.Supervision

/-- A task is kept track of until the supervisor has learned of its end. -/
theorem Standing.Fits.tracked_iff {st : Standing} (h : st.Fits) :
    st.tracked ≠ 0 ↔ st.task?.isSome = true ∧ (st.ending? = none ∨ st.settles ≠ 0) := by
  cases h <;> simp [Standing.ending?, Task.ending?, *]

/-- Where a task stands that is not ready to go on, and does not run. -/
theorem Standing.Fits.phase_of_not_called {st : Standing} {task : Task} (h : st.Fits)
    (htask : st.task? = some task) (hcalls : st.calls = 0) (hrunning : task.phase ≠ .running)
    (hending : task.ending? = none) :
    task.phase = .queued .pending ∨ task.phase = .waiting .pending := by
  cases h with
  | unborn => simp at htask
  | fresh => simp at hcalls
  | @queued _ wake _ hphase hwake => cases wake <;> simp_all [Wake.calls]
  | running => simp_all
  | @waiting _ wake _ hphase hwake => cases wake <;> simp_all [Wake.calls]
  | ending => simp_all [Task.ending?]
  | gone => simp_all [Task.ending?]

/-- A task that holds a slot and is not ready to go on has begun and not ended. -/
theorem Standing.Fits.begun_of_slots {st : Standing} (h : st.Fits) (hcalls : st.calls = 0)
    (hslots : st.slots ≠ 0) : st.begun ≠ 0 ∧ st.ending? = none := by
  cases h with
  | @queued _ wake _ hphase hwake => cases wake <;> simp_all [slots, Task.holdsSlot, Wake.calls]
  | _ => simp_all [slots, ending?, Task.holdsSlot, Task.ending?]

/-- A task that ended and never began was cancelled, and it was closed when the supervisor learned
    of its end. -/
theorem Standing.Fits.closed_of_never {st : Standing} (h : st.Fits)
    (hending : st.ending?.isSome = true) (htracked : st.tracked = 0) (hbegun : st.begun = 0) :
    st.ending? = some .cancelled ∧ st.closed = 1 := by
  cases h with
  | @gone _ _ _ _ hphase _ hnever hclosed =>
    obtain rfl := hnever hbegun
    exact ⟨by simp [ending?, Task.ending?, hphase], hclosed⟩
  | unborn => simp [ending?] at hending
  | _ => simp at htracked

namespace Notices

variable {n n' : Notices} {w : WatchId} {number : Nat} {ids : List TaskId}

theorem Sound.steps (hsound : n.Sound) (h : Relation.ReflTransGen Step n n') : n'.Sound := by
  induction h with
  | refl => exact hsound
  | tail _ hstep ih => exact hstep.sound ih

theorem Pledges.steps (hpledges : n.Pledges w number ids) (hsound : n.Sound)
    (h : Relation.ReflTransGen Step n n') : n'.Pledges w number ids := by
  induction h with
  | refl => exact hpledges
  | tail hsteps hstep ih => exact hstep.pledges (hsound.steps hsteps) ih

end Notices

namespace Supervisor

variable {slots : Nat} {s s' : Supervisor} {id : TaskId} {task : Task}

/-! ## Runs -/

/-- What is kept by all moves. -/
structure Kept (slots : Nat) (s : Supervisor) : Prop where
  books : s.ledger.Sound slots
  notices : s.notices.Sound
  prompt : Prompt none s

theorem kept_fresh (slots : Nat) : Kept slots { free := slots } where
  books := ⟨fun _ => .unborn, fun _ _ => rfl, rfl, rfl, rfl⟩
  notices := ⟨fun _ => Nat.le_refl _, nofun, nofun⟩
  prompt := ⟨nofun, nofun, nofun⟩

theorem Kept.moved (h : Kept slots s) (move : Move) : Kept slots (s.moved move) where
  books := (moved_steps h.books move).sound h.books
  notices := h.notices.steps (moved_tells h.books move)
  prompt := h.prompt.moved h.books move

theorem Kept.played (h : Kept slots s) (moves : List Move) : Kept slots (s.played moves) := by
  induction moves generalizing s with
  | nil => exact h
  | cons move rest ih => exact ih (h.moved move)

theorem Kept.steps (h : Kept slots s) (moves : List Move) :
    Ledger.Steps s.ledger (s.played moves).ledger := by
  induction moves generalizing s with
  | nil => exact .refl _
  | cons move rest ih => exact (moved_steps h.books move).trans (ih (h.moved move))

theorem Kept.tells (h : Kept slots s) (moves : List Move) : Tells s (s.played moves) := by
  induction moves generalizing s with
  | nil => exact .of_eq rfl
  | cons move rest ih => exact (moved_tells h.books move).trans (ih (h.moved move))

/-! ## Accounts -/

/-- The tasks that have begun and not ended. -/
def underWay (s : Supervisor) : List TaskId := s.begun.filter fun id => (s.endingOf id).isNone

/-- The tasks that failed. -/
def failed (s : Supervisor) : Finset TaskId :=
  (Finset.range s.tasks.length).filter fun id => (s.endingOf id).any Ending.isFailure = true

/-- What the state of a supervisor tells about its tasks. -/
structure Accounted (slots : Nat) (s : Supervisor) : Prop where
  underWay_le : s.underWay.length ≤ slots
  /-- Also while a task goes on, no more tasks are under way than there are slots. -/
  moved_le (move : Move) :
    ((s.moved move).begun.filter fun id => (s.endingOf id).isNone).length ≤ slots
  nodup : s.tracked.Nodup
  /-- A task is kept track of from its spawn until the supervisor has learned of its end. -/
  mem_tracked (id : TaskId) : id ∈ s.tracked ↔
    id < s.tasks.length ∧ (s.endingOf id = none ∨ .settle id ∈ s.ready)
  failures_eq : s.failures = (s.failed.filter (· ∉ s.tracked)).card
  /-- When there is no end that it is yet to learn of, every failure is counted. -/
  failures_all : (∀ id, .settle id ∉ s.ready) → s.failures = s.failed.card
  errors_eq : s.errors = s.failures
  /-- When nothing more can happen by itself, a task that has not ended waits for an event, or for
      a slot while all of them are taken. -/
  waits : s.ready = [] → ∀ id < s.tasks.length, s.endingOf id = none →
    (∃ event, (event, id) ∈ s.sleepers ∧ event ∉ s.happened) ∨
      id ∈ s.line ∧ id ∉ s.begun ∧ s.underWay.length = slots

theorem mem_tracked_iff (hsound : s.ledger.Sound slots) :
    id ∈ s.tracked ↔ id < s.tasks.length ∧ (s.endingOf id = none ∨ .settle id ∈ s.ready) := by
  have h := (fits hsound id).tracked_iff
  have hending : (s.standing id).ending? = s.endingOf id := rfl
  rw [hending] at h
  simpa [standing, List.count_eq_zero] using h

theorem failures_eq_card (hsound : s.ledger.Sound slots) :
    s.failures = (s.failed.filter (· ∉ s.tracked)).card := by
  have hlosses : s.failures = ∑ id ∈ Finset.range s.tasks.length, (s.standing id).losses :=
    hsound.failures
  have hiff : ∀ id, (s.standing id).tracked = 0 ∧
      (s.standing id).ending?.any Ending.isFailure = true ↔
      (s.endingOf id).any Ending.isFailure = true ∧ id ∉ s.tracked := fun id => by
    rw [and_comm]
    exact and_congr_right fun _ => List.count_eq_zero
  rw [hlosses, failed, Finset.filter_filter, Finset.card_filter]
  simp only [Standing.losses, hiff]

/-- When all slots are taken and nothing is ready to run, tasks that have begun hold them all. -/
theorem underWay_of_full (hsound : s.ledger.Sound slots) (hfree : s.free = 0)
    (hready : s.ready = []) : slots ≤ s.underWay.length := by
  have hholds : ∀ id, (s.standing id).slots ≤ if id ∈ s.underWay then 1 else 0 := by
    intro id
    have hmem : id ∈ s.underWay ↔ (s.standing id).begun ≠ 0 ∧ (s.standing id).ending? = none := by
      simp [underWay, standing, List.count_eq_zero, Standing.ending?, endingOf]
    have hcalls : (s.standing id).calls = 0 := by simp [standing, hready]
    have hle : (s.standing id).slots ≤ 1 := by
      unfold Standing.slots
      split <;> simp
    split_ifs with hin
    · exact hle
    · by_contra hslots
      exact hin (hmem.mpr ((fits hsound id).begun_of_slots hcalls (by omega)))
  calc slots = ∑ id ∈ Finset.range s.tasks.length, (s.standing id).slots := by
        have htotal : s.free + ∑ id ∈ Finset.range s.tasks.length, (s.standing id).slots = slots :=
          hsound.free
        omega
    _ ≤ ∑ id ∈ Finset.range s.tasks.length, if id ∈ s.underWay then 1 else 0 :=
        Finset.sum_le_sum fun id _ => hholds id
    _ = ((Finset.range s.tasks.length).filter (· ∈ s.underWay)).card :=
        (Finset.card_filter _ _).symm
    _ ≤ s.underWay.toFinset.card := Finset.card_le_card fun id hid => by
        simpa using (Finset.mem_filter.mp hid).2
    _ ≤ s.underWay.length := List.toFinset_card_le _

theorem Kept.waits (h : Kept slots s) (hready : s.ready = []) (htask : s.tasks[id]? = some task)
    (hending : task.ending? = none) :
    (∃ event, (event, id) ∈ s.sleepers ∧ event ∉ s.happened) ∨
      id ∈ s.line ∧ id ∉ s.begun ∧ s.underWay.length = slots := by
  have hnotcalled : (s.standing id).calls = 0 := by simp [standing, hready]
  have hnotrunning : task.phase ≠ .running := fun hphase =>
    absurd (h.prompt.idle id (phaseOf_eq_some.mpr ⟨task, htask, hphase⟩)) fun h => by cases h
  obtain hphase | hphase :=
    (fits h.books id).phase_of_not_called htask hnotcalled hnotrunning hending
  · have hstanding := (fits h.books id).of_queued htask hphase
    have hline : s.line.count id = 1 := congrArg Standing.line hstanding
    have hbegun : s.begun.count id = 0 := congrArg Standing.begun hstanding
    obtain hfree | ⟨other, hgranted⟩ :=
      h.prompt.alert id (phaseOf_eq_some.mpr ⟨task, htask, hphase⟩)
    · refine .inr ⟨List.count_pos_iff.mp (hline ▸ Nat.zero_lt_one), List.count_eq_zero.mp hbegun,
        Nat.le_antisymm ?_ (underWay_of_full h.books hfree hready)⟩
      exact begun_filter_le h.books fun id hid => by simpa using hid
    · -- A task that was granted a slot would be ready.
      obtain ⟨other, htask, hphase⟩ := phaseOf_eq_some.mp hgranted
      have hcalls : s.ready.count (.advance _) = 1 :=
        congrArg Standing.calls ((fits h.books _).of_queued htask hphase)
      simp [hready] at hcalls
  · have hasleep : (s.sleepers.map (·.2)).count id = 1 :=
      congrArg Standing.asleep ((fits h.books id).of_waiting htask hphase)
    obtain ⟨⟨event, _⟩, hmem, rfl⟩ :=
      List.mem_map.mp (List.count_pos_iff.mp (hasleep ▸ Nat.zero_lt_one))
    exact .inl ⟨event, hmem, h.prompt.awake event _ hmem
      (phaseOf_eq_some.mpr ⟨task, htask, hphase⟩)⟩

theorem Kept.accounted (h : Kept slots s) : Accounted slots s where
  underWay_le := begun_filter_le h.books fun id hid => by simpa using hid
  moved_le := begun_le_slots h.books
  nodup := List.nodup_iff_count_le_one.mpr fun id => (fits h.books id).tracked_le
  mem_tracked id := mem_tracked_iff h.books
  failures_eq := failures_eq_card h.books
  failures_all hsettled := by
    rw [failures_eq_card h.books, Finset.filter_true_of_mem fun id hid => ?_]
    have hfailed := (Finset.mem_filter.mp hid).2
    rw [mem_tracked_iff h.books]
    rintro ⟨-, hnone | hmem⟩
    · simp [hnone] at hfailed
    · exact hsettled id hmem
  errors_eq := h.books.errors.trans h.books.failures.symm
  waits hready id hlt hending :=
    h.waits hready (List.getElem?_eq_getElem hlt) (by simpa [endingOf, hlt] using hending)

end Supervisor

end ChatWarden.Supervision
