import ChatWarden.Proofs.Supervision.Moves
import Mathlib.Algebra.Order.BigOperators.Group.Finset

/-!
# Slots

A task that has begun and not ended holds a slot, so there are never more of them than slots. This
holds at every moment, also while a task goes on.

Results:
* `Supervisor.begun_le_slots`: what has begun by the end of a move and had not ended before it.
-/

namespace ChatWarden.Supervision.Supervisor

variable {slots : Nat} {s s' : Supervisor} {id : TaskId} {task : Task}

/-- How a task ended, if it has. -/
def endingOf (s : Supervisor) (id : TaskId) : Option Ending := s.tasks[id]?.bind Task.ending?

theorem length_le_slots (hsound : s.ledger.Sound slots) {ids : List TaskId} (hnodup : ids.Nodup)
    (hholds : ∀ id ∈ ids, (s.standing id).slots = 1) : ids.length ≤ slots := by
  calc ids.length = ids.toFinset.card := (List.toFinset_card_of_nodup hnodup).symm
    _ = ∑ id ∈ ids.toFinset, (s.standing id).slots := by
      rw [Finset.card_eq_sum_ones]
      exact Finset.sum_congr rfl fun id hid => (hholds id (List.mem_toFinset.mp hid)).symm
    _ ≤ s.ledger.total Standing.slots := by
      refine Finset.sum_le_sum_of_subset fun id hid => ?_
      by_contra hlt
      have hunborn := hsound.unborn id (by simpa using hlt)
      have hone := hholds id (List.mem_toFinset.mp hid)
      rw [show s.standing id = {} from hunborn] at hone
      simp [Standing.slots] at hone
    _ ≤ slots := by
      have := hsound.free
      omega

theorem begun_nodup (hsound : s.ledger.Sound slots) : s.begun.Nodup :=
  List.nodup_iff_count_le_one.mpr fun id => (fits hsound id).begun_le

/-- Of the tasks that have begun, at most as many as there are slots have not ended. -/
theorem begun_filter_le (hsound : s.ledger.Sound slots) {p : TaskId → Bool}
    (hp : ∀ id, p id = true → s.endingOf id = none) : (s.begun.filter p).length ≤ slots := by
  refine length_le_slots hsound ((begun_nodup hsound).filter p) fun id hid => ?_
  obtain ⟨hmem, hid⟩ := List.mem_filter.mp hid
  refine (fits hsound id).slots_of_begun ?_ (hp id hid)
  simpa [standing, List.count_eq_zero] using hmem

/-! ## Beginnings -/

theorem begun_grants (ids : List TaskId) (s : Supervisor) :
    (ids.foldl grant s).begun = s.begun :=
  List.foldlRecOn (motive := fun r : Supervisor => r.begun = s.begun) ids grant rfl
    fun _ hbegun _ _ => hbegun

theorem begun_announce (event : String) : (s.announce event).begun = s.begun := by
  rw [announce_eq]
  split
  · rfl
  · exact begun_grants ..

theorem begun_wakeNext : s.wakeNext.begun = s.begun := by
  obtain ⟨heq, -⟩ | ⟨next, -, -, heq⟩ := s.wakeNext_cases
  · rw [heq]
  · rw [heq]
    rfl

theorem begun_release : s.release.begun = s.begun := begun_wakeNext

theorem begun_perform (isCancelled : Bool) (acts : List Act) :
    (s.perform id isCancelled acts).begun = s.begun := by
  refine perform_induction (P := fun r => r.begun = s.begun) (Q := fun r => r.begun = s.begun) id
    ?_ ?_ isCancelled acts rfl
  · rintro r r' (text | _ | event | name) h
    · exact h
    · exact h
    · exact (begun_announce event).trans h
    · exact h
  · rintro r r' (ending | _) h
    · exact begun_release.trans h
    · exact h

/-- A task begins in its turn at most, and then it is told by the ledger that it does. -/
theorem advance_begins {rest : List Item} (hready : s.ready.Perm (.advance id :: rest))
    (hsound : s.ledger.Sound slots) (htask : s.tasks[id]? = some task) :
    ({ s with ready := rest }.advance id).begun = s.begun ∨
      ∃ r : Supervisor, Ledger.Step id s.ledger r.ledger ∧ r.IsRunning id ∧
        ({ s with ready := rest }.advance id).begun = r.begun := by
  obtain hphase | ⟨wake, hwake, hphase | hphase⟩ := phase_of_called hready hsound htask
  · simp only [advance, htask, hphase]
    split
    · exact .inl rfl
    · next hdoomed =>
      unfold begin
      split
      · exact .inl rfl
      · next hfull =>
        exact .inr ⟨_, begin_started hready hsound htask hphase (by simpa using hdoomed)
          (eq_false_of_ne_true hfull), isRunning_start htask, begun_perform ..⟩
  · simp only [advance, htask, hphase, enter]
    split_ifs with hspent
    · exact .inl rfl
    · exact .inl begun_release
    all_goals
      refine .inr ⟨_, enter_started hready hsound htask hphase (eq_false_of_ne_true hspent),
        isRunning_start htask, (begun_perform ..).trans ?_⟩
    · rfl
    · exact begun_wakeNext
  · simp only [advance, htask, hphase]
    exact .inl (begun_perform ..)

theorem begun_cancel : (s.cancel id).begun = s.begun := by
  unfold cancel
  split
  · rfl
  · split_ifs <;> rfl

theorem begun_attend (watch : WatchId) : (s.attend watch id).begun = s.begun := by
  unfold attend
  split <;> rfl

theorem begun_each {op : Supervisor → TaskId → Supervisor}
    (hop : ∀ (s : Supervisor) (id : TaskId), (op s id).begun = s.begun) (ids : List TaskId)
    (s : Supervisor) : (ids.foldl op s).begun = s.begun :=
  List.foldlRecOn (motive := fun r : Supervisor => r.begun = s.begun) ids op rfl
    fun r hbegun id _ => (hop r id).trans hbegun

theorem begun_watch (ids : List TaskId) (sequel : Sequel) : (s.watch ids sequel).begun = s.begun :=
  begun_each (fun _ _ => begun_attend _) ids _

theorem begun_shutDown : s.shutDown.begun = s.begun := by
  unfold shutDown
  extract_lets tasks number
  split
  · rfl
  · exact (begun_watch ..).trans (begun_each (fun _ _ => begun_cancel) tasks _)

theorem begun_settle : (s.settle id).begun = s.begun := by
  unfold settle
  extract_lets
  split <;> rfl

theorem begun_report (watch : WatchId) : (s.report watch).begun = s.begun := by
  unfold report
  split
  · rfl
  · split <;> rfl

theorem begun_follow (sequel : Sequel) : (s.follow sequel).begun = s.begun := by
  unfold follow
  split
  · rfl
  · split
    · rfl
    · exact begun_watch ..

/-- A task that begins in a turn begins in a state whose books are in order. -/
theorem turn_begins (hsound : s.ledger.Sound slots) (place : Nat) :
    (s.turn place).begun = s.begun ∨
      ∃ (id : TaskId) (r : Supervisor), Ledger.Step id s.ledger r.ledger ∧ r.IsRunning id ∧
        (s.turn place).begun = r.begun := by
  unfold turn
  split
  · exact .inl rfl
  · next item hitem =>
    have hready := perm_popped hitem
    cases item with
    | advance id =>
      obtain ⟨task, htask⟩ := born_of_ready hready hsound
      exact (advance_begins hready hsound htask).imp_right fun ⟨r, hr⟩ => ⟨id, r, hr⟩
    | settle id => exact .inl begun_settle
    | report watch => exact .inl (begun_report watch)
    | sequel sequel => exact .inl (begun_follow sequel)

theorem moved_begins (hsound : s.ledger.Sound slots) (move : Move) :
    (s.moved move).begun = s.begun ∨
      ∃ (id : TaskId) (r : Supervisor), Ledger.Step id s.ledger r.ledger ∧ r.IsRunning id ∧
        (s.moved move).begun = r.begun := by
  cases move with
  | spawn name acts survives => exact .inl rfl
  | announce event => exact .inl (begun_announce event)
  | cancel id => exact .inl begun_cancel
  | join => exact .inl rfl
  | shutDown => exact .inl begun_shutDown
  | advance id => exact turn_begins hsound _
  | callback => exact turn_begins hsound _

/-- **Slots are not overrun.** Of the tasks that have begun by the end of a move, at most as many as
    there are slots had not ended before it. -/
theorem begun_le_slots (hsound : s.ledger.Sound slots) (move : Move) :
    ((s.moved move).begun.filter fun id => (s.endingOf id).isNone).length ≤ slots := by
  obtain heq | ⟨id, r, hstep, hrunning, heq⟩ := moved_begins hsound move
  · rw [heq]
    exact begun_filter_le hsound fun id hid => by simpa using hid
  · rw [heq]
    -- The books are in order when the task begins, and nothing that follows in the move begins.
    refine begun_filter_le (hstep.sound hsound) fun other hother => ?_
    rcases eq_or_ne other id with rfl | hne
    · obtain ⟨task, htask, hphase⟩ := hrunning
      simp [endingOf, htask, Task.ending?, hphase]
    · have hsame : r.tasks[other]? = s.tasks[other]? :=
        congrArg Standing.task? (hstep.others other hne)
      simpa [endingOf, hsame] using hother

end ChatWarden.Supervision.Supervisor
