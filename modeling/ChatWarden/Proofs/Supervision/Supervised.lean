import ChatWarden.Proofs.Supervision.Accounts

/-!
# Bounded and loss-free supervision

However tasks are spawned, go on, end, fail and are cancelled, and whenever the supervisor shuts
down: no more tasks are under way than there are slots, every task ends in one way and is kept track
of until then, every failure is counted and written down, and a shutdown that is complete has left
none of its tasks.

Results:
* `supervised`: all of this, for every number of slots and whatever moves come before and after.
-/

namespace ChatWarden.Supervision

namespace Supervisor

variable {slots : Nat} {s s' : Supervisor} {id : TaskId} {task : Task}

/-- What stays as it is, whatever follows: how a task ended, and that the supervisor does not keep
    track of it any more. -/
structure Lasts (s t : Supervisor) : Prop where
  size_le : s.tasks.length ≤ t.tasks.length
  ending (id : TaskId) (ending : Ending) : s.endingOf id = some ending →
    t.endingOf id = some ending
  untracked : ∀ id < s.tasks.length, id ∉ s.tracked → id ∉ t.tracked

/-- What holds of the tasks spawned before a shutdown when it is complete. -/
structure Stopped (s t : Supervisor) : Prop where
  ended : ∀ id < s.tasks.length, (t.endingOf id).isSome = true ∧ id ∉ t.tracked
  /-- One that had not begun never did, and was closed. -/
  never : ∀ id < s.tasks.length, id ∉ s.begun →
    id ∉ t.begun ∧ t.endingOf id = some .cancelled ∧ t.closed.count id = 1
  none_tracked : t.tasks.length = s.tasks.length → t.tracked = []

theorem lasts_of_leads (h : ∀ id, (s.standing id).Leads (s'.standing id)) : Lasts s s' where
  size_le := by
    by_contra hlt
    have hborn := (h s'.tasks.length).born (by simp [Nat.lt_of_not_le hlt])
    simp at hborn
  ending id ending := (h id).ending ending
  untracked id hlt huntracked := by
    have hzero : s.tracked.count id = 0 := List.count_eq_zero.mpr huntracked
    exact List.count_eq_zero.mp ((h id).untracked (by simp [hlt]) hzero)

/-! ## Shutdowns -/

/-- A task that is cancelled before it begins is barred from beginning. -/
theorem isBarred_cancel (htask : s.tasks[id]? = some task) (hbegun : id ∉ s.begun) :
    ((s.cancel id).standing id).IsBarred := by
  have hcount : (s.cancel id).begun.count id = 0 :=
    begun_cancel (s := s) ▸ List.count_eq_zero.mpr hbegun
  refine ⟨hcount, ?_⟩
  rw [standing_task?]
  unfold cancel
  split
  · next hnone => simp [hnone] at htask
  · next task' htask' =>
    split_ifs with hover hpending
    · simp [htask', Task.isSpent, hover]
    · rw [tasks_callBack htask']
      have hwake : task'.wake? = some .pending := by simpa using hpending
      cases hphase : task'.phase <;>
        simp_all [Task.isSpent, Task.withWake, Task.wake?]
    · simp [withTask, htask', Task.isSpent]

theorem isBarred_cancels {ids : List TaskId} (hsound : s.ledger.Sound slots)
    (htask : s.tasks[id]? = some task) (hbegun : id ∉ s.begun) (hid : id ∈ ids) :
    ((ids.foldl cancel s).standing id).IsBarred := by
  -- Other tasks may be cancelled before, which does not let this one begin, and after, which does
  -- not lift the bar.
  induction ids generalizing s task with
  | nil => simp at hid
  | cons first rest ih =>
    have hcancel := cancel_steps hsound first
    have hsound' := hcancel.sound hsound
    rcases eq_or_ne id first with rfl | hne
    · exact ((each_steps cancel_steps rest hsound').leads hsound' id).barred
        (isBarred_cancel htask hbegun)
    · obtain ⟨task', htask'⟩ := Option.isSome_iff_exists.mp
        ((hcancel.leads hsound id).born (htask ▸ rfl : (s.tasks[id]?).isSome = true))
      exact ih hsound' htask' (begun_cancel (s := s) ▸ hbegun)
        ((List.mem_cons.mp hid).resolve_left hne)

/-- A shutdown bars all tasks from beginning that have not begun. -/
theorem isBarred_shutDown (hsound : s.ledger.Sound slots) (hlt : id < s.tasks.length)
    (hbegun : id ∉ s.begun) : (s.shutDown.standing id).IsBarred := by
  have htask := List.getElem?_eq_getElem hlt
  by_cases htracked : id ∈ s.tracked
  · unfold shutDown
    extract_lets tasks number
    rw [if_neg (by simpa [tasks] using List.ne_nil_of_mem htracked)]
    have hsteps := each_steps (s := { s with stops := s.stops ++ [false] }) cancel_steps tasks
      hsound
    have hsound' := hsteps.sound hsound
    exact ((watch_steps hsound' ..).leads hsound' id).barred
      (isBarred_cancels (s := { s with stops := _ }) hsound htask hbegun htracked)
  · -- A task that is not kept track of has ended.
    refine ((shutDown_steps hsound).leads hsound id).barred ⟨List.count_eq_zero.mpr hbegun, ?_⟩
    have hover : s.tasks[id].isOver = true := by
      by_contra hover
      refine htracked ((mem_tracked_iff hsound).mpr ⟨hlt, .inl ?_⟩)
      simpa [endingOf, hlt, Task.isOver] using hover
    show (s.tasks[id]?).any Task.isSpent = true
    rw [htask, Option.any_some, Task.isSpent, hover, Bool.or_true]

/-- The watch of a shutdown will learn of the end of all tasks that are kept track of. -/
theorem pledges_shutDown (h : Kept slots s) (htracked : s.tracked ≠ []) :
    s.shutDown.notices.Pledges s.watches.length s.stops.length s.tracked := by
  unfold shutDown
  extract_lets tasks number
  rw [if_neg (by simpa [tasks] using htracked), notices_watch, notices_cancels]
  refine h.notices.pledges (fun id hid => ?_) tasks.length
  simpa [notices] using ((mem_tracked_iff h.books).mp hid).1

/-- When a shutdown is complete, the supervisor has learned of the end of all tasks. -/
theorem Kept.ended_of_stopped (h : Kept slots s) (moves : List Move)
    (hstopped : (s.shutDown.played moves).stops[s.stops.length]? = some true)
    (hlt : id < s.tasks.length) :
    ((s.shutDown.played moves).endingOf id).isSome = true ∧
      id ∉ (s.shutDown.played moves).tracked := by
  have hdown : Kept slots s.shutDown := h.moved .shutDown
  have hafter := hdown.played moves
  have hsteps := (shutDown_steps h.books).trans (hdown.steps moves)
  have hlasts := lasts_of_leads (hsteps.leads h.books)
  by_cases htracked : id ∈ s.tracked
  · have hpledges := (pledges_shutDown h (List.ne_nil_of_mem htracked)).steps hdown.notices
      (hdown.tells moves)
    obtain ⟨⟨watches, hwatched⟩, hsettle⟩ :=
      hpledges.complete hafter.notices hstopped htracked
    obtain ⟨task, htask, hnotice⟩ :
        ∃ task, (s.shutDown.played moves).tasks[id]? = some task ∧
          task.notice = (true, watches) := by
      simpa [Supervisor.notices] using hwatched
    have hover : task.isOver = true := congrArg Prod.fst hnotice
    have hending : ((s.shutDown.played moves).endingOf id).isSome = true := by
      simpa [endingOf, htask, Task.isOver] using hover
    refine ⟨hending, fun hmem => ?_⟩
    obtain ⟨-, hnone | hready⟩ := (mem_tracked_iff hafter.books).mp hmem
    · simp [hnone] at hending
    · exact hsettle (List.mem_filter.mpr ⟨hready, rfl⟩)
  · obtain ⟨ending, hending⟩ : ∃ ending, s.endingOf id = some ending :=
      Option.ne_none_iff_exists'.mp fun hnone =>
        htracked ((mem_tracked_iff h.books).mpr ⟨hlt, .inl hnone⟩)
    exact ⟨by simp [hlasts.ending id ending hending], hlasts.untracked id hlt htracked⟩

theorem Kept.stopped (h : Kept slots s) (moves : List Move)
    (hstopped : (s.shutDown.played moves).stops[s.stops.length]? = some true) :
    Stopped s (s.shutDown.played moves) where
  ended id hlt := h.ended_of_stopped moves hstopped hlt
  never id hlt hbegun := by
    have hdown : Kept slots s.shutDown := h.moved .shutDown
    have hfits := fits (hdown.played moves).books id
    obtain ⟨hending, htracked⟩ := h.ended_of_stopped moves hstopped hlt
    have hbarred := ((hdown.steps moves).leads hdown.books id).barred
      (isBarred_shutDown h.books hlt hbegun)
    have := hfits.closed_of_never hending (List.count_eq_zero.mpr htracked) hbarred.1
    exact ⟨List.count_eq_zero.mp hbarred.1, this⟩
  none_tracked hsize := by
    refine List.eq_nil_iff_forall_not_mem.mpr fun id hmem => ?_
    have hafter := (h.moved .shutDown).played moves
    have hlt := ((mem_tracked_iff hafter.books).mp hmem).1
    exact (h.ended_of_stopped moves hstopped (hsize ▸ hlt)).2 hmem

end Supervisor

/-- **Supervision is bounded and loses nothing.** For every number of slots and all moves: no more
    tasks are under way than there are slots; every task is kept track of from its spawn until the
    supervisor has learned of its one end, and every failure is counted and written down once; and
    when a shutdown is complete, all tasks spawned before it have ended, those that had not begun
    without ever beginning. -/
theorem supervised (slots : Nat) (before after : List Move) :
    let s := Supervisor.played { free := slots } before
    s.Accounted slots ∧ s.Lasts (s.played after) ∧
      ((s.shutDown.played after).stops[s.stops.length]? = some true →
        s.Stopped (s.shutDown.played after)) := by
  intro s
  have h : s.Kept slots := (Supervisor.kept_fresh slots).played before
  exact ⟨h.accounted, Supervisor.lasts_of_leads ((h.steps after).leads h.books), h.stopped after⟩

/-- A task waits for the slot that another one holds when the supervisor shuts down. -/
theorem supervised_hold_queued :
    let s := Supervisor.played { free := 1 } [.spawn "hold" [.await "release"] false,
      .spawn "queued" [.mark "ran"] false, .advance 0, .advance 1]
    let t := s.shutDown.played [.advance 1, .advance 0, .callback, .callback, .callback, .callback,
      .callback]
    t.stops[s.stops.length]? = some true ∧ 1 ∉ s.begun ∧ s.Stopped t ∧
      t.marks = [("hold", "cancelled")] :=
  ⟨by decide, by decide, (supervised 1 _ _).2.2 (by decide), by decide⟩

end ChatWarden.Supervision
