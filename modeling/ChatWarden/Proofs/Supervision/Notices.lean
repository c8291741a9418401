import ChatWarden.Supervision.Turn
import Mathlib.Algebra.GroupWithZero.Nat
import Mathlib.Data.List.Basic
import Mathlib.Data.List.Count
import Mathlib.Logic.Relation

/-!
# What watches are yet to learn

A shutdown is complete when the watch over its tasks has learned of the end of each of them. The
supervisor learns of every end first, because callbacks run in the order in which they became ready.

Results:
* `Notices.Step.sound`: no watch is owed more reports than it waits for.
* `Notices.Step.pledges`: a shutdown that is complete has left no task that it was to wait for.
-/

namespace ChatWarden.Supervision

/-- Whether an item lets a task go on. -/
def Item.isAdvance : Item → Bool
  | .advance _ => true
  | _ => false

namespace Task

/-- Whether a task has ended, and the watches over it. -/
def notice (task : Task) : Bool × List WatchId := (task.isOver, task.watches)

end Task

/-- What the watches of a supervisor are yet to learn. -/
structure Notices where
  /-- What is ready to run, apart from tasks. -/
  callbacks : List Item
  watches : List Watch
  /-- For each shutdown, whether it is over. -/
  stops : List Bool
  /-- For each task, whether it has ended, and the watches over it. -/
  watched : List (Bool × List WatchId)

namespace Supervisor

/-- What is ready to run, apart from tasks. -/
def callbacks (s : Supervisor) : List Item := s.ready.filter (!·.isAdvance)

/-- What the watches of a supervisor are yet to learn. -/
def notices (s : Supervisor) : Notices :=
  ⟨s.callbacks, s.watches, s.stops, s.tasks.map Task.notice⟩

end Supervisor

namespace Notices

variable {n n' : Notices} {w other : WatchId} {id : TaskId} {number : Nat} {ids : List TaskId}

/-- How many reports a watch is owed: by the tasks that have not ended, and those that are under
    way. -/
def owed (n : Notices) (w : WatchId) : Nat :=
  (n.watched.map fun notice => if notice.1 then 0 else notice.2.count w).sum +
    n.callbacks.count (.report w)

/-- How many reports a watch waits for. -/
def missing (n : Notices) (w : WatchId) : Nat := (n.watches[w]?.map Watch.missing).getD 0

/-- What follows on a watch. -/
def sequel? (n : Notices) (w : WatchId) : Option Sequel := n.watches[w]?.map Watch.sequel

/-- Lets a watch learn of the end of a task. -/
def attend (w : WatchId) (n : Notices) (id : TaskId) : Notices :=
  match n.watched[id]? with
  | some (false, watches) => { n with watched := n.watched.set id (false, watches ++ [w]) }
  | _ => { n with callbacks := n.callbacks ++ [.report w] }

/-- Watches over tasks. -/
def watch (n : Notices) (ids : List TaskId) (sequel : Sequel) : Notices :=
  ids.foldl (attend n.watches.length) { n with watches := n.watches ++ [⟨ids.length, sequel⟩] }

/-- How notices may change. -/
inductive Step (n : Notices) : Notices → Prop
  | spawned : Step n { n with watched := n.watched ++ [(false, [])] }
  | ended {id watches} (h : n.watched[id]? = some (false, watches)) :
    Step n { n with
      watched := n.watched.set id (true, watches)
      callbacks := n.callbacks ++ .settle id :: watches.map .report }
  | settled {id rest} (h : n.callbacks = .settle id :: rest) (honce : .settle id ∉ rest) :
    Step n { n with callbacks := rest }
  | joined (number : Nat) : Step n { n with callbacks := n.callbacks ++ [.sequel (.join number)] }
  | watched (ids : List TaskId) (number : Nat) : Step n (n.watch ids (.join number))
  | dropped {item rest} (h : n.callbacks = item :: rest) (hitem : ∀ id, item ≠ .settle id) :
    Step n { n with callbacks := rest }
  | reported {w watch rest} (h : n.callbacks = .report w :: rest)
    (hwatch : n.watches[w]? = some watch) :
    Step n { n with
      callbacks := if watch.missing = 1 then rest ++ [.sequel watch.sequel] else rest
      watches := n.watches.set w { watch with missing := watch.missing - 1 } }
  | stopped {number cancelled rest}
    (h : n.callbacks = .sequel (.stopped number cancelled) :: rest) :
    Step n { n with callbacks := rest, stops := n.stops.set number true }
  /-- A shutdown that finds no task is over at once. -/
  | stoppedAtOnce : Step n { n with stops := n.stops ++ [true] }
  | stopping (ids : List TaskId) (cancelled : Nat) :
    Step n ({ n with stops := n.stops ++ [false] }.watch ids (.stopped n.stops.length cancelled))

/-- No watch is owed more reports than it waits for, and every shutdown has its number. -/
structure Sound (n : Notices) : Prop where
  owed_le : ∀ w, n.owed w ≤ n.missing w
  watches : ∀ w number cancelled, n.sequel? w = some (.stopped number cancelled) →
    number < n.stops.length
  callbacks : ∀ number cancelled, .sequel (.stopped number cancelled) ∈ n.callbacks →
    number < n.stops.length

/-- A watch will learn of the end of a task, and the supervisor will before. -/
def Awaits (n : Notices) (w : WatchId) (id : TaskId) : Prop :=
  ∃ isOver watches, n.watched[id]? = some (isOver, watches) ∧
    if isOver then .settle id ∈ n.callbacks → [.settle id, .report w].Sublist n.callbacks
    else w ∈ watches

/-- A shutdown is complete once its watch has learned of the end of tasks. -/
structure Pledges (n : Notices) (w : WatchId) (number : Nat) (ids : List TaskId) : Prop where
  watch : ∃ cancelled, n.sequel? w = some (.stopped number cancelled)
  sole : ∀ other cancelled, n.sequel? other = some (.stopped number cancelled) → other = w
  stopped : (n.stops[number]? = some true ∨
    ∃ cancelled, .sequel (.stopped number cancelled) ∈ n.callbacks) → n.missing w = 0
  awaits : ∀ id ∈ ids, n.Awaits w id

/-! ## Sums -/

/-- What a change of one entry of a list does to a sum over it. -/
theorem sum_map_set {α : Type} (amount : α → Nat) {l : List α} {i : Nat} {a : α}
    (h : l[i]? = some a) (b : α) :
    ((l.set i b).map amount).sum + amount a = (l.map amount).sum + amount b := by
  induction l generalizing i with
  | nil => simp at h
  | cons head rest ih =>
    cases i with
    | zero =>
      obtain rfl : head = a := by simpa using h
      simp only [List.set_cons_zero, List.map_cons, List.sum_cons]
      omega
    | succ i =>
      have := ih (by simpa using h)
      simp only [List.set_cons_succ, List.map_cons, List.sum_cons]
      omega

/-- When a shutdown is complete, all its tasks have ended, and the supervisor has learned of it. -/
theorem Pledges.complete (h : n.Pledges w number ids) (hsound : n.Sound)
    (hstopped : n.stops[number]? = some true) (hid : id ∈ ids) :
    (∃ watches, n.watched[id]? = some (true, watches)) ∧ .settle id ∉ n.callbacks := by
  have howed : n.owed w = 0 := by
    have := hsound.owed_le w
    have := h.stopped (.inl hstopped)
    omega
  have hnone : .report w ∉ n.callbacks := List.count_eq_zero.mp (Nat.add_eq_zero_iff.mp howed).2
  obtain ⟨isOver, watches, hwatched, hif⟩ := h.awaits id hid
  cases isOver with
  | true => exact ⟨⟨watches, hwatched⟩, fun hsettle => hnone ((hif hsettle).subset (by simp))⟩
  | false =>
    -- A task that has not ended owes the watch a report, and the watch waits for none.
    exfalso
    have hsum := sum_map_set (fun notice => if notice.1 then 0 else notice.2.count w) hwatched
      (true, [])
    have hpos : 0 < watches.count w := List.count_pos_iff.mpr hif
    have := (Nat.add_eq_zero_iff.mp howed).1
    simp only [Bool.false_eq_true, if_false, if_true] at hsum
    omega

/-! ## Watches -/

section Attend

theorem attend_watches (n : Notices) : (n.attend w id).watches = n.watches := by
  unfold attend
  split <;> rfl

theorem attend_stops (n : Notices) : (n.attend w id).stops = n.stops := by
  unfold attend
  split <;> rfl

theorem mem_attend {item : Item} (n : Notices) :
    item ∈ (n.attend w id).callbacks → item ∈ n.callbacks ∨ item = .report w := by
  unfold attend
  split
  · exact .inl
  · simp

theorem attend_owed (n : Notices) :
    (n.attend w id).owed other ≤ n.owed other + if other = w then 1 else 0 := by
  unfold attend owed
  split
  · next watches hwatched =>
    have hcount :
        (watches ++ [w]).count other = watches.count other + if other = w then 1 else 0 := by
      simp only [List.count_append, List.count_singleton, beq_iff_eq, @eq_comm _ w]
    have hsum := sum_map_set (fun notice => if notice.1 then 0 else notice.2.count other) hwatched
      (false, watches ++ [w])
    simp only [Bool.false_eq_true, if_false] at hsum
    dsimp only
    omega
  · simp only [List.count_append, List.count_singleton, beq_iff_eq, Item.report.injEq,
      eq_comm (a := w)]
    omega

theorem Awaits.attend (h : n.Awaits w id) (other : WatchId) (task : TaskId) :
    (n.attend other task).Awaits w id := by
  obtain ⟨isOver, watches, hwatched, hif⟩ := h
  unfold Notices.attend
  split
  · next before hbefore =>
    rcases eq_or_ne id task with rfl | hne
    · obtain ⟨rfl, rfl⟩ := Prod.mk.inj (Option.some.inj (hwatched.symm.trans hbefore))
      refine ⟨false, watches ++ [other], ?_, List.mem_append_left _ hif⟩
      simp [(List.getElem?_eq_some_iff.mp hwatched).1]
    · exact ⟨isOver, watches, by simp [hne.symm, hwatched], hif⟩
  · refine ⟨isOver, watches, hwatched, ?_⟩
    cases isOver with
    | false => exact hif
    | true =>
      intro hsettle
      have hsettle : .settle id ∈ n.callbacks := by simpa using hsettle
      exact (hif hsettle).trans (List.sublist_append_left _ _)

theorem attend_awaits (n : Notices) (h : id < n.watched.length) : (n.attend w id).Awaits w id := by
  unfold Notices.attend
  split
  · next before hbefore => exact ⟨false, before ++ [w], by simp [h], by simp⟩
  · next hover =>
    have hentry : n.watched[id]? = some n.watched[id] := List.getElem?_eq_getElem h
    have htrue : n.watched[id].1 = true := by
      cases hfst : n.watched[id].1 with
      | true => rfl
      | false => exact absurd (hentry.trans (by rw [← hfst])) (hover n.watched[id].2)
    refine ⟨true, n.watched[id].2, hentry.trans (by rw [← htrue]), fun hsettle => ?_⟩
    have hsettle : .settle id ∈ n.callbacks := by simpa using hsettle
    exact (List.singleton_sublist.mpr hsettle).append (List.Sublist.refl [Item.report w])

theorem attend_watched_length (n : Notices) :
    (n.attend w id).watched.length = n.watched.length := by
  unfold attend
  split <;> simp

end Attend

/-- What attending to tasks leaves as it was, and how much more a watch is owed. -/
structure Attended (n n' : Notices) (w : WatchId) (count : Nat) : Prop where
  watches : n'.watches = n.watches
  stops : n'.stops = n.stops
  length : n'.watched.length = n.watched.length
  mem : ∀ item ∈ n'.callbacks, item ∈ n.callbacks ∨ item = .report w
  owed : ∀ other, n'.owed other ≤ n.owed other + if other = w then count else 0
  awaits : ∀ other id, n.Awaits other id → n'.Awaits other id

theorem attended (n : Notices) (w : WatchId) (ids : List TaskId) :
    Attended n (ids.foldl (attend w) n) w ids.length := by
  induction ids generalizing n with
  | nil => exact ⟨rfl, rfl, rfl, fun _ => .inl, fun other => by simp, fun _ _ => id⟩
  | cons id rest ih =>
    have h := ih (n.attend w id)
    refine ⟨h.watches.trans (attend_watches n), h.stops.trans (attend_stops n),
      h.length.trans (attend_watched_length n), fun item hitem => ?_, fun other => ?_,
      fun other task hawaits => h.awaits other task (hawaits.attend w id)⟩
    · exact (h.mem item hitem).elim (mem_attend n) .inr
    · have := h.owed other
      have : (n.attend w id).owed other ≤ n.owed other + if other = w then 1 else 0 :=
        n.attend_owed
      simp only [List.length_cons, List.foldl_cons]
      split_ifs at * <;> omega

theorem attended_awaits (n : Notices) (w : WatchId) {ids : List TaskId}
    (hlt : ∀ id ∈ ids, id < n.watched.length) :
    ∀ id ∈ ids, (ids.foldl (attend w) n).Awaits w id := by
  induction ids generalizing n with
  | nil => simp
  | cons first rest ih =>
    intro id hid
    rcases List.mem_cons.mp hid with rfl | hid
    · exact (attended _ w rest).awaits w _ (n.attend_awaits (hlt _ List.mem_cons_self))
    · exact ih (n.attend w first)
        (fun id hid => n.attend_watched_length ▸ hlt id (List.mem_cons_of_mem _ hid)) id hid

section Watch

variable (n) (ids : List TaskId) (sequel : Sequel)

theorem watch_attended :
    Attended { n with watches := n.watches ++ [⟨ids.length, sequel⟩] } (n.watch ids sequel)
      n.watches.length ids.length :=
  attended ..

theorem getElem?_watch (h : w ≠ n.watches.length) :
    (n.watches ++ [⟨ids.length, sequel⟩])[w]? = n.watches[w]? := by
  rcases Nat.lt_or_gt_of_ne h with hlt | hgt
  · exact List.getElem?_append_left hlt
  · rw [List.getElem?_eq_none (Nat.le_of_lt hgt), List.getElem?_eq_none]
    simpa using Nat.succ_le_of_lt hgt

theorem missing_watch :
    (n.watch ids sequel).missing w = if w = n.watches.length then ids.length else n.missing w := by
  rw [missing, (n.watch_attended ids sequel).watches]
  split_ifs with h
  · simp [h]
  · rw [getElem?_watch n ids sequel h, missing]

theorem sequel?_watch :
    (n.watch ids sequel).sequel? w =
      if w = n.watches.length then some sequel else n.sequel? w := by
  rw [sequel?, (n.watch_attended ids sequel).watches]
  split_ifs with h
  · simp [h]
  · rw [getElem?_watch n ids sequel h, sequel?]

theorem mem_watch {next : Sequel} (h : .sequel next ∈ (n.watch ids sequel).callbacks) :
    .sequel next ∈ n.callbacks :=
  ((n.watch_attended ids sequel).mem _ h).resolve_right nofun

end Watch

/-- A new watch over tasks. -/
theorem Sound.watching (hsound : n.Sound) (ids : List TaskId) {sequel : Sequel}
    (hsequel : ∀ number cancelled, sequel = .stopped number cancelled → number < n.stops.length) :
    (n.watch ids sequel).Sound := by
  have hwatch := n.watch_attended ids sequel
  refine ⟨fun w => ?_, fun w number cancelled h => ?_, fun number cancelled h => ?_⟩
  · have howed : (n.watch ids sequel).owed w ≤
        n.owed w + if w = n.watches.length then ids.length else 0 := hwatch.owed w
    have hle := hsound.owed_le w
    rw [missing_watch]
    split_ifs at howed ⊢ with hw
    · have : n.missing w = 0 := by simp [missing, hw]
      omega
    · omega
  · rw [hwatch.stops]
    rw [sequel?_watch] at h
    split_ifs at h
    · exact hsequel number cancelled (Option.some.inj h)
    · exact hsound.watches w number cancelled h
  · rw [hwatch.stops]
    exact hsound.callbacks number cancelled (n.mem_watch ids sequel h)

theorem Pledges.watching (h : n.Pledges w number ids) (watched : List TaskId) {sequel : Sequel}
    (hsequel : ∀ cancelled, sequel ≠ .stopped number cancelled) :
    (n.watch watched sequel).Pledges w number ids := by
  have hwatch := n.watch_attended watched sequel
  have hne : w ≠ n.watches.length := by
    rintro rfl
    obtain ⟨cancelled, hcancelled⟩ := h.watch
    simp [sequel?] at hcancelled
  refine ⟨?_, fun other cancelled hother => ?_, fun hstopped => ?_, fun id hid => ?_⟩
  · rw [sequel?_watch, if_neg hne]
    exact h.watch
  · rw [sequel?_watch] at hother
    split_ifs at hother
    · exact absurd (Option.some.inj hother) (hsequel cancelled)
    · exact h.sole other cancelled hother
  · rw [missing_watch, if_neg hne]
    refine h.stopped (hstopped.imp (fun hstops => hwatch.stops ▸ hstops) ?_)
    exact fun ⟨cancelled, hmem⟩ => ⟨cancelled, n.mem_watch watched sequel hmem⟩
  · exact hwatch.awaits w id (h.awaits id hid)

/-- A shutdown watches over its tasks. -/
theorem Sound.pledges (hsound : n.Sound) {ids : List TaskId}
    (hlt : ∀ id ∈ ids, id < n.watched.length) (cancelled : Nat) :
    ({ n with stops := n.stops ++ [false] }.watch ids
      (.stopped n.stops.length cancelled)).Pledges n.watches.length n.stops.length ids := by
  have hwatch := watch_attended { n with stops := n.stops ++ [false] } ids
    (.stopped n.stops.length cancelled)
  refine ⟨⟨cancelled, ?_⟩, fun other cancelled hother => ?_, fun hstopped => ?_, ?_⟩
  · rw [sequel?_watch, if_pos rfl]
  · rw [sequel?_watch] at hother
    split_ifs at hother with h
    · exact h
    · exact absurd (hsound.watches other _ cancelled hother) (Nat.lt_irrefl _)
  · rcases hstopped with hstops | ⟨cancelled, hmem⟩
    · rw [hwatch.stops] at hstops
      simp at hstops
    · exact absurd (hsound.callbacks _ cancelled ((hwatch.mem _ hmem).resolve_right nofun))
        (Nat.lt_irrefl _)
  · exact attended_awaits _ _ hlt

/-! ## Steps -/

theorem Awaits.grown (h : n.Awaits w id) {watched : List (Bool × List WatchId)} {more : List Item}
    (hentry : watched[id]? = n.watched[id]?) (hsettle : .settle id ∉ more) :
    Awaits { n with watched, callbacks := n.callbacks ++ more } w id := by
  obtain ⟨isOver, watches, hwatched, hif⟩ := h
  refine ⟨isOver, watches, hentry.trans hwatched, ?_⟩
  cases isOver with
  | false => exact hif
  | true =>
    intro hmem
    have hmem := (List.mem_append.mp hmem).resolve_right hsettle
    exact (hif hmem).trans (List.sublist_append_left _ _)

theorem Awaits.popped (h : n.Awaits w id) {item : Item} {rest : List Item}
    (hcallbacks : n.callbacks = item :: rest) (honce : item = .settle id → .settle id ∉ rest) :
    Awaits { n with callbacks := rest } w id := by
  obtain ⟨isOver, watches, hwatched, hif⟩ := h
  refine ⟨isOver, watches, hwatched, ?_⟩
  cases isOver with
  | false => exact hif
  | true =>
    intro hmem
    have hmem : .settle id ∈ rest := hmem
    have hsublist := hcallbacks ▸ hif (hcallbacks ▸ List.mem_cons_of_mem _ hmem)
    cases hsublist with
    | cons _ hsublist => exact hsublist
    | cons_cons _ _ => exact absurd hmem (honce rfl)

theorem Awaits.ended (h : n.Awaits w id) {task : TaskId} {watches : List WatchId}
    (hwatched : n.watched[task]? = some (false, watches)) :
    Awaits { n with
      watched := n.watched.set task (true, watches)
      callbacks := n.callbacks ++ .settle task :: watches.map .report } w id := by
  rcases eq_or_ne id task with rfl | hne
  · obtain ⟨isOver, watches, hentry, hif⟩ := h
    obtain ⟨rfl, rfl⟩ := Prod.mk.inj (Option.some.inj (hentry.symm.trans hwatched))
    refine ⟨true, watches, by simp [(List.getElem?_eq_some_iff.mp hwatched).1], fun _ => ?_⟩
    have hreport : [Item.report w].Sublist (watches.map .report) :=
      List.singleton_sublist.mpr (List.mem_map_of_mem hif)
    exact (hreport.cons_cons _).trans (List.sublist_append_right _ _)
  · refine h.grown (by simp [hne.symm]) ?_
    simp [hne]

theorem Sound.of_owed_le (hsound : n.Sound) (howed : ∀ w, n'.owed w ≤ n.owed w)
    (hwatches : n'.watches = n.watches) (hstops : n.stops.length ≤ n'.stops.length)
    (hcallbacks : ∀ sequel, .sequel sequel ∈ n'.callbacks →
      .sequel sequel ∈ n.callbacks ∨ ∃ number, sequel = .join number) : n'.Sound where
  owed_le w := by
    rw [missing, hwatches]
    exact Nat.le_trans (howed w) (hsound.owed_le w)
  watches w number cancelled h := by
    rw [sequel?, hwatches] at h
    exact Nat.lt_of_lt_of_le (hsound.watches w number cancelled h) hstops
  callbacks number cancelled h :=
    Nat.lt_of_lt_of_le
      (hsound.callbacks number cancelled ((hcallbacks _ h).resolve_right (by simp))) hstops

theorem owed_popped {item : Item} {rest : List Item} (h : n.callbacks = item :: rest)
    (stops : List Bool) : owed { n with callbacks := rest, stops } w ≤ n.owed w := by
  simp only [owed, h]
  exact Nat.add_le_add_left List.count_le_count_cons _

theorem owed_ended {watches : List WatchId} (h : n.watched[id]? = some (false, watches)) :
    owed { n with
      watched := n.watched.set id (true, watches)
      callbacks := n.callbacks ++ .settle id :: watches.map .report } w = n.owed w := by
  have hsum := sum_map_set (fun notice => if notice.1 then 0 else notice.2.count w) h
    (true, watches)
  have hreports : (watches.map Item.report).count (.report w) = watches.count w :=
    List.count_map_of_injective _ _ (fun _ _ => Item.report.inj) w
  simp only [Bool.false_eq_true, if_false, if_true] at hsum
  simp only [owed, List.count_append, List.count_cons, hreports]
  have hsettle : (Item.settle id == .report w) = false := rfl
  rw [hsettle, if_neg Bool.false_ne_true]
  omega

section Reported

variable {watch : Watch} (hwatch : n.watches[w]? = some watch) {callbacks : List Item}
include hwatch

theorem missing_reported :
    missing { n with
      callbacks, watches := n.watches.set w { watch with missing := watch.missing - 1 } } other =
      if other = w then watch.missing - 1 else n.missing other := by
  split_ifs with h
  · simp [missing, h, (List.getElem?_eq_some_iff.mp hwatch).1]
  · simp [missing, Ne.symm h]

theorem sequel?_reported :
    sequel? { n with
      callbacks, watches := n.watches.set w { watch with missing := watch.missing - 1 } } other =
      n.sequel? other := by
  rcases eq_or_ne other w with rfl | h
  · obtain ⟨hlt, rfl⟩ := List.getElem?_eq_some_iff.mp hwatch
    simp [sequel?, hlt]
  · simp [sequel?, h.symm]

end Reported

theorem Step.sound (h : n.Step n') (hsound : n.Sound) : n'.Sound := by
  cases h with
  | spawned =>
    exact hsound.of_owed_le (by simp [owed]) rfl (Nat.le_refl _) fun _ => .inl
  | ended h =>
    refine hsound.of_owed_le (fun w => Nat.le_of_eq (owed_ended h)) rfl (Nat.le_refl _) ?_
    exact fun _ hmem => .inl (by simpa using hmem)
  | settled h honce =>
    refine hsound.of_owed_le (fun w => owed_popped h _) rfl (Nat.le_refl _) fun _ hmem => ?_
    exact .inl (h ▸ List.mem_cons_of_mem _ hmem)
  | joined number =>
    refine hsound.of_owed_le ?_ rfl (Nat.le_refl _) ?_
    · simp [owed, List.count_append]
    · intro sequel hmem
      exact (List.mem_append.mp hmem).imp_right fun h => ⟨number, by simpa using h⟩
  | watched ids number => exact hsound.watching ids nofun
  | dropped h hitem =>
    refine hsound.of_owed_le (fun w => owed_popped h _) rfl (Nat.le_refl _) fun _ hmem => ?_
    exact .inl (h ▸ List.mem_cons_of_mem _ hmem)
  | @reported w watch rest h hwatch =>
    refine ⟨fun other => ?_, fun other number cancelled hsequel => ?_,
      fun number cancelled hmem => ?_⟩
    · have hle := hsound.owed_le other
      have hcount : (if watch.missing = 1 then rest ++ [.sequel watch.sequel] else rest).count
          (.report other) = rest.count (.report other) := by
        split <;> simp [List.count_append]
      simp only [owed, h, List.count_cons] at hle
      rw [missing_reported hwatch]
      simp only [owed, hcount]
      split_ifs with heq
      · have hmissing : n.missing w = watch.missing := by simp [missing, hwatch]
        simp only [heq, beq_self_eq_true, if_true, hmissing] at hle ⊢
        omega
      · omega
    · exact hsound.watches other number cancelled (sequel?_reported hwatch ▸ hsequel)
    · have hrest : .sequel (.stopped number cancelled) ∈ rest →
          number < n.stops.length := fun hmem =>
        hsound.callbacks number cancelled (h ▸ List.mem_cons_of_mem _ hmem)
      split at hmem
      · rcases List.mem_append.mp hmem with hmem | hmem
        · exact hrest hmem
        · refine hsound.watches w number cancelled ?_
          have hsequel : Sequel.stopped number cancelled = watch.sequel := by simpa using hmem
          rw [sequel?, hwatch, hsequel]
          rfl
      · exact hrest hmem
  | stopped h =>
    refine hsound.of_owed_le (fun w => owed_popped h _) rfl (by simp) fun _ hmem => ?_
    exact .inl (h ▸ List.mem_cons_of_mem _ hmem)
  | stoppedAtOnce =>
    exact hsound.of_owed_le (fun _ => Nat.le_refl _) rfl (by simp) fun _ => .inl
  | stopping ids cancelled =>
    have hstops : Sound { n with stops := n.stops ++ [false] } :=
      hsound.of_owed_le (fun _ => Nat.le_refl _) rfl (by simp) fun _ => .inl
    refine hstops.watching ids fun number cancelled h => ?_
    obtain ⟨rfl, -⟩ := Sequel.stopped.inj h
    simp

theorem Pledges.of_stopped (h : n.Pledges w number ids) (hwatches : n'.watches = n.watches)
    (hstopped : n'.stops[number]? = some true → n.stops[number]? = some true ∨
      ∃ cancelled, .sequel (.stopped number cancelled) ∈ n.callbacks)
    (hcallbacks : ∀ cancelled, .sequel (.stopped number cancelled) ∈ n'.callbacks →
      .sequel (.stopped number cancelled) ∈ n.callbacks)
    (hawaits : ∀ id ∈ ids, n.Awaits w id → n'.Awaits w id) : n'.Pledges w number ids where
  watch := by
    simp only [sequel?, hwatches]
    exact h.watch
  sole := by
    simp only [sequel?, hwatches]
    exact h.sole
  stopped hor := by
    rw [missing, hwatches]
    exact h.stopped (hor.elim hstopped fun ⟨c, hmem⟩ => .inr ⟨c, hcallbacks c hmem⟩)
  awaits id hid := hawaits id hid (h.awaits id hid)

theorem Pledges.lt (h : n.Pledges w number ids) (hsound : n.Sound) : number < n.stops.length :=
  have ⟨cancelled, hsequel⟩ := h.watch
  hsound.watches w number cancelled hsequel

theorem Pledges.shutDown (h : n.Pledges w number ids) (hsound : n.Sound) (isOver : Bool) :
    Pledges { n with stops := n.stops ++ [isOver] } w number ids := by
  refine h.of_stopped rfl (fun hstops => .inl ?_) (fun _ => id) fun _ _ => id
  rwa [List.getElem?_append_left (h.lt hsound)] at hstops

theorem Pledges.reported (h : n.Pledges w number ids) {other : WatchId} {watch : Watch}
    {rest : List Item} (hcallbacks : n.callbacks = .report other :: rest)
    (hwatch : n.watches[other]? = some watch) :
    Pledges { n with
      callbacks := if watch.missing = 1 then rest ++ [.sequel watch.sequel] else rest
      watches := n.watches.set other { watch with missing := watch.missing - 1 } }
      w number ids where
  watch := by
    rw [sequel?_reported hwatch]
    exact h.watch
  sole w' cancelled hsequel := h.sole w' cancelled (sequel?_reported hwatch ▸ hsequel)
  stopped hor := by
    have hmissing : n.missing other = watch.missing := by simp [missing, hwatch]
    have hlast : n.missing w = 0 ∨ watch.missing = 1 ∧ w = other := by
      rcases hor with hstops | ⟨cancelled, hmem⟩
      · exact .inl (h.stopped (.inl hstops))
      · split at hmem
        · next hone =>
          rcases List.mem_append.mp hmem with hmem | hmem
          · exact .inl (h.stopped (.inr ⟨cancelled, hcallbacks ▸ List.mem_cons_of_mem _ hmem⟩))
          · have hsequel : Sequel.stopped number cancelled = watch.sequel := by simpa using hmem
            refine .inr ⟨hone, (h.sole other cancelled ?_).symm⟩
            rw [sequel?, hwatch, hsequel]
            rfl
        · exact .inl (h.stopped (.inr ⟨cancelled, hcallbacks ▸ List.mem_cons_of_mem _ hmem⟩))
    rw [missing_reported hwatch]
    split_ifs with heq
    · rcases hlast with hzero | ⟨hone, -⟩
      · rw [heq, hmissing] at hzero
        omega
      · omega
    · exact hlast.resolve_right fun ⟨_, hw⟩ => heq hw
  awaits id hid := by
    have hpopped := (h.awaits id hid).popped hcallbacks nofun
    split
    · exact hpopped.grown rfl (by simp)
    · exact hpopped

theorem Step.pledges (h : n.Step n') (hsound : n.Sound) (hpledges : n.Pledges w number ids) :
    n'.Pledges w number ids := by
  cases h with
  | spawned =>
    refine hpledges.of_stopped rfl .inl (fun _ => id) fun id _ hawaits => ?_
    obtain ⟨isOver, watches, hentry, hif⟩ := hawaits
    exact ⟨isOver, watches,
      (List.getElem?_append_left (List.getElem?_eq_some_iff.mp hentry).1).trans hentry, hif⟩
  | ended h =>
    exact hpledges.of_stopped rfl .inl (by simp) fun id _ hawaits => hawaits.ended h
  | settled h honce =>
    exact hpledges.of_stopped rfl .inl (fun _ hmem => h ▸ List.mem_cons_of_mem _ hmem)
      fun id _ hawaits => hawaits.popped h fun heq => Item.settle.inj heq ▸ honce
  | joined k =>
    refine hpledges.of_stopped rfl .inl (by simp) fun id _ hawaits => ?_
    exact hawaits.grown rfl (by simp)
  | watched ids number => exact hpledges.watching ids nofun
  | dropped h hitem =>
    exact hpledges.of_stopped rfl .inl (fun _ hmem => h ▸ List.mem_cons_of_mem _ hmem)
      fun id _ hawaits => hawaits.popped h fun heq => absurd heq (hitem id)
  | reported h hwatch => exact hpledges.reported h hwatch
  | @stopped other cancelled rest h =>
    refine hpledges.of_stopped rfl (fun hstops => ?_)
      (fun _ hmem => h ▸ List.mem_cons_of_mem _ hmem) fun id _ hawaits => hawaits.popped h nofun
    rcases eq_or_ne other number with rfl | hne
    · exact .inr ⟨cancelled, h ▸ List.mem_cons_self⟩
    · exact .inl (by simpa [hne] using hstops)
  | stoppedAtOnce => exact hpledges.shutDown hsound true
  | stopping watched cancelled =>
    refine (hpledges.shutDown hsound false).watching watched fun _ heq => ?_
    obtain ⟨hlength, -⟩ := Sequel.stopped.inj heq
    exact absurd (hpledges.lt hsound) (hlength ▸ Nat.lt_irrefl _)

end Notices

end ChatWarden.Supervision
