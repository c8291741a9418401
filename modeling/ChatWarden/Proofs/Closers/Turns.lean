import ChatWarden.Closers
import Mathlib.Data.List.Infix

/-!
# Closers in turn

A shutdown gives every closer that waits its turn, the last one first. A turn is over when the
closer has ended, and with it whatever it made run; then the next one begins, unless the closer was
cancelled.

Results:
* `work_append`: tasks one behind the other.
* `shutDown_turns`: what a shutdown comes to, turn by turn.
* `turns_ran`: the closers that have their turn are run once each.
* `turns_of_steady`: if no closer is ever cancelled, all have their turns.
-/

namespace ChatWarden

/-- Neither a closer nor one that it registers is ever cancelled by itself. -/
def Closer.isSteady : Closer → Bool
  | .ends ending => ending != .cancelled
  | .writes _ rest => rest.isSteady
  | .registers _ closer rest => closer.isSteady && rest.isSteady
  | .shutsDown rest _ => rest.isSteady

namespace Closers

variable {closers : Closers} {tasks left front back : List Task} {rs : List Registration}

/-! ## Tasks one behind the other -/

theorem work_cancelled_of_none (h : unwound tasks = none) (closers : Closers) (name : String) :
    closers.work (.rest name (.ends .cancelled) :: tasks) = (closers, true) := by
  rw [work]
  split
  · rfl
  · next hleft => rw [h] at hleft; cases hleft

theorem work_cancelled_of_some (h : unwound tasks = some left) (closers : Closers)
    (name : String) :
    closers.work (.rest name (.ends .cancelled) :: tasks) = closers.work left := by
  rw [work]
  split
  · next hnone => rw [h] at hnone; cases hnone
  · next hleft => rw [h] at hleft; rw [Option.some.inj hleft]

/-- Tasks of which nobody goes on behind a shutdown stay out of what is unwound. -/
theorem unwound_append (h : unwound back = none) (front : List Task) :
    unwound (front ++ back) = (unwound front).map (· ++ back) := by
  induction front with
  | nil => exact h
  | cons task rest ih => cases task <;> first | rfl | exact ih

theorem unwound_turns (rs : List Registration) : unwound (rs.map .run ++ [.finish]) = none := by
  induction rs with
  | nil => rfl
  | cons r rest ih => exact ih

/-- Tasks are done one behind the other, unless those in front are cancelled. -/
theorem work_append (h : unwound back = none) (closers : Closers) (front : List Task) :
    closers.work (front ++ back) =
      if (closers.work front).2 then ((closers.work front).1, true)
      else (closers.work front).1.work back := by
  induction closers, front using work.induct with
  | case1 closers => rw [work]; rfl
  | case2 closers tasks ih => rw [List.cons_append, work, work, ih]
  | case3 closers r tasks stopping seen ih => rw [List.cons_append, work, work]; exact ih
  | case4 closers name tasks ih => rw [List.cons_append, work, work, ih]
  | case5 closers name fault tasks ih => rw [List.cons_append, work, work, ih]
  | case6 closers name tasks hnone =>
    have hall : unwound (tasks ++ back) = none := by rw [unwound_append h, hnone]; rfl
    rw [List.cons_append, work_cancelled_of_none hall, work_cancelled_of_none hnone]
    rfl
  | case7 closers name tasks left hsome ih =>
    have hall : unwound (tasks ++ back) = some (left ++ back) := by
      rw [unwound_append h, hsome]
      rfl
    rw [List.cons_append, work_cancelled_of_some hall, work_cancelled_of_some hsome, ih]
  | case8 closers name written rest tasks seen ih =>
    rw [List.cons_append, work, work]
    exact ih
  | case9 closers name other closer rest tasks ih =>
    rw [List.cons_append, work, work]
    exact ih
  | case10 closers name rest cancelled tasks emptied ih =>
    rw [List.cons_append, work, work, ← List.cons_append, ← List.append_assoc]
    exact ih
  | case11 closers name next cancelled tasks ih =>
    rw [List.cons_append, work, work]
    exact ih

/-! ## What was seen before -/

/-- The closers with more that was seen before. -/
def after (earlier : List Event) (closers : Closers) : Closers :=
  { closers with events := earlier ++ closers.events }

theorem work_after (earlier : List Event) (closers : Closers) (tasks : List Task) :
    (closers.after earlier).work tasks =
      ((closers.work tasks).1.after earlier, (closers.work tasks).2) := by
  -- Every step adds to the end of what was seen, whatever stands in front of it.
  induction closers, tasks using work.induct with
  | case1 closers => rw [work, work]
  | case2 closers tasks ih =>
    rw [work, work, ← ih]
    simp [after, wrote]
  | case3 closers r tasks stopping seen ih =>
    rw [work, work, ← ih]
    simp [after, wrote, seen, stopping]
  | case4 closers name tasks ih => rw [work, work, ih]
  | case5 closers name fault tasks ih =>
    rw [work, work, ← ih]
    simp [after, wrote]
  | case6 closers name tasks hnone =>
    rw [work_cancelled_of_none hnone, work_cancelled_of_none hnone]
  | case7 closers name tasks left hsome ih =>
    rw [work_cancelled_of_some hsome, work_cancelled_of_some hsome, ih]
  | case8 closers name written rest tasks seen ih =>
    rw [work, work, ← ih]
    simp [after, seen]
  | case9 closers name other closer rest tasks ih =>
    rw [work, work, ← ih]
    simp [after, register, wrote]
  | case10 closers name rest cancelled tasks emptied ih =>
    rw [work, work, ← ih]
    rfl
  | case11 closers name next cancelled tasks ih => rw [work, work, ih]

/-! ## Turns -/

/-- The turn of a closer in a shutdown. -/
structure Turn where
  registration : Registration
  /-- What is seen from the record that the closer is run until it has ended. -/
  events : List Event
  /-- Whether the closer was cancelled. -/
  isCancelled : Bool

/-- The closers behind the turn of one, with what is seen of it, and whether it was cancelled. -/
def behind (closers : Closers) (r : Registration) : Closers × Bool :=
  { closers with events := [] : Closers }.work [.run r]

/-- The turns of closers that are run one behind the other until one is cancelled. -/
def turns (closers : Closers) : List Registration → List Turn
  | [] => []
  | r :: rest =>
    ⟨r, (closers.behind r).1.events, (closers.behind r).2⟩ ::
      if (closers.behind r).2 then [] else turns (closers.behind r).1 rest

/-- What was seen before has no part in a turn. -/
theorem turns_after (earlier : List Event) (closers : Closers) (rs : List Registration) :
    turns (closers.after earlier) rs = turns closers rs := by
  cases rs <;> rfl

theorem work_run (closers : Closers) (r : Registration) :
    closers.work [.run r] =
      ((closers.behind r).1.after closers.events, (closers.behind r).2) := by
  have hquiet : closers = after closers.events { closers with events := [] } := by
    rw [after, List.append_nil]
  rw [hquiet, work_after, ← hquiet, behind]

/-- The record that a shutdown has run all closers. -/
def allStopped : Event := .wrote (record .info "All lifecycle components stopped")

/-- What the tasks of a shutdown come to, turn by turn. -/
theorem work_turns (closers : Closers) (rs : List Registration) :
    let turns := closers.turns rs
    let worked := closers.work (rs.map .run ++ [.finish])
    worked.1.events = closers.events ++ turns.flatMap Turn.events ++
        (if turns.any Turn.isCancelled then [] else [allStopped]) ∧
      worked.2 = turns.any Turn.isCancelled := by
  induction rs generalizing closers with
  | nil =>
    intro turns worked
    have hworked : worked = (closers.wrote .info "All lifecycle components stopped", false) := by
      unfold worked
      rw [List.map_nil, List.nil_append, work, work]
    rw [hworked]
    exact ⟨by simp [turns, Closers.turns, wrote, allStopped], rfl⟩
  | cons r rest ih =>
    intro turns worked
    have hworked : worked = if (closers.behind r).2 then
        ((closers.behind r).1.after closers.events, true)
        else ((closers.behind r).1.after closers.events).work (rest.map .run ++ [.finish]) := by
      unfold worked
      rw [List.map_cons, List.cons_append, ← List.singleton_append,
        work_append (unwound_turns rest), work_run]
    cases hcancelled : (closers.behind r).2 with
    | true =>
      rw [hworked, hcancelled]
      simp [turns, Closers.turns, hcancelled, after]
    | false =>
      obtain ⟨hevents, hrest⟩ := ih ((closers.behind r).1.after closers.events)
      rw [turns_after] at hevents hrest
      rw [hworked, hcancelled]
      simp only [Bool.false_eq_true, if_false]
      rw [hevents, hrest]
      simp [turns, Closers.turns, hcancelled, after]

/-- What a shutdown comes to, turn by turn. -/
theorem shutDown_turns (closers : Closers) (h : closers.registered ≠ []) :
    let turns := { closers with registered := [] : Closers }.turns closers.registered.reverse
    closers.shutDown.1.events = closers.events ++ turns.flatMap Turn.events ++
        (if turns.any Turn.isCancelled then [] else [allStopped]) ∧
      closers.shutDown.2 = turns.any Turn.isCancelled := by
  intro turns
  have htasks : closers.shutdownTasks = closers.registered.reverse.map .run ++ [.finish] := by
    rw [shutdownTasks, if_neg (by simpa using h)]
  rw [shutDown, htasks]
  exact work_turns _ _

/-- The closers that have their turn are the first ones. -/
theorem turns_prefix (closers : Closers) (rs : List Registration) :
    (closers.turns rs).map Turn.registration <+: rs := by
  induction rs generalizing closers with
  | nil => exact List.prefix_rfl
  | cons r rest ih =>
    rw [turns, List.map_cons, List.prefix_cons_inj]
    split
    · exact List.nil_prefix
    · exact ih _

/-- If no closer is cancelled, all have their turns. -/
theorem turns_complete {closers : Closers}
    (h : ∀ turn ∈ closers.turns rs, turn.isCancelled = false) :
    (closers.turns rs).map Turn.registration = rs := by
  induction rs generalizing closers with
  | nil => rfl
  | cons r rest ih =>
    rw [turns] at h ⊢
    obtain ⟨hfirst, hrest⟩ := List.forall_mem_cons.mp h
    rw [show (closers.behind r).2 = false from hfirst] at hrest ⊢
    rw [List.map_cons]
    exact congrArg (r :: ·) (ih hrest)

/-! ## Closers that are run -/

/-- The registration whose closer is run, by its number and its name. -/
def Event.ran? : Event → Option (Nat × String)
  | .ran number name => some (number, name)
  | .wrote _ => none

/-- The closers that are run, in order. -/
def ranOf (events : List Event) : List (Nat × String) := events.filterMap Event.ran?

theorem ranOf_append (front back : List Event) :
    ranOf (front ++ back) = ranOf front ++ ranOf back := List.filterMap_append

/-- All closers that can still be run have numbers from a bound on. -/
structure From (bound : Nat) (closers : Closers) (tasks : List Task) : Prop where
  count : bound ≤ closers.count
  waiting : ∀ r ∈ closers.registered, bound ≤ r.number
  tasks : ∀ r, .run r ∈ tasks → bound ≤ r.number

/-- Between two states closers were run that have numbers from a bound on. -/
def RunsFrom (bound : Nat) (closers later : Closers) : Prop :=
  ∃ more, later.events = closers.events ++ more ∧ ∀ ran ∈ ranOf more, bound ≤ ran.1

section

variable {bound : Nat} {later last : Closers}

theorem RunsFrom.refl (closers : Closers) : RunsFrom bound closers closers :=
  ⟨[], (List.append_nil _).symm, nofun⟩

theorem RunsFrom.wrote {record : Log.Record}
    (hevents : later.events = closers.events ++ [.wrote record]) (h : RunsFrom bound later last) :
    RunsFrom bound closers last := by
  obtain ⟨more, hmore, hbound⟩ := h
  exact ⟨.wrote record :: more, by rw [hmore, hevents, List.append_assoc]; rfl, hbound⟩

theorem RunsFrom.ran {number : Nat} {name : String} (hnumber : bound ≤ number)
    (hevents : later.events = closers.events ++ [.ran number name])
    (h : RunsFrom bound later last) : RunsFrom bound closers last := by
  obtain ⟨more, hmore, hbound⟩ := h
  exact ⟨.ran number name :: more, by rw [hmore, hevents, List.append_assoc]; rfl,
    List.forall_mem_cons.mpr ⟨hnumber, hbound⟩⟩

namespace From

/-- Fewer closers are to be run. -/
theorem sub (h : From bound closers tasks) (hsub : ∀ r, .run r ∈ left → .run r ∈ tasks) :
    From bound closers left := ⟨h.count, h.waiting, fun r hr => h.tasks r (hsub r hr)⟩

theorem tail {task : Task} (h : From bound closers (task :: tasks)) : From bound closers tasks :=
  h.sub fun _ => List.mem_cons_of_mem _

/-- The rest of a closer runs nothing by itself. -/
theorem rest (h : From bound closers tasks) (name : String) (closer : Closer) :
    From bound closers (.rest name closer :: tasks) := h.sub fun r hr => by simpa using hr

theorem register (h : From bound closers tasks) (name : String) (closer : Closer) :
    From bound (closers.register name closer) tasks where
  count := Nat.le_succ_of_le h.count
  waiting := by
    rw [Closers.register]
    simpa [wrote, or_imp, forall_and] using ⟨h.waiting, h.count⟩
  tasks := h.tasks

theorem shutdown (h : From bound closers tasks) :
    From bound { closers with registered := [] } (closers.shutdownTasks ++ tasks) where
  count := h.count
  waiting := nofun
  tasks r hr := by
    rcases List.mem_append.mp hr with hrun | htask
    · unfold shutdownTasks at hrun
      split at hrun
      · cases hrun
      · exact h.waiting r (by simpa using hrun)
    · exact h.tasks r htask

theorem unwound (h : From bound closers tasks) (hleft : unwound tasks = some left) :
    From bound closers left := by
  fun_induction Closers.unwound tasks with
  | case1 => cases hleft
  | case2 name next cancelled tasks =>
    obtain rfl := Option.some.inj hleft
    exact h.tail.rest name cancelled
  | case3 task tasks _ ih => exact ih h.tail hleft

/-- No other closers are run, and none are left. -/
theorem work (h : From bound closers tasks) :
    From bound (closers.work tasks).1 [] ∧ RunsFrom bound closers (closers.work tasks).1 := by
  induction closers, tasks using Closers.work.induct with
  | case1 closers =>
    rw [Closers.work]
    exact ⟨h, .refl closers⟩
  | case2 closers tasks ih =>
    rw [Closers.work]
    exact (ih ⟨h.count, h.waiting, h.tail.tasks⟩).imp_right (.wrote rfl)
  | case3 closers r tasks stopping seen ih =>
    rw [Closers.work]
    have hnext : From bound seen tasks := ⟨h.count, h.waiting, h.tail.tasks⟩
    have hr : bound ≤ r.number := h.tasks r List.mem_cons_self
    exact (ih (hnext.rest ..)).imp_right fun hlater =>
      .wrote (rfl : stopping.events = _) (.ran hr rfl hlater)
  | case4 closers name tasks ih =>
    rw [Closers.work]
    exact ih h.tail
  | case5 closers name fault tasks ih =>
    rw [Closers.work]
    exact (ih ⟨h.count, h.waiting, h.tail.tasks⟩).imp_right (.wrote rfl)
  | case6 closers name tasks hnone =>
    rw [work_cancelled_of_none hnone]
    exact ⟨h.sub nofun, .refl closers⟩
  | case7 closers name tasks left hsome ih =>
    rw [work_cancelled_of_some hsome]
    exact ih (h.tail.unwound hsome)
  | case8 closers name written rest tasks seen ih =>
    rw [Closers.work]
    have hnext : From bound seen tasks := ⟨h.count, h.waiting, h.tail.tasks⟩
    exact (ih (hnext.rest ..)).imp_right (.wrote rfl)
  | case9 closers name other closer rest tasks ih =>
    rw [Closers.work]
    exact (ih ((h.tail.register ..).rest ..)).imp_right (.wrote rfl)
  | case10 closers name rest cancelled tasks emptied ih =>
    rw [Closers.work]
    have hresumed : From bound closers (.resume name rest cancelled :: tasks) :=
      h.tail.sub fun r hr => by simpa using hr
    exact ih hresumed.shutdown
  | case11 closers name next cancelled tasks ih =>
    rw [Closers.work]
    exact ih (h.tail.rest ..)

end From

/-- The turn of a closer shows first that it is run, and then what is run later. -/
theorem behind_ran (h : From bound closers []) (r : Registration) :
    From bound (closers.behind r).1 [] ∧ ∃ more,
      ranOf (closers.behind r).1.events = (r.number, r.name) :: more ∧
        ∀ ran ∈ more, bound ≤ ran.1 := by
  rw [behind, work]
  set seen : Closers := { closers with
    events := [.wrote (record .info ("Stopping " ++ r.name)), .ran r.number r.name] }
  have hseen : From bound seen [] := ⟨h.count, h.waiting, h.tasks⟩
  obtain ⟨hlast, more, hmore, hbound⟩ := (hseen.rest r.name r.closer).work
  refine ⟨hlast, ranOf more, ?_, hbound⟩
  exact (congrArg ranOf hmore).trans (ranOf_append ..)

/-- The closers that have their turn are run once each, in this order. -/
theorem turns_ran (h : From bound closers []) (hrs : ∀ r ∈ rs, r.number < bound) :
    (ranOf ((closers.turns rs).flatMap Turn.events)).filter (·.1 < bound) =
      (closers.turns rs).map fun turn => (turn.registration.number, turn.registration.name) := by
  induction rs generalizing closers with
  | nil => rfl
  | cons r rest ih =>
    obtain ⟨hr, hrest⟩ := List.forall_mem_cons.mp hrs
    obtain ⟨hbehind, more, hran, hmore⟩ := behind_ran h r
    have hlate : more.filter (·.1 < bound) = [] :=
      List.filter_eq_nil_iff.mpr fun ran hmem => by simpa using hmore ran hmem
    rw [turns, List.flatMap_cons, ranOf_append, hran, List.filter_append,
      List.filter_cons_of_pos (by simpa using hr), hlate, List.map_cons]
    split
    · rfl
    · rw [ih hbehind hrest]
      rfl

end

/-! ## Closers that are never cancelled -/

/-- The closer that is left of a task is never cancelled. -/
def Task.isSteady : Task → Bool
  | .run r => r.closer.isSteady
  | .rest _ closer => closer.isSteady
  | .resume _ next _ => next.isSteady
  | .finish => true

/-- No closer that can still be run is ever cancelled. -/
structure Steady (closers : Closers) (tasks : List Task) : Prop where
  waiting : ∀ r ∈ closers.registered, r.closer.isSteady = true
  tasks : ∀ task ∈ tasks, task.isSteady = true

namespace Steady

theorem tail {task : Task} (h : Steady closers (task :: tasks)) : Steady closers tasks :=
  ⟨h.waiting, (List.forall_mem_cons.mp h.tasks).2⟩

theorem head {task : Task} (h : Steady closers (task :: tasks)) : task.isSteady = true :=
  (List.forall_mem_cons.mp h.tasks).1

theorem cons {task : Task} (h : Steady closers tasks) (htask : task.isSteady = true) :
    Steady closers (task :: tasks) := ⟨h.waiting, List.forall_mem_cons.mpr ⟨htask, h.tasks⟩⟩

theorem register {closer : Closer} (h : Steady closers tasks) (name : String)
    (hcloser : closer.isSteady = true) : Steady (closers.register name closer) tasks where
  waiting := by
    rw [Closers.register]
    simpa [wrote, or_imp, forall_and] using ⟨h.waiting, hcloser⟩
  tasks := h.tasks

theorem shutdown (h : Steady closers tasks) :
    Steady { closers with registered := [] } (closers.shutdownTasks ++ tasks) where
  waiting := nofun
  tasks := by
    refine List.forall_mem_append.mpr ⟨fun task htask => ?_, h.tasks⟩
    unfold shutdownTasks at htask
    split at htask
    · cases htask
    · simp only [List.mem_append, List.mem_map, List.mem_reverse, List.mem_singleton] at htask
      rcases htask with ⟨r, hr, rfl⟩ | rfl
      · exact h.waiting r hr
      · rfl

/-- Such closers are done to the end, and the ones that are left are such again. -/
theorem work (h : Steady closers tasks) :
    (closers.work tasks).2 = false ∧ Steady (closers.work tasks).1 [] := by
  induction closers, tasks using Closers.work.induct with
  | case1 closers =>
    rw [Closers.work]
    exact ⟨rfl, h⟩
  | case2 closers tasks ih =>
    rw [Closers.work]
    exact ih ⟨h.waiting, h.tail.tasks⟩
  | case3 closers r tasks stopping seen ih =>
    rw [Closers.work]
    have hnext : Steady seen tasks := ⟨h.waiting, h.tail.tasks⟩
    exact ih (hnext.cons h.head)
  | case4 closers name tasks ih =>
    rw [Closers.work]
    exact ih h.tail
  | case5 closers name fault tasks ih =>
    rw [Closers.work]
    exact ih ⟨h.waiting, h.tail.tasks⟩
  | case6 closers name tasks hnone => cases h.head
  | case7 closers name tasks left hsome ih => cases h.head
  | case8 closers name written rest tasks seen ih =>
    rw [Closers.work]
    have hnext : Steady seen tasks := ⟨h.waiting, h.tail.tasks⟩
    exact ih (hnext.cons h.head)
  | case9 closers name other closer rest tasks ih =>
    rw [Closers.work]
    obtain ⟨hcloser, hrest⟩ := Bool.and_eq_true_iff.mp h.head
    exact ih ((h.tail.register other hcloser).cons hrest)
  | case10 closers name rest cancelled tasks emptied ih =>
    rw [Closers.work]
    have hresumed : Steady closers (.resume name rest cancelled :: tasks) := h.tail.cons h.head
    exact ih hresumed.shutdown
  | case11 closers name next cancelled tasks ih =>
    rw [Closers.work]
    exact ih (h.tail.cons h.head)

end Steady

/-- Closers that are never cancelled have their turns, all of them. -/
theorem turns_of_steady (h : Steady closers (rs.map .run)) :
    (closers.turns rs).map Turn.registration = rs := by
  refine turns_complete ?_
  induction rs generalizing closers with
  | nil => exact nofun
  | cons r rest ih =>
    have hquiet : Steady { closers with events := [] } [.run r] :=
      ⟨h.waiting, List.forall_mem_singleton.mpr h.head⟩
    obtain ⟨hdone, hbehind⟩ := hquiet.work
    rw [turns, behind, hdone, List.forall_mem_cons]
    exact ⟨rfl, ih ⟨hbehind.waiting, h.tail.tasks⟩⟩

end Closers

end ChatWarden
