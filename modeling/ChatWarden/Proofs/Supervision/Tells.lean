import ChatWarden.Proofs.Supervision.Doings
import ChatWarden.Proofs.Supervision.Notices

/-!
# What operations do to the notices

Most of what happens to a supervisor leaves the notices of its watches as they are. They change when
a task is spawned or ends, and when a watch is set or a callback runs.

Results:
* `Supervisor.advance_tells`: all that a task does in its turn is told by changes of the notices.
-/

namespace ChatWarden.Supervision.Supervisor

variable {s s' : Supervisor} {id : TaskId} {task : Task}

/-! ## Notices -/

/-- The notices change step by step. -/
def Tells (s s' : Supervisor) : Prop :=
  Relation.ReflTransGen Notices.Step s.notices s'.notices

theorem Tells.of_eq (h : s'.notices = s.notices) : Tells s s' := by
  rw [Tells, h]

theorem getElem?_watched (htask : s.tasks[id]? = some task) :
    s.notices.watched[id]? = some task.notice := by
  simp [notices, htask]

theorem watched_withTask (htask : s.tasks[id]? = some task) (change : Task → Task) :
    (s.withTask id change).notices.watched =
      s.notices.watched.set id (change task).notice := by
  refine List.ext_getElem? fun i => ?_
  obtain ⟨hlt, rfl⟩ := List.getElem?_eq_some_iff.mp htask
  rcases eq_or_ne id i with rfl | hne
  · simp [notices, withTask, hlt]
  · simp [notices, withTask, hne]

theorem notices_withTask {change : Task → Task}
    (h : ∀ task, s.tasks[id]? = some task → (change task).notice = task.notice) :
    (s.withTask id change).notices = s.notices := by
  have hwatched : (s.withTask id change).notices.watched = s.notices.watched := by
    cases htask : s.tasks[id]? with
    | none => simp [notices, withTask, List.modify_eq_self (List.getElem?_eq_none_iff.mp htask)]
    | some task =>
      obtain ⟨_, hentry⟩ := List.getElem?_eq_some_iff.mp (getElem?_watched htask)
      rw [watched_withTask htask, h task htask, ← hentry, List.set_getElem_self]
  exact congrArg (Notices.mk s.callbacks s.watches s.stops) hwatched

theorem notices_advance : (s.soon (.advance id)).notices = s.notices := by
  simp [notices, soon, callbacks, Item.isAdvance]

theorem notice_withWake (wake : Wake) (task : Task) :
    (task.withWake wake).notice = task.notice := by
  unfold Task.withWake
  split <;> simp [Task.notice, Task.isOver, Task.ending?, *]

theorem notices_callBack (wake : Wake) : (s.callBack id wake).notices = s.notices := by
  rw [callBack, notices_advance, notices_withTask fun task _ => notice_withWake wake task]

theorem notices_announce (event : String) : (s.announce event).notices = s.notices := by
  unfold announce
  split
  · rfl
  · exact List.foldlRecOn (motive := fun r : Supervisor => r.notices = s.notices) _ _ rfl
      fun r hnotices sleeper _ => (notices_callBack .granted).trans hnotices

theorem notices_cancel : (s.cancel id).notices = s.notices := by
  unfold cancel
  split
  · rfl
  · split_ifs
    · rfl
    · exact notices_callBack .withdrawn
    · exact notices_withTask fun _ _ => rfl

theorem notices_wakeNext : s.wakeNext.notices = s.notices := by
  obtain ⟨heq, -⟩ | ⟨next, -, -, heq⟩ := s.wakeNext_cases
  · rw [heq]
  · rw [heq]
    exact notices_callBack .granted

theorem notices_release : s.release.notices = s.notices := notices_wakeNext

theorem notices_ended {watches : List WatchId}
    (h : s.notices.watched[id]? = some (false, watches)) (ending : Ending) :
    (s.ended id ending).notices =
      { s.notices with
        watched := s.notices.watched.set id (true, watches)
        callbacks := s.notices.callbacks ++ .settle id :: watches.map .report } := by
  obtain ⟨task, htask, hnotice⟩ :
      ∃ task, s.tasks[id]? = some task ∧ task.notice = (false, watches) := by
    simpa [notices] using h
  have hwatches : task.watches = watches := congrArg Prod.snd hnotice
  have hwatched : (s.ended id ending).notices.watched =
      s.notices.watched.set id (true, task.watches) :=
    watched_withTask htask fun task => { task with phase := .over ending, acts := [] }
  have hcallbacks : (s.ended id ending).callbacks =
      s.callbacks ++ .settle id :: watches.map .report := by
    simp [callbacks, ended, withTask, htask, hwatches, Item.isAdvance, List.filter_eq_self]
  rw [hwatches] at hwatched
  rw [← hwatched]
  show Notices.mk _ _ _ _ = _
  rw [hcallbacks]
  rfl

/-- A change of its phase that is no end leaves the notices of a task. -/
theorem notices_phase (htask : s.tasks[id]? = some task) (hover : task.isOver = false)
    {change : Task → Task} (hchange : (change task).isOver = false)
    (hwatches : (change task).watches = task.watches) :
    (s.withTask id change).notices = s.notices := by
  refine notices_withTask fun task' htask' => ?_
  obtain rfl : task = task' := Option.some.inj (htask.symm.trans htask')
  rw [Task.notice, Task.notice, hover, hchange, hwatches]

theorem notices_sleep (htask : s.tasks[id]? = some task) (hover : task.isOver = false)
    (event : String) (acts : List Act) : (s.sleep id event acts).notices = s.notices :=
  show (s.withTask id fun task =>
    { task with acts, phase := .waiting .pending, isDoomed := false }).notices = s.notices from
  notices_phase htask hover rfl rfl

theorem notices_lineUp (htask : s.tasks[id]? = some task) (hover : task.isOver = false) :
    (s.lineUp id).notices = s.notices :=
  show (s.withTask id fun task => { task with phase := .queued .pending }).notices = s.notices from
  notices_phase htask hover rfl rfl

theorem notices_resume (htask : s.tasks[id]? = some task) (hover : task.isOver = false) :
    (s.resume id).notices = s.notices :=
  notices_phase htask hover rfl rfl

theorem spawn_tells (hfresh : task.notice = (false, [])) : Tells s (s.spawn task) := by
  have h : (s.spawn task).notices =
      { s.notices with watched := s.notices.watched ++ [(false, [])] } := by
    simp [notices, spawn, soon, callbacks, Item.isAdvance, hfresh]
  rw [Tells, h]
  exact .single .spawned

theorem ended_tells (htask : s.tasks[id]? = some task) (hover : task.isOver = false)
    (ending : Ending) : Tells s (s.ended id ending) := by
  have h : s.notices.watched[id]? = some (false, task.watches) := by
    rw [getElem?_watched htask, Task.notice, hover]
  rw [Tells, notices_ended h]
  exact .single (.ended h)

theorem release_ended_tells (htask : s.tasks[id]? = some task) (hover : task.isOver = false)
    (ending : Ending) : Tells s (s.release.ended id ending) := by
  have h : s.release.notices.watched[id]? = some (false, task.watches) := by
    rw [notices_release, getElem?_watched htask, Task.notice, hover]
  rw [Tells, notices_ended h, notices_release] at *
  exact .single (.ended h)

theorem does_tells {s' : Supervisor} (hdoes : Does id s s') : Tells s s' := by
  cases hdoes with
  | marked => exact .of_eq rfl
  | markedMessage => exact .of_eq rfl
  | announced event => exact .of_eq (notices_announce event)
  | spawned name => exact spawn_tells rfl

theorem rests_tells {s' : Supervisor} (hrunning : s.IsRunning id) (hrests : Rests id s s') :
    Tells s s' := by
  obtain ⟨task, htask, hphase⟩ := hrunning
  have hover : task.isOver = false := by simp [Task.isOver, Task.ending?, hphase]
  cases hrests with
  | finished ending => exact release_ended_tells htask hover ending
  | slept _ acts => exact .of_eq (notices_sleep htask hover _ acts)

theorem perform_tells (id : TaskId) (isCancelled : Bool) (acts : List Act) {s : Supervisor}
    (hrunning : s.IsRunning id) : Tells s (s.perform id isCancelled acts) := by
  refine perform_induction (P := fun r => Tells s r ∧ r.IsRunning id) (Q := fun r => Tells s r)
    id ?_ ?_ isCancelled acts ⟨.of_eq rfl, hrunning⟩
  · exact fun hdoes ⟨htells, hrunning⟩ => ⟨htells.trans (does_tells hdoes), hrunning.does hdoes⟩
  · exact fun hrests ⟨htells, hrunning⟩ => htells.trans (rests_tells hrunning hrests)

theorem begin_tells (htask : s.tasks[id]? = some task) (hover : task.isOver = false)
    (acts : List Act) : Tells s (s.begin id acts) := by
  unfold begin
  split
  · exact .of_eq (notices_lineUp htask hover)
  · have h := perform_tells id false acts
      (isRunning_start (s := { s with free := s.free - 1 }) htask)
    have hstart : ({ s with free := s.free - 1 }.start id).notices = s.notices :=
      notices_resume (s := { s with free := s.free - 1 }) htask hover
    rwa [Tells, hstart] at h

theorem enter_tells (htask : s.tasks[id]? = some task) (hover : task.isOver = false)
    (wake : Wake) : Tells s (s.enter id task wake) := by
  unfold enter
  extract_lets left started
  split_ifs
  · exact ended_tells (s := left) htask hover _
  · exact release_ended_tells (s := left) htask hover _
  all_goals
    have hrunning : started.IsRunning id := isRunning_start htask
    have hstart : started.notices = s.notices := notices_resume (s := left) htask hover
  · have h := perform_tells id false task.acts hrunning
    rwa [Tells, hstart] at h
  · have h := perform_tells id false task.acts hrunning.wakeNext
    rwa [Tells, notices_wakeNext, hstart] at h

theorem advance_tells : Tells s (s.advance id) := by
  unfold advance
  split
  · exact .of_eq rfl
  · next task htask =>
    split
    · next hphase =>
      have hover : task.isOver = false := by simp [Task.isOver, Task.ending?, hphase]
      split
      · exact ended_tells htask hover _
      · exact begin_tells htask hover _
    · next wake hphase =>
      exact enter_tells htask (by simp [Task.isOver, Task.ending?, hphase]) wake
    · next wake hphase =>
      extract_lets left
      have h := perform_tells id (task.isDoomed || wake == .withdrawn) task.acts
        (isRunning_resume (s := left) htask)
      rwa [Tells, notices_resume (s := left) htask
        (by simp [Task.isOver, Task.ending?, hphase])] at h
    all_goals exact .of_eq rfl

/-! ## Callbacks -/

theorem notices_soon {item : Item} (h : item.isAdvance = false) :
    (s.soon item).notices = { s.notices with callbacks := s.notices.callbacks ++ [item] } := by
  simp [notices, soon, callbacks, h]

theorem notices_attend (watch : WatchId) (id : TaskId) :
    (s.attend watch id).notices = s.notices.attend watch id := by
  cases htask : s.tasks[id]? with
  | none =>
    have hwatched : s.notices.watched[id]? = none := by simp [notices, htask]
    simp only [attend, Notices.attend, htask, hwatched, Option.map_none, Option.getD_none, if_true]
    exact notices_soon (rfl : (Item.report watch).isAdvance = false)
  | some task =>
    have hwatched := getElem?_watched htask
    cases hover : task.isOver with
    | false =>
      have hset := watched_withTask htask fun task =>
        { task with watches := task.watches ++ [watch] }
      rw [Task.notice, hover] at hwatched
      simp only [attend, Notices.attend, htask, hwatched, hover, Option.map_some, Option.getD_some,
        Bool.false_eq_true, if_false]
      exact congrArg (Notices.mk s.callbacks s.watches s.stops)
        (hset.trans (by rw [← hover]; rfl))
    | true =>
      rw [Task.notice, hover] at hwatched
      simp only [attend, Notices.attend, htask, hwatched, hover, Option.map_some, Option.getD_some,
        if_true]
      exact notices_soon (rfl : (Item.report watch).isAdvance = false)

theorem notices_watch (ids : List TaskId) (sequel : Sequel) :
    (s.watch ids sequel).notices = s.notices.watch ids sequel := by
  have hfold : ∀ (ids : List TaskId) (s : Supervisor) (watch : WatchId),
      (ids.foldl (attend watch) s).notices = ids.foldl (Notices.attend watch) s.notices := by
    intro ids
    induction ids with
    | nil => exact fun _ _ => rfl
    | cons id rest ih =>
      intro s watch
      rw [List.foldl_cons, List.foldl_cons, ih, notices_attend]
  exact hfold ids { s with watches := s.watches ++ [⟨ids.length, sequel⟩] } s.watches.length

theorem join_tells : Tells s s.join := by
  have h : s.join.notices = _ := notices_soon (s := { s with joins := s.joins ++ [false] }) rfl
  rw [Tells, h]
  exact .single (.joined _)

theorem notices_cancels (ids : List TaskId) (s : Supervisor) :
    (ids.foldl cancel s).notices = s.notices :=
  List.foldlRecOn (motive := fun r : Supervisor => r.notices = s.notices) ids cancel rfl
    fun _ hnotices _ _ => notices_cancel.trans hnotices

theorem shutDown_tells : Tells s s.shutDown := by
  unfold shutDown
  extract_lets tasks number
  split
  · exact .single .stoppedAtOnce
  · rw [Tells, notices_watch, notices_cancels]
    exact .single (.stopping tasks tasks.length)

theorem notices_settle : (s.settle id).notices = s.notices := by
  unfold settle
  extract_lets
  split <;> rfl

end ChatWarden.Supervision.Supervisor
