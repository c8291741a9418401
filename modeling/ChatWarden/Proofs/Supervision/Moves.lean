import ChatWarden.Proofs.Supervision.Tells
import ChatWarden.Proofs.Supervision.Turns

/-!
# Moves

What may happen next to a supervisor and its tasks. Tasks go on in any order, so what is proved of
all moves does not depend on when an event comes; callbacks run in the order in which they became
ready.

Results:
* `Supervisor.moved_steps`: what a move does is told by entries of the ledger.
* `Supervisor.moved_tells`: what a move does is told by changes of the notices.
* `Supervisor.exists_played_runUntil`: to run what is ready first come, first served is a run of
  moves.
-/

namespace ChatWarden.Supervision

/-- What may happen next. -/
inductive Move where
  | spawn (name : String) (acts : List Act) (survives : Bool)
  | announce (event : String)
  | cancel (id : TaskId)
  | join
  | shutDown
  /-- A task goes on, if it is ready to. -/
  | advance (id : TaskId)
  /-- What became ready first runs, apart from tasks. -/
  | callback
  deriving DecidableEq, Repr

namespace Supervisor

/-- The supervisor after a move. -/
def moved (s : Supervisor) : Move → Supervisor
  | .spawn name acts survives => s.spawn { name, acts, survives }
  | .announce event => s.announce event
  | .cancel id => s.cancel id
  | .join => s.join
  | .shutDown => s.shutDown
  | .advance id => s.turn (s.ready.idxOf (.advance id))
  | .callback => s.turn (s.ready.findIdx (!·.isAdvance))

/-- The supervisor after moves, one after the other. -/
def played (s : Supervisor) (moves : List Move) : Supervisor := moves.foldl moved s

variable {s s' : Supervisor} {id : TaskId} {slots : Nat}

/-- To take the first item is one of the moves. -/
theorem exists_moved_turn (s : Supervisor) : ∃ move, s.turn 0 = s.moved move := by
  cases hready : s.ready with
  | nil => exact ⟨.callback, by simp [moved, hready]⟩
  | cons item rest =>
    cases item with
    | advance id => exact ⟨.advance id, by simp [moved, hready]⟩
    | _ => exact ⟨.callback, by simp [moved, hready, Item.isAdvance, List.findIdx_cons]⟩

/-- What is run first come, first served is a run of moves. -/
theorem exists_played_runUntil (last : Item → Bool) (turns : Nat) (s : Supervisor) :
    ∃ moves, s.runUntil last turns = s.played moves := by
  fun_induction runUntil last turns s with
  | case1 s => exact ⟨[], rfl⟩
  | case2 turns s hready => exact ⟨[], rfl⟩
  | case3 turns s item rest hready hlast =>
    obtain ⟨move, hmove⟩ := s.exists_moved_turn
    exact ⟨[move], hmove⟩
  | case4 turns s item rest hready hlast ih =>
    obtain ⟨move, hmove⟩ := s.exists_moved_turn
    obtain ⟨moves, hmoves⟩ := ih
    exact ⟨move :: moves, by rw [hmoves, hmove]; rfl⟩

/-- So is a shutdown that is run until it is complete. -/
theorem exists_played_stoppedDown (s : Supervisor) :
    ∃ moves, s.stoppedDown = s.shutDown.played moves := by
  unfold stoppedDown
  split
  · exact ⟨[], rfl⟩
  · exact exists_played_runUntil _ _ _

section Popped

variable {rest : List Item}

theorem settle_tells (h : s.callbacks = .settle id :: rest.filter (!·.isAdvance))
    (honce : .settle id ∉ rest) : Tells s ({ s with ready := rest }.settle id) := by
  rw [Tells, notices_settle]
  exact .single (.settled h fun hmem => honce (List.mem_of_mem_filter hmem))

theorem report_tells {watch : WatchId}
    (h : s.callbacks = .report watch :: rest.filter (!·.isAdvance)) :
    Tells s ({ s with ready := rest }.report watch) := by
  unfold report
  split
  · exact .single (.dropped h nofun)
  · next w hwatch =>
    have hstep := Notices.Step.reported (n := s.notices) h hwatch
    split
    · next hone =>
      rw [Tells, notices_soon rfl]
      rw [if_pos (eq_of_beq hone)] at hstep
      exact .single hstep
    · next hmore =>
      rw [if_neg (by simpa using hmore)] at hstep
      exact .single hstep

theorem follow_tells {sequel : Sequel}
    (h : s.callbacks = .sequel sequel :: rest.filter (!·.isAdvance)) :
    Tells s ({ s with ready := rest }.follow sequel) := by
  cases sequel with
  | stopped number cancelled => exact .single (.stopped h)
  | join number =>
    simp only [follow]
    split
    · exact .single (.dropped h fun _ heq => by cases heq)
    · rw [Tells, notices_watch]
      exact .trans (.single (.dropped h fun _ heq => by cases heq)) (.single (.watched _ number))

end Popped

theorem callbacks_popped {ready : List Item} {place : Nat} (h : place < ready.length)
    (hadvance : ready[place].isAdvance = true) :
    (ready.eraseIdx place).filter (!·.isAdvance) = ready.filter (!·.isAdvance) := by
  induction ready generalizing place with
  | nil => rfl
  | cons first rest ih =>
    cases place with
    | zero => simp_all
    | succ place =>
      have hrest := ih (Nat.lt_of_succ_lt_succ h) hadvance
      simp only [List.eraseIdx_cons_succ, List.filter_cons, hrest]

theorem callbacks_eq_cons {ready : List Item} {item : Item}
    (h : ready[ready.findIdx (!·.isAdvance)]? = some item) :
    item.isAdvance = false ∧
      ready.filter (!·.isAdvance) =
        item :: (ready.eraseIdx (ready.findIdx (!·.isAdvance))).filter (!·.isAdvance) := by
  induction ready with
  | nil => simp at h
  | cons first rest ih =>
    cases hfirst : first.isAdvance with
    | false =>
      simp only [List.findIdx_cons, hfirst, Bool.not_false, cond_true, List.getElem?_cons_zero,
        Option.some.injEq] at h
      subst h
      simp [List.findIdx_cons, hfirst]
    | true =>
      simp only [List.findIdx_cons, hfirst, Bool.not_true, cond_false,
        List.getElem?_cons_succ] at h
      simpa [List.findIdx_cons, hfirst] using ih h

/-- A task that goes on tells what it does. -/
theorem turn_advance_tells (id : TaskId) : Tells s (s.turn (s.ready.idxOf (.advance id))) := by
  unfold turn
  split
  · exact .of_eq rfl
  · next item hitem =>
    obtain ⟨hlt, rfl⟩ := List.getElem?_eq_some_iff.mp hitem
    have hadvance : s.ready[s.ready.idxOf (.advance id)] = .advance id := List.getElem_idxOf hlt
    have hpopped : ({ s with ready := s.ready.eraseIdx (s.ready.idxOf (.advance id)) } :
        Supervisor).notices = s.notices :=
      congrArg (fun callbacks => Notices.mk callbacks s.watches s.stops (s.tasks.map Task.notice))
        (callbacks_popped hlt (by rw [hadvance]; rfl))
    rw [hadvance, runItem, Tells, ← hpopped]
    exact advance_tells

theorem turn_callback_tells (hsound : s.ledger.Sound slots) :
    Tells s (s.turn (s.ready.findIdx (!·.isAdvance))) := by
  unfold turn
  split
  · exact .of_eq rfl
  · next item hitem =>
    obtain ⟨hadvance, hcallbacks⟩ := callbacks_eq_cons hitem
    cases item with
    | advance id => exact absurd hadvance (by simp [Item.isAdvance])
    | settle id =>
      -- The supervisor learns of an end once, so this cannot be ready a second time.
      refine settle_tells hcallbacks fun hmem => ?_
      have hready := perm_popped hitem
      have hle := (fits hsound id).settles_le
      have hpos := List.count_pos_iff.mpr hmem
      simp only [standing, hready.count_eq, List.count_cons_self] at hle
      omega
    | report watch => exact report_tells hcallbacks
    | sequel sequel => exact follow_tells hcallbacks

theorem moved_tells (hsound : s.ledger.Sound slots) (move : Move) : Tells s (s.moved move) := by
  cases move with
  | spawn name acts survives => exact spawn_tells rfl
  | announce event => exact .of_eq (notices_announce event)
  | cancel id => exact .of_eq notices_cancel
  | join => exact join_tells
  | shutDown => exact shutDown_tells
  | advance id => exact turn_advance_tells id
  | callback => exact turn_callback_tells hsound

theorem moved_steps (hsound : s.ledger.Sound slots) (move : Move) :
    Ledger.Steps s.ledger (s.moved move).ledger := by
  cases move with
  | spawn name acts survives => exact .single (spawn_step hsound rfl)
  | announce event => exact announce_steps hsound event
  | cancel id => exact cancel_steps hsound id
  | join =>
    rw [moved, join, ledger_soon (by simp)]
    exact .refl _
  | shutDown => exact shutDown_steps hsound
  | advance id => exact turn_steps hsound _
  | callback => exact turn_steps hsound _

end Supervisor

end ChatWarden.Supervision
