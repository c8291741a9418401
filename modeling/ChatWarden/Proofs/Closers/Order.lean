import ChatWarden.Proofs.Closers.Course
import Mathlib.Data.List.Nodup
import Mathlib.Data.List.Range

/-!
# The order of closers

However closers that are never cancelled are registered and shut down, by callers and by closers
that run: each shutdown runs those that were registered since the one before began, the last one
first and each to its end, whichever of them fail. So no closer is run twice, and none is left
behind by a shutdown that is called when no other one is under way.

Results:
* `History.Sound.concat`: what every step keeps.
* `closers_run_once`: what is told of the run of any calls.
-/

namespace ChatWarden

namespace Closers

/-- What becomes of a closer that a shutdown runs. -/
def course (shutdown : Nat) (r : Registration) : List Deed :=
  [.runs shutdown r, .ends shutdown r r.closer.fault?]

namespace Chore

/-- The registration whose closer is still to be run. -/
def toRun? : Chore → Option Registration
  | .run _ r => some r
  | _ => none

/-- The registration whose closer was run and has not ended, and the fault with which it will. -/
def toEnd? : Chore → Option (Registration × Option Fault)
  | .rest _ r closer => some (r, closer.fault?)
  | .resume _ r next _ => some (r, next.fault?)
  | _ => none

/-- The deeds of a shutdown that are still to come. -/
def planned (shutdown : Nat) : Chore → List Deed
  | .run n r => if n = shutdown then course n r else []
  | .rest n r closer => if n = shutdown then [.ends n r closer.fault?] else []
  | .resume n r next _ => if n = shutdown then [.ends n r next.fault?] else []
  | .finish => []

end Chore

namespace History

variable {history before after : History} {deed : Deed} {old new rest : List Chore}

/-! ## One more deed -/

theorem registrations_concat (history : History) (deed : Deed) :
    registrations (history ++ [deed]) = history.registrations ++ deed.registered?.toList := by
  rw [registrations_append]
  cases deed <;> rfl

theorem ran_concat (history : History) (deed : Deed) :
    ran (history ++ [deed]) = history.ran ++ deed.ran?.toList := by
  rw [ran, List.filterMap_append]
  cases deed <;> rfl

theorem ended_concat (history : History) (deed : Deed) :
    ended (history ++ [deed]) = history.ended ++ deed.ended?.toList := by
  rw [ended, List.filterMap_append]
  cases deed <;> rfl

theorem deedsOf_concat (shutdown : Nat) (history : History) (deed : Deed) :
    deedsOf shutdown (history ++ [deed]) =
      history.deedsOf shutdown ++ [deed].filter (·.isOf shutdown) :=
  List.filter_append ..

theorem waitingAfter_eq (waiting : List Registration) (deed : Deed) :
    deed.waitingAfter waiting =
      if deed.isShutdown then [] else waiting ++ deed.registered?.toList := by
  cases deed <;> simp [Deed.waitingAfter, Deed.isShutdown, Deed.registered?]

/-- Where a shutdown begins in a history with one more deed. -/
theorem split_concat (h : history ++ [deed] = before ++ .shutsDown :: after) :
    (∃ after', history = before ++ .shutsDown :: after') ∨
      history = before ∧ deed = .shutsDown := by
  rcases List.eq_nil_or_concat after with rfl | ⟨after', last, rfl⟩
  · obtain ⟨hhistory, hdeed⟩ := List.append_inj' h rfl
    exact .inr ⟨hhistory, (List.cons.inj hdeed).1⟩
  · rw [List.concat_eq_append, ← List.cons_append, ← List.append_assoc] at h
    exact .inl ⟨after', (List.append_inj' h rfl).1⟩

theorem shutdowns_lt (h : history = before ++ .shutsDown :: after) :
    before.shutdowns < history.shutdowns := by
  rw [h, shutdowns, shutdowns, List.countP_append, List.countP_cons_of_pos rfl]
  omega

/-! ## What is left to do -/

theorem toRun_chores (history : History) :
    history.chores.filterMap Chore.toRun? = history.waiting.reverse := by
  unfold chores
  split
  · next hnone => simp [List.isEmpty_iff.mp hnone]
  · simp [Chore.toRun?, List.filterMap_map, Function.comp_def]

theorem toEnd_chores (history : History) : history.chores.filterMap Chore.toEnd? = [] := by
  unfold chores
  split
  · rfl
  · simp [Chore.toEnd?, List.filterMap_map, Function.comp_def]

theorem planned_chores (history : History) (shutdown : Nat) :
    history.chores.flatMap (Chore.planned shutdown) =
      if shutdown = history.shutdowns then history.waiting.reverse.flatMap (course shutdown)
      else [] := by
  unfold chores
  split
  · next hnone => simp [List.isEmpty_iff.mp hnone]
  · rw [List.flatMap_append, List.flatMap_map]
    split
    · next hsame => simp [Chore.planned, hsame]
    · next hother => simp [Chore.planned, Ne.symm hother]

/-- A deed takes the place of chores, and leaves others behind: those that it does not come to, and
    if it is a shutdown that begins, all closers that wait for it. -/
structure Replaces (history : History) (old : List Chore) (deed : Deed) (new : List Chore) :
    Prop where
  number (r : Registration) : deed.registered? = some r → r.number = history.registrations.length
  run : deed.ran?.toList ++ new.filterMap Chore.toRun? =
    (if deed.isShutdown then history.waiting.reverse else []) ++ old.filterMap Chore.toRun?
  finish : deed.ended?.toList ++ new.filterMap Chore.toEnd? =
    deed.ran?.toList.map (fun r => (r, r.closer.fault?)) ++ old.filterMap Chore.toEnd?
  planned (shutdown : Nat) :
    [deed].filter (·.isOf shutdown) ++ new.flatMap (Chore.planned shutdown) =
      (if deed.isShutdown ∧ shutdown = history.shutdowns then
        history.waiting.reverse.flatMap (course shutdown) else []) ++
      old.flatMap (Chore.planned shutdown)

theorem replaces_registers (history : History) (name : String) (closer : Closer)
    (chores : List Chore) : history.Replaces chores
      (.registers ⟨history.registrations.length, name, closer⟩) chores where
  number r hr := by
    obtain rfl := Option.some.inj hr
    rfl
  run := rfl
  finish := rfl
  planned shutdown := by simp [Deed.isOf, Deed.isShutdown]

theorem replaces_shutsDown (history : History) (chores : List Chore) :
    history.Replaces chores .shutsDown (history.chores ++ chores) where
  number r hr := by cases hr
  run := by simp [toRun_chores, Deed.ran?, Deed.isShutdown]
  finish := by simp [toEnd_chores, Deed.ran?, Deed.ended?]
  planned shutdown := by simp [planned_chores, Deed.isOf, Deed.isShutdown]

/-- The rest of a closer is as good as the closer. -/
theorem Replaces.congr {old' : List Chore} (h : history.Replaces old deed new)
    (hrun : old'.filterMap Chore.toRun? = old.filterMap Chore.toRun?)
    (hend : old'.filterMap Chore.toEnd? = old.filterMap Chore.toEnd?)
    (hplanned : ∀ shutdown, old'.flatMap (Chore.planned shutdown) =
      old.flatMap (Chore.planned shutdown)) : history.Replaces old' deed new where
  number := h.number
  run := by rw [hrun, h.run]
  finish := by rw [hend, h.finish]
  planned shutdown := by rw [hplanned, h.planned]

theorem replaces_next (history : History) (chore : Chore) :
    history.Replaces [chore] (history.next chore).1 (history.next chore).2 := by
  cases chore with
  | run n r =>
    refine ⟨fun _ h => (by cases h), rfl, rfl, fun shutdown => ?_⟩
    by_cases h : n = shutdown <;>
      simp [next, Chore.planned, Deed.isOf, Deed.isShutdown, course, h]
  | finish => exact ⟨fun _ h => (by cases h), rfl, rfl, fun shutdown => rfl⟩
  | resume n r more cancelled => exact ⟨fun _ h => (by cases h), rfl, rfl, fun shutdown => rfl⟩
  | rest n r closer =>
    cases closer with
    | ends ending =>
      refine ⟨fun _ h => (by cases h), rfl, rfl, fun shutdown => ?_⟩
      by_cases h : n = shutdown <;>
        simp [next, Chore.planned, Deed.isOf, Deed.isShutdown, Closer.fault?, h]
    | writes written more => exact ⟨fun _ h => (by cases h), rfl, rfl, fun shutdown => rfl⟩
    | registers name closer more =>
      exact (history.replaces_registers name closer [.rest n r more]).congr rfl rfl fun _ => rfl
    | shutsDown more cancelled =>
      exact (history.replaces_shutsDown [.resume n r more cancelled]).congr rfl rfl fun _ => rfl

/-! ## What every step keeps -/

/-- A history, with what is left to do, tells what becomes of all closers. -/
structure Sound (history : History) (chores : List Chore) : Prop where
  numbered : history.registrations.map Registration.number =
    List.range history.registrations.length
  /-- Every closer that was registered was run, is to be run or waits. -/
  accounted : (history.ran ++ chores.filterMap Chore.toRun? ++ history.waiting).Perm
    history.registrations
  /-- Every closer that was run ended as it does, or will. -/
  ended : (history.ended ++ chores.filterMap Chore.toEnd?).Perm
    (history.ran.map fun r => (r, r.closer.fault?))
  /-- Nothing is done for a shutdown that has not begun. -/
  early (shutdown : Nat) : history.shutdowns ≤ shutdown →
    history.deedsOf shutdown = [] ∧ chores.flatMap (Chore.planned shutdown) = []
  /-- Every shutdown runs what waited when it began, the last one first. -/
  inOrder (before after : History) : history = before ++ .shutsDown :: after →
    history.deedsOf before.shutdowns ++ chores.flatMap (Chore.planned before.shutdowns) =
      before.waiting.reverse.flatMap (course before.shutdowns)

theorem sound_nil : Sound [] [] where
  numbered := rfl
  accounted := .nil
  ended := .nil
  early _ _ := ⟨rfl, rfl⟩
  inOrder before after h := by simp at h

namespace Sound

theorem numbered_concat (h : history.Sound rest) (hr : history.Replaces old deed new) :
    (registrations (history ++ [deed])).map Registration.number =
      List.range (registrations (history ++ [deed])).length := by
  rw [registrations_concat]
  cases hdeed : deed.registered? with
  | none => simpa using h.numbered
  | some r => simp [h.numbered, hr.number r hdeed, List.range_succ]

theorem accounted_concat (h : history.Sound (old ++ rest)) (hr : history.Replaces old deed new) :
    (ran (history ++ [deed]) ++ (new ++ rest).filterMap Chore.toRun? ++
      waiting (history ++ [deed])).Perm (registrations (history ++ [deed])) := by
  rw [ran_concat, waiting_concat, waitingAfter_eq, registrations_concat, List.filterMap_append,
    List.append_assoc history.ran, ← List.append_assoc deed.ran?.toList, hr.run]
  have hperm := h.accounted
  rw [List.filterMap_append] at hperm
  by_cases hopens : deed.isShutdown = true
  · -- What waited is to be run, and nothing waits any more.
    have hnone : deed.registered? = none := by cases deed <;> first | rfl | cases hopens
    rw [if_pos hopens, if_pos hopens, hnone]
    simp only [Option.toList_none, List.append_nil, List.append_assoc] at hperm ⊢
    refine (List.Perm.append_left _ ?_).trans hperm
    rw [← List.append_assoc (old.filterMap _)]
    exact List.perm_append_comm.trans (.append_left _ (List.reverse_perm _))
  · rw [if_neg hopens, if_neg hopens]
    simpa using hperm.append_right deed.registered?.toList

theorem ended_concat (h : history.Sound (old ++ rest)) (hr : history.Replaces old deed new) :
    (History.ended (history ++ [deed]) ++ (new ++ rest).filterMap Chore.toEnd?).Perm
      ((ran (history ++ [deed])).map fun r => (r, r.closer.fault?)) := by
  rw [History.ended_concat, ran_concat, List.map_append, List.filterMap_append, List.append_assoc,
    ← List.append_assoc deed.ended?.toList, hr.finish, List.append_assoc]
  have hperm := h.ended
  rw [List.filterMap_append] at hperm
  -- The ending of a closer that is run comes up in front of all that is to end.
  exact (List.perm_append_comm_assoc ..).trans
    ((hperm.append_left _).trans List.perm_append_comm)

/-- What holds of a history is kept by a deed that takes the place of chores. -/
theorem concat (h : history.Sound (old ++ rest)) (hr : history.Replaces old deed new) :
    Sound (history ++ [deed]) (new ++ rest) where
  numbered := numbered_concat h hr
  accounted := h.accounted_concat hr
  ended := h.ended_concat hr
  early shutdown hle := by
    rw [shutdowns_concat] at hle
    obtain ⟨hdone, hold⟩ := h.early shutdown (by omega)
    have hnext := hr.planned shutdown
    rw [List.flatMap_append, List.append_eq_nil_iff] at hold
    rw [hold.1, if_neg, List.append_nil, List.append_eq_nil_iff] at hnext
    · rw [deedsOf_concat, List.flatMap_append, hdone, hnext.1, hnext.2, hold.2]
      exact ⟨rfl, rfl⟩
    · rintro ⟨hopens, rfl⟩
      rw [if_pos hopens] at hle
      omega
  inOrder before after hsplit := by
    rw [deedsOf_concat, List.flatMap_append, List.append_assoc,
      ← List.append_assoc ([deed].filter _), hr.planned]
    rcases split_concat hsplit with ⟨after', hbefore⟩ | ⟨rfl, hopens⟩
    · have hlt := shutdowns_lt hbefore
      rw [if_neg (by omega), List.nil_append, ← List.flatMap_append]
      exact h.inOrder before after' hbefore
    · obtain ⟨hdone, hold⟩ := h.early _ le_rfl
      rw [List.flatMap_append, List.append_eq_nil_iff] at hold
      rw [hdone, hold.1, hold.2, if_pos ⟨by rw [hopens]; rfl, rfl⟩]
      simp

theorem worked (h : history.Sound old) : Sound (history.worked old) [] :=
  worked_induct (fun history chore rest (h : Sound history ([chore] ++ rest)) =>
    h.concat (replaces_next history chore)) h

theorem record (h : history.Sound ([] ++ [])) (call : Call) : Sound (history.record call) [] := by
  cases call with
  | register name closer => exact h.concat (replaces_registers history name closer [])
  | shutDown =>
    have hopened := h.concat (replaces_shutsDown history [])
    rw [List.append_nil, List.append_nil] at hopened
    exact hopened.worked

theorem ofCalls (calls : List Call) : Sound (History.ofCalls calls) [] := by
  suffices h : ∀ history : History, history.Sound [] → Sound (calls.foldl History.record history) []
    from h [] sound_nil
  induction calls with
  | nil => exact fun _ h => h
  | cons call rest ih => exact fun history h => ih _ (h.record call)

end Sound

/-! ## Whole runs -/

/-- What waits are the latest registrations. -/
theorem waiting_suffix (history : History) : history.waiting <:+ history.registrations := by
  induction history using List.reverseRecOn with
  | nil => exact List.suffix_rfl
  | append_singleton history deed ih =>
    rw [waiting_concat, waitingAfter_eq, registrations_concat]
    split
    · exact List.nil_suffix
    · obtain ⟨front, hfront⟩ := ih
      exact ⟨front, by rw [← hfront, List.append_assoc]⟩

theorem worked_prefix (history : History) (chores : List Chore) :
    history <+: history.worked chores :=
  worked_induct (motive := fun later _ => history <+: later)
    (fun _ _ _ h => h.trans (List.prefix_append ..)) List.prefix_rfl

theorem ofCalls_concat (calls : List Call) (call : Call) :
    ofCalls (calls ++ [call]) = (ofCalls calls).record call := by
  rw [ofCalls, List.foldl_append]
  rfl

theorem Sound.registrations_nodup {chores : List Chore} (h : history.Sound chores) :
    (history.registrations.map Registration.number).Nodup := by
  rw [h.numbered]
  exact List.nodup_range

theorem Sound.ran_nodup (h : history.Sound []) :
    (history.ran.map Registration.number).Nodup := by
  have hall := (h.accounted.map Registration.number).nodup_iff.mpr h.registrations_nodup
  rw [List.filterMap_nil, List.append_nil, List.map_append] at hall
  exact hall.of_append_left

/-- What was registered before a shutdown was run when that is over. -/
theorem Sound.mem_ran (h : Sound (before ++ .shutsDown :: after) []) {r : Registration}
    (hr : r ∈ before.registrations) : r ∈ ran (before ++ .shutsDown :: after) := by
  have hall := h.registrations_nodup
  have hmem := h.accounted.mem_iff (a := r)
  rw [registrations_append] at hall hmem
  rw [waiting_shutsDown, List.filterMap_nil, List.append_nil, List.mem_append,
    List.mem_append] at hmem
  refine (hmem.mpr (.inl hr)).resolve_right fun hlate => ?_
  -- What waits was registered later, and so under another number.
  rw [List.map_append] at hall
  exact List.disjoint_of_nodup_append hall (List.mem_map_of_mem hr)
    (List.mem_map_of_mem (after.waiting_suffix.subset hlate))

/-! ## Error records -/

/-- Whether a record tells of an error. -/
def isError (written : Log.Record) : Bool := written.level == .error

/-- The record about a closer that fails. -/
def failure? (r : Registration) : Option Log.Record := r.closer.fault?.map (failed r.name)

/-- The error records are those about closers that failed and those that closers write. -/
theorem errors_perm (history : History) : (history.closers.records.filter isError).Perm
    (history.ended.filterMap (fun (r, fault) => fault.map (failed r.name)) ++
      history.written.filter isError) := by
  induction history with
  | nil => exact .nil
  | cons deed rest ih =>
    simp only [closers, Closers.records, ended, written, List.flatMap_cons, List.filterMap_append,
      List.filter_append, List.filterMap_cons] at ih ⊢
    cases deed with
    | ends n r fault =>
      cases fault with
      | none => simpa [Deed.events, Deed.ended?, Deed.written?] using ih
      | some fault =>
        have herror : isError (failed r.name fault) = true := rfl
        simpa [Deed.events, Deed.ended?, Deed.written?, herror] using ih.cons (failed r.name fault)
    | writes record =>
      cases hlevel : isError record with
      | false => simpa [Deed.events, Deed.ended?, Deed.written?, hlevel] using ih
      | true =>
        simpa [Deed.events, Deed.ended?, Deed.written?, hlevel] using
          (ih.cons record).trans List.perm_middle.symm
    | _ =>
      simpa [Deed.events, Deed.ended?, Deed.written?, isError, allStopped, Closers.record] using ih

theorem Sound.errors (h : history.Sound []) : (history.closers.records.filter isError).Perm
    (history.ran.filterMap failure? ++ history.written.filter isError) := by
  have hended := h.ended
  rw [List.filterMap_nil, List.append_nil] at hended
  refine history.errors_perm.trans (.append_right _ ?_)
  have hperm := hended.filterMap fun (r, fault) => fault.map (failed r.name)
  rwa [List.filterMap_map] at hperm

/-- What is told of closers when no shutdown is under way. -/
structure Orderly (history : History) : Prop where
  /-- Every registration has a number of its own. -/
  numbered : history.registrations.map Registration.number =
    List.range history.registrations.length
  /-- No closer is run twice. -/
  once : (history.ran.map Registration.number).Nodup
  /-- Every shutdown, also one that a closer calls, runs the closers that were registered since the
      shutdown before began, the last one first. Each ends, with its fault or without, before the
      next one is run. -/
  inOrder (before after : History) : history = before ++ .shutsDown :: after →
    history.deedsOf before.shutdowns = before.waiting.reverse.flatMap (course before.shutdowns)
  /-- No closer is run but by a shutdown that began. -/
  called (shutdown : Nat) : history.shutdowns ≤ shutdown → history.deedsOf shutdown = []
  /-- There is one error record for each closer that was run and fails, and there are those that
      closers write themselves. -/
  errors : (history.closers.records.filter isError).Perm
    (history.ran.filterMap failure? ++ history.written.filter isError)

theorem Sound.orderly (h : history.Sound []) : history.Orderly where
  numbered := h.numbered
  once := h.ran_nodup
  inOrder before after hsplit := by
    have hplanned := h.inOrder before after hsplit
    rwa [List.flatMap_nil, List.append_nil] at hplanned
  called shutdown hle := (h.early shutdown hle).1
  errors := h.errors

end History

/-- **Every closer runs once, the last one first.** After any calls with closers that end with a
    fault or without and are never cancelled, what became of the closers is told by a history: no
    closer is run twice, and every shutdown runs those that were registered since the one before
    began, in reverse order, whichever of them fail. When the next call is a shutdown, every closer
    that was registered before has been run once behind it; and if none was registered since the
    last shutdown began, nothing happens but that it begins. -/
theorem closers_run_once (calls : List Call) (h : ∀ call ∈ calls, call.isSteady = true) :
    let history := History.ofCalls calls
    let later := History.ofCalls (calls ++ [.shutDown])
    played {} calls = history.closers ∧ history.Orderly ∧
      (∀ r ∈ history.registrations, (later.ran.map Registration.number).count r.number = 1) ∧
      later.deedsOf history.shutdowns =
        history.waiting.reverse.flatMap (course history.shutdowns) ∧
      (history.waiting = [] → later = history ++ [Deed.shutsDown]) := by
  intro history later
  have hlater : later.Sound [] := .ofCalls _
  have hrecord : later = History.worked (history ++ [.shutsDown]) history.chores :=
    History.ofCalls_concat calls .shutDown
  obtain ⟨after, hafter⟩ := History.worked_prefix (history ++ [Deed.shutsDown]) history.chores
  rw [← hrecord, List.append_assoc, List.singleton_append] at hafter
  refine ⟨History.played_eq calls h, (History.Sound.ofCalls calls).orderly, fun r hr => ?_, ?_,
    fun hnone => ?_⟩
  · refine List.count_eq_one_of_mem hlater.ran_nodup (List.mem_map_of_mem ?_)
    rw [← hafter] at hlater ⊢
    exact hlater.mem_ran hr
  · exact hlater.orderly.inOrder history after hafter.symm
  · rw [hrecord, History.chores, hnone, List.isEmpty_nil, if_pos rfl, History.worked]

/-- A closer that registers another one and calls a shutdown itself, in front of one that fails. -/
theorem closers_run_once_reentrant :
    let client : Registration := ⟨0, "http client", .ends (.failed .brokenFile)⟩
    let tasks : Registration :=
      ⟨1, "message tasks", .registers "cache" .silent (.shutsDown .silent .silent)⟩
    let calls : List Call :=
      [.register client.name client.closer, .register tasks.name tasks.closer]
    let later := History.ofCalls (calls ++ [.shutDown])
    later.deedsOf 0 = [.runs 0 tasks, .ends 0 tasks none, .runs 0 client,
        .ends 0 client (some .brokenFile)] ∧
      (later.ran.map Registration.number).count 0 = 1 ∧
      (later.ran.map Registration.number).count 1 = 1 := by
  intro client tasks calls later
  obtain ⟨-, -, hcount, hdeeds, -⟩ := closers_run_once calls (by decide)
  have hboth : (History.ofCalls calls).registrations = [client, tasks] := rfl
  rw [hboth, List.forall_mem_cons, List.forall_mem_singleton] at hcount
  exact ⟨hdeeds, hcount⟩

end Closers

end ChatWarden
