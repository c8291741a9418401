import ChatWarden.Bot.Run
import ChatWarden.Proofs.Bot.World
import ChatWarden.Proofs.Sandbox.Reach

/-!
# Which snippets are answered

The way of a snippet expects trouble with files when the analyzer is started and when the script
file is handled, and trouble with containers from the container service, and it replies to both.
Other faults slip through: those of an analyzer that cannot be given the snippet, be stopped or be
read, and those of a status that tells no exit code.

Results:
* `Job.FaultsAsTold`: a job ends with a fault just if its path tells of one that slips through;
  sequences of such jobs are such jobs.
* `analyze_faultsAsTold`, `collect_faultsAsTold` and the like: every part of the way is one.
* `snippets_reply_iff`: the snippets that are replied to.
-/

namespace ChatWarden

/-- A job ended with a fault, which no command expects. -/
def IsFault {α : Type} (outcome : Except Failure α) : Prop :=
  ∃ fault, outcome = .error (.fault fault)

@[simp] theorem not_isFault_ok {α : Type} (value : α) :
    ¬IsFault (.ok value : Except Failure α) := nofun

@[simp] theorem isFault_fault {α : Type} (fault : Fault) :
    IsFault (.error (.fault fault) : Except Failure α) := ⟨fault, rfl⟩

theorem isFault_error_iff {α : Type} {failure : Failure} :
    IsFault (.error failure : Except Failure α) ↔ failure.isExpected = false := by
  cases failure <;> simp [IsFault, Failure.isExpected]

namespace Sandbox

variable {path front back : List Exchange}

/-! ## Faults that slip through -/

/-- The answer brings a fault that the way of a snippet does not expect at this place. -/
def Slips : Exchange → Prop
  | ⟨.analyze _, .notStarted fault⟩ => fault.isFileTrouble = false
  | ⟨.analyze _, .overran (some _)⟩ | ⟨.analyze _, .unread _⟩ => True
  | ⟨.makeScript, .error fault⟩ | ⟨.writeScript _ _, .error fault⟩
  | ⟨.shareScript _, .error fault⟩ | ⟨.removeScript _, .error fault⟩ =>
    fault.isFileTrouble = false
  | ⟨.connect, .error fault⟩ | ⟨.ping, .error fault⟩ | ⟨.startContainer _ _, .error fault⟩
  | ⟨.awaitContainer _ _, .error fault⟩ | ⟨.containerLogs _ _, .error fault⟩
  | ⟨.removeContainer _, .error fault⟩ => fault.isContainerTrouble = false
  | _ => False

instance (exchange : Exchange) : Decidable (Slips exchange) := by
  simp only [Slips]
  split <;> infer_instance

/-- An analyzer that is not there does not slip through, and one that has gone when it is to be
    stopped does. -/
example : ¬Slips ⟨.analyze "1", .notStarted .missingFile⟩ ∧
    Slips ⟨.analyze "1", .overran (some ⟨"ProcessLookupError", .file, none⟩)⟩ := by decide

/-- The status that an exchange brought. -/
def status? : Exchange → Option ContainerStatus
  | ⟨.awaitContainer _ _, .ok status⟩ => some status
  | _ => none

/-- What a container wrote, and whether as errors, if an exchange brought it. -/
def logs? : Exchange → Option (Bool × ContainerLogs)
  | ⟨.containerLogs _ errors, .ok logs⟩ => some (errors, logs)
  | _ => none

/-- What a container left behind was collected, and cannot be read for a reason that the way of a
    snippet does not expect. -/
def Misread (path : List Exchange) : Prop :=
  ∃ status ∈ path.filterMap status?, ∃ output, (false, output) ∈ path.filterMap logs? ∧
    ∃ errors, (true, errors) ∈ path.filterMap logs? ∧
      ∃ fault, Container.outcomeOf status output errors = .error fault ∧
        fault.isContainerTrouble = false

/-- Something slipped through on the path. -/
def Slipped (path : List Exchange) : Prop := (∃ exchange ∈ path, Slips exchange) ∨ Misread path

/-- Requests that collect nothing from a container. -/
abbrev Elsewhere (request : Request) : Prop :=
  Of [.analysis, .service, .script, .start, .removal, .note] request

theorem Elsewhere.collects_nothing {exchange : Exchange} (h : Elsewhere exchange.request) :
    status? exchange = none ∧ logs? exchange = none := by
  obtain ⟨request, answer⟩ := exchange
  cases request with
  | awaitContainer id timeout => cases h
  | containerLogs id errors => cases h
  | _ => exact ⟨rfl, rfl⟩

theorem filterMap_eq_nil_of_elsewhere (h : ∀ exchange ∈ path, Elsewhere exchange.request) :
    path.filterMap status? = [] ∧ path.filterMap logs? = [] :=
  ⟨List.filterMap_eq_nil_iff.mpr fun exchange he => (h exchange he).collects_nothing.1,
    List.filterMap_eq_nil_iff.mpr fun exchange he => (h exchange he).collects_nothing.2⟩

theorem not_misread_of_elsewhere (h : ∀ exchange ∈ path, Elsewhere exchange.request) :
    ¬Misread path := by
  rintro ⟨status, hstatus, -⟩
  rw [(filterMap_eq_nil_of_elsewhere h).1] at hstatus
  cases hstatus

@[simp] theorem not_slipped_nil : ¬Slipped [] := by simp [Slipped, Misread]

/-- If one part of a path collects nothing, what slipped through did so on one of the parts. -/
theorem slipped_append (h : (∀ exchange ∈ front, Elsewhere exchange.request) ∨
    ∀ exchange ∈ back, Elsewhere exchange.request) :
    Slipped (front ++ back) ↔ Slipped front ∨ Slipped back := by
  have hmisread : Misread (front ++ back) ↔ Misread front ∨ Misread back := by
    rcases h with h | h
    · rw [or_iff_right (not_misread_of_elsewhere h), Misread, Misread, List.filterMap_append,
        List.filterMap_append, (filterMap_eq_nil_of_elsewhere h).1,
        (filterMap_eq_nil_of_elsewhere h).2, List.nil_append, List.nil_append]
    · rw [or_iff_left (not_misread_of_elsewhere h), Misread, Misread, List.filterMap_append,
        List.filterMap_append, (filterMap_eq_nil_of_elsewhere h).1,
        (filterMap_eq_nil_of_elsewhere h).2, List.append_nil, List.append_nil]
  rw [Slipped, hmisread]
  simp only [List.mem_append, or_and_right, exists_or, Slipped]
  exact or_or_or_comm

@[simp] theorem slipped_single {exchange : Exchange} : Slipped [exchange] ↔ Slips exchange := by
  have hmisread : ¬Misread [exchange] := by
    -- no exchange brings both a status and what a container wrote
    rintro ⟨status, hstatus, output, houtput, -⟩
    obtain ⟨request, answer⟩ := exchange
    cases request with
    | awaitContainer id timeout => simp [logs?] at houtput
    | _ => simp [status?] at hstatus
  rw [Slipped, or_iff_left hmisread]
  simp

theorem slipped_cons {exchange : Exchange} {rest : List Exchange}
    (h : Elsewhere exchange.request) :
    Slipped (exchange :: rest) ↔ Slips exchange ∨ Slipped rest := by
  rw [← List.singleton_append, slipped_append (.inl (by simpa using h)), slipped_single]

/-- A path on which nothing but records was written in the end. -/
theorem slipped_append_notes (h : ∀ exchange ∈ back, Of [.note] exchange.request) :
    Slipped (front ++ back) ↔ Slipped front := by
  have hback : ¬Slipped back := by
    induction back with
    | nil => simp
    | cons first rest ih =>
      obtain ⟨hfirst, hrest⟩ := List.forall_mem_cons.mp h
      rw [slipped_cons (hfirst.mono (by decide)), or_iff_left (ih hrest)]
      obtain ⟨request, answer⟩ := first
      cases request with
      | note record => exact id
      | _ => cases hfirst
  rw [slipped_append (.inr fun exchange he => (h exchange he).mono (by decide)),
    or_iff_left hback]

end Sandbox

open Sandbox (Slips Slipped Elsewhere Misread)

/-- However the job ends, it ends with a fault just if something slipped through. -/
def Job.FaultsAsTold {α : Type} (job : Job α) : Prop :=
  ∀ path outcome, job.Ends path outcome → (IsFault outcome ↔ Slipped path)

/-- However the job ends, it ends with a fault. -/
def Job.Faults {α : Type} (job : Job α) : Prop :=
  ∀ path outcome, job.Ends path outcome → IsFault outcome

namespace Job.FaultsAsTold

variable {α β : Type}

theorem pure (value : α) : (Pure.pure value : Job α).FaultsAsTold := by
  intro path outcome h
  obtain ⟨rfl, rfl⟩ := Job.ends_pure.mp h
  simp

theorem throw {failure : Failure} (hexpected : failure.isExpected = true) :
    (MonadExcept.throw failure : Job α).FaultsAsTold := by
  intro path outcome h
  obtain ⟨rfl, rfl⟩ := Job.ends_throw.mp h
  simp [isFault_error_iff, hexpected]

theorem faults (fault : Fault) : (MonadExcept.throw (.fault fault) : Job α).Faults := by
  intro path outcome h
  obtain ⟨-, rfl⟩ := Job.ends_throw.mp h
  exact isFault_fault fault

/-- A job goes on as its first answer asks for: with a fault if that slips through. -/
theorem request {request : Request} {next : request.Answer → Job β} (hr : Elsewhere request)
    (h : ∀ answer, Slips ⟨request, answer⟩ → (next answer).Faults)
    (h' : ∀ answer, ¬Slips ⟨request, answer⟩ → (next answer).FaultsAsTold) :
    (Job.request request >>= next).FaultsAsTold := by
  intro path outcome hends
  obtain ⟨answer, rest, rfl, hrest⟩ := Job.ends_request_bind.mp hends
  rw [Sandbox.slipped_cons hr]
  by_cases hslips : Slips ⟨request, answer⟩
  · exact iff_of_true (h answer hslips rest outcome hrest) (.inl hslips)
  · rw [or_iff_right hslips]
    exact h' answer hslips rest outcome hrest

theorem note {record : Log.Record} {next : Unit → Job β} (hr : Elsewhere (.note record))
    (h : (next ()).FaultsAsTold) : (Job.note record >>= next).FaultsAsTold :=
  .request hr (fun _ hslips => hslips.elim) fun _ _ => h

theorem bind {job : Job α} {next : α → Job β} (h : job.FaultsAsTold)
    (hnext : ∀ value, (next value).FaultsAsTold)
    (hside : job.AsksOnly Elsewhere ∨ ∀ value, (next value).AsksOnly Elsewhere) :
    (job >>= next).FaultsAsTold := by
  intro path outcome hends
  rcases Job.ends_bind.mp hends with
    ⟨front, back, value, rfl, hfront, hback⟩ | ⟨failure, hfailed, rfl⟩
  · rw [Sandbox.slipped_append (hside.imp (fun hjob => (hfront.within hjob).1)
      fun hnext => (hback.within (hnext value)).1), ← h front _ hfront, hnext value back _ hback]
    simp
  · rw [← h path _ hfailed, isFault_error_iff, isFault_error_iff]

theorem ite {c : Prop} [Decidable c] {job job' : Job α} (h : c → job.FaultsAsTold)
    (h' : ¬c → job'.FaultsAsTold) : (if c then job else job').FaultsAsTold := by
  split
  · next hc => exact h hc
  · next hc => exact h' hc

/-- A fault that is expected is gone on with. -/
theorem expected {fault : Fault} {isExpected : Bool} {job : Job α} (h : job.FaultsAsTold)
    (hexpected : isExpected = true) :
    (if !isExpected then MonadExcept.throw (.fault fault) else job).FaultsAsTold := by
  rw [hexpected]
  exact h

/-- A fault that is not expected is thrown. -/
theorem unexpected {fault : Fault} {isExpected : Bool} {job : Job α}
    (hexpected : isExpected = false) :
    (if !isExpected then MonadExcept.throw (.fault fault) else job).Faults := by
  rw [hexpected]
  exact faults fault

/-- A job is followed by another one that fails with faults only, and ends as it did if that does
    not fail. -/
theorem followedBy {job : Job α} {last : Job Unit} (h : job.FaultsAsTold)
    (hlast : last.FaultsAsTold)
    (hends : ∀ path failure, last.Ends path (.error failure) → failure.isExpected = false)
    (hside : last.AsksOnly Elsewhere) :
    (job.thenWith fun outcome => last >>= fun _ => ExceptT.mk (Pure.pure outcome)).FaultsAsTold := by
  intro path outcome hpath
  obtain ⟨front, back, first, rfl, hfront, hback⟩ := Job.ends_thenWith.mp hpath
  rcases Job.ends_bind.mp hback with ⟨removing, rest, _, rfl, hremoved, hrest⟩ |
    ⟨failure, hfailed, rfl⟩
  · obtain ⟨rfl, rfl⟩ := Job.ends_mk.mp hrest
    rw [List.append_nil, Sandbox.slipped_append (.inr (hremoved.within hside).1),
      ← h front _ hfront, ← hlast removing _ hremoved]
    simp
  · rw [Sandbox.slipped_append (.inr (hfailed.within hside).1), ← hlast back _ hfailed]
    have hfault : failure.isExpected = false := hends back failure hfailed
    simp [isFault_error_iff, hfault]

end Job.FaultsAsTold

namespace Sandbox

open Job (FaultsAsTold Faults)

variable {path : List Exchange}

/-! ## The tools -/

theorem Analyzer.analyze_faultsAsTold (analyzer : Analyzer) (snippet : String) :
    (analyzer.analyze snippet).FaultsAsTold := by
  refine .request rfl (fun _ hslips => hslips.elim) fun found _ => .ite (fun _ => ?_) fun _ => ?_
  · exact .note rfl (.throw rfl)
  refine .request rfl (fun run hslips => ?_) fun run hslips => ?_
  · cases run with
    | notStarted fault => exact FaultsAsTold.unexpected hslips
    | overran trouble =>
      cases trouble with
      | none => exact hslips.elim
      | some fault => exact FaultsAsTold.faults fault
    | unread fault => exact FaultsAsTold.faults fault
    | ended exitCode output errors => exact hslips.elim
  · cases run with
    | notStarted fault =>
      exact FaultsAsTold.expected (.note rfl (.throw rfl)) (by simpa [Slips] using hslips)
    | overran trouble =>
      cases trouble with
      | none => exact .note rfl (.throw rfl)
      | some fault => exact absurd trivial hslips
    | unread fault => exact absurd trivial hslips
    | ended exitCode output errors => exact .pure _

namespace Container

theorem ping_faultsAsTold : ping.FaultsAsTold := by
  refine .request rfl (fun link hslips => ?_) fun link hslips => ?_
  · rcases link with fault | _
    · exact FaultsAsTold.unexpected hslips
    · exact hslips.elim
  rcases link with fault | _
  · exact FaultsAsTold.expected (.note rfl (.pure _)) (by simpa [Slips] using hslips)
  refine .request rfl (fun answer hslips => ?_) fun answer hslips => ?_
  · rcases answer with fault | _
    · exact FaultsAsTold.unexpected hslips
    · exact hslips.elim
  rcases answer with fault | _
  · exact FaultsAsTold.expected (.note rfl (.pure _)) (by simpa [Slips] using hslips)
  · exact .pure _

theorem start_faultsAsTold (container : Container) (file : Script) :
    (container.start file).FaultsAsTold := by
  refine .request rfl (fun link hslips => ?_) fun link hslips => ?_
  · rcases link with fault | _
    · exact FaultsAsTold.unexpected hslips
    · exact hslips.elim
  rcases link with fault | _
  · exact FaultsAsTold.expected (.note rfl (.throw rfl)) (by simpa [Slips] using hslips)
  refine .request rfl (fun answer hslips => ?_) fun answer hslips => ?_
  · rcases answer with fault | _
    · exact FaultsAsTold.unexpected hslips
    · exact hslips.elim
  rcases answer with fault | _
  · exact FaultsAsTold.expected (.note rfl (.throw rfl)) (by simpa [Slips] using hslips)
  · exact .pure _

theorem remove_faultsAsTold (id : ContainerName) : (remove id).FaultsAsTold := by
  refine .request rfl (fun answer hslips => ?_) fun answer hslips => ?_
  · rcases answer with fault | _
    · exact FaultsAsTold.unexpected hslips
    · exact hslips.elim
  rcases answer with fault | _
  · refine FaultsAsTold.expected ?_ (by simpa [Slips] using hslips)
    exact .note rfl (.pure _)
  · exact .pure _

/-- The removal of a container fails with faults only. -/
theorem remove_fails (id : ContainerName) (path : List Exchange) (failure : Failure)
    (h : (remove id).Ends path (.error failure)) : failure.isExpected = false := by
  obtain ⟨answer, rest, -, hrest⟩ := Job.ends_request_bind.mp h
  rcases answer with fault | _
  · rcases Job.ends_ite.mp hrest with ⟨-, hthrown⟩ | ⟨-, hnoted⟩
    · obtain rfl := Except.error.inj (Job.ends_throw.mp hthrown).2
      rfl
    · simp at hnoted
  · simp at hrest

/-- A fault of a running container is thrown unless the container service is in trouble. -/
theorem brokenRun_ends {α : Type} {id : ContainerName} {fault : Fault}
    {outcome : Except Failure α} (h : (brokenRun id fault : Job α).Ends path outcome) :
    (∀ exchange ∈ path, Of [.note] exchange.request) ∧
      ∃ failure, outcome = .error failure ∧ failure.isExpected = fault.isContainerTrouble := by
  rcases Job.ends_ite.mp h with ⟨htrouble, hnoted⟩ | ⟨hother, hthrown⟩
  · obtain ⟨rest, rfl, hrest⟩ := Job.ends_note_bind.mp hnoted
    obtain ⟨rfl, rfl⟩ := Job.ends_throw.mp hrest
    exact ⟨by simp [Of, Step.of?, record, Log.Origin.isSandbox], _, rfl, htrouble.symm⟩
  · obtain ⟨rfl, rfl⟩ := Job.ends_throw.mp hthrown
    exact ⟨by simp, _, rfl, by simpa [Failure.isExpected] using hother⟩

/-- What a container wrote is there, or its fetching failed. -/
theorem logs_ends {id : ContainerName} {errors : Bool} {outcome : Except Failure ContainerLogs}
    (h : (logs id errors).Ends path outcome) :
    (∃ written, path = [⟨.containerLogs id errors, .ok written⟩] ∧ outcome = .ok written) ∨
    ∃ fault rest failure, path = ⟨.containerLogs id errors, .error fault⟩ :: rest ∧
      (∀ exchange ∈ rest, Of [.note] exchange.request) ∧ outcome = .error failure ∧
      failure.isExpected = fault.isContainerTrouble := by
  obtain ⟨answer, rest, rfl, hrest⟩ := Job.ends_request_bind.mp h
  rcases answer with fault | written
  · obtain ⟨hnotes, failure, hfailed, hexpected⟩ := brokenRun_ends hrest
    exact .inr ⟨fault, rest, failure, rfl, hnotes, hfailed, hexpected⟩
  · obtain ⟨rfl, rfl⟩ := Job.ends_pure.mp hrest
    exact .inl ⟨written, rfl, rfl⟩

/-- Only here it matters what was collected: a fault is thrown if it cannot be read. -/
theorem collect_faultsAsTold (container : Container) (id : ContainerName) :
    (container.collect id).FaultsAsTold := by
  intro path outcome h
  obtain ⟨answer, rest, rfl, hawaited⟩ := Job.ends_request_bind.mp h
  rcases answer with fault | status
  · rcases Job.ends_ite.mp hawaited with ⟨hstalled, hnoted⟩ | ⟨-, hbroken⟩
    · obtain ⟨more, rfl, hmore⟩ := Job.ends_note_bind.mp hnoted
      obtain ⟨rfl, rfl⟩ := Job.ends_throw.mp hmore
      have htrouble : fault.isContainerTrouble = true := by
        simp [Fault.isContainerTrouble, beq_iff_eq.mp hstalled]
      rw [← List.singleton_append, slipped_append_notes
        (by simp [Of, Step.of?, record, Log.Origin.isSandbox]), slipped_single]
      simp [isFault_error_iff, Failure.isExpected, Slips, htrouble]
    · obtain ⟨hnotes, failure, rfl, hexpected⟩ := brokenRun_ends hbroken
      rw [← List.singleton_append, slipped_append_notes hnotes, slipped_single,
        isFault_error_iff, hexpected]
      exact Iff.rfl
  rcases Job.ends_bind.mp hawaited with
    ⟨_, more, output, rfl, hfirst, hmore⟩ | ⟨failure, hfailed, rfl⟩
  rotate_left
  · rcases logs_ends hfailed with
      ⟨_, -, hnone⟩ | ⟨fault, notes, _, rfl, hnotes, hfailure, hexpected⟩
    · cases hnone
    obtain rfl := Except.error.inj hfailure
    rw [show ∀ a b : Exchange, a :: b :: notes = [a, b] ++ notes from fun _ _ => rfl,
      slipped_append_notes hnotes, isFault_error_iff, hexpected]
    simp [Slipped, Misread, Slips, status?, logs?]
  rcases logs_ends hfirst with ⟨_, rfl, houtput⟩ | ⟨_, _, _, _, _, hnone, -⟩
  rotate_left
  · cases hnone
  obtain rfl := Except.ok.inj houtput
  rcases Job.ends_bind.mp hmore with
    ⟨_, last, errors, rfl, hsecond, hlast⟩ | ⟨failure, hfailed, rfl⟩
  rotate_left
  · rcases logs_ends hfailed with
      ⟨_, -, hnone⟩ | ⟨fault, notes, _, rfl, hnotes, hfailure, hexpected⟩
    · cases hnone
    obtain rfl := Except.error.inj hfailure
    rw [List.singleton_append, show ∀ a b c : Exchange, a :: b :: c :: notes = [a, b, c] ++ notes
      from fun _ _ _ => rfl, slipped_append_notes hnotes, isFault_error_iff, hexpected]
    simp [Slipped, Misread, Slips, status?, logs?]
  rcases logs_ends hsecond with ⟨_, rfl, herrors⟩ | ⟨_, _, _, _, _, hnone, -⟩
  rotate_left
  · cases hnone
  obtain rfl := Except.ok.inj herrors
  cases hread : outcomeOf status output errors with
  | ok left =>
    rw [hread] at hlast
    obtain ⟨rfl, rfl⟩ := Job.ends_pure.mp hlast
    simp [Slipped, Misread, Slips, status?, logs?, hread]
  | error fault =>
    rw [hread] at hlast
    obtain ⟨hnotes, failure, rfl, hexpected⟩ := brokenRun_ends hlast
    rw [List.singleton_append, List.singleton_append,
      show ∀ a b c : Exchange, a :: b :: c :: last = [a, b, c] ++ last from fun _ _ _ => rfl,
      slipped_append_notes hnotes, isFault_error_iff, hexpected]
    simp [Slipped, Misread, Slips, status?, logs?, hread]

theorem run_faultsAsTold (container : Container) (file : Script) :
    (container.run file).FaultsAsTold := by
  refine (start_faultsAsTold container file).bind (fun id => ?_)
    (.inl ((start_asks container file).widen fun _ => Of.mono (by decide)))
  exact (collect_faultsAsTold container id).followedBy (remove_faultsAsTold id)
    (remove_fails id) ((remove_asks id).widen fun _ => Of.mono (by decide))

end Container

/-! ## The way of a snippet -/

variable (sandbox : Sandbox)

theorem inspect_faultsAsTold (snippet sender : String) :
    (sandbox.inspect snippet sender).FaultsAsTold := by
  refine (Analyzer.analyze_faultsAsTold _ _).bind (fun outcome => ?_)
    (.inl ((Analyzer.analyze_asks _ _).widen fun _ => Of.mono (by decide)))
  refine .ite (fun _ => .pure _) fun _ => .ite (fun _ => ?_) fun _ => ?_
  · exact .note rfl (.throw rfl)
  · exact .note rfl (.throw rfl)

theorem ensureContainers_faultsAsTold (sender : String) :
    (ensureContainers sender).FaultsAsTold :=
  Container.ping_faultsAsTold.bind
    (fun _ => .ite (fun _ => .pure _) fun _ => .note rfl (.throw rfl))
    (.inl (Container.ping_asks.widen fun _ => Of.mono (by decide)))

theorem cleanUp_faultsAsTold (file : Script) : (cleanUp file).FaultsAsTold := by
  refine .request rfl (fun answer hslips => ?_) fun answer hslips => ?_
  · rcases answer with fault | _
    · have hother : fault.isFileTrouble = false := hslips
      have hmissing : (fault.family == .missingFile) = false := by
        simp only [Fault.isFileTrouble, Bool.or_eq_false_iff] at hother
        exact hother.2
      simp only [hmissing]
      exact FaultsAsTold.unexpected hother
    · exact hslips.elim
  rcases answer with fault | _
  · refine .ite (fun _ => .pure _) fun _ => ?_
    exact FaultsAsTold.expected (.note rfl (.pure _)) (by simpa [Slips] using hslips)
  · exact .pure _

/-- Cleaning up fails with faults only. -/
theorem cleanUp_fails (file : Script) (path : List Exchange) (failure : Failure)
    (h : (cleanUp file).Ends path (.error failure)) : failure.isExpected = false := by
  obtain ⟨answer, rest, -, hrest⟩ := Job.ends_request_bind.mp h
  rcases answer with fault | _
  · rcases Job.ends_ite.mp hrest with ⟨-, hmissing⟩ | ⟨-, hother⟩
    · simp at hmissing
    rcases Job.ends_ite.mp hother with ⟨-, hthrown⟩ | ⟨-, hnoted⟩
    · obtain rfl := Except.error.inj (Job.ends_throw.mp hthrown).2
      rfl
    · simp [note] at hnoted
  · simp at hrest

theorem unwritable_faultsAsTold {α : Type} (file? : Option Script) {fault : Fault}
    (hfault : fault.isFileTrouble = true) :
    (unwritable file? fault : Job α).FaultsAsTold := by
  refine FaultsAsTold.expected (.note rfl ?_) hfault
  cases file? with
  | none => exact .throw rfl
  | some file =>
    exact (cleanUp_faultsAsTold file).bind (fun _ => .throw rfl)
      (.inl ((cleanUp_asks file).widen fun _ => Of.mono (by decide)))

theorem unwritable_faults {α : Type} (file? : Option Script) {fault : Fault}
    (hfault : fault.isFileTrouble = false) : (unwritable file? fault : Job α).Faults :=
  FaultsAsTold.unexpected hfault

theorem materialize_faultsAsTold (snippet : String) : (materialize snippet).FaultsAsTold := by
  refine .request rfl (fun made hslips => ?_) fun made hslips => ?_
  · rcases made with fault | file
    · exact unwritable_faults none hslips
    · exact hslips.elim
  rcases made with fault | file
  · exact unwritable_faultsAsTold none (by simpa [Slips] using hslips)
  refine .request rfl (fun wrote hslips => ?_) fun wrote hslips => ?_
  · rcases wrote with fault | _
    · exact unwritable_faults (some file) hslips
    · exact hslips.elim
  rcases wrote with fault | _
  · exact unwritable_faultsAsTold (some file) (by simpa [Slips] using hslips)
  refine .request rfl (fun shared hslips => ?_) fun shared hslips => ?_
  · rcases shared with fault | _
    · exact unwritable_faults (some file) hslips
    · exact hslips.elim
  rcases shared with fault | _
  · exact unwritable_faultsAsTold (some file) (by simpa [Slips] using hslips)
  · exact .pure _

theorem runScript_faultsAsTold (file : Script) (sender : String) :
    (sandbox.runScript file sender).FaultsAsTold := by
  refine (Container.run_faultsAsTold _ _).bind
    (fun _ => .ite (fun _ => .pure _) fun _ => .note rfl (.throw rfl)) (.inr fun outcome => ?_)
  exact .ite (fun _ => by simp) fun _ => .bind (.note rfl) fun _ => by simp

theorem run_faultsAsTold (snippet sender : String) :
    (sandbox.run snippet sender).FaultsAsTold := by
  refine .ite (fun _ => .throw rfl) fun _ => ?_
  refine (inspect_faultsAsTold sandbox snippet sender).bind (fun _ => ?_)
    (.inl ((inspect_asks _ _ _).widen fun _ => Of.mono (by decide)))
  refine (ensureContainers_faultsAsTold sender).bind (fun _ => ?_)
    (.inl ((ensureContainers_asks _).widen fun _ => Of.mono (by decide)))
  refine (materialize_faultsAsTold snippet).bind (fun file => ?_)
    (.inl ((materialize_asks _).widen fun _ => Of.mono (by decide)))
  exact (runScript_faultsAsTold sandbox file sender).followedBy (cleanUp_faultsAsTold file)
    (cleanUp_fails file) ((cleanUp_asks file).widen fun _ => Of.mono (by decide))

/-- The command ends with a text, unless something slipped through: then it ends with a fault. -/
theorem execute_ends {args sender : String} {outcome : Except Failure Reply}
    (h : (sandbox.execute args sender).Ends path outcome) :
    (¬Slipped path ∧ ∃ reply, outcome = .ok (.text reply)) ∨ Slipped path ∧ IsFault outcome := by
  rcases Job.ends_tryCatch.mp h with
    ⟨reply, hrun, rfl⟩ | ⟨front, back, failure, rfl, hrun, hhandled⟩
  · obtain ⟨front, back, printed, rfl, hfront, hback⟩ := Job.ends_bind_ok.mp hrun
    obtain ⟨rfl, hreply⟩ := Job.ends_pure.mp hback
    rw [List.append_nil]
    have hslipped : ¬Slipped front := fun hslipped =>
      not_isFault_ok printed ((run_faultsAsTold sandbox args sender front _ hfront).mpr hslipped)
    exact .inl ⟨hslipped, printed, hreply⟩
  · have hfailed : (sandbox.run args sender).Ends front (.error failure) := by
      rcases Job.ends_bind.mp hrun with ⟨_, _, _, _, _, hnone⟩ | ⟨failure', hfront, hfailure⟩
      · cases (Job.ends_pure.mp hnone).2
      · rwa [Except.error.inj hfailure]
    have hfault : failure.isExpected = false ↔ Slipped front := by
      rw [← run_faultsAsTold sandbox args sender front _ hfailed, isFault_error_iff]
    cases failure with
    | usage form =>
      obtain ⟨rest, rfl, hrest⟩ := Job.ends_note_bind.mp hhandled
      obtain ⟨rfl, rfl⟩ := Job.ends_pure.mp hrest
      rw [slipped_append_notes (by simp [Of, Step.of?, Log.Origin.isSandbox]), ← hfault]
      exact .inl ⟨by simp [Failure.isExpected], form.text, rfl⟩
    | fault fault =>
      obtain ⟨rfl, rfl⟩ := Job.ends_throw.mp hhandled
      rw [List.append_nil, ← hfault]
      exact .inr ⟨rfl, isFault_fault fault⟩
    | _ =>
      obtain ⟨rfl, rfl⟩ := Job.ends_pure.mp hhandled
      rw [List.append_nil, ← hfault]
      exact .inl ⟨by simp [Failure.isExpected], _, rfl⟩

end Sandbox

end ChatWarden
