import ChatWarden.Proofs.Sandbox.Files

/-!
# The course of a snippet

What happens to a snippet, stage by stage. A stage that is passed has seen what it waits for, and
the whole way ends in one of three manners: it stops before a script file is made, the file cannot
be written, or its container was run and the file was removed.

Results:
* `inspect_ok`, `ensureContainers_ok`, `materialize_ok`: what must have happened if a stage is
  passed.
* `materialize_error`, `cleanUp_ends`, `Container.run_ends`: what happened at the other stages.
* `run_course`: the whole way, from which other modules read off what it guarantees.
-/

namespace ChatWarden.Sandbox

variable {path : List Exchange} {snippet sender : String}

/-! ## What the stages have seen if they are passed -/

theorem Analyzer.analyze_ok {analyzer : Analyzer} {outcome : Outcome}
    (h : (analyzer.analyze snippet).Ends path (.ok outcome)) :
    ∃ output errors, ⟨.analyze snippet, .ended outcome.exitCode output errors⟩ ∈ path := by
  obtain ⟨found, rest, hpath, hrest⟩ := Job.ends_request_bind.mp h
  rcases Job.ends_ite.mp hrest with ⟨-, hmissing⟩ | ⟨-, hfound⟩
  · simp at hmissing
  obtain ⟨run, more, hmore, hrun⟩ := Job.ends_request_bind.mp hfound
  cases run with
  | notStarted fault =>
    rcases Job.ends_ite.mp hrun with ⟨-, hrun⟩ | ⟨-, hrun⟩ <;> simp at hrun
  | overran trouble => cases trouble <;> simp at hrun
  | unread fault => simp at hrun
  | ended exitCode output errors =>
    obtain ⟨-, houtcome⟩ := Job.ends_pure.mp hrun
    obtain rfl := Except.ok.inj houtcome
    exact ⟨output, errors, by simp [hpath, hmore]⟩

/-- A snippet passes only if the analyzer saw it and ended with the exit code of success. -/
theorem inspect_ok {sandbox : Sandbox}
    (h : (sandbox.inspect snippet sender).Ends path (.ok ())) :
    ∃ output errors, ⟨.analyze snippet, .ended 0 output errors⟩ ∈ path := by
  obtain ⟨front, back, outcome, hpath, hfront, hback⟩ := Job.ends_bind_ok.mp h
  obtain ⟨output, errors, hmem⟩ := Analyzer.analyze_ok hfront
  rcases Job.ends_ite.mp hback with ⟨hsucceeded, -⟩ | ⟨-, hrejected⟩
  · have hcode : outcome.exitCode = 0 := by simpa [Outcome.succeeded] using hsucceeded
    exact ⟨output, errors, by simp [hpath, ← hcode, hmem]⟩
  · rcases Job.ends_ite.mp hrejected with ⟨-, hback⟩ | ⟨-, hback⟩ <;>
      simp at hback

theorem Container.ping_true (h : Container.ping.Ends path (.ok true)) :
    ⟨.ping, .ok ()⟩ ∈ path := by
  obtain ⟨link, rest, hpath, hrest⟩ := Job.ends_request_bind.mp h
  rcases link with fault | _
  · rcases Job.ends_ite.mp hrest with ⟨-, hbroken⟩ | ⟨-, hbroken⟩ <;>
      simp [Except.map] at hbroken
  obtain ⟨answer, more, hmore, hanswer⟩ := Job.ends_request_bind.mp hrest
  rcases answer with fault | _
  · rcases Job.ends_ite.mp hanswer with ⟨-, hbroken⟩ | ⟨-, hbroken⟩ <;>
      simp [Except.map] at hbroken
  · simp [hpath, hmore]

/-- The container service answered. -/
theorem ensureContainers_ok (h : (ensureContainers sender).Ends path (.ok ())) :
    ⟨.ping, .ok ()⟩ ∈ path := by
  obtain ⟨front, back, up, hpath, hfront, hback⟩ := Job.ends_bind_ok.mp h
  cases up with
  | true => simp [hpath, Container.ping_true hfront]
  | false => simp at hback

/-- What made a script file unwritable ends in a failure. -/
theorem not_unwritable_ok {α : Type} {file? : Option Script} {fault : Fault} {value : α} :
    ¬(unwritable file? fault : Job α).Ends path (.ok value) := by
  intro h
  rcases Job.ends_ite.mp h with ⟨-, h⟩ | ⟨-, h⟩
  · simp at h
  · obtain ⟨-, rest, -, -, -, h⟩ := Job.ends_bind_ok.mp h
    cases file? with
    | none => simp at h
    | some file => simp at h

/-- The exchanges that write the script of a snippet to a file. -/
def materialized (snippet : String) (file : Script) : List Exchange :=
  [⟨.makeScript, .ok file⟩, ⟨.writeScript file (script snippet), .ok ()⟩,
    ⟨.shareScript file, .ok ()⟩]

/-- The script file was made, written and shared. -/
theorem materialize_ok {file : Script} (h : (materialize snippet).Ends path (.ok file)) :
    path = materialized snippet file := by
  obtain ⟨made, rest, hpath, h⟩ := Job.ends_request_bind.mp h
  rcases made with fault | made
  · exact absurd h not_unwritable_ok
  obtain ⟨wrote, rest', hrest, h⟩ := Job.ends_request_bind.mp h
  rcases wrote with fault | _
  · exact absurd h not_unwritable_ok
  obtain ⟨shared, rest'', hrest', h⟩ := Job.ends_request_bind.mp h
  rcases shared with fault | _
  · exact absurd h not_unwritable_ok
  obtain ⟨hrest'', houtcome⟩ := Job.ends_pure.mp h
  obtain rfl := Except.ok.inj houtcome
  rw [hpath, hrest, hrest', hrest'', materialized]

/-! ## The script file -/

/-- A file that could be made and not be written is removed again. -/
theorem unwritable_some {α : Type} {file : Script} {fault : Fault} (hfault : fault.isFileTrouble)
    {outcome : Except Failure α} (h : (unwritable (some file) fault : Job α).Ends path outcome) :
    ∃ record cleaning cleaned, path = ⟨.note record, ()⟩ :: cleaning ∧
      (cleanUp file).Ends cleaning cleaned := by
  rcases Job.ends_ite.mp h with ⟨hother, -⟩ | ⟨-, hnoted⟩
  · simp [hfault] at hother
  obtain ⟨rest, hpath, hrest⟩ := Job.ends_note_bind.mp hnoted
  obtain ⟨cleaned, hcleaned⟩ := hrest.of_bind fun _ _ hback => (Job.ends_throw.mp hback).1
  exact ⟨_, rest, cleaned, hpath, hcleaned⟩

theorem unwritable_none_asks {α : Type} (fault : Fault) :
    (unwritable none fault : Job α).AsksOnly (Of [.note]) :=
  .ite (fun _ => by simp) fun _ => .bind (.note rfl) fun _ => by simp

/-- Exchanges that concern no script file but this one. -/
def About (file : Script) (exchange : Exchange) : Prop :=
  (Files.script? exchange.request = none ∨ Files.script? exchange.request = some file) ∧
    exchange.request ≠ .makeScript

/-- The fault of an operation on script files. -/
def fileFault? : Exchange → Option Fault
  | ⟨.makeScript, .error fault⟩ | ⟨.writeScript _ _, .error fault⟩
  | ⟨.shareScript _, .error fault⟩ | ⟨.removeScript _, .error fault⟩ => some fault
  | _ => none

/-- All that goes wrong with script files is trouble with files. -/
def FilesFail (path : List Exchange) : Prop :=
  ∀ exchange ∈ path, ∀ fault, fileFault? exchange = some fault → fault.isFileTrouble = true

/-- If there is no script file in the end, none was made or the one that was made was cleaned
    up. -/
theorem materialize_error {failure : Failure} (hfiles : FilesFail path)
    (h : (materialize snippet).Ends path (.error failure)) :
    (∃ fault rest, path = ⟨.makeScript, .error fault⟩ :: rest ∧
      ∀ exchange ∈ rest, Of [.note] exchange.request) ∨
    ∃ file writing cleaning cleaned, path = ⟨.makeScript, .ok file⟩ :: (writing ++ cleaning) ∧
      (∀ exchange ∈ writing, About file exchange) ∧ (cleanUp file).Ends cleaning cleaned := by
  obtain ⟨made, rest, hpath, hmade⟩ := Job.ends_request_bind.mp h
  rcases made with fault | file
  · exact .inl ⟨fault, rest, hpath, (hmade.within (unwritable_none_asks fault)).1⟩
  right
  obtain ⟨wrote, more, hrest, hwrote⟩ := Job.ends_request_bind.mp hmade
  rcases wrote with fault | _
  · have hfault := hfiles ⟨.writeScript file (script snippet), .error fault⟩
      (by simp [hpath, hrest]) fault rfl
    obtain ⟨record, cleaning, cleaned, hmore, hcleaned⟩ := unwritable_some hfault hwrote
    refine ⟨file, [_, _], cleaning, cleaned, by rw [hpath, hrest, hmore]; rfl, ?_, hcleaned⟩
    simp [About, Files.script?]
  obtain ⟨shared, last, hmore, hshared⟩ := Job.ends_request_bind.mp hwrote
  rcases shared with fault | _
  · have hfault := hfiles ⟨.shareScript file, .error fault⟩
      (by simp [hpath, hrest, hmore]) fault rfl
    obtain ⟨record, cleaning, cleaned, hlast, hcleaned⟩ := unwritable_some hfault hshared
    refine ⟨file, [_, _, _], cleaning, cleaned, by rw [hpath, hrest, hmore, hlast]; rfl, ?_,
      hcleaned⟩
    simp [About, Files.script?]
  · have hnone := (Job.ends_pure.mp hshared).2
    cases hnone

/-- Whatever the answer, the file was asked to be removed, and nothing else. -/
theorem cleanUp_ends {file : Script} {outcome : Except Failure Unit}
    (h : (cleanUp file).Ends path outcome) :
    ∃ answer rest, path = ⟨.removeScript file, answer⟩ :: rest ∧
      ∀ exchange ∈ rest, Of [.note] exchange.request := by
  obtain ⟨answer, rest, hpath, hrest⟩ := Job.ends_request_bind.mp h
  refine ⟨answer, rest, hpath, ?_⟩
  cases answer with
  | ok _ =>
    obtain ⟨rfl, -⟩ := Job.ends_pure.mp hrest
    simp
  | error fault =>
    rcases Job.ends_ite.mp hrest with ⟨-, hrest⟩ | ⟨-, hrest⟩
    · obtain ⟨rfl, -⟩ := Job.ends_pure.mp hrest
      simp
    · exact (hrest.within
        (.ite (fun _ => by simp) fun _ => .note rfl : Job.AsksOnly _ (Of [.note]))).1

/-! ## The container -/

namespace Container

variable {container : Container} {file : Script}

/-- A container is started if the service can be reached, and with no other request. -/
theorem start_ends {outcome : Except Failure ContainerName}
    (h : (container.start file).Ends path outcome) :
    (∃ fault rest failure, path = ⟨.connect, .error fault⟩ :: rest ∧
      (∀ exchange ∈ rest, Of [.note] exchange.request) ∧ outcome = .error failure) ∨
    (∃ fault rest failure, path = ⟨.connect, .ok ()⟩ ::
        ⟨.startContainer container.image file, .error fault⟩ :: rest ∧
      (∀ exchange ∈ rest, Of [.note] exchange.request) ∧ outcome = .error failure) ∨
    ∃ id, path = [⟨.connect, .ok ()⟩, ⟨.startContainer container.image file, .ok id⟩] ∧
      outcome = .ok id := by
  -- a refused start is written down at most
  have hrefused {rest : List Exchange} {job : Job ContainerName} (hrest : job.Ends rest outcome)
      (hjob : job.Within (Of [.note]) fun outcome => ∃ failure, outcome = .error failure) :
      ∃ failure, (∀ exchange ∈ rest, Of [.note] exchange.request) ∧ outcome = .error failure := by
    obtain ⟨hnotes, failure, hfailed⟩ := hrest.within hjob
    exact ⟨failure, hnotes, hfailed⟩
  obtain ⟨link, rest, hpath, hlink⟩ := Job.ends_request_bind.mp h
  rcases link with fault | _
  · obtain ⟨failure, hnotes, hfailed⟩ := hrefused hlink
      (by simp [Of, Step.of?, record, Log.Origin.isSandbox])
    exact .inl ⟨fault, rest, failure, hpath, hnotes, hfailed⟩
  obtain ⟨answer, more, hrest, hanswer⟩ := Job.ends_request_bind.mp hlink
  rcases answer with fault | id
  · obtain ⟨failure, hnotes, hfailed⟩ := hrefused hanswer
      (by simp [Of, Step.of?, record, Log.Origin.isSandbox])
    exact .inr (.inl ⟨fault, more, failure, by rw [hpath, hrest], hnotes, hfailed⟩)
  · obtain ⟨hmore, houtcome⟩ := Job.ends_pure.mp hanswer
    exact .inr (.inr ⟨id, by rw [hpath, hrest, hmore], houtcome⟩)

/-- Whatever the answer, the container was asked to be removed, and nothing else. -/
theorem remove_ends {id : ContainerName} {outcome : Except Failure Unit}
    (h : (remove id).Ends path outcome) :
    ∃ answer rest, path = ⟨.removeContainer id, answer⟩ :: rest ∧
      ∀ exchange ∈ rest, Of [.note] exchange.request := by
  obtain ⟨answer, rest, hpath, hrest⟩ := Job.ends_request_bind.mp h
  refine ⟨answer, rest, hpath, ?_⟩
  cases answer with
  | ok _ =>
    obtain ⟨rfl, -⟩ := Job.ends_pure.mp hrest
    simp
  | error fault =>
    exact (hrest.within
      (.ite (fun _ => by simp) fun _ => .note rfl : Job.AsksOnly _ (Of [.note]))).1

/-- A container that was started is removed, once and at the end. -/
theorem run_ends {outcome : Except Failure Outcome} (h : (container.run file).Ends path outcome) :
    (∃ failure, (container.start file).Ends path (.error failure)) ∨
    ∃ id collecting removed rest,
      path = [⟨.connect, .ok ()⟩, ⟨.startContainer container.image file, .ok id⟩] ++ collecting ++
        ⟨.removeContainer id, removed⟩ :: rest ∧
      (∀ exchange ∈ collecting, Of [.collection, .note] exchange.request) ∧
      ∀ exchange ∈ rest, Of [.note] exchange.request := by
  rcases Job.ends_bind.mp h with ⟨starting, running, id, hpath, hstarted, hrun⟩ | ⟨failure, h, -⟩
  · obtain ⟨collecting, removing, collected, hrunning, hcollected, hlast⟩ :=
      Job.ends_thenWith.mp hrun
    obtain ⟨_, hremove⟩ := hlast.of_bind fun _ _ hback => (Job.ends_mk.mp hback).1
    obtain ⟨removed, rest, hremoving, hrest⟩ := remove_ends hremove
    refine .inr ⟨id, collecting, removed, rest, ?_, (hcollected.within (collect_asks ..)).1, hrest⟩
    rcases start_ends hstarted with ⟨_, _, _, _, _, hnone⟩ | ⟨_, _, _, _, _, hnone⟩ |
      ⟨name, hstarting, hname⟩
    · cases hnone
    · cases hnone
    · obtain rfl := Except.ok.inj hname
      rw [hpath, hrunning, hstarting, hremoving, List.append_assoc]
  · exact .inl ⟨failure, h⟩

end Container

/-! ## The whole way -/

/-- What must have happened before a script file is made for a snippet. -/
structure Accepted (snippet : String) (past : List Exchange) : Prop where
  /-- The snippet is not blank. -/
  notBlank : Text.words snippet.toList ≠ []
  /-- The analyzer saw this snippet and ended with the exit code of success, and then the container
      service answered. -/
  checked : ∃ analyzed answered output errors, past = analyzed ++ answered ∧
    ⟨.analyze snippet, .ended 0 output errors⟩ ∈ analyzed ∧ ⟨.ping, .ok ()⟩ ∈ answered

theorem Accepted.append {past : List Exchange} (h : Accepted snippet past)
    (more : List Exchange) : Accepted snippet (past ++ more) where
  notBlank := h.notBlank
  checked := by
    obtain ⟨analyzed, answered, output, errors, rfl, hanalyzed, hanswered⟩ := h.checked
    exact ⟨analyzed, answered ++ more, output, errors, List.append_assoc .., hanalyzed,
      List.mem_append_left _ hanswered⟩

/-- The requests of the two gates. -/
abbrev IsCheck (request : Request) : Prop := Of [.analysis, .service, .note] request

/-- How the way of a snippet can have ended. -/
inductive Course (sandbox : Sandbox) (snippet sender : String) : List Exchange → Prop
  /-- One of the gates stayed closed. -/
  | stopped {checks : List Exchange} :
      (∀ exchange ∈ checks, IsCheck exchange.request) → Course sandbox snippet sender checks
  /-- The script file could not be made as it should be. -/
  | unwritten {checks writing : List Exchange} {failure : Failure} :
      (∀ exchange ∈ checks, IsCheck exchange.request) → Accepted snippet checks →
      (materialize snippet).Ends writing (.error failure) →
      Course sandbox snippet sender (checks ++ writing)
  /-- The script file was made and the container run on it, whatever became of that, and the file
      was cleaned up. -/
  | ran {checks running reported cleaning : List Exchange} {file : Script}
      {result : Except Failure Outcome} {cleaned : Except Failure Unit} :
      (∀ exchange ∈ checks, IsCheck exchange.request) → Accepted snippet checks →
      (sandbox.container.run file).Ends running result →
      (∀ exchange ∈ reported, Of [.note] exchange.request) → (cleanUp file).Ends cleaning cleaned →
      Course sandbox snippet sender
        (checks ++ materialized snippet file ++ (running ++ reported ++ cleaning))

theorem runScript_ends {sandbox : Sandbox} {file : Script} {outcome : Except Failure String}
    (h : (sandbox.runScript file sender).Ends path outcome) :
    ∃ running reported result, path = running ++ reported ∧
      (sandbox.container.run file).Ends running result ∧
      ∀ exchange ∈ reported, Of [.note] exchange.request := by
  rcases Job.ends_bind.mp h with ⟨running, reported, result, hpath, hrunning, hreported⟩ |
    ⟨failure, hfailed, -⟩
  · refine ⟨running, reported, .ok result, hpath, hrunning, (hreported.within
      (?_ : Job.AsksOnly _ (Of [.note]))).1⟩
    exact .ite (fun _ => by simp) fun _ => .bind (.note rfl) fun _ => by simp
  · exact ⟨path, [], .error failure, (List.append_nil path).symm, hfailed, by simp⟩

/-- Every end of the way of a snippet is one of the three. -/
theorem run_course {sandbox : Sandbox} {outcome : Except Failure String}
    (h : (sandbox.run snippet sender).Ends path outcome) :
    Course sandbox snippet sender path := by
  rcases Job.ends_ite.mp h with ⟨-, hblank⟩ | ⟨hwords, hgates⟩
  · obtain ⟨rfl, -⟩ : path = [] ∧ outcome = .error (.usage .snippet) := by simpa using hblank
    exact .stopped (by simp)
  have hnotBlank : Text.words snippet.toList ≠ [] := by
    rintro hnil
    simp [Chat.hasWords, hnil] at hwords
  have hinspected {front : List Exchange} {result : Except Failure Unit}
      (hfront : (sandbox.inspect snippet sender).Ends front result) :
      ∀ exchange ∈ front, IsCheck exchange.request :=
    (hfront.within ((inspect_asks ..).widen fun _ => Of.mono (by decide))).1
  have hanswered {front : List Exchange} {result : Except Failure Unit}
      (hfront : (ensureContainers sender).Ends front result) :
      ∀ exchange ∈ front, IsCheck exchange.request :=
    (hfront.within ((ensureContainers_asks ..).widen fun _ => Of.mono (by decide))).1
  -- the gate of the analyzer
  rcases Job.ends_bind.mp hgates with ⟨inspected, rest, _, rfl, hinspect, hrest⟩ |
    ⟨failure, hclosed, -⟩
  rotate_left
  · exact .stopped (hinspected hclosed)
  -- the gate of the container service
  rcases Job.ends_bind.mp hrest with ⟨answered, rest, _, rfl, hensure, hrest⟩ |
    ⟨failure, hclosed, -⟩
  rotate_left
  · exact .stopped (List.forall_mem_append.mpr ⟨hinspected hinspect, hanswered hclosed⟩)
  obtain ⟨output, errors, hanalyzed⟩ := inspect_ok hinspect
  have haccepted : Accepted snippet (inspected ++ answered) :=
    ⟨hnotBlank, inspected, answered, output, errors, rfl, hanalyzed, ensureContainers_ok hensure⟩
  have hchecks : ∀ exchange ∈ inspected ++ answered, IsCheck exchange.request :=
    List.forall_mem_append.mpr ⟨hinspected hinspect, hanswered hensure⟩
  rw [← List.append_assoc]
  -- the script file
  rcases Job.ends_bind.mp hrest with ⟨writing, rest, file, rfl, hwritten, hrest⟩ |
    ⟨failure, hunwritten, -⟩
  rotate_left
  · exact .unwritten hchecks haccepted hunwritten
  -- the container, and the file again
  obtain ⟨ran, last, result, rfl, hran, hlast⟩ := Job.ends_thenWith.mp hrest
  obtain ⟨cleaned, hcleaned⟩ := hlast.of_bind fun _ _ hback => (Job.ends_mk.mp hback).1
  obtain ⟨running, reported, result, rfl, hrunning, hreported⟩ := runScript_ends hran
  rw [materialize_ok hwritten, ← List.append_assoc]
  exact .ran hchecks haccepted hrunning hreported hcleaned

end ChatWarden.Sandbox
