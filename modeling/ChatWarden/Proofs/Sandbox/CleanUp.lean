import ChatWarden.Proofs.Sandbox.Gates

/-!
# Nothing is left behind

Whatever becomes of a snippet, the container that was started for it is removed once, and the
scratch directory holds in the end what it held before. Only a file that cannot be removed stays.

Results:
* `Container.run_removes`: the one removal of a container that was started.
* `Course.removes`: the same on the whole way of a snippet.
* `cleanUp_files`: what the scratch directory holds after a file was made and cleaned up.
* `snippet_leaves_nothing`: both, for every end of every run.
-/

namespace ChatWarden.Sandbox

variable {sandbox : Sandbox} {path past future : List Exchange} {snippet sender : String}

/-! ## The container -/

/-- How often a container was asked to be removed. -/
def removals (id : ContainerName) (path : List Exchange) : Nat :=
  path.countP fun exchange => decide (exchange.request = .removeContainer id)

@[simp] theorem removals_append (id : ContainerName) (path more : List Exchange) :
    removals id (path ++ more) = removals id path + removals id more := List.countP_append ..

/-- Steps without removals remove nothing. -/
theorem removals_eq_zero {steps : List Step} (hs : Step.removal ∉ steps)
    (h : ∀ exchange ∈ path, Of steps exchange.request) (id : ContainerName) :
    removals id path = 0 := by
  refine List.countP_eq_zero.mpr fun exchange he hr => ?_
  have hof := h exchange he
  rw [of_decide_eq_true hr] at hof
  exact hs (of_decide_eq_true hof)

/-- A start that failed started no container. -/
theorem Container.not_started {container : Container} {file : Script} {failure : Failure}
    (h : (container.start file).Ends path (.error failure)) {image : String} {mounted : Script}
    {id : ContainerName} : ⟨.startContainer image mounted, .ok id⟩ ∉ path := by
  intro hmem
  rcases start_ends h with ⟨fault, rest, -, rfl, hrest, -⟩ | ⟨fault, rest, -, rfl, hrest, -⟩ |
    ⟨_, -, hnone⟩
  · rcases List.mem_cons.mp hmem with heq | hmem
    · cases heq
    · cases hrest _ hmem
  · rcases List.mem_cons.mp hmem with heq | hmem
    · cases heq
    rcases List.mem_cons.mp hmem with heq | hmem
    · cases heq
    · cases hrest _ hmem
  · cases hnone

/-- A container that was started is removed once, and after that. -/
theorem Container.run_removes {container : Container} {file : Script}
    {outcome : Except Failure Outcome} (h : (container.run file).Ends path outcome)
    {image : String} {mounted : Script} {id : ContainerName}
    (hpath : path = past ++ ⟨.startContainer image mounted, .ok id⟩ :: future) :
    removals id past = 0 ∧ removals id future = 1 := by
  rcases run_ends h with ⟨failure, hstart⟩ |
    ⟨name, collecting, removed, rest, hrun, hcollecting, hrest⟩
  · exact absurd (hpath ▸ List.mem_append_right past List.mem_cons_self) (not_started hstart)
  · have hstart : [⟨.connect, .ok ()⟩] ++ ⟨.startContainer container.image file, .ok name⟩ ::
        (collecting ++ ⟨.removeContainer name, removed⟩ :: rest) =
        past ++ ⟨.startContainer image mounted, .ok id⟩ :: future := by
      rw [← hpath, hrun]
      rfl
    have hafter : ⟨.startContainer image mounted, .ok id⟩ ∉
        collecting ++ ⟨.removeContainer name, removed⟩ :: rest := by
      intro he
      rcases List.mem_append.mp he with he | he
      · cases hcollecting _ he
      rcases List.mem_cons.mp he with heq | he
      · cases heq
      · cases hrest _ he
    obtain ⟨rfl, heq, rfl⟩ := Exchange.split_at_sole hstart (by simp) hafter
    cases heq
    have hcollected : removals id collecting = 0 := removals_eq_zero (by decide) hcollecting id
    have hreported : removals id rest = 0 := removals_eq_zero (by decide) hrest id
    refine ⟨rfl, ?_⟩
    rw [removals_append, hcollected, removals, List.countP_cons, ← removals, hreported]
    simp

/-- On the whole way of a snippet, a container that was started is removed once, and after
    that. -/
theorem Course.removes (h : Course sandbox snippet sender path) {image : String} {mounted : Script}
    {id : ContainerName}
    (hpath : path = past ++ ⟨.startContainer image mounted, .ok id⟩ :: future) :
    removals id past = 0 ∧ removals id future = 1 := by
  cases h with
  | stopped hchecks =>
    cases hchecks ⟨.startContainer image mounted, .ok id⟩ (by simp [hpath])
  | @unwritten checks writing failure hchecks _ hwriting =>
    obtain ⟨more, -, hmore⟩ := Exchange.split_in_back hpath fun he => by cases hchecks _ he
    cases (hwriting.within (materialize_asks snippet)).1
      ⟨.startContainer image mounted, .ok id⟩ (by simp [hmore])
  | @ran checks running reported cleaning file result cleaned hchecks _ hrun hreported hclean =>
    have hcleaning := (hclean.within (cleanUp_asks file)).1
    -- the start can only stand in the run of the container
    rw [List.append_assoc] at hpath
    obtain ⟨early, rfl, hwriting⟩ := Exchange.split_in_back hpath fun he => by cases hchecks _ he
    obtain ⟨before, rfl, hrest⟩ := Exchange.split_in_back hwriting (by simp [materialized])
    rw [List.append_assoc] at hrest
    obtain ⟨after, hrunning, rfl⟩ := Exchange.split_in_front hrest fun he => by
      rcases List.mem_append.mp he with he | he
      · cases hreported _ he
      · cases hcleaning _ he
    obtain ⟨hbefore, hafter⟩ := Container.run_removes hrun hrunning
    have hchecked : removals id checks = 0 := removals_eq_zero (by decide) hchecks id
    have hreported : removals id reported = 0 := removals_eq_zero (by decide) hreported id
    have hcleaned : removals id cleaning = 0 := removals_eq_zero (by decide) hcleaning id
    simp only [removals_append, hchecked, hbefore, hafter, hreported, hcleaned]
    exact ⟨rfl, trivial⟩

/-! ## The script file -/

/-- A container is run with no other script file than its own. -/
theorem Container.run_about {container : Container} {file : Script}
    {outcome : Except Failure Outcome} (h : (container.run file).Ends path outcome) :
    ∀ exchange ∈ path, About file exchange := by
  have hconnect (answer : Except Fault Unit) : About file ⟨.connect, answer⟩ := ⟨.inl rfl, nofun⟩
  have hstart (answer : Except Fault ContainerName) :
      About file ⟨.startContainer container.image file, answer⟩ := ⟨.inr rfl, nofun⟩
  have hof {steps : List Step} {part : List Exchange} (hs : Step.script ∉ steps)
      (hc : Step.start ∉ steps) (hpart : ∀ exchange ∈ part, Of steps exchange.request) :
      ∀ exchange ∈ part, About file exchange :=
    fun exchange he => (Files.untouched hs hc (hpart exchange he)).imp_left .inl
  rcases run_ends h with ⟨failure, hfailed⟩ |
    ⟨name, collecting, removed, rest, rfl, hcollecting, hrest⟩
  · rcases start_ends hfailed with ⟨fault, rest, -, rfl, hrest, -⟩ |
      ⟨fault, rest, -, rfl, hrest, -⟩ | ⟨_, -, hnone⟩
    · exact List.forall_mem_cons.mpr ⟨hconnect _, hof (by decide) (by decide) hrest⟩
    · exact List.forall_mem_cons.mpr ⟨hconnect _, List.forall_mem_cons.mpr
        ⟨hstart _, hof (by decide) (by decide) hrest⟩⟩
    · cases hnone
  · refine List.forall_mem_append.mpr ⟨List.forall_mem_append.mpr ⟨?_, ?_⟩, ?_⟩
    · exact List.forall_mem_cons.mpr ⟨hconnect _, List.forall_mem_cons.mpr ⟨hstart _, by simp⟩⟩
    · exact hof (by decide) (by decide) hcollecting
    · exact List.forall_mem_cons.mpr ⟨⟨.inl rfl, nofun⟩, hof (by decide) (by decide) hrest⟩

/-- The directory is what it was before, or a file that was made for the snippet could not be
    removed from it. -/
def LeftAsFound (path : List Exchange) (start last : Files) : Prop :=
  last = start ∨ ∃ file fault, ⟨.makeScript, .ok file⟩ ∈ path ∧
    ⟨.removeScript file, .error fault⟩ ∈ path ∧ fault.family = .file ∧
    start file = none ∧ last.SameBut file start

/-- A file that was made and cleaned up is gone, unless it could not be removed. -/
theorem cleanUp_files {file : Script} {working cleaning : List Exchange}
    {cleaned : Except Failure Unit} {start last : Files}
    (hdir : start.AnswersAll (⟨.makeScript, .ok file⟩ :: (working ++ cleaning)) last)
    (hworking : ∀ exchange ∈ working, About file exchange)
    (hfiles : FilesFail cleaning) (hclean : (cleanUp file).Ends cleaning cleaned) :
    LeftAsFound (⟨.makeScript, .ok file⟩ :: (working ++ cleaning)) start last := by
  obtain ⟨made, ⟨hnew, rfl⟩, hrest⟩ := hdir.of_cons
  obtain ⟨worked, hworked, hcleaned⟩ := hrest.split
  obtain ⟨answer, notes, rfl, hnotes⟩ := cleanUp_ends hclean
  obtain ⟨removed, hremoved, hnoted⟩ := hcleaned.of_cons
  obtain rfl : last = removed :=
    hnoted.same fun exchange he => Files.untouched (by decide) (by decide) (hnotes exchange he)
  have hsame : last.SameBut file start :=
    (hremoved.sameBut rfl).trans ((hworked.sameBut hworking).trans (.update _ _ _))
  rcases answer with fault | _
  · have htrouble := hfiles ⟨.removeScript file, .error fault⟩ (by simp) fault rfl
    by_cases hmissing : fault.family = .missingFile
    · exact .inl (hsame.eq ((hremoved.2 hmissing).trans hnew.symm))
    · have hfault : fault.family = .file := by simpa [Fault.isFileTrouble, hmissing] using htrouble
      exact .inr ⟨file, fault, by simp, by simp, hfault, hnew, hsame⟩
  · have hgone : last = Function.update worked file none := hremoved
    exact .inl (hsame.eq (by rw [hgone, Function.update_self, hnew]))

/-- What was left as it was found on the last part of a path was left so on the whole, if the first
    part has not touched the directory. -/
theorem LeftAsFound.behind {checks rest : List Exchange} {start last : Files}
    (hchecks : ∀ exchange ∈ checks, IsCheck exchange.request)
    (hdir : start.AnswersAll (checks ++ rest) last)
    (hrest : ∀ {start : Files}, start.AnswersAll rest last → LeftAsFound rest start last) :
    LeftAsFound (checks ++ rest) start last := by
  obtain ⟨checked, hchecked, hlast⟩ := hdir.split
  obtain rfl : checked = start :=
    hchecked.same fun exchange he => Files.untouched (by decide) (by decide) (hchecks exchange he)
  rcases hrest hlast with hsame | ⟨file, fault, hmade, hremoved, hleft⟩
  · exact .inl hsame
  · exact .inr ⟨file, fault, List.mem_append_right _ hmade, List.mem_append_right _ hremoved, hleft⟩

/-- On the whole way of a snippet, the directory is left as it was found. -/
theorem Course.leaves (h : Course sandbox snippet sender path) (hfiles : FilesFail path)
    {start last : Files} (hdir : start.AnswersAll path last) : LeftAsFound path start last := by
  cases h with
  | stopped hchecks =>
    exact .inl (hdir.same fun exchange he =>
      Files.untouched (by decide) (by decide) (hchecks exchange he))
  | @unwritten checks writing failure hchecks _ hwriting =>
    have hwritingFiles : FilesFail writing :=
      fun exchange he => hfiles exchange (List.mem_append_right _ he)
    refine .behind hchecks hdir fun hrest => ?_
    rcases materialize_error hwritingFiles hwriting with ⟨fault, rest, rfl, hnotes⟩ |
      ⟨file, working, cleaning, cleaned, rfl, hworking, hclean⟩
    · obtain ⟨unmade, hunmade, hnoted⟩ := hrest.of_cons
      obtain rfl := hnoted.same fun exchange he =>
        Files.untouched (by decide) (by decide) (hnotes exchange he)
      exact .inl hunmade
    · exact cleanUp_files hrest hworking (fun exchange he => hwritingFiles exchange (by simp [he]))
        hclean
  | @ran checks running reported cleaning file result cleaned hchecks _ hrun hreported hclean =>
    have hcleaningFiles : FilesFail cleaning := fun exchange he => hfiles exchange (by simp [he])
    rw [List.append_assoc] at hdir ⊢
    refine .behind hchecks hdir fun hrest => ?_
    -- all between the making of the file and its removal concerns this file only
    have hworking : ∀ exchange ∈ [⟨.writeScript file (script snippet), .ok ()⟩,
        ⟨.shareScript file, .ok ()⟩] ++ (running ++ reported), About file exchange := by
      refine List.forall_mem_append.mpr ⟨?_, List.forall_mem_append.mpr
        ⟨Container.run_about hrun, fun exchange he => ?_⟩⟩
      · simp [About, Files.script?]
      · exact (Files.untouched (by decide) (by decide) (hreported exchange he)).imp_left .inl
    have hpath : materialized snippet file ++ (running ++ reported ++ cleaning) =
        ⟨.makeScript, .ok file⟩ :: ([⟨.writeScript file (script snippet), .ok ()⟩,
          ⟨.shareScript file, .ok ()⟩] ++ (running ++ reported) ++ cleaning) := rfl
    rw [hpath] at hrest ⊢
    exact cleanUp_files hrest hworking hcleaningFiles hclean

/-- **Nothing is left behind.** However the run of a snippet ends: every container that was started
    is asked to be removed exactly once, and after it was started. If all that goes wrong with
    script files is trouble with files, the scratch directory holds what it held before, but for the
    file of this snippet if its removal failed for another reason than that it was gone. -/
theorem snippet_leaves_nothing (sandbox : Sandbox) (snippet sender : String)
    {path : List Exchange} {outcome : Except Failure String}
    (h : (sandbox.run snippet sender).Ends path outcome) :
    (∀ past image file id future, path = past ++ ⟨.startContainer image file, .ok id⟩ :: future →
      removals id past = 0 ∧ removals id future = 1) ∧
    (FilesFail path → ∀ start last : Files, start.AnswersAll path last →
      LeftAsFound path start last) := by
  have hcourse := run_course h
  exact ⟨fun past image file id future hpath => hcourse.removes hpath,
    fun hfiles start last hdir => hcourse.leaves hfiles hdir⟩

/-- The container cannot be awaited nor removed, and something takes the place of its script file,
    which therefore cannot be removed either: it is all that is left. -/
theorem snippet_leaves_nothing_stuck :
    let sandbox : Sandbox := ⟨⟨"analyzer", .whole 5⟩, ⟨"node-sandbox", .whole 15⟩⟩
    let past : List Exchange := [⟨.findAnalyzer, true⟩, ⟨.analyze "1", .ended 0 [] []⟩,
      ⟨.connect, .ok ()⟩, ⟨.ping, .ok ()⟩] ++ materialized "1" 0 ++ [⟨.connect, .ok ()⟩]
    let future : List Exchange := [⟨.awaitContainer "c1" (.whole 15), .error .wrongKind⟩,
      ⟨.removeContainer "c1", .error .noSuchPart⟩, ⟨.removeScript 0, .error .isDirectory⟩,
      ⟨.note ⟨.warning, .pipeline,
        "Failed to remove temporary JS file <script>: <IsADirectoryError>", none, none, none⟩, ()⟩]
    let path := past ++ ⟨.startContainer "node-sandbox" 0, .ok "c1"⟩ :: future
    let start : Files := fun _ => none
    let last : Files := Function.update start 0 (some .directory)
    (sandbox.run "1" "alice").Ends path (.error (.fault .noSuchPart)) ∧
      removals "c1" past = 0 ∧ removals "c1" future = 1 ∧ LeftAsFound path start last := by
  intro sandbox past future path start last
  have hwords : Chat.hasWords "1" 1 = true := by decide +kernel
  have hends : (sandbox.run "1" "alice").Ends path (.error (.fault .noSuchPart)) := by
    rw [Job.ends_iff]
    simp only [run, hwords]
    exact .cons (.cons (.cons (.cons (.cons (.cons (.cons (.cons (.cons (.cons (.cons (.cons (.cons
      (.nil _)))))))))))))
  have hfiles : FilesFail path := by
    simp [FilesFail, path, past, future, materialized, fileFault?, Fault.isFileTrouble,
      Fault.isDirectory]
  have hstolen : last.SameBut 0 (Function.update
      (Function.update start 0 (some (.file ""))) 0 (some (.file (script "1")))) :=
    fun place hp => by simp [last, Function.update_of_ne hp]
  have hnotMissing : Fault.isDirectory.family = .missingFile → last 0 = none := by decide
  have hdir : start.AnswersAll path last :=
    .cons rfl (.cons rfl (.cons rfl (.cons rfl (.cons ⟨rfl, rfl⟩ (.cons rfl (.cons rfl (.cons rfl
      (.cons hstolen (.cons rfl (.cons rfl (.cons ⟨.refl _ _, hnotMissing⟩ (.cons rfl
        (.nil _)))))))))))))
  obtain ⟨hremoves, hleaves⟩ := snippet_leaves_nothing sandbox "1" "alice" hends
  obtain ⟨hpast, hfuture⟩ := hremoves past "node-sandbox" 0 "c1" future rfl
  exact ⟨hends, hpast, hfuture, hleaves hfiles start last hdir⟩

end ChatWarden.Sandbox
