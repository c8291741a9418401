import ChatWarden.Proofs.Bot.World
import ChatWarden.Proofs.Sandbox.Course

/-!
# Both gates before a container

No script file is made and no container is started for a snippet before the analyzer has accepted
this very snippet and the container service has answered after that, whatever the tools do. There
is at most one container, and the file that it runs holds the script of the snippet.

Results:
* `Course.accepted`: whatever is no check comes after both gates were passed.
* `Course.starts`: at most one container is started, and right after its script was written.
* `snippet_runs_only_if_accepted`: all of it, at every moment of every run.
-/

namespace ChatWarden

/-- Whether a request starts a container. -/
def Request.startsContainer : Request → Bool
  | .startContainer _ _ => true
  | _ => false

namespace Sandbox

variable {sandbox : Sandbox} {path past future : List Exchange} {snippet sender : String}

theorem Of.not_startsContainer {steps : List Step} (hs : Step.start ∉ steps) {request : Request}
    (h : Of steps request) : request.startsContainer = false := by
  cases request with
  | startContainer image file => exact absurd (of_decide_eq_true h) hs
  | _ => rfl

/-- A container is started at most once, and with the first request that follows the link. -/
theorem Container.run_starts {container : Container} {file : Script}
    {outcome : Except Failure Outcome} (h : (container.run file).Ends path outcome) :
    (∀ exchange ∈ path, exchange.request.startsContainer = false) ∨
    ∃ answer rest, path = ⟨.connect, .ok ()⟩ ::
        ⟨.startContainer container.image file, answer⟩ :: rest ∧
      ∀ exchange ∈ rest, exchange.request.startsContainer = false := by
  rcases run_ends h with ⟨failure, hstart⟩ | ⟨id, collecting, removed, rest, rfl, hcollecting, hrest⟩
  · rcases start_ends hstart with ⟨fault, rest, -, rfl, hrest, -⟩ |
      ⟨fault, rest, -, rfl, hrest, -⟩ | ⟨id, -, hnone⟩
    · refine .inl (List.forall_mem_cons.mpr ⟨rfl, fun exchange he => ?_⟩)
      exact (hrest exchange he).not_startsContainer (by decide)
    · exact .inr ⟨.error fault, rest, rfl, fun exchange he =>
        (hrest exchange he).not_startsContainer (by decide)⟩
    · cases hnone
  · refine .inr ⟨.ok id, collecting ++ ⟨.removeContainer id, removed⟩ :: rest, rfl, ?_⟩
    refine List.forall_mem_append.mpr ⟨fun exchange he => ?_, List.forall_mem_cons.mpr
      ⟨rfl, fun exchange he => ?_⟩⟩
    · exact (hcollecting exchange he).not_startsContainer (by decide)
    · exact (hrest exchange he).not_startsContainer (by decide)

/-- The exchanges up to the start of a container, behind the checks. -/
def prepared (snippet : String) (checks : List Exchange) (file : Script) : List Exchange :=
  checks ++ materialized snippet file ++ [⟨.connect, .ok ()⟩]

namespace Course

/-- Whatever is no check comes after both gates were passed. -/
theorem accepted (h : Course sandbox snippet sender path) {exchange : Exchange}
    (hpath : path = past ++ exchange :: future) (hr : ¬IsCheck exchange.request) :
    Accepted snippet past := by
  cases h with
  | stopped hchecks => exact absurd (hchecks exchange (by simp [hpath])) hr
  | unwritten hchecks haccepted _ =>
    obtain ⟨more, rfl, -⟩ := Exchange.split_in_back hpath fun he => hr (hchecks exchange he)
    exact haccepted.append more
  | ran hchecks haccepted _ _ _ =>
    rw [List.append_assoc] at hpath
    obtain ⟨more, rfl, -⟩ := Exchange.split_in_back hpath fun he => hr (hchecks exchange he)
    exact haccepted.append more

/-- At most one container is started, and right after its script was written. -/
theorem starts (h : Course sandbox snippet sender path) :
    (∀ exchange ∈ path, exchange.request.startsContainer = false) ∨
    ∃ checks file answer rest, path = prepared snippet checks file ++
        ⟨.startContainer sandbox.container.image file, answer⟩ :: rest ∧
      (∀ exchange ∈ prepared snippet checks file, exchange.request.startsContainer = false) ∧
      ∀ exchange ∈ rest, exchange.request.startsContainer = false := by
  cases h with
  | stopped hchecks =>
    exact .inl fun exchange he => (hchecks exchange he).not_startsContainer (by decide)
  | @unwritten checks writing failure hchecks _ hwriting =>
    refine .inl (List.forall_mem_append.mpr ⟨fun exchange he => ?_, fun exchange he => ?_⟩)
    · exact (hchecks exchange he).not_startsContainer (by decide)
    · exact ((hwriting.within (materialize_asks snippet)).1 exchange he).not_startsContainer
        (by decide)
  | @ran checks running reported cleaning file result cleaned hchecks _ hrun hreported hclean =>
    have hbefore : ∀ exchange ∈ checks, exchange.request.startsContainer = false :=
      fun exchange he => (hchecks exchange he).not_startsContainer (by decide)
    have hmaterialized : ∀ exchange ∈ materialized snippet file,
        exchange.request.startsContainer = false := by
      simp [materialized, Request.startsContainer]
    have hafter : ∀ exchange ∈ reported ++ cleaning, exchange.request.startsContainer = false :=
      List.forall_mem_append.mpr
        ⟨fun exchange he => (hreported exchange he).not_startsContainer (by decide),
          fun exchange he => ((hclean.within (cleanUp_asks file)).1 exchange he).not_startsContainer
            (by decide)⟩
    rcases Container.run_starts hrun with hnone | ⟨answer, rest, rfl, hrest⟩
    · left
      rw [List.append_assoc running, List.append_assoc]
      exact List.forall_mem_append.mpr ⟨hbefore, List.forall_mem_append.mpr
        ⟨hmaterialized, List.forall_mem_append.mpr ⟨hnone, hafter⟩⟩⟩
    · exact .inr ⟨checks, file, answer, rest ++ (reported ++ cleaning), by simp [prepared],
        List.forall_mem_append.mpr ⟨List.forall_mem_append.mpr ⟨hbefore, hmaterialized⟩,
          by simp [Request.startsContainer]⟩,
        List.forall_mem_append.mpr ⟨hrest, hafter⟩⟩

/-- There is at most one start. -/
theorem countP_starts_le (h : Course sandbox snippet sender path) :
    path.countP (·.request.startsContainer) ≤ 1 := by
  have hzero {part : List Exchange}
      (hpart : ∀ exchange ∈ part, exchange.request.startsContainer = false) :
      part.countP (·.request.startsContainer) = 0 :=
    List.countP_eq_zero.mpr fun exchange he => by simp [hpart exchange he]
  rcases h.starts with hnone | ⟨checks, file, answer, rest, rfl, hbefore, hafter⟩
  · exact (hzero hnone).trans_le (Nat.zero_le 1)
  · rw [List.countP_append, List.countP_cons, hzero hbefore, hzero hafter]
    exact le_refl 1

/-- A container is started right after the script of the snippet was written to its file. -/
theorem start_place (h : Course sandbox snippet sender path) {image : String} {file : Script}
    {answer : Except Fault ContainerName}
    (hpath : path = past ++ ⟨.startContainer image file, answer⟩ :: future) :
    ∃ checks, past = prepared snippet checks file := by
  have hstarts : (Request.startContainer image file).startsContainer = true := rfl
  rcases h.starts with hnone | ⟨checks, made, found, rest, hpath', hbefore, hafter⟩
  · rw [hnone ⟨.startContainer image file, answer⟩ (by simp [hpath])] at hstarts
    cases hstarts
  · obtain ⟨rfl, hexchange, -⟩ := Exchange.split_at_sole (hpath'.symm.trans hpath)
      (fun he => by cases hstarts.symm.trans (hbefore _ he))
      fun he => by cases hstarts.symm.trans (hafter _ he)
    obtain ⟨-, rfl⟩ := Request.startContainer.inj (congrArg Exchange.request hexchange)
    exact ⟨checks, rfl⟩

end Course

/-- What a started container runs is the script of the snippet, whatever was in the directory
    before. -/
theorem script_written {checks : List Exchange} {file : Script} {start middle : Files}
    (h : start.AnswersAll (prepared snippet checks file) middle) :
    middle file = some (.file (script snippet)) := by
  rw [prepared, List.append_assoc] at h
  obtain ⟨checked, -, hscript⟩ := h.split
  obtain ⟨made, -, hwrite⟩ := hscript.of_cons
  obtain ⟨written, hwritten, hshare⟩ := hwrite.of_cons
  obtain ⟨shared, hshared, hlink⟩ := hshare.of_cons
  have hlinked : middle = shared := hlink.same (by simp [Files.script?])
  rw [hlinked, show shared = written from hshared, show written = _ from hwritten,
    Function.update_self]

/-- **Both gates.** Whatever the analyzer, the container service and the scratch directory do, at
    every moment of the run of a snippet: at most one container was started; before it was, and
    before any script file was made, the analyzer had accepted this very snippet and the container
    service had answered after that; and the file that the container runs holds the script of this
    snippet. -/
theorem snippet_runs_only_if_accepted (sandbox : Sandbox) (snippet sender : String)
    {path : List Exchange} {rest : Work (Except Failure String)}
    (h : (sandbox.run snippet sender).attempt.Leads path rest) :
    path.countP (·.request.startsContainer) ≤ 1 ∧
    (∀ past exchange future, path = past ++ exchange :: future →
      exchange.request = .makeScript ∨ exchange.request.startsContainer = true →
      Accepted snippet past) ∧
    (¬Accepted snippet path → ∀ exchange ∈ path,
      exchange.request ≠ .makeScript ∧ exchange.request.startsContainer = false) ∧
    ∀ past image file answer future,
      path = past ++ ⟨.startContainer image file, answer⟩ :: future →
      ∀ start middle : Files, start.AnswersAll past middle →
        middle file = some (.file (script snippet)) := by
  obtain ⟨more, outcome, hends⟩ := h.exists_ends
  have hcourse := run_course (Job.ends_iff.mpr hends)
  have haccepted (past : List Exchange) (exchange : Exchange) (future : List Exchange)
      (hpath : path = past ++ exchange :: future)
      (hr : exchange.request = .makeScript ∨ exchange.request.startsContainer = true) :
      Accepted snippet past := by
    have hwhole : path ++ more = past ++ exchange :: (future ++ more) := by simp [hpath]
    refine hcourse.accepted hwhole fun hcheck => ?_
    rcases hr with hr | hr
    · rw [hr] at hcheck
      cases hcheck
    · rw [hcheck.not_startsContainer (by decide)] at hr
      cases hr
  refine ⟨?_, haccepted, ?_, ?_⟩
  · have hcount := hcourse.countP_starts_le
    rw [List.countP_append] at hcount
    omega
  · intro hn exchange he
    obtain ⟨past, future, hpath⟩ := List.append_of_mem he
    have hnot : ¬(exchange.request = .makeScript ∨ exchange.request.startsContainer = true) :=
      fun hr => hn (hpath ▸ (haccepted past exchange future hpath hr).append _)
    exact ⟨fun hr => hnot (.inl hr), by simpa using fun hr => hnot (.inr hr)⟩
  · intro past image file answer future hpath start middle hfiles
    have hwhole : path ++ more =
        past ++ ⟨.startContainer image file, answer⟩ :: (future ++ more) := by simp [hpath]
    obtain ⟨checks, rfl⟩ := hcourse.start_place hwhole
    exact script_written hfiles

/-- On a stage where nothing fails a snippet gets its one container, and had passed both gates. -/
theorem snippet_runs_only_if_accepted_calm :
    let sandbox : Sandbox := ⟨⟨"analyzer", .whole 5⟩, ⟨"node-sandbox", .whole 15⟩⟩
    let run := (sandbox.run "1 + 1" "alice").attempt.record
      (fun stage request => stage.answer request) ({} : Rehearsal.Stage)
    run.1.countP (·.request.startsContainer) = 1 ∧
      ∀ past exchange future, run.1 = past ++ exchange :: future →
        exchange.request.startsContainer = true → Accepted "1 + 1" past := by
  intro sandbox run
  have h := snippet_runs_only_if_accepted sandbox "1 + 1" "alice"
    (Work.leads_record (fun stage request => stage.answer request)
      (sandbox.run "1 + 1" "alice").attempt ({} : Rehearsal.Stage))
  exact ⟨by decide +kernel, fun past exchange future hpath hr =>
    h.2.1 past exchange future hpath (.inr hr)⟩

end Sandbox

end ChatWarden
