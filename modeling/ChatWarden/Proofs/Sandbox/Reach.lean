import ChatWarden.Sandbox.Pipeline
import ChatWarden.Proofs.Work.Within

/-!
# What running a snippet reaches

From its first request to its last one, running a snippet stays in the area of the sandbox: the
analyzer, the container service, the script file, and the records that are written about them. Each
part of the way takes only some of the steps that the whole way takes.

Results:
* `Step.of?`: the steps of the way of a snippet.
* `Container.run_asks`, `Sandbox.materialize_asks` and the like: which steps each part takes.
* `Sandbox.execute_asks`: the command that runs a snippet asks for nothing else.
* `Sandbox.execute_enters`: it asks for something, whatever it was called with.
-/

namespace ChatWarden.Sandbox

/-- Requests of the sandbox. -/
abbrev Inside (request : Request) : Prop := request.area = .sandbox

/-! ## Steps -/

/-- The steps of the way of a snippet. -/
inductive Step where
  | analysis
  | service
  | script
  | start
  | collection
  | removal
  | note
  deriving DecidableEq, Repr

/-- The step that a request belongs to. -/
def Step.of? : Request → Option Step
  | .findAnalyzer | .analyze _ => some .analysis
  | .connect | .ping => some .service
  | .makeScript | .writeScript _ _ | .shareScript _ | .removeScript _ => some .script
  | .startContainer _ _ => some .start
  | .awaitContainer _ _ | .containerLogs _ _ => some .collection
  | .removeContainer _ => some .removal
  | .note record => if record.origin.isSandbox then some .note else none
  | _ => none

/-- Requests of some of the steps. -/
abbrev Of (steps : List Step) (request : Request) : Prop :=
  (Step.of? request).any (· ∈ steps) = true

theorem Of.mono {steps more : List Step} (h : steps ⊆ more) {request : Request}
    (hr : Of steps request) : Of more request := by
  obtain ⟨step, hstep, hmem⟩ := (Option.any_eq_true ..).mp hr
  exact (Option.any_eq_true ..).mpr ⟨step, hstep, decide_eq_true (h (of_decide_eq_true hmem))⟩

theorem Of.inside {steps : List Step} {request : Request} (h : Of steps request) :
    Inside request := by
  obtain ⟨step, hstep, -⟩ := (Option.any_eq_true ..).mp h
  cases request with
  | note record =>
    simp only [Step.of?, Option.ite_none_right_eq_some] at hstep
    simp [hstep.1]
  | store _ | readData | draw _ | openClient _ | fetch _ | findChannel | send _ => cases hstep
  | _ => rfl

/-! ## The tools -/

theorem Analyzer.analyze_asks (analyzer : Analyzer) (snippet : String) :
    (analyzer.analyze snippet).AsksOnly (Of [.analysis, .note]) := by
  have hcomplain (message : String) : (complain message).AsksOnly (Of [.analysis, .note]) :=
    .note rfl
  refine .bind (.request rfl) fun found => .ite (fun _ => ?_) fun _ => ?_
  · exact (hcomplain _).bind fun _ => by simp
  refine .bind (.request rfl) fun run => ?_
  cases run with
  | notStarted fault =>
    exact .ite (fun _ => by simp) fun _ => (hcomplain _).bind fun _ => by simp
  | overran trouble =>
    cases trouble with
    | none => exact (hcomplain _).bind fun _ => by simp
    | some fault => simp
  | unread fault => simp
  | ended exitCode output errors => simp

namespace Container

theorem ping_asks : ping.AsksOnly (Of [.service, .note]) := by
  refine .bind (.request rfl) fun link => ?_
  cases link <;> refine .bind (by simp [Job.request_eq, Of, Step.of?]) fun answer => ?_
  all_goals
    cases answer with
    | ok _ => simp
    | error fault => exact .ite (fun _ => by simp) fun _ => .bind (.note rfl) fun _ => by simp

theorem brokenRun_asks {α : Type} (id : ContainerName) (fault : Fault) :
    (brokenRun id fault : Job α).AsksOnly (Of [.collection, .note]) :=
  .ite (fun _ => .bind (.note rfl) fun _ => by simp) fun _ => by simp

theorem logs_asks (id : ContainerName) (errors : Bool) :
    (logs id errors).AsksOnly (Of [.collection, .note]) := by
  refine .bind (.request rfl) fun answer => ?_
  cases answer with
  | ok bytes => simp
  | error fault => exact brokenRun_asks id fault

theorem collect_asks (container : Container) (id : ContainerName) :
    (container.collect id).AsksOnly (Of [.collection, .note]) := by
  refine .bind (.request rfl) fun answer => ?_
  cases answer with
  | ok status =>
    refine (logs_asks id false).bind fun output => (logs_asks id true).bind fun errors => ?_
    cases outcomeOf status output errors with
    | ok outcome => simp
    | error fault => exact brokenRun_asks id fault
  | error fault =>
    exact .ite (fun _ => .bind (.note rfl) fun _ => by simp) fun _ => brokenRun_asks id fault

theorem remove_asks (id : ContainerName) : (remove id).AsksOnly (Of [.removal, .note]) := by
  refine .bind (.request rfl) fun answer => ?_
  cases answer with
  | ok _ => simp
  | error fault => exact .ite (fun _ => by simp) fun _ => .note rfl

theorem start_asks (container : Container) (script : Script) :
    (container.start script).AsksOnly (Of [.service, .start, .note]) := by
  refine .bind (.request rfl) fun link => ?_
  cases link <;> refine .bind (by simp [Job.request_eq, Of, Step.of?]) fun answer => ?_
  all_goals
    cases answer with
    | ok id => simp
    | error fault => exact .ite (fun _ => by simp) fun _ => .bind (.note rfl) fun _ => by simp

theorem run_asks (container : Container) (script : Script) :
    (container.run script).AsksOnly (Of [.service, .start, .collection, .removal, .note]) := by
  refine ((start_asks container script).widen fun _ => Of.mono (by decide)).bind fun id => ?_
  refine ((collect_asks container id).widen fun _ => Of.mono (by decide)).thenWith fun _ => ?_
  exact ((remove_asks id).widen fun _ => Of.mono (by decide)).bind fun _ => by simp

end Container

/-! ## The way of a snippet -/

variable (sandbox : Sandbox)

theorem inspect_asks (snippet sender : String) :
    (sandbox.inspect snippet sender).AsksOnly (Of [.analysis, .note]) := by
  refine (Analyzer.analyze_asks _ _).bind fun outcome => .ite (fun _ => by simp) fun _ => ?_
  exact .ite (fun _ => .bind (.note rfl) fun _ => by simp) fun _ =>
    .bind (.note rfl) fun _ => by simp

theorem ensureContainers_asks (sender : String) :
    (ensureContainers sender).AsksOnly (Of [.service, .note]) :=
  Container.ping_asks.bind fun _ => .ite (fun _ => by simp) fun _ =>
    .bind (.note rfl) fun _ => by simp

theorem cleanUp_asks (file : Script) : (cleanUp file).AsksOnly (Of [.script, .note]) := by
  refine .bind (.request rfl) fun answer => ?_
  cases answer with
  | ok _ => simp
  | error fault => exact .ite (fun _ => by simp) fun _ => .ite (fun _ => by simp) fun _ => .note rfl

theorem unwritable_asks {α : Type} (file? : Option Script) (fault : Fault) :
    (unwritable file? fault : Job α).AsksOnly (Of [.script, .note]) := by
  refine .ite (fun _ => by simp) fun _ => .bind (.note rfl) fun _ => ?_
  cases file? with
  | none => simp
  | some file => exact (cleanUp_asks file).bind fun _ => by simp

theorem materialize_asks (snippet : String) :
    (materialize snippet).AsksOnly (Of [.script, .note]) := by
  refine .bind (.request rfl) fun made => ?_
  rcases made with fault | file
  · exact unwritable_asks none fault
  refine .bind (.request rfl) fun wrote => ?_
  rcases wrote with fault | _
  · exact unwritable_asks (some file) fault
  refine .bind (.request rfl) fun shared => ?_
  rcases shared with fault | _
  · exact unwritable_asks (some file) fault
  · simp

theorem runScript_asks (file : Script) (sender : String) :
    (sandbox.runScript file sender).AsksOnly
      (Of [.service, .start, .collection, .removal, .note]) :=
  (Container.run_asks _ _).bind fun _ => .ite (fun _ => by simp) fun _ =>
    .bind (.note rfl) fun _ => by simp

theorem run_asks (snippet sender : String) : (sandbox.run snippet sender).AsksOnly Inside := by
  refine .ite (fun _ => by simp) fun _ => ?_
  refine ((inspect_asks _ _ _).widen fun _ => Of.inside).bind fun _ => ?_
  refine ((ensureContainers_asks _).widen fun _ => Of.inside).bind fun _ => ?_
  refine ((materialize_asks _).widen fun _ => Of.inside).bind fun file => ?_
  refine ((runScript_asks _ _ _).widen fun _ => Of.inside).thenWith fun outcome => ?_
  exact ((cleanUp_asks file).widen fun _ => Of.inside).bind fun _ => by simp

theorem execute_asks (args sender : String) : (sandbox.execute args sender).AsksOnly Inside := by
  refine .tryCatch ((run_asks _ _ _).bind fun _ => by simp) fun failure => ?_
  cases failure <;> simp [Log.Origin.isSandbox, Failure.isExpected]

/-- Whatever it was called with, the first thing that the command asks for shows that a snippet is
    run. -/
theorem execute_enters (args sender : String) :
    ∃ request, (sandbox.execute args sender).attempt.first? = some request ∧ Inside request := by
  cases h : Chat.hasWords args 1 with
  | true =>
    refine ⟨.findAnalyzer, ?_, rfl⟩
    simp only [execute, run, h]
    rfl
  | false =>
    refine ⟨.note ⟨.debug, .node, sender ++ " sent node without code", none, none, none⟩, ?_, rfl⟩
    simp only [execute, run, h]
    rfl

end ChatWarden.Sandbox
