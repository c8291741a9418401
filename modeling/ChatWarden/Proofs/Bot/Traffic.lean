import ChatWarden.Proofs.Bot.Guard
import ChatWarden.Proofs.Store.Answers
import ChatWarden.Proofs.Work.Ends

/-!
# What lines ask of the store

A line that does not change who is trusted asks the store for two things only: whether its sender
is trusted, and one statement on the table of commands at most. To check a command and to write it
is the same statement, never two.

Results:
* `Setup.handle_once`: the work on a line makes at most one statement on the commands.
* `Setup.handle_traffic`: unless a line changes trust, all else it asks of the store are look-ups.
-/

namespace ChatWarden

/-! ## Statements on the commands -/

namespace Request

/-- Whether a request is a statement on the table of commands. -/
def isStatement : Request → Bool
  | .store query => query.table == .commands
  | _ => false

/-- Whether a request asks nothing of the store but who is trusted. -/
def IsQuiet (request : Request) : Prop :=
  request.area ≠ .store ∨ request.IsLookup

theorem isStatement_of_area {request : Request} (h : request.area ≠ .store) :
    request.isStatement = false := by
  cases request with
  | store query => exact absurd rfl h
  | _ => rfl

theorem isStatement_of_reply {request : Request}
    (h : request.area = .channel ∨ request.area = .log) : request.isStatement = false :=
  isStatement_of_area (by rcases h with h | h <;> simp [h])

theorem IsQuiet.of_reply {request : Request}
    (h : request.area = .channel ∨ request.area = .log) : request.IsQuiet :=
  .inl (by rcases h with h | h <;> simp [h])

end Request

/-! ## One statement a line -/

/-- The job makes at most one statement on the commands. -/
abbrev Job.Once {α : Type} (job : Job α) : Prop := job.AtMost 1 Request.isStatement

/-- The job makes no statement on the commands. -/
abbrev Job.Never {α : Type} (job : Job α) : Prop := job.AtMost 0 Request.isStatement

theorem Job.Never.of_area {α : Type} {job : Job α} {asks : Request → Prop} (h : job.AsksOnly asks)
    (hasks : ∀ request, asks request → request.area ≠ .store) : job.Never :=
  .none (h.widen fun request hr => Request.isStatement_of_area (hasks request hr))

theorem Job.Never.of_log {α : Type} {job : Job α}
    (h : job.AsksOnly fun request => request.area = .log) : job.Never :=
  .of_area h fun request hr => by simp [hr]

/-- What makes one statement and then none makes one. -/
theorem Job.Once.query {α : Type} {request : Request} {next : request.Answer → Job α}
    (h : ∀ answer, (next answer).Never) : (Job.request request >>= next).Once :=
  (Job.AtMost.request request).bind h

/-- What makes none and then one makes one. -/
theorem Job.Never.bind_once {α β : Type} {job : Job α} {next : α → Job β} (h : job.Never)
    (hnext : ∀ value, (next value).Once) : (job >>= next).Once :=
  (Job.AtMost.bind h hnext).mono (by omega)

theorem Job.Once.bind_never {α β : Type} {job : Job α} {next : α → Job β} (h : job.Once)
    (hnext : ∀ value, (next value).Never) : (job >>= next).Once :=
  Job.AtMost.bind h hnext

theorem Job.Never.once {α : Type} {job : Job α} (h : job.Never) : job.Once := h.mono (by omega)

theorem Listing.execute_once (openNames : List String) : (execute openNames).Once := by
  refine .query fun answer => .of_log ?_
  cases answer with
  | ok custom => simp
  | error failure => exact .bind (.note rfl) fun _ => by simp

namespace CustomAdmin

variable (isBuiltin : String → Bool) (action : CustomAdmin) (args sender : String)

/-- The check of a command and the write to it are one statement. -/
theorem perform_once : (perform isBuiltin action args sender).Once := by
  have hpair : (nameAndResponse isBuiltin action args sender).Never :=
    .of_log ((nameAndResponse_within ..).mono (fun _ => id) fun _ _ => trivial)
  cases action with
  | create => exact hpair.bind_once fun pair => .query fun answer => .of_log (replied_asks ..)
  | update => exact hpair.bind_once fun pair => .query fun answer => .of_log (replied_asks ..)
  | delete =>
    refine .ite (fun _ => Job.Never.once (.of_log (by simp))) fun _ => ?_
    have hname : (checkName isBuiltin .delete (Chat.firstWord args) sender).Never :=
      .of_log ((checkName_within ..).mono (fun _ => id) fun _ _ => trivial)
    exact hname.bind_once fun _ => .query fun answer => .of_log (replied_asks ..)

theorem execute_once : (execute isBuiltin action args sender).Once := by
  refine Job.AtMost.tryCatch (perform_once ..) fun failure => Job.Never.of_log ?_
  cases failure <;> simp [record, Log.Origin.isSandbox]

end CustomAdmin

theorem Builtin.execute_once (tools : Tools) (registry : Registry Builtin) (command : Builtin)
    (args sender : String) : (execute tools registry command args sender).Once := by
  cases command with
  | commands => exact Listing.execute_once _
  | custom action => exact CustomAdmin.execute_once ..
  | _ =>
    refine Job.Never.once (.none ((execute_asks ..).widen fun request h => ?_))
    rcases h.store_cases with harea | ⟨hcommand, -⟩ | ⟨_, hcommand, -⟩ | ⟨action, -, rfl⟩
    · exact Request.isStatement_of_area harea
    · cases hcommand
    · cases hcommand
    · cases action <;> rfl

theorem Dispatcher.resolveCustom_once (name sender : String) :
    (resolveCustom name sender).Once := by
  refine .query fun answer => .of_log ?_
  have hnote (level : Log.Level) (message : String) :
      (Job.note (callRecord level sender name message)).AsksOnly fun request =>
        request.area = .log := .note rfl
  rcases answer with failure | _ | response <;> exact (hnote _ _).bind fun _ => by simp

namespace Setup

variable (setup : Setup) (text sender : String)

theorem resolve_once : (setup.dispatcher.resolve text sender).Once := by
  refine setup.resolve_cases text sender (motive := fun _ job => job.Once)
    (Job.Never.once (.of_log (resolveSubject_asks ..)))
    (fun name => Dispatcher.resolveCustom_once ..) fun command call => ?_
  have hgate : (liftM (Gate.isAllowed command sender) : Job Bool).Never :=
    .none (Gate.isAllowed_asks command rfl fun _ hr => Request.isStatement_of_reply (.inr hr))
  refine Job.Once.bind_never (hgate.bind_once fun allowed => .ite (fun _ => ?_) fun _ => ?_)
    fun reply => .of_log (noteCall_asks ..)
  · exact Builtin.execute_once ..
  · exact Job.Never.once (.of_log (by simp))

theorem finish_never (reply : Reply) : (setup.finish reply).Never :=
  .none ((setup.finish_asks reply).widen fun _ => Request.isStatement_of_reply)

/-- A line makes at most one statement on the commands. -/
theorem handle_once : (setup.handle text sender).Once := by
  rw [handle_eq]
  exact (setup.resolve_once text sender).bind_never setup.finish_never

/-- The line calls a command that changes who is trusted. -/
def changesTrust : Bool := setup.called? text matches some (.trust _, _)

/-- A statement on the commands, or nothing that concerns them or changes trust. -/
abbrev IsTraffic (request : Request) : Prop := request.isStatement = true ∨ request.IsQuiet

theorem execute_traffic {command : Builtin} (h : ∀ action, command ≠ .trust action)
    (args : String) :
    (Builtin.execute setup.tools setup.registry command args sender).AsksOnly IsTraffic := by
  refine (Builtin.execute_asks ..).widen fun request hr => ?_
  rcases hr.store_cases with harea | ⟨-, rfl⟩ | ⟨action, -, rfl⟩ | ⟨action, hcommand, -⟩
  · exact .inr (.inl harea)
  · exact .inl rfl
  · exact .inl (by cases action <;> rfl)
  · exact absurd hcommand (h action)

theorem resolve_traffic (h : setup.changesTrust text = false) :
    (setup.dispatcher.resolve text sender).AsksOnly IsTraffic := by
  have hasks := setup.resolve_asks text sender
    (motive := fun called request => (called matches some (.trust _, _)) = false →
      IsTraffic request)
    (fun _ request hr _ => .inr (.of_reply (.inr hr))) (fun _ _ => .inr (.inr ⟨sender, rfl⟩))
    (fun _ _ => .inl rfl) fun command args => ?_
  · exact hasks.widen fun request hr => hr h
  · by_cases htrust : ∃ action, command = .trust action
    · obtain ⟨action, rfl⟩ := htrust
      exact (Builtin.execute_asks ..).widen fun _ _ hcalled => by cases hcalled
    · rw [not_exists] at htrust
      exact (setup.execute_traffic sender htrust args).widen fun _ hr _ => hr

/-- Unless a line changes trust, all that it asks of the store are look-ups and statements on the
    commands. -/
theorem handle_traffic (h : setup.changesTrust text = false) :
    (setup.handle text sender).AsksOnly IsTraffic :=
  .bind (setup.resolve_traffic text sender h) fun reply =>
    (setup.finish_asks reply).widen fun _ hr => .inr (.of_reply hr)

end Setup

end ChatWarden
