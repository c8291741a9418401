import ChatWarden.Command.Builtin
import ChatWarden.Proofs.Sandbox.Reach

/-!
# What commands reach

Every built-in command reaches a few areas of the surroundings only. Requests that are left to
trusted users are made by commands that need trust only, and no command looks up who is trusted:
that is left to the gate.

Results:
* `Builtin.execute_asks`: a command asks for no more than `Builtin.Reaches` allows it.
* `Builtin.Reaches.store_cases`: what commands reach of the store.
* `Builtin.Reaches.requiresTrust`: only commands that need trust reach what is privileged.
* `Builtin.Reaches.not_lookup`: no command reaches the look-up of who is trusted.
-/

namespace ChatWarden

/-! ## Commands without need of trust -/

theorem Listing.execute_asks (openNames : List String) :
    (execute openNames).AsksOnly fun request =>
      request = .store .listNames ∨ request.area = .log := by
  refine .bind (.request (.inl rfl)) fun answer => ?_
  cases answer with
  | ok custom => simp
  | error failure => exact .bind (.note (.inr rfl)) fun _ => by simp

namespace Lookup

/-- Requests of a look-up: those to its service, and records. -/
abbrev Outside (request : Request) : Prop := request.area = .web ∨ request.area = .log

theorem Client.prepare_within (client : Client) : client.prepare.Within Outside fun _ => True := by
  cases client <;> simp [prepare, Work.request_eq, Outside]

theorem Client.get_within (client : Client) (request : Http.Request) :
    (client.get request).Within Outside fun _ => True := by
  rw [get, Work.within_bind']
  exact client.prepare_within.mono (fun _ => id) fun _ _ => by simp [Work.request_eq, Outside]

theorem failed_asks {α : Type} (service : Service) {origin : Log.Origin}
    (h : origin.isSandbox = false) (noun asked : String) (fault : Fault) :
    (failed service origin noun asked fault : Job α).AsksOnly Outside := by
  simp [failed, h, Outside]

/-- To answer a look-up that failed a command asks for nothing more. -/
theorem asCommand_asks {α : Type} [Coe String α] {lookup : Job α}
    (h : lookup.AsksOnly Outside) : (asCommand lookup).AsksOnly Outside := by
  refine h.tryCatch fun failure => ?_
  cases failure <;> simp

theorem Weather.execute_asks (client : Client) (args : String) :
    (execute client args).AsksOnly Outside := by
  refine asCommand_asks (.bind (.lift (client.get_within ..)) fun answer => ?_)
  cases answer with
  | ok response => cases h : response.text <;> simp [h]
  | error fault => exact .ite (fun _ => failed_asks _ rfl ..) fun _ => by simp

theorem Card.fetch_asks (client : Client) (name : String) :
    (fetch client name).AsksOnly Outside := by
  refine .bind (.lift (client.get_within ..)) fun answer => ?_
  cases answer.bind Http.Response.document with
  | ok document => exact .bind (by simp) fun shown => by simp
  | error fault => exact .ite (fun _ => failed_asks _ rfl ..) fun _ => by simp

theorem Card.execute_asks (client : Client) (args : String) :
    (execute client args).AsksOnly Outside :=
  .ite (fun _ => by simp) fun _ => asCommand_asks (fetch_asks client args)

end Lookup

theorem DataLine.execute_asks (path args : String) :
    (execute path args).AsksOnly fun request => request.area = .data ∨ request.area = .log := by
  refine .bind (.request (.inl rfl)) fun answer => ?_
  cases answer with
  | ok bytes => simp [Job.request_eq]
  | error fault => exact .ite (fun _ => by simp) fun _ => by simp [Log.Origin.isSandbox]

theorem OddsQuery.execute_asks (args sender : String) :
    (execute args sender).AsksOnly fun request => request.area = .log := by
  have hnote (message : String) :
      (Job.note (record message)).AsksOnly fun request => request.area = .log := .note rfl
  refine .ite (fun _ => by simp) fun _ => ?_
  split
  · exact (hnote _).bind fun _ => by simp
  · split
    · simp
    · exact (hnote _).bind fun _ => by simp
    · simp
    · simp

/-! ## Commands that need trust -/

namespace CustomAdmin

/-- What an action asks of the store for its arguments. -/
def query (action : CustomAdmin) (args : String) : Store.Query :=
  match action with
  | .create => .createCommand (Chat.nameAndText args).1 (Chat.nameAndText args).2
  | .update => .updateCommand (Chat.nameAndText args).1 (Chat.nameAndText args).2
  | .delete => .deleteCommand (Chat.firstWord args)

/-- The name may be given to a custom command. -/
def IsFree (isBuiltin : String → Bool) (name : String) : Prop :=
  Chat.isCommandName name = true ∧ isBuiltin name = false

/-- The arguments pass the checks of an action. -/
def Passes (isBuiltin : String → Bool) (action : CustomAdmin) (args : String) : Prop :=
  match action with
  | .create | .update =>
    Chat.hasWords args 2 = true ∧ IsFree isBuiltin (Chat.nameAndText args).1
  | .delete => IsFree isBuiltin (Chat.firstWord args)

variable (isBuiltin : String → Bool) (action : CustomAdmin) (args sender : String)

theorem note_asks (level : Log.Level) (message : String) :
    (Job.note (record level message)).AsksOnly fun request => request.area = .log := .note rfl

theorem checkName_within (name : String) :
    (checkName isBuiltin action name sender).Within (fun request => request.area = .log)
      fun outcome => outcome = .ok () → IsFree isBuiltin name := by
  by_cases hname : Chat.isCommandName name <;> by_cases hbuiltin : isBuiltin name <;>
    simp [checkName, record, Log.Origin.isSandbox, IsFree, hname, hbuiltin]

/-- Arguments that pass are taken as they are. -/
theorem nameAndResponse_within :
    (nameAndResponse isBuiltin action args sender).Within (fun request => request.area = .log)
      fun outcome => ∀ pair, outcome = .ok pair → pair = Chat.nameAndText args ∧
        Chat.hasWords args 2 = true ∧ IsFree isBuiltin (Chat.nameAndText args).1 := by
  simp only [nameAndResponse, Job.within_bind, Job.within_ite, Job.within_throw]
  split
  · simp
  · next hwords =>
    refine (checkName_within isBuiltin action sender _).mono (fun _ => id) ?_
    rintro (failure | _) hfree
    · simp
    · dsimp only
      rw [Job.within_pure]
      intro pair hpair
      exact ⟨(Except.ok.inj hpair).symm, by simpa using hwords, hfree rfl⟩

/-- The query of an action is followed by a record at most. -/
theorem queried_asks {query : Store.Query} {next : Except Store.Failure query.Result → Job Reply}
    {asks : Request → Prop} (hquery : asks (.store query))
    (hlog : ∀ request, request.area = .log → asks request)
    (hnext : ∀ answer, (next answer).AsksOnly fun request => request.area = .log) :
    (Job.request (.store query) >>= next).AsksOnly asks :=
  .bind (.request hquery) fun answer => (hnext answer).widen hlog

/-- What follows the answer of the store: one of two replies, or its failure. -/
abbrev replied (sender : String) (answer : Except Store.Failure Bool)
    (done name yes no : String) : Job Reply := do
  if ← Job.ofStore answer then
    noteDone sender done name
    return yes
  else return no

theorem replied_asks (answer : Except Store.Failure Bool) (done name yes no : String) :
    (replied sender answer done name yes no).AsksOnly fun request => request.area = .log := by
  refine .bind (by simp) fun changed => .ite (fun _ => ?_) fun _ => by simp
  exact (note_asks _ _).bind fun _ => by simp

/-- An action asks for its query, and only if the arguments pass its checks. -/
theorem perform_asks :
    (perform isBuiltin action args sender).AsksOnly fun request =>
      request = .store (action.query args) ∧ action.Passes isBuiltin args ∨
        request.area = .log := by
  cases action with
  | create =>
    refine .after ((nameAndResponse_within ..).mono (fun _ => .inr) fun _ => id) fun pair h => ?_
    obtain ⟨rfl, hpasses⟩ := h pair rfl
    exact queried_asks (.inl ⟨rfl, hpasses⟩) (fun _ => .inr) fun answer => replied_asks ..
  | update =>
    refine .after ((nameAndResponse_within ..).mono (fun _ => .inr) fun _ => id) fun pair h => ?_
    obtain ⟨rfl, hpasses⟩ := h pair rfl
    exact queried_asks (.inl ⟨rfl, hpasses⟩) (fun _ => .inr) fun answer => replied_asks ..
  | delete =>
    refine .ite (fun _ => by simp) fun _ => ?_
    refine .after ((checkName_within ..).mono (fun _ => .inr) fun _ => id) fun _ hfree => ?_
    exact queried_asks (.inl ⟨rfl, hfree rfl⟩) (fun _ => .inr) fun answer => replied_asks ..

theorem execute_asks :
    (execute isBuiltin action args sender).AsksOnly fun request =>
      request = .store (action.query args) ∧ action.Passes isBuiltin args ∨
        request.area = .log := by
  refine (perform_asks ..).tryCatch fun failure => ?_
  cases failure <;> simp [record, Log.Origin.isSandbox]

end CustomAdmin

namespace TrustAdmin

/-- What an action asks of the store for its arguments. -/
def query (action : TrustAdmin) (args : String) : Store.Query :=
  match action with
  | .grant => .trust (Chat.firstWord args)
  | .revoke => .untrust (Chat.firstWord args)

variable (action : TrustAdmin) (args sender : String)

/-- The user that passes is the first word of the arguments, and is a user name. -/
theorem userOf_within :
    (userOf action args sender).Within (fun request => request.area = .log)
      fun outcome => ∀ user, outcome = .ok user →
        user = Chat.firstWord args ∧ Chat.isUserName (Chat.firstWord args) = true := by
  by_cases huser : Chat.isUserName (Chat.firstWord args) <;>
    simp [userOf, record, Log.Origin.isSandbox, huser]

/-- An action asks for its query, and only if the arguments name a user. -/
theorem perform_asks :
    (perform action args sender).AsksOnly fun request =>
      request = .store (action.query args) ∧ Chat.isUserName (Chat.firstWord args) = true ∨
        request.area = .log := by
  refine .after ((userOf_within action args sender).mono (fun _ => .inr) fun _ => id)
    fun user h => ?_
  obtain ⟨rfl, huser⟩ := h user rfl
  cases action with
  | grant =>
    refine .bind (.request (.inl ⟨rfl, huser⟩)) fun answer => .bind (by simp) fun _ => ?_
    exact .bind (.note (.inr rfl)) fun _ => by simp
  | revoke =>
    refine .bind (.request (.inl ⟨rfl, huser⟩)) fun answer => .bind (by simp) fun _ => ?_
    exact .bind (.note (.inr rfl)) fun _ => by simp

theorem execute_asks :
    (execute action args sender).AsksOnly fun request =>
      request = .store (action.query args) ∧ Chat.isUserName (Chat.firstWord args) = true ∨
        request.area = .log := by
  refine (perform_asks ..).tryCatch fun failure => ?_
  cases failure <;> simp [record, Log.Origin.isSandbox]

end TrustAdmin

/-! ## All commands -/

namespace Builtin

/-- What a command may ask for when it is called with arguments. -/
def Reaches (command : Builtin) (args : String) (request : Request) : Prop :=
  match command with
  | .ping => False
  | .commands => request = .store .listNames ∨ request.area = .log
  | .weather => Lookup.Outside request
  | .card => Lookup.Outside request
  | .odds => request.area = .log
  | .dataLine => request.area = .data ∨ request.area = .log
  | .node => Sandbox.Inside request
  | .custom action => request = .store (action.query args) ∨ request.area = .log
  | .trust action => request = .store (action.query args) ∨ request.area = .log

/-- Whoever calls it, a command asks for no more than what it reaches. -/
theorem execute_asks (tools : Tools) (registry : Registry Builtin) (command : Builtin)
    (args sender : String) :
    (execute tools registry command args sender).AsksOnly (command.Reaches args) := by
  cases command with
  | ping => simp [execute]
  | commands => exact Listing.execute_asks _
  | weather => exact Lookup.Weather.execute_asks ..
  | card => exact Lookup.Card.execute_asks ..
  | odds => exact OddsQuery.execute_asks ..
  | dataLine => exact DataLine.execute_asks ..
  | node => exact Sandbox.execute_asks ..
  | custom action => exact (CustomAdmin.execute_asks ..).widen fun _ => .imp_left And.left
  | trust action => exact (TrustAdmin.execute_asks ..).widen fun _ => .imp_left And.left

namespace Reaches

variable {command : Builtin} {args : String} {request : Request}

/-- What commands reach of the store: the names of the custom commands, and what the actions on
    custom commands and on trust are there for. -/
theorem store_cases (h : command.Reaches args request) :
    request.area ≠ .store ∨ (command = .commands ∧ request = .store .listNames) ∨
      (∃ action, command = .custom action ∧ request = .store (action.query args)) ∨
      ∃ action, command = .trust action ∧ request = .store (action.query args) := by
  cases command with
  | ping => exact h.elim
  | commands => exact h.elim (fun h => .inr (.inl ⟨rfl, h⟩)) fun h => .inl (by simp [h])
  | custom action =>
    exact h.elim (fun h => .inr (.inr (.inl ⟨action, rfl, h⟩))) fun h => .inl (by simp [h])
  | trust action =>
    exact h.elim (fun h => .inr (.inr (.inr ⟨action, rfl, h⟩))) fun h => .inl (by simp [h])
  | odds => exact .inl (by rw [show request.area = .log from h]; decide)
  | node => exact .inl (by rw [show request.area = .sandbox from h]; decide)
  | _ => exact .inl (by rcases h with h | h <;> simp [h])

/-- Only commands that need trust reach what is privileged. -/
theorem requiresTrust (h : command.Reaches args request) (hp : request.IsPrivileged) :
    IsCommand.requiresTrust command = true := by
  have harea := hp.area_eq
  cases command with
  | node => rfl
  | custom action => rfl
  | trust action => rfl
  | ping => exact h.elim
  | commands =>
    rcases h with rfl | h
    · simp [Request.IsPrivileged, Request.isWrite, Store.Query.isWrite] at hp
    · simp [h] at harea
  | odds =>
    have h : request.area = .log := h
    simp [h] at harea
  | _ => rcases h with h | h <;> simp [h] at harea

theorem not_lookup (h : command.Reaches args request) : ¬request.IsLookup := by
  rintro ⟨user, rfl⟩
  rcases command with _ | _ | _ | _ | _ | _ | _ | ⟨⟨⟩⟩ | ⟨⟨⟩⟩ <;>
    simp [Reaches, Lookup.Outside, Sandbox.Inside, CustomAdmin.query, TrustAdmin.query] at h

/-- Trust in a user is granted by nothing but the call of the command for it with the user as the
    first word. -/
theorem eq_grant {user : String} (h : command.Reaches args (.store (.trust user))) :
    command = .trust .grant ∧ user = Chat.firstWord args := by
  rcases command with _ | _ | _ | _ | _ | _ | _ | ⟨⟨⟩⟩ | ⟨⟨⟩⟩ <;>
    simp [Reaches, Lookup.Outside, Sandbox.Inside, CustomAdmin.query, TrustAdmin.query] at h ⊢
  exact h

end Reaches

end Builtin

end ChatWarden
