import ChatWarden.Proofs.Bot.Replies
import ChatWarden.Proofs.Store.Effects

/-!
# Actions on the tables

The five commands that change a table go the same way: they check their arguments, make one query,
and turn its answer into a reply. If a check fails, the sender is told so instead; if the store
fails, nothing is told.

Results:
* `Course.of_execute`: whatever checks, queries and replies like this has one of three courses.
* `CustomAdmin.execute_course` and `TrustAdmin.execute_course`: the courses of the actions.
* `Admin.execute_course`: the courses of all five commands, as one statement.
-/

namespace ChatWarden

open Store (Query)

/-- Nothing but records was written on the path. -/
abbrev Exchange.OnlyLog (path : List Exchange) : Prop :=
  ∀ exchange ∈ path, exchange.request.area = .log

open Exchange (OnlyLog)

/-- The job writes records only, and ends in this way. -/
abbrev Job.Settles {α : Type} (job : Job α) (outcome : Except Failure α) : Prop :=
  job.Within (fun request => request.area = .log) (· = outcome)

variable {path : List Exchange} {outcome : Except Failure Reply}

/-! ## Courses -/

/-- The course of an action: its arguments are refused, or its query is made, which fails or gets a
    result that is replied to. There is nothing but records around the query. -/
inductive Course (objection? : Option Failure) (query : Query) (replyTo : Bool → String) :
    List Exchange → Except Failure Reply → Prop
  | refused {failure : Failure} {path : List Exchange} :
      objection? = some failure → OnlyLog path →
      Course objection? query replyTo path (.ok (.text failure.reply))
  | failed {failure : Store.Failure} {front back : List Exchange} :
      objection? = none → OnlyLog front → OnlyLog back →
      Course objection? query replyTo (front ++ ⟨.store query, .error failure⟩ :: back)
        (.ok (.text ""))
  | answered {result : query.Result} {front back : List Exchange} :
      objection? = none → OnlyLog front → OnlyLog back →
      Course objection? query replyTo (front ++ ⟨.store query, .ok result⟩ :: back)
        (.ok (.text (replyTo (query.did result))))

/-- The outcome of checks, which fail if there is an objection. -/
def checked {α : Type} (objection? : Option Failure) (value : α) : Except Failure α :=
  objection?.elim (.ok value) .error

/-- Whether an action tells its sender of a failure. -/
def Failure.isTold : Failure → Bool
  | .usage _ => true
  | .invalidName _ => true
  | .store _ => true
  | _ => false

section Courses

variable {α : Type} {checks : Job α} {value : α} {next : α → Job Reply}
  {handler : Failure → Job Reply} {objection? : Option Failure} {query : Query}
  {tell : Except Store.Failure query.Result → Job Reply} {replyTo : Bool → String}

/-- Checks fail with their objection, and else a query is made. -/
theorem checked_ends (hchecks : checks.Settles (checked objection? value))
    (hnext : next value = Job.request (.store query) >>= tell)
    (h : (checks >>= next).Ends path outcome) :
    (∃ failure, objection? = some failure ∧ OnlyLog path ∧ outcome = .error failure) ∨
      (objection? = none ∧ ∃ front answer back, path = front ++ ⟨.store query, answer⟩ :: back ∧
        OnlyLog front ∧ (tell answer).Ends back outcome) := by
  rcases Job.ends_bind.mp h with ⟨front, back, found, rfl, hfront, hback⟩ | ⟨failure, hfailed, rfl⟩
  · obtain ⟨hlog, hfound⟩ := hfront.within hchecks
    cases objection? with
    | none =>
      obtain rfl := Except.ok.inj hfound
      rw [hnext] at hback
      obtain ⟨answer, rest, rfl, hrest⟩ := Job.ends_request_bind.mp hback
      exact .inr ⟨rfl, front, answer, rest, rfl, hlog, hrest⟩
    | some failure => cases hfound
  · obtain ⟨hlog, hfound⟩ := hfailed.within hchecks
    cases objection? with
    | none => cases hfound
    | some objection =>
      obtain rfl := Except.error.inj hfound
      exact .inl ⟨failure, rfl, hlog, rfl⟩

/-- What checks, then makes a query, then turns its answer into a reply, and tells of the failures
    on the way, has a course. -/
theorem Course.of_execute (hchecks : checks.Settles (checked objection? value))
    (hnext : next value = Job.request (.store query) >>= tell)
    (hok : ∀ result, (tell (.ok result)).Settles (.ok (.text (replyTo (query.did result)))))
    (herror : ∀ failure, (tell (.error failure)).Settles (.error (.store failure)))
    (hhandler : ∀ failure, failure.isTold = true →
      (handler failure).Settles (.ok (.text failure.reply)))
    (hobjection : ∀ failure, objection? = some failure → failure.isTold = true)
    (h : (tryCatch (checks >>= next) handler).Ends path outcome) :
    Course objection? query replyTo path outcome := by
  rcases Job.ends_tryCatch.mp h with
    ⟨reply, hreply, rfl⟩ | ⟨front, back, failure, rfl, hfailed, hback⟩
  · rcases checked_ends hchecks hnext hreply with
      ⟨failure, -, -, hfirst⟩ | ⟨hnone, front, answer, rest, rfl, hlog, hrest⟩
    · cases hfirst
    · cases answer with
      | ok result =>
        obtain ⟨hrestlog, hfirst⟩ := hrest.within (hok result)
        rw [hfirst]
        exact .answered hnone hlog hrestlog
      | error failure =>
        obtain ⟨-, hfirst⟩ := hrest.within (herror failure)
        cases hfirst
  · rcases checked_ends hchecks hnext hfailed with
      ⟨objection, hsome, hlog, hfirst⟩ | ⟨hnone, first, answer, rest, rfl, hlog, hrest⟩
    · obtain rfl := Except.error.inj hfirst
      obtain ⟨hbacklog, rfl⟩ := hback.within (hhandler failure (hobjection failure hsome))
      exact .refused hsome (List.forall_mem_append.mpr ⟨hlog, hbacklog⟩)
    · cases answer with
      | ok result =>
        obtain ⟨-, hfirst⟩ := hrest.within (hok result)
        cases hfirst
      | error trouble =>
        obtain ⟨hrestlog, hfirst⟩ := hrest.within (herror trouble)
        obtain rfl := Except.error.inj hfirst
        obtain ⟨hbacklog, rfl⟩ := hback.within (hhandler _ rfl)
        rw [List.append_assoc, List.cons_append]
        exact .failed hnone hlog (List.forall_mem_append.mpr ⟨hrestlog, hbacklog⟩)

end Courses

/-- Why arguments are refused, if they are: too little stands in them, or the name is wrong. -/
def objectionTo (missing : Bool) (form : Usage) (problem? : Option NameProblem) : Option Failure :=
  if missing then some (.usage form) else problem?.map .invalidName

theorem isTold_of_objection {missing : Bool} {form : Usage} {problem? : Option NameProblem}
    {failure : Failure} (h : objectionTo missing form problem? = some failure) :
    failure.isTold = true := by
  unfold objectionTo at h
  split at h
  · obtain rfl := Option.some.inj h
    rfl
  · obtain ⟨_, -, rfl⟩ := Option.map_eq_some_iff.mp h
    rfl

/-! ## Custom commands -/

namespace CustomAdmin

variable (isBuiltin : String → Bool) (action : CustomAdmin) (args sender : String)

/-- What is wrong with the name of a custom command, if something is. -/
def problem? (name : String) : Option NameProblem :=
  if !Chat.isCommandName name then some .notACommandName
  else if isBuiltin name then some (.builtin action.verb)
  else none

/-- Why an action refuses its arguments, if it does. -/
def objection? : Option Failure :=
  match action with
  | .create | .update =>
    objectionTo (!Chat.hasWords args 2) (.nameAndResponse sender action.commandName)
      (problem? isBuiltin action (Chat.nameAndText args).1)
  | .delete =>
    objectionTo (!Chat.hasWords args 1) (.name sender)
      (problem? isBuiltin action (Chat.firstWord args))

/-- What is told if there was nothing to do. -/
def refusedText : CustomAdmin → String
  | .create => "Command already exists."
  | .update => "Command not found."
  | .delete => "Command not found."

/-- What is replied when the store did what it was asked for, or found that it cannot. -/
def replyTo (done : Bool) : String := if done then action.doneText else action.refusedText

theorem checkName_settles (name : String) :
    (checkName isBuiltin action name sender).Settles
      (checked ((problem? isBuiltin action name).map .invalidName) ()) := by
  by_cases hname : Chat.isCommandName name <;> by_cases hbuiltin : isBuiltin name <;>
    simp [checkName, record, Log.Origin.isSandbox, problem?, checked, hname, hbuiltin]

theorem nameAndResponse_settles :
    (nameAndResponse isBuiltin action args sender).Settles
      (checked (objectionTo (!Chat.hasWords args 2)
        (.nameAndResponse sender action.commandName)
        (problem? isBuiltin action (Chat.nameAndText args).1)) (Chat.nameAndText args)) := by
  cases hwords : Chat.hasWords args 2 with
  | false => simp [nameAndResponse, hwords, objectionTo, checked]
  | true =>
    simp only [nameAndResponse, hwords, Bool.not_true, Bool.false_eq_true, if_false,
      Job.within_bind, objectionTo]
    refine (checkName_settles isBuiltin action sender _).mono (fun _ => id) ?_
    rintro first rfl
    cases problem? isBuiltin action (Chat.nameAndText args).1 with
    | none => simp [checked]
    | some problem => simp [checked]

theorem replied_settles (done : Bool) (deed name : String) :
    (replied sender (.ok done) deed name action.doneText action.refusedText).Settles
      (.ok (.text (action.replyTo done))) := by
  cases done <;>
    simp [Except.mapError, Except.map, noteDone, record, Log.Origin.isSandbox, replyTo]

theorem replied_error_settles (failure : Store.Failure) (deed name yes no : String) :
    (replied sender (.error failure) deed name yes no).Settles (.error (.store failure)) := by
  simp [Except.mapError]

/-- The failures that an action expects become replies. -/
theorem execute_handles :
    ∃ handler, execute isBuiltin action args sender =
        tryCatch (perform isBuiltin action args sender) handler ∧
      ∀ failure, failure.isTold = true → (handler failure).Settles (.ok (.text failure.reply)) := by
  refine ⟨_, rfl, fun failure htold => ?_⟩
  cases failure with
  | usage form => simp [record, Log.Origin.isSandbox, Failure.reply, Except.map]
  | invalidName problem => simp [Failure.reply]
  | store trouble => simp [record, Log.Origin.isSandbox, Failure.reply, Except.map]
  | _ => cases htold

/-- The name of a command to delete is checked behind its presence. -/
theorem nameToDelete_settles :
    (if !Chat.hasWords args 1 then throw (.usage (.name sender))
      else checkName isBuiltin .delete (Chat.firstWord args) sender : Job Unit).Settles
        (checked (objection? isBuiltin .delete args sender) ()) := by
  simp only [objection?, objectionTo]
  cases Chat.hasWords args 1 with
  | false => simp [checked]
  | true => exact checkName_settles isBuiltin .delete sender _

/-- Every action on a custom command has a course. -/
theorem execute_course (h : (execute isBuiltin action args sender).Ends path outcome) :
    Course (objection? isBuiltin action args sender) (action.query args) action.replyTo path
      outcome := by
  obtain ⟨handler, hexecute, hhandler⟩ := execute_handles isBuiltin action args sender
  rw [hexecute] at h
  cases action with
  | create =>
    exact .of_execute (nameAndResponse_settles isBuiltin .create args sender) rfl
      (fun done => replied_settles .create sender done ..)
      (fun failure => replied_error_settles sender failure ..) hhandler
      (fun _ => isTold_of_objection) h
  | update =>
    exact .of_execute (nameAndResponse_settles isBuiltin .update args sender) rfl
      (fun done => replied_settles .update sender done ..)
      (fun failure => replied_error_settles sender failure ..) hhandler
      (fun _ => isTold_of_objection) h
  | delete =>
    have hperform : perform isBuiltin .delete args sender =
        ((if !Chat.hasWords args 1 then throw (.usage (.name sender))
          else checkName isBuiltin .delete (Chat.firstWord args) sender : Job Unit) >>= fun _ =>
            Job.request (.store (.deleteCommand (Chat.firstWord args))) >>= fun answer =>
              replied sender answer "deleted" (Chat.firstWord args) "Command deleted!"
                "Command not found.") := by
      simp only [perform]
      cases Chat.hasWords args 1 <;> rfl
    rw [hperform] at h
    exact .of_execute (nameToDelete_settles isBuiltin args sender) rfl
      (fun done => replied_settles .delete sender done ..)
      (fun failure => replied_error_settles sender failure ..) hhandler
      (fun _ => isTold_of_objection) h

end CustomAdmin

/-! ## Trust -/

namespace TrustAdmin

variable (action : TrustAdmin) (args sender : String)

/-- Why an action refuses its arguments, if it does. -/
def objection? : Option Failure :=
  objectionTo (!Chat.hasWords args 1) (.user sender action.commandName)
    (if !Chat.isUserName (Chat.firstWord args) then some .notAUserName else none)

/-- What tells that an action was done. -/
def doneText : String := Chat.firstWord args ++ " has been " ++ action.commandName ++ "ed."

theorem userOf_settles :
    (userOf action args sender).Settles (checked (objection? action args sender)
      (Chat.firstWord args)) := by
  cases hwords : Chat.hasWords args 1 <;> cases huser : Chat.isUserName (Chat.firstWord args) <;>
    simp [userOf, record, Log.Origin.isSandbox, objection?, objectionTo, checked, hwords, huser]

theorem execute_handles :
    ∃ handler, execute action args sender = tryCatch (perform action args sender) handler ∧
      ∀ failure, failure.isTold = true → (handler failure).Settles (.ok (.text failure.reply)) := by
  refine ⟨_, rfl, fun failure htold => ?_⟩
  cases failure with
  | usage form => simp [Failure.reply]
  | invalidName problem => simp [Failure.reply]
  | store trouble => simp [record, Log.Origin.isSandbox, Failure.reply, Except.map]
  | _ => cases htold

/-- What follows the answer of the store: the reply, or its failure. -/
abbrev affirmed (answer : Except Store.Failure Unit) : Job Reply := do
  Job.ofStore answer
  Job.note (record .info
    (sender ++ " " ++ action.commandName ++ "ed user: " ++ Chat.firstWord args))
  return .text (action.doneText args)

theorem affirmed_settles :
    (affirmed action args sender (.ok ())).Settles (.ok (.text (action.doneText args))) := by
  simp [Except.mapError, Except.map, record, Log.Origin.isSandbox]

theorem affirmed_error_settles (failure : Store.Failure) :
    (affirmed action args sender (.error failure)).Settles (.error (.store failure)) := by
  simp [Except.mapError]

/-- Every change of trust has a course. Once it is asked for, the store does it or fails. -/
theorem execute_course (h : (execute action args sender).Ends path outcome) :
    Course (objection? action args sender) (action.query args) (fun _ => action.doneText args) path
      outcome := by
  obtain ⟨handler, hexecute, hhandler⟩ := execute_handles action args sender
  rw [hexecute] at h
  cases action with
  | grant =>
    exact .of_execute (userOf_settles .grant args sender) rfl
      (fun _ => affirmed_settles .grant args sender)
      (fun failure => affirmed_error_settles .grant args sender failure) hhandler
      (fun _ => isTold_of_objection) h
  | revoke =>
    exact .of_execute (userOf_settles .revoke args sender) rfl
      (fun _ => affirmed_settles .revoke args sender)
      (fun failure => affirmed_error_settles .revoke args sender failure) hhandler
      (fun _ => isTold_of_objection) h

end TrustAdmin

/-! ## All five -/

/-- A command that changes a table. -/
inductive Admin where
  | custom (action : CustomAdmin)
  | trust (action : TrustAdmin)
  deriving DecidableEq, Repr

namespace Admin

/-- The command as one of the built-in ones. -/
def builtin : Admin → Builtin
  | .custom action => .custom action
  | .trust action => .trust action

/-- Why a command refuses its arguments, if it does. -/
def objection? (isBuiltin : String → Bool) (admin : Admin) (args sender : String) :
    Option Failure :=
  match admin with
  | .custom action => action.objection? isBuiltin args sender
  | .trust action => action.objection? args sender

/-- What a command asks of the store. -/
def query (admin : Admin) (args : String) : Query :=
  match admin with
  | .custom action => action.query args
  | .trust action => action.query args

/-- What is replied when the store did what it was asked for, or found that it cannot. The store
    can always change trust. -/
def replyTo (admin : Admin) (args : String) (done : Bool) : String :=
  match admin with
  | .custom action => action.replyTo done
  | .trust action => action.doneText args

theorem builtin_injective : Function.Injective builtin := by
  intro admin other h
  cases admin <;> cases other <;> cases h <;> rfl

theorem requiresTrust (admin : Admin) : IsCommand.requiresTrust admin.builtin = true := by
  cases admin <;> rfl

theorem execute_course {tools : Builtin.Tools} {registry : Registry Builtin} {admin : Admin}
    {args sender : String}
    (h : (Builtin.execute tools registry admin.builtin args sender).Ends path outcome) :
    Course (admin.objection? registry.contains args sender) (admin.query args)
      (admin.replyTo args) path outcome := by
  cases admin with
  | custom action => exact action.execute_course registry.contains args sender h
  | trust action => exact action.execute_course args sender h

end Admin

end ChatWarden
