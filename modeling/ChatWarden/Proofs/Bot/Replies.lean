import ChatWarden.Proofs.Bot.Traffic

/-!
# What replies tell

Whoever creates, changes or deletes a command is told so if and only if the store did it. Other
lines may get the same text as a reply, since it may be the response of a custom command; they do
not count.

Results:
* `CustomAdmin.execute_deeds`: the reply to an action tells whether the store did it.
* `Setup.handle_ends`: the way of a line goes to its reply, and on from there.
* `Setup.handle_deeds`: what the store did for a line is what its reply tells.
-/

namespace ChatWarden

/-! ## Deeds of the store -/

/-- An action that the store did, on the command of a name. -/
abbrev Deed := CustomAdmin × String

namespace Exchange

/-- What the store did in an exchange, if it did something to a command. -/
def deed? : Exchange → Option Deed
  | ⟨.store (.createCommand name _), .ok true⟩ => some (.create, name)
  | ⟨.store (.updateCommand name _), .ok true⟩ => some (.update, name)
  | ⟨.store (.deleteCommand name), .ok true⟩ => some (.delete, name)
  | _ => none

/-- What the store did on a path, in order. -/
def deeds (path : List Exchange) : List Deed := path.filterMap deed?

variable {exchange : Exchange} {path front back : List Exchange}

theorem deed?_of_read (h : exchange.request.isWrite = false) : exchange.deed? = none := by
  unfold deed?
  split <;> first | rfl | cases h

theorem deeds_append : deeds (front ++ back) = deeds front ++ deeds back := List.filterMap_append

theorem deeds_cons : deeds (exchange :: path) = exchange.deed?.toList ++ deeds path := by
  cases h : exchange.deed? <;> simp [deeds, h]

/-- The store did nothing for a job that only reads. -/
theorem deeds_of_asks {α : Type} {job : Job α} {asks : Request → Prop}
    {outcome : Except Failure α} (h : job.Ends path outcome) (hjob : job.AsksOnly asks)
    (hasks : ∀ request, asks request → request.isWrite = false) : deeds path = [] :=
  List.filterMap_eq_nil_iff.mpr fun exchange he =>
    deed?_of_read (hasks _ ((h.within hjob).1 exchange he))

end Exchange

theorem Request.isWrite_of_area {request : Request} (h : request.area ≠ .store) :
    request.isWrite = false := by
  cases request with
  | store query => exact absurd rfl h
  | _ => rfl

/-- The store did nothing for a job that only writes records. -/
theorem Exchange.deeds_of_log {α : Type} {job : Job α} {path : List Exchange}
    {outcome : Except Failure α} (h : job.Ends path outcome)
    (hjob : job.AsksOnly fun request => request.area = .log) : Exchange.deeds path = [] :=
  deeds_of_asks h hjob fun request hr => Request.isWrite_of_area (by simp [hr])

/-! ## Replies to actions -/

open Exchange (deed? deed?_of_read deeds deeds_append deeds_cons deeds_of_asks deeds_of_log)

namespace CustomAdmin

/-- The name of the command that an action is about. -/
def target (action : CustomAdmin) (args : String) : String :=
  match action with
  | .create | .update => (Chat.nameAndText args).1
  | .delete => Chat.firstWord args

/-- The reply that tells that an action was done. -/
def doneText : CustomAdmin → String
  | .create => "Command created!"
  | .update => "Command updated!"
  | .delete => "Command deleted!"

/-- Whether a reply tells that an action was done. -/
def isTold (action : CustomAdmin) : Except Failure Reply → Bool
  | .ok (.text text) => text == action.doneText
  | _ => false

/-- What an outcome tells about an action on the command of a name. -/
def told? (action : CustomAdmin) (name : String) (outcome : Except Failure Reply) : Option Deed :=
  if action.isTold outcome then some (action, name) else none

variable (isBuiltin : String → Bool) (action : CustomAdmin) {args sender : String}
  {path : List Exchange} {outcome : Except Failure Reply}

@[simp] theorem told?_error (name : String) (failure : Failure) :
    action.told? name (.error failure) = none := rfl

/-- Whether the store answers that it did something. -/
def isDone : Except Store.Failure Bool → Bool
  | .ok done => done
  | .error _ => false

/-- The reply tells what the store answered. -/
theorem replied_within (answer : Except Store.Failure Bool) {done name no : String}
    (hno : no ≠ action.doneText) :
    (replied sender answer done name action.doneText no).Within (fun request => request.area = .log)
      fun outcome => action.isTold outcome = isDone answer := by
  rcases answer with failure | _ | _ <;>
    simp [Except.mapError, Except.map, noteDone, record, Log.Origin.isSandbox, isTold, isDone, hno]

/-- Along the end of an action, from its query on, the store did what the reply tells. -/
theorem queried_deeds {query : Store.Query} {answer : Except Store.Failure query.Result}
    {told : Except Store.Failure Bool} {name done no : String} {rest : List Exchange}
    (h : (replied sender told done name action.doneText no).Ends rest outcome)
    (hno : no ≠ action.doneText)
    (hdeed : deed? ⟨.store query, answer⟩ = if isDone told then some (action, name) else none) :
    deeds (⟨.store query, answer⟩ :: rest) = (action.told? name outcome).toList := by
  have htold := (h.within (replied_within action told hno)).2
  have hrest : deeds rest = [] := deeds_of_log h (replied_asks ..)
  rw [deeds_cons, hrest, List.append_nil, hdeed, told?, htold]

/-- The checks in front of a query do nothing. -/
theorem deeds_of_checked {α : Type} {job : Job α} {next : α → Job Reply} {name : String}
    {ends : Except Failure α → Prop} (hjob : job.Within (fun request => request.area = .log) ends)
    (hnext : ∀ value back, ends (.ok value) → (next value).Ends back outcome →
      deeds back = (action.told? name outcome).toList)
    (h : (job >>= next).Ends path outcome) :
    deeds path = (action.told? name outcome).toList := by
  have hasks : job.AsksOnly fun request => request.area = .log :=
    hjob.mono (fun _ => id) fun _ _ => trivial
  rcases Job.ends_bind.mp h with ⟨front, back, value, rfl, hfront, hback⟩ | ⟨failure, hfailed, rfl⟩
  · rw [deeds_append, deeds_of_log hfront hasks, List.nil_append]
    exact hnext value back (hfront.within hjob).2 hback
  · exact deeds_of_log hfailed hasks

/-- What the store did for an action is what its outcome tells. -/
theorem perform_deeds (h : (perform isBuiltin action args sender).Ends path outcome) :
    deeds path = (action.told? (action.target args) outcome).toList := by
  cases action with
  | create =>
    refine deeds_of_checked .create (nameAndResponse_within ..) (fun pair back hpair hback => ?_) h
    obtain ⟨rfl, -⟩ := hpair pair rfl
    obtain ⟨answer, rest, rfl, hrest⟩ := Job.ends_request_bind.mp hback
    refine queried_deeds .create hrest (by decide) ?_
    rcases answer with failure | _ | _ <;> rfl
  | update =>
    refine deeds_of_checked .update (nameAndResponse_within ..) (fun pair back hpair hback => ?_) h
    obtain ⟨rfl, -⟩ := hpair pair rfl
    obtain ⟨answer, rest, rfl, hrest⟩ := Job.ends_request_bind.mp hback
    refine queried_deeds .update hrest (by decide) ?_
    rcases answer with failure | _ | _ <;> rfl
  | delete =>
    rcases Job.ends_ite.mp h with ⟨-, hthrow⟩ | ⟨-, hnamed⟩
    · obtain ⟨rfl, rfl⟩ := Job.ends_throw.mp hthrow
      rfl
    refine deeds_of_checked .delete (checkName_within ..) (fun _ back _ hback => ?_) hnamed
    obtain ⟨answer, rest, rfl, hrest⟩ := Job.ends_request_bind.mp hback
    refine queried_deeds .delete hrest (by decide) ?_
    rcases answer with failure | _ | _ <;> rfl

/-- No text that begins differently tells that an action was done. -/
theorem ne_doneText {text : String} (h : text.toList.head? ≠ some 'C') :
    text ≠ action.doneText := by
  rintro rfl
  exact h (by cases action <;> rfl)

theorem usage_ne_doneText (form : Usage) : form.text ≠ action.doneText :=
  action.ne_doneText (by cases form <;> simp [Usage.text])

theorem problem_ne_doneText (problem : NameProblem) : problem.text ≠ action.doneText := by
  cases problem with
  | notACommandName => cases action <;> decide
  | builtin verb =>
    have hfirst : "The command you are trying to ".toList.head? = some 'T' := by decide
    have htext : (NameProblem.builtin verb).text = "The command you are trying to " ++ verb ++
        " already exists as a built-in command." := rfl
    refine action.ne_doneText ?_
    rw [htext, String.toList_append, String.toList_append, List.head?_append, List.head?_append,
      hfirst]
    simp
  | notAUserName => exact action.ne_doneText (by decide)

/-- What the store did for an action is what its reply tells. -/
theorem execute_deeds (h : (execute isBuiltin action args sender).Ends path outcome) :
    deeds path = (action.told? (action.target args) outcome).toList := by
  rcases Job.ends_tryCatch.mp h with
    ⟨reply, hreply, rfl⟩ | ⟨front, back, failure, rfl, hfailed, hback⟩
  · exact perform_deeds isBuiltin action hreply
  · rw [deeds_append, perform_deeds isBuiltin action hfailed, told?_error]
    -- what is replied to a failure tells of nothing
    have hbare (record : Log.Record) : deed? ⟨.note record, ()⟩ = none := rfl
    cases failure with
    | usage form =>
      obtain ⟨rest, rfl, hrest⟩ := Job.ends_note_bind.mp hback
      obtain ⟨rfl, rfl⟩ := Job.ends_pure.mp hrest
      simp [deeds, hbare, told?, isTold, action.usage_ne_doneText]
    | invalidName problem =>
      obtain ⟨rfl, rfl⟩ := Job.ends_pure.mp hback
      simp [deeds, told?, isTold, action.problem_ne_doneText]
    | store trouble =>
      obtain ⟨rest, rfl, hrest⟩ := Job.ends_note_bind.mp hback
      obtain ⟨rfl, rfl⟩ := Job.ends_pure.mp hrest
      have hempty : "" ≠ action.doneText := action.ne_doneText (by decide)
      simp [deeds, hbare, told?, isTold, Failure.reply, hempty]
    | _ =>
      obtain ⟨rfl, rfl⟩ := Job.ends_throw.mp hback
      rfl

end CustomAdmin

/-! ## Replies to lines -/

namespace Builtin

/-- What an outcome of a command tells about the custom command that it is about. -/
def told? (command : Builtin) (args : String) (outcome : Except Failure Reply) : Option Deed :=
  match command with
  | .custom action => action.told? (action.target args) outcome
  | _ => none

variable {tools : Tools} {registry : Registry Builtin} {command : Builtin} {args sender : String}
  {path : List Exchange} {outcome : Except Failure Reply}

/-- Other commands than actions on custom commands do nothing to these. -/
theorem Reaches.deed?_eq_none {exchange : Exchange} (h : command.Reaches args exchange.request)
    (hcommand : ∀ action, command ≠ .custom action) : exchange.deed? = none := by
  obtain ⟨request, answer⟩ := exchange
  rcases h.store_cases with harea | ⟨-, rfl⟩ | ⟨action, hcustom, -⟩ | ⟨action, -, rfl⟩
  · exact deed?_of_read (Request.isWrite_of_area harea)
  · rfl
  · exact absurd hcustom (hcommand action)
  · cases action <;> rfl

theorem execute_deeds (h : (execute tools registry command args sender).Ends path outcome) :
    deeds path = (command.told? args outcome).toList := by
  by_cases hcommand : ∃ action, command = .custom action
  · obtain ⟨action, rfl⟩ := hcommand
    exact CustomAdmin.execute_deeds _ action h
  · rw [not_exists] at hcommand
    have htold : command.told? args outcome = none := by
      cases command with
      | custom action => exact absurd rfl (hcommand action)
      | _ => rfl
    rw [htold]
    exact List.filterMap_eq_nil_iff.mpr fun exchange he =>
      Reaches.deed?_eq_none ((h.within (execute_asks ..)).1 exchange he) hcommand

/-- The denial tells of nothing. -/
theorem told?_denial : command.told? args (.ok (Failure.denial sender)) = none := by
  cases command with
  | custom action =>
    have hne : Failure.denial sender ≠ action.doneText :=
      action.ne_doneText (by simp [Failure.denial])
    simp [told?, CustomAdmin.told?, CustomAdmin.isTold, hne]
  | _ => rfl

theorem invoke_deeds
    (h : (Gate.invoke (execute tools registry command) command args sender).Ends path outcome) :
    deeds path = (command.told? args outcome).toList := by
  have hgate : (liftM (Gate.isAllowed command sender) : Job Bool).AsksOnly fun request =>
      request.isWrite = false :=
    Gate.isAllowed_asks command rfl fun request hr => Request.isWrite_of_area (by simp [hr])
  rcases Job.ends_bind.mp h with
    ⟨front, back, allowed, rfl, hfront, hback⟩ | ⟨failure, hfailed, rfl⟩
  · rw [deeds_append, deeds_of_asks hfront hgate fun _ => id, List.nil_append]
    rcases Job.ends_ite.mp hback with ⟨-, hrun⟩ | ⟨-, hdenied⟩
    · exact execute_deeds hrun
    · obtain ⟨rfl, rfl⟩ := Job.ends_pure.mp hdenied
      rw [told?_denial]
      rfl
  · rw [deeds_of_asks hfailed hgate fun _ => id]
    cases command <;> rfl

end Builtin

namespace Setup

variable (setup : Setup) (text sender : String)

/-- The reply to a line whose handler went along a path. -/
def reply? (path : List Exchange) : Option Reply :=
  ((setup.dispatcher.resolve text sender).attempt.follow? path).bind Except.toOption

/-- What the reply to a line tells about the custom command that the line is about. -/
def told? (path : List Exchange) : Option Deed :=
  (setup.called? text).bind fun (command, args) =>
    (setup.reply? text sender path).bind fun reply => command.told? args (.ok reply)

variable {setup text sender} {path : List Exchange}

theorem resolve_deeds {outcome : Except Failure Reply}
    (h : (setup.dispatcher.resolve text sender).Ends path outcome) :
    deeds path =
      ((setup.called? text).bind fun (command, args) => command.told? args outcome).toList := by
  revert h
  refine setup.resolve_cases text sender
    (motive := fun called job => job.Ends path outcome → deeds path =
      (called.bind fun (command, args) => command.told? args outcome).toList)
    (fun h => deeds_of_log h (resolveSubject_asks ..))
    (fun name h => deeds_of_asks h (resolveCustom_asks ..) ?_) fun command call h => ?_
  · rintro request (rfl | hr)
    · rfl
    · exact Request.isWrite_of_area (by simp [hr])
  · rcases Job.ends_bind.mp h with
      ⟨front, back, reply, rfl, hfront, hback⟩ | ⟨failure, hfailed, rfl⟩
    · obtain ⟨rest, rfl, hrest⟩ := Job.ends_note_bind.mp hback
      obtain ⟨rfl, rfl⟩ := Job.ends_pure.mp hrest
      rw [deeds_append, Builtin.invoke_deeds hfront]
      exact List.append_nil _
    · exact Builtin.invoke_deeds hfailed

/-- The way of a line goes to its reply, and on from there; or it ends with a failure instead. -/
theorem handle_ends {outcome : Except Failure Unit}
    (h : (setup.handle text sender).Ends path outcome) :
    (∃ front back reply, path = front ++ back ∧
      (setup.dispatcher.resolve text sender).Ends front (.ok reply) ∧
      (setup.finish reply).Ends back outcome ∧ setup.reply? text sender path = some reply) ∨
    ∃ failure, (setup.dispatcher.resolve text sender).Ends path (.error failure) ∧
      setup.reply? text sender path = none := by
  rw [handle_eq] at h
  rcases Job.ends_bind.mp h with ⟨front, back, reply, rfl, hfront, hback⟩ | ⟨failure, hfailed, -⟩
  · refine .inl ⟨front, back, reply, rfl, hfront, hback, ?_⟩
    rw [reply?, hfront.follow? back]
    rfl
  · have hfound := hfailed.follow? []
    rw [List.append_nil] at hfound
    refine .inr ⟨failure, hfailed, ?_⟩
    rw [reply?, hfound]
    rfl

/-- What the store did for a line is what its reply tells. -/
theorem handle_deeds {outcome : Except Failure Unit}
    (h : (setup.handle text sender).Ends path outcome) :
    deeds path = (setup.told? text sender path).toList := by
  rw [told?]
  rcases handle_ends h with
    ⟨front, back, reply, rfl, hfront, hback, hreply⟩ | ⟨failure, hfailed, hreply⟩
  · have hsaid : deeds back = [] :=
      deeds_of_asks hback (setup.finish_not_store reply) fun _ => Request.isWrite_of_area
    rw [deeds_append, hsaid, List.append_nil, resolve_deeds hfront, hreply]
    rfl
  · rw [resolve_deeds hfailed, hreply]
    cases setup.called? text with
    | none => rfl
    | some called =>
      obtain ⟨command, args⟩ := called
      cases command <;> rfl

end Setup

end ChatWarden
