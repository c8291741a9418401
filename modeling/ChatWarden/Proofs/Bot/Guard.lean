import ChatWarden.Bot.Run
import ChatWarden.Proofs.Command.Reach
import ChatWarden.Proofs.Work.Path

/-!
# The way through the gate

The work on a chat line is one of two kinds. Either it never does anything that is left to trusted
users, or it starts with the look-up of its own sender. If that look-up tells that the sender is
trusted, a command runs; after any other answer nothing is left to do but to say the denial.

Results:
* `Setup.resolve_cases`: the three ways to the reply to a line.
* `Setup.resolve_asks`: what may be asked for on each of them.
* `Setup.handle_guarded`: the work on every line of every sender is of one of the two kinds.
* `Guarded.path_granted`: on a path nothing privileged is done unless the look-up succeeded first.
* `Guarded.path_refused`: what happens on a path whose look-up did not succeed.
-/

namespace ChatWarden

/-! ## The work on a line -/

/-- What the handlers of all chat lines share. -/
structure Setup where
  tools : Builtin.Tools
  registry : Registry Builtin
  mark : String
  channel : String

namespace Setup

/-- What handles chat lines. -/
def dispatcher (setup : Setup) : Dispatcher Builtin :=
  ⟨setup.registry, Builtin.execute setup.tools setup.registry, setup.mark⟩

/-- Handles a line of a sender. -/
def handle (setup : Setup) (text sender : String) : Job Unit :=
  setup.dispatcher.handle (Channel.send setup.channel) text sender

/-- What a run of the bot handles lines with. -/
def ofRun (settings : Config.Settings) (identity : Config.Identity) : Setup where
  tools := Run.toolsOf settings
  registry := Builtin.registry.value
  mark := identity.mark
  channel := identity.channel

/-- The lines of a run of the bot are handled in this way. -/
theorem ofRun_handles (settings : Config.Settings) (identity : Config.Identity)
    (text sender : String) :
    (Run.botOf settings identity Run.registry.value).handler? ⟨text, some sender, false⟩ =
      pure (some ("message-" ++ sender, (ofRun settings identity).handle text sender)) := by
  rfl

end Setup

/-! ## Work behind the gate -/

/-- Requests that everybody may cause. -/
def Request.IsPlain (request : Request) : Prop := ¬request.IsPrivileged ∧ ¬request.IsLookup

theorem Request.IsPlain.of_area {request : Request} (h : request.area ≠ .store)
    (h' : request.area ≠ .sandbox) : request.IsPlain := by
  constructor
  · intro hp
    exact hp.area_eq.elim h h'
  · rintro ⟨user, rfl⟩
    exact h rfl

/-- What it takes to say a reply is nothing special. -/
theorem Request.IsPlain.of_reply {request : Request}
    (h : request.area = .channel ∨ request.area = .log) : request.IsPlain := by
  apply IsPlain.of_area <;> rcases h with h | h <;> simp [h]

/-- The work says the denial for a sender, writes records, and does nothing else. -/
inductive Denies (sender : String) : Work (Except Failure Unit) → Prop
  | note {record : Log.Record} {next : Unit → Work (Except Failure Unit)} :
      record.origin.isSandbox = false → Denies sender (next ()) →
      Denies sender (.ask (.note record) next)
  | say {next : Bool → Work (Except Failure Unit)}
      {sent : Except Fault Unit → Work (Except Failure Unit)} :
      (next false).Within (fun request => request.area = .log) (· = .ok ()) →
      next true = .ask (.send (Chat.fit (Failure.denial sender))) sent →
      (∀ answer, (sent answer).Within (fun request => request.area = .log) (· = .ok ())) →
      Denies sender (.ask .findChannel next)

/-- The work on a line of a sender keeps to the gate. -/
inductive Guarded (sender : String) : Work (Except Failure Unit) → Prop
  /-- Nothing that it does is left to trusted users. -/
  | plain {work : Work (Except Failure Unit)} :
      work.Within Request.IsPlain (fun _ => True) → Guarded sender work
  /-- It looks its sender up first, and then looks nobody up. -/
  | gated {next : Except Store.Failure Bool → Work (Except Failure Unit)} :
      (next (.ok true)).Within (fun request => ¬request.IsLookup) (fun _ => True) →
      (∀ answer, answer ≠ .ok true → Denies sender (next answer)) →
      Guarded sender (.ask (.store (.isTrusted sender)) next)

/-! ## Every line is guarded -/

theorem Channel.send_asks (channel : String) (reply : Reply) :
    (send channel reply).AsksOnly fun request => request.area = .channel ∨ request.area = .log := by
  refine .bind (by simp [Job.request_eq]) fun joined => .ite (fun _ => ?_) fun _ => ?_
  · exact .bind (by simp [Log.Origin.isSandbox]) fun _ => by simp
  · cases reply with
    | text text => exact .bind (by simp [Job.request_eq]) fun answer => by simp
    | other value => simp

theorem Gate.isAllowed_within {κ : Type} [IsCommand κ] (command : κ) (sender : String) :
    (isAllowed command sender).Within
      (fun request => request = .store (.isTrusted sender) ∨ request.area = .log)
      fun _ => True := by
  unfold isAllowed
  split
  · trivial
  · refine ⟨.inl rfl, ?_⟩
    rintro (failure | _ | _)
    · exact ⟨.inr rfl, fun _ => trivial⟩
    · exact ⟨.inr rfl, fun _ => trivial⟩
    · trivial

/-- The gate asks for nothing but the look-up of the sender, and writes records. -/
theorem Gate.isAllowed_asks {κ : Type} [IsCommand κ] {asks : Request → Prop} (command : κ)
    {sender : String} (hlookup : asks (.store (.isTrusted sender)))
    (hlog : ∀ request, request.area = .log → asks request) :
    (liftM (isAllowed command sender) : Job Bool).AsksOnly asks := by
  refine .lift ((isAllowed_within command sender).mono ?_ fun _ => id)
  rintro request (rfl | hr)
  · exact hlookup
  · exact hlog request hr

namespace Setup

variable (setup : Setup) (text sender : String)

/-- Says a reply if there is something to say. -/
def finish (reply : Reply) : Job Unit := do
  if !reply.isEmpty then Dispatcher.say (Channel.send setup.channel) reply

theorem finish_asks (reply : Reply) :
    (setup.finish reply).AsksOnly fun request => request.area = .channel ∨ request.area = .log := by
  refine .ite (fun _ => ?_) fun _ => by simp
  refine .tryCatch (Channel.send_asks ..) fun failure => ?_
  simp [Dispatcher.record, Log.Origin.isSandbox]

/-- To say a reply takes no query. -/
theorem finish_not_store (reply : Reply) :
    (setup.finish reply).AsksOnly fun request => request.area ≠ .store := by
  refine (setup.finish_asks reply).widen fun request hr => ?_
  rcases hr with hr | hr <;> simp [hr]

/-- Handling a line is finding its reply and finishing with it. -/
theorem handle_eq : setup.handle text sender =
    setup.dispatcher.resolve text sender >>= setup.finish := rfl

/-- What is left of the call of a built-in command once there is a reply. -/
def finishCall (call : Chat.Call) (reply : Reply) : Job Unit := do
  Job.note (Dispatcher.callRecord .debug sender call.name ("@" ++ sender ++
    " triggered builtin command `" ++ call.name ++ "` with args `" ++ call.args ++
    "`. Response: " ++ reply.shown))
  setup.finish reply

theorem handle_eq_of_builtin {call : Chat.Call} {command : Builtin}
    (hcall : Chat.Call.ofLine? setup.mark text = some call)
    (hget : setup.registry.get? call.name = some command) :
    setup.handle text sender =
      Gate.invoke (Builtin.execute setup.tools setup.registry command) command call.args sender >>=
        setup.finishCall sender call := by
  simp [handle_eq, Dispatcher.resolve, dispatcher, hcall, Dispatcher.resolveCall, hget]
  rfl

/-- The built-in command that a line calls, with its arguments. -/
def called? : Option (Builtin × String) :=
  (Chat.Call.ofLine? setup.mark text).bind fun call =>
    (setup.registry.get? call.name).map fun command => (command, call.args)

/-- Writes down the call of a built-in command with its reply. -/
def noteCall (call : Chat.Call) (reply : Reply) : Job Reply := do
  Job.note (Dispatcher.callRecord .debug sender call.name ("@" ++ sender ++
    " triggered builtin command `" ++ call.name ++ "` with args `" ++ call.args ++
    "`. Response: " ++ reply.shown))
  return reply

theorem noteCall_asks (call : Chat.Call) (reply : Reply) :
    (noteCall sender call reply).AsksOnly fun request => request.area = .log :=
  .bind (.note rfl) fun _ => by simp

/-- There are three ways to the reply to a line: it is checked for subjects, it calls a custom
    command, or it calls a built-in command. -/
theorem resolve_cases {motive : Option (Builtin × String) → Job Reply → Prop}
    (subject : motive none (Dispatcher.resolveSubject text sender))
    (custom : ∀ name, motive none (Dispatcher.resolveCustom name sender))
    (builtin : ∀ command call, motive (some (command, call.args))
      (Gate.invoke (Builtin.execute setup.tools setup.registry command) command call.args sender >>=
        noteCall sender call)) :
    motive (setup.called? text) (setup.dispatcher.resolve text sender) := by
  rw [called?, Dispatcher.resolve, dispatcher]
  dsimp only
  cases hcall : Chat.Call.ofLine? setup.mark text with
  | none => exact subject
  | some call =>
    cases hget : setup.registry.get? call.name with
    | none =>
      simp only [Dispatcher.resolveCall, Option.bind_some, hget]
      exact custom call.name
    | some command =>
      simp only [Dispatcher.resolveCall, Option.bind_some, hget]
      exact builtin command call

/-! ### Lines without need of trust -/

theorem finishCall_asks (call : Chat.Call) (reply : Reply) :
    (setup.finishCall sender call reply).AsksOnly fun request =>
      request.area = .channel ∨ request.area = .log := by
  refine .bind ?_ fun _ => setup.finish_asks reply
  simp [Dispatcher.callRecord, Log.Origin.isSandbox]

theorem resolveCustom_asks (name : String) :
    (Dispatcher.resolveCustom name sender).AsksOnly fun request =>
      request = .store (.findResponse name) ∨ request.area = .log := by
  refine .bind (by simp [Job.request_eq]) fun answer => ?_
  have hnote (level : Log.Level) (message : String) :
      (Job.note (Dispatcher.callRecord level sender name message)).AsksOnly fun request =>
        request = .store (.findResponse name) ∨ request.area = .log := by
    simp [Dispatcher.callRecord, Log.Origin.isSandbox]
  rcases answer with failure | _ | response <;> exact (hnote _ _).bind fun _ => by simp

theorem resolveSubject_asks :
    (Dispatcher.resolveSubject text sender).AsksOnly fun request => request.area = .log := by
  rw [Dispatcher.resolveSubject]
  split
  · simp
  · exact .bind (by simp [Dispatcher.record, Log.Origin.isSandbox]) fun _ => by simp

/-- To find its reply a line asks for the look-up of its sender and what the command that it calls
    asks for, or for the response of a custom command. -/
theorem resolve_asks {motive : Option (Builtin × String) → Request → Prop}
    (hlog : ∀ called request, request.area = .log → motive called request)
    (hlookup : ∀ called, motive called (.store (.isTrusted sender)))
    (hfind : ∀ name, motive none (.store (.findResponse name)))
    (hexecute : ∀ command args,
      (Builtin.execute setup.tools setup.registry command args sender).AsksOnly
        (motive (some (command, args)))) :
    (setup.dispatcher.resolve text sender).AsksOnly (motive (setup.called? text)) := by
  refine setup.resolve_cases text sender (motive := fun called job => job.AsksOnly (motive called))
    ((resolveSubject_asks ..).widen (hlog none)) (fun name => (resolveCustom_asks ..).widen ?_)
    fun command call => ?_
  · rintro request (rfl | hr)
    · exact hfind name
    · exact hlog none request hr
  · refine .bind (.bind (Gate.isAllowed_asks command (hlookup _) (hlog _)) fun allowed =>
      .ite (fun _ => hexecute command call.args) fun _ => by simp) fun reply => ?_
    exact (noteCall_asks ..).widen (hlog _)

/-- A line that calls no built-in command, or one that needs no trust, does nothing privileged. -/
theorem handle_plain
    (h : ∀ call command, Chat.Call.ofLine? setup.mark text = some call →
      setup.registry.get? call.name = some command → IsCommand.requiresTrust command = false) :
    (setup.handle text sender).AsksOnly Request.IsPlain := by
  cases hcall : Chat.Call.ofLine? setup.mark text with
  | none =>
    rw [handle_eq, Dispatcher.resolve, dispatcher, hcall]
    refine .bind ((resolveSubject_asks ..).widen fun request hr => ?_) fun reply =>
      (setup.finish_asks reply).widen fun _ => Request.IsPlain.of_reply
    exact Request.IsPlain.of_reply (.inr hr)
  | some call =>
    cases hget : setup.registry.get? call.name with
    | none =>
      rw [handle_eq, Dispatcher.resolve, dispatcher, hcall]
      simp only [Dispatcher.resolveCall, hget]
      refine .bind ((resolveCustom_asks ..).widen ?_) fun reply =>
        (setup.finish_asks reply).widen fun _ => Request.IsPlain.of_reply
      rintro request (rfl | hr)
      · simp [Request.IsPlain, Request.IsPrivileged, Request.isWrite, Store.Query.isWrite,
          Request.IsLookup]
      · exact Request.IsPlain.of_reply (.inr hr)
    | some command =>
      have htrust := h call command hcall hget
      rw [handle_eq_of_builtin setup text sender hcall hget]
      refine .bind ?_ fun reply =>
        (setup.finishCall_asks sender call reply).widen fun _ => Request.IsPlain.of_reply
      simp only [Gate.invoke, Gate.isAllowed, htrust]
      refine .bind (by simp) fun allowed => .ite (fun _ => ?_) fun _ => by simp
      refine (Builtin.execute_asks ..).widen fun request hr => ⟨fun hp => ?_, hr.not_lookup⟩
      rw [hr.requiresTrust hp] at htrust
      cases htrust

/-! ### Lines behind the gate -/

theorem denial_not_empty : Reply.isEmpty (Failure.denial sender) = false := by
  simp [Reply.isEmpty, Reply.toJson, Json.isTruthy, Failure.denial]

theorem finish_denies : Denies sender (setup.finish (Failure.denial sender)).attempt := by
  rw [finish, denial_not_empty]
  refine .say ?_ rfl fun answer => ?_
  · exact ⟨rfl, fun _ => rfl⟩
  · cases answer with
    | ok _ => rfl
    | error fault => exact ⟨rfl, fun _ => rfl⟩

theorem handle_guarded : Guarded sender (setup.handle text sender).attempt := by
  by_cases h : ∀ call command, Chat.Call.ofLine? setup.mark text = some call →
      setup.registry.get? call.name = some command → IsCommand.requiresTrust command = false
  · exact .plain (Job.within_iff.mp (setup.handle_plain text sender h))
  · push Not at h
    obtain ⟨call, command, hcall, hget, htrust⟩ := h
    replace htrust : IsCommand.requiresTrust command = true := by simpa using htrust
    rw [setup.handle_eq_of_builtin text sender hcall hget]
    simp only [Gate.invoke, Gate.isAllowed, htrust, Bool.not_true, Bool.false_eq_true, if_false]
    have hrun : (Builtin.execute setup.tools setup.registry command call.args sender >>=
        setup.finishCall sender call).AsksOnly fun request => ¬request.IsLookup := by
      refine ((Builtin.execute_asks ..).widen fun _ hr => hr.not_lookup).bind fun reply => ?_
      exact (setup.finishCall_asks ..).widen fun _ hr => (Request.IsPlain.of_reply hr).2
    refine .gated ?_ ?_
    · exact Job.within_iff.mp hrun
    · rintro (failure | _ | _) hanswer
      · exact .note rfl (.note rfl (setup.finish_denies sender))
      · exact .note rfl (.note rfl (setup.finish_denies sender))
      · exact absurd rfl hanswer

/-- The line calls the command that grants trust for this user. -/
def Grants (user : String) : Prop :=
  ∃ args, Chat.Call.ofLine? setup.mark text = some ⟨"trust", args⟩ ∧ Chat.firstWord args = user

/-- Trust is granted by no other line. -/
theorem handle_grants : (setup.handle text sender).AsksOnly fun request =>
    ∀ user, request = .store (.trust user) → setup.Grants text user := by
  have hplain (request : Request) (hr : request.IsPlain) (user : String)
      (htrust : request = .store (.trust user)) : setup.Grants text user := by
    subst htrust
    exact absurd (.inl rfl) hr.1
  by_cases h : ∀ call command, Chat.Call.ofLine? setup.mark text = some call →
      setup.registry.get? call.name = some command → IsCommand.requiresTrust command = false
  · exact (setup.handle_plain text sender h).widen hplain
  · push Not at h
    obtain ⟨call, command, hcall, hget, -⟩ := h
    rw [setup.handle_eq_of_builtin text sender hcall hget]
    refine .bind ?_ fun reply => (setup.finishCall_asks sender call reply).widen fun request hr =>
      hplain request (.of_reply hr)
    refine .bind ?_ fun allowed => .ite (fun _ => ?_) fun _ => by simp
    · rw [Job.AsksOnly, Job.within_liftM]
      refine (Gate.isAllowed_within command sender).mono ?_ fun _ => id
      rintro request (rfl | hr)
      · simp
      · exact hplain request (.of_reply (.inr hr))
    · refine (Builtin.execute_asks ..).widen fun request hr user heq => ?_
      subst heq
      obtain ⟨rfl, hargs⟩ := hr.eq_grant
      obtain ⟨name, args⟩ := call
      obtain rfl : IsCommand.name (Builtin.trust .grant) = name := by
        simpa using List.find?_some hget
      exact ⟨args, hcall, hargs.symm⟩

end Setup

/-! ## Paths -/

/-- A path on which nothing privileged was done and no text but the denial for the sender was
    sent. -/
structure Denied (sender : String) (path : List Exchange) (last : Work (Except Failure Unit)) :
    Prop where
  not_privileged : ∀ exchange ∈ path, ¬exchange.request.IsPrivileged
  sent : Exchange.sent path <+: [Chat.fit (Failure.denial sender)]
  /-- If the work is done, the denial was sent unless the channel was not joined. -/
  ending {outcome : Except Failure Unit} : last = .done outcome →
    outcome = .ok () ∧ (Exchange.sent path = [Chat.fit (Failure.denial sender)] ∨
      ⟨.findChannel, false⟩ ∈ path)

section Paths

variable {sender : String} {work last : Work (Except Failure Unit)} {path : List Exchange}

/-- One more exchange does not matter if nothing privileged was done and nothing sent by it. -/
theorem Denied.cons {first : Exchange} (h : Denied sender path last)
    (hp : ¬first.request.IsPrivileged) (hs : Exchange.sent (first :: path) = Exchange.sent path) :
    Denied sender (first :: path) last where
  not_privileged := List.forall_mem_cons.mpr ⟨hp, h.not_privileged⟩
  sent := by
    rw [hs]
    exact h.sent
  ending hlast := by
    obtain ⟨hok, hsent | hchannel⟩ := h.ending hlast
    · exact ⟨hok, .inl (hs.trans hsent)⟩
    · exact ⟨hok, .inr (List.mem_cons_of_mem _ hchannel)⟩

/-- Nothing is sent on a path that only writes records. -/
theorem sent_of_log (h : ∀ exchange ∈ path, exchange.request.area = .log) :
    Exchange.sent path = [] := by
  refine Exchange.sent_eq_nil fun exchange he text ht => ?_
  have harea := h exchange he
  rw [ht] at harea
  cases harea

/-- Work that says the denial is not privileged, and ends well whatever it is answered. -/
theorem Denies.within (h : Denies sender work) : work.Within Request.IsPlain (· = .ok ()) := by
  have hlog (request : Request) (hr : request.area = .log) : request.IsPlain :=
    Request.IsPlain.of_reply (.inr hr)
  induction h with
  | note hr _ ih => exact ⟨hlog _ (by simp [hr]), fun _ => ih⟩
  | say hfalse htrue hsent =>
    refine ⟨.of_reply (.inl rfl), ?_⟩
    rintro (_ | _)
    · exact hfalse.mono hlog fun _ => id
    · rw [htrue]
      exact ⟨.of_reply (.inl rfl), fun answer => (hsent answer).mono hlog fun _ => id⟩

/-- What is sent on a path of work that says the denial. -/
theorem Denies.sent (h : Denies sender work) (hl : work.Leads path last) :
    Exchange.sent path <+: [Chat.fit (Failure.denial sender)] ∧
      ∀ outcome, last = .done outcome →
        Exchange.sent path = [Chat.fit (Failure.denial sender)] ∨ ⟨.findChannel, false⟩ ∈ path := by
  induction h generalizing path with
  | note hr hn ih =>
    rcases hl.of_ask with ⟨rfl, rfl⟩ | ⟨answer, rest, rfl, hrest⟩
    · exact ⟨List.nil_prefix, fun _ hlast => by cases hlast⟩
    · obtain ⟨hsent, hend⟩ := ih hrest
      exact ⟨hsent, fun outcome hlast => (hend outcome hlast).imp_right (List.mem_cons_of_mem _)⟩
  | say hfalse htrue hsent =>
    rcases hl.of_ask with ⟨rfl, rfl⟩ | ⟨answer, rest, rfl, hrest⟩
    · exact ⟨List.nil_prefix, fun _ hlast => by cases hlast⟩
    cases answer with
    | false =>
      -- the channel was not joined
      have hnone : Exchange.sent rest = [] := sent_of_log (hrest.within hfalse).1
      refine ⟨?_, fun _ _ => .inr List.mem_cons_self⟩
      show Exchange.sent rest <+: _
      rw [hnone]
      exact List.nil_prefix
    | true =>
      rw [htrue] at hrest
      rcases hrest.of_ask with ⟨rfl, rfl⟩ | ⟨answer, more, rfl, hmore⟩
      · exact ⟨List.nil_prefix, fun _ hlast => by cases hlast⟩
      · have hnone : Exchange.sent more = [] := sent_of_log (hmore.within (hsent answer)).1
        have hone : Exchange.sent (⟨.findChannel, true⟩ ::
            ⟨.send (Chat.fit (Failure.denial sender)), answer⟩ :: more) =
              [Chat.fit (Failure.denial sender)] := by
          simp [Exchange.sent, hnone]
        rw [hone]
        exact ⟨List.prefix_rfl, fun _ _ => .inl rfl⟩

theorem Denies.denied (h : Denies sender work) (hl : work.Leads path last) :
    Denied sender path last := by
  obtain ⟨hplain, hlast⟩ := hl.within h.within
  obtain ⟨hsent, hend⟩ := h.sent hl
  refine ⟨fun exchange he => (hplain exchange he).1, hsent, ?_⟩
  rintro outcome rfl
  exact ⟨hlast, hend outcome rfl⟩

namespace Guarded

/-- Nothing privileged is done unless the look-up of the sender succeeded first. -/
theorem path_granted (h : Guarded sender work) {past future : List Exchange} {exchange : Exchange}
    (hl : work.Leads (past ++ exchange :: future) last) (hp : exchange.request.IsPrivileged) :
    ∃ rest, past = ⟨.store (.isTrusted sender), .ok true⟩ :: rest := by
  have he : exchange ∈ past ++ exchange :: future := by simp
  cases h with
  | plain hw => exact absurd hp ((hl.within hw).1 exchange he).1
  | gated hgranted hrefused =>
    rcases hl.of_ask with ⟨hnil, -⟩ | ⟨answer, rest, hpath, hrest⟩
    · simp at hnil
    cases past with
    | nil =>
      obtain ⟨rfl, -⟩ := List.cons.inj hpath
      simp [Request.IsPrivileged, Request.isWrite, Store.Query.isWrite] at hp
    | cons first past =>
      obtain ⟨rfl, rfl⟩ := List.cons.inj hpath
      by_cases ha : answer = .ok true
      · exact ⟨past, by rw [ha]⟩
      · exact absurd hp (((hrefused answer ha).denied hrest).not_privileged exchange (by simp))

/-- Once the look-up of a user has failed, the denial is all that is left. -/
theorem path_refused (h : Guarded sender work) (hl : work.Leads path last) {user : String}
    {answer : Except Store.Failure Bool} (he : ⟨.store (.isTrusted user), answer⟩ ∈ path)
    (ha : answer ≠ .ok true) : Denied sender path last := by
  have hlookup : (Request.store (.isTrusted user)).IsLookup := ⟨user, rfl⟩
  cases h with
  | plain hw => exact absurd hlookup ((hl.within hw).1 _ he).2
  | gated hgranted hrefused =>
    rcases hl.of_ask with ⟨rfl, -⟩ | ⟨first, rest, rfl, hrest⟩
    · cases he
    by_cases hfirst : first = .ok true
    · subst hfirst
      rcases List.mem_cons.mp he with heq | he
      · cases heq
        exact absurd rfl ha
      · exact absurd hlookup ((hrest.within hgranted).1 _ he)
    · refine ((hrefused first hfirst).denied hrest).cons ?_ rfl
      simp [Request.IsPrivileged, Request.isWrite, Store.Query.isWrite]

end Guarded

end Paths

end ChatWarden
