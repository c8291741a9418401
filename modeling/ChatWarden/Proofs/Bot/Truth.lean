import ChatWarden.Proofs.Bot.Traffic
import ChatWarden.Proofs.Bot.World
import ChatWarden.Proofs.Command.Admin

/-!
# Replies tell the truth

The reply to a command that changes a table tells what became of the table: whether it was changed
as the command asks for, whether there was nothing to change, or why nothing was done. Rows of other
names are never touched.

Results:
* `Gate.invoke_ends`: a command that needs trust runs behind a look-up that succeeded, or is denied.
* `Setup.handle_writes_called`: what a line writes is the query of the command that it calls.
* `Setup.resolve_told`: what the reply tells of the database before and after the line.
* `replies_tell_transition`: the reply determines what became of both tables.
-/

namespace ChatWarden

open Exchange (OnlyLog)
open Store (Database Query TableName)

/-! ## Behind the gate -/

section Gate

variable {κ : Type} [IsCommand κ] {command : κ} {sender : String} {path : List Exchange}

/-- For a command that needs trust the sender is looked up, and any answer but that the sender is
    trusted leaves a record. -/
theorem Gate.isAllowed_ends {allowed : Bool} (htrust : IsCommand.requiresTrust command = true)
    (h : (isAllowed command sender).Ends path allowed) :
    ∃ answer rest, path = ⟨.store (.isTrusted sender), answer⟩ :: rest ∧
      (answer = .ok true ∧ allowed = true ∧ rest = [] ∨
        answer ≠ .ok true ∧ allowed = false ∧ OnlyLog rest) := by
  simp only [isAllowed, htrust, Bool.not_true, Bool.false_eq_true, if_false] at h
  obtain ⟨answer, rest, rfl, hrest⟩ := Work.ends_ask.mp h
  refine ⟨answer, rest, rfl, ?_⟩
  have hnote {record : Log.Record} (horigin : record.origin.isSandbox = false)
      (hrest : (Work.ask (.note record) fun _ => Work.done false).Ends rest allowed) :
      allowed = false ∧ OnlyLog rest := by
    obtain ⟨_, more, rfl, hmore⟩ := Work.ends_ask.mp hrest
    obtain ⟨rfl, rfl⟩ := Work.ends_done.mp hmore
    refine ⟨rfl, fun exchange he => ?_⟩
    rw [List.mem_singleton.mp he]
    simp [horigin]
  rcases answer with failure | _ | _
  · exact .inr ⟨by simp, hnote rfl hrest⟩
  · exact .inr ⟨by simp, hnote rfl hrest⟩
  · obtain ⟨rfl, rfl⟩ := Work.ends_done.mp hrest
    exact .inl ⟨rfl, rfl, rfl⟩

/-- A command that needs trust runs behind a look-up that succeeded, and is denied behind any
    other. -/
theorem Gate.invoke_ends {execute : (args sender : String) → Job Reply} {args : String}
    {outcome : Except Failure Reply} (htrust : IsCommand.requiresTrust command = true)
    (h : (invoke execute command args sender).Ends path outcome) :
    ∃ answer rest, path = ⟨.store (.isTrusted sender), answer⟩ :: rest ∧
      (answer = .ok true ∧ (execute args sender).Ends rest outcome ∨
        answer ≠ .ok true ∧ OnlyLog rest ∧ outcome = .ok (.text (Failure.denial sender))) := by
  rcases Job.ends_bind.mp h with ⟨front, back, allowed, rfl, hfront, hback⟩ | ⟨failure, hfailed, -⟩
  · obtain ⟨_, hallowed, hvalue⟩ := Job.ends_lift.mp hfront
    obtain rfl := Except.ok.inj hvalue
    obtain ⟨answer, rest, rfl, hanswer⟩ := isAllowed_ends htrust hallowed
    refine ⟨answer, rest ++ back, rfl, ?_⟩
    rcases hanswer with ⟨htrue, rfl, rfl⟩ | ⟨hfalse, rfl, hlog⟩
    · exact .inl ⟨htrue, hback⟩
    · obtain ⟨rfl, rfl⟩ := Job.ends_pure.mp hback
      rw [List.append_nil]
      exact .inr ⟨hfalse, hlog, rfl⟩
  · obtain ⟨_, -, hfailure⟩ := Job.ends_lift.mp hfailed
    cases hfailure

end Gate

/-! ## The line of a command that changes a table -/

namespace Setup

variable {setup : Setup} {text sender args : String} {admin : Admin} {path : List Exchange}
  {outcome : Except Failure Reply}

/-- The way of a line that calls a command that changes a table: the look-up of the sender, and then
    the course of the command with a record behind it, or nothing but the denial. -/
theorem resolve_admin (hcall : setup.called? text = some (admin.builtin, args))
    (h : (setup.dispatcher.resolve text sender).Ends path outcome) :
    ∃ answer rest, path = ⟨.store (.isTrusted sender), answer⟩ :: rest ∧
      (answer ≠ .ok true ∧ OnlyLog rest ∧ outcome = .ok (.text (Failure.denial sender)) ∨
        answer = .ok true ∧ ∃ front back, rest = front ++ back ∧ OnlyLog back ∧
          Course (admin.objection? setup.registry.contains args sender) (admin.query args)
            (admin.replyTo args) front outcome) := by
  revert hcall h
  refine setup.resolve_cases text sender
    (motive := fun called job => called = some (admin.builtin, args) → job.Ends path outcome → _)
    (fun hcall => by cases hcall) (fun name hcall => by cases hcall) fun command call hcall h => ?_
  obtain ⟨rfl, rfl⟩ := Prod.mk.inj (Option.some.inj hcall)
  rcases Job.ends_bind.mp h with ⟨front, back, reply, rfl, hfront, hback⟩ | ⟨failure, hfailed, rfl⟩
  · have hlog : OnlyLog back := (hback.within (noteCall_asks ..)).1
    have houtcome : outcome = .ok reply := by
      obtain ⟨rest, -, hreply⟩ := Job.ends_note_bind.mp hback
      exact (Job.ends_pure.mp hreply).2
    rw [houtcome]
    obtain ⟨answer, rest, rfl, hways⟩ := Gate.invoke_ends admin.requiresTrust hfront
    refine ⟨answer, rest ++ back, rfl, ?_⟩
    rcases hways with ⟨htrue, hrun⟩ | ⟨hfalse, hrest, hdenied⟩
    · exact .inr ⟨htrue, rest, back, rfl, hlog, Admin.execute_course hrun⟩
    · exact .inl ⟨hfalse, List.forall_mem_append.mpr ⟨hrest, hlog⟩, hdenied⟩
  · -- neither the gate nor the command fails
    obtain ⟨answer, rest, rfl, ⟨-, hrun⟩ | ⟨-, -, hdenied⟩⟩ :=
      Gate.invoke_ends admin.requiresTrust hfailed
    · have hcourse := Admin.execute_course hrun
      cases hcourse
    · cases hdenied

/-- Tables are written by nothing but the query of a command that changes a table. -/
theorem handle_writes_called (setup : Setup) (text sender : String) :
    (setup.handle text sender).AsksOnly fun request => request.isWrite = true →
      ∃ admin args, setup.called? text = some (Admin.builtin admin, args) ∧
        request = .store (admin.query args) := by
  have hread {called : Option (Builtin × String)} (request : Request)
      (hr : request.area ≠ .store) : request.isWrite = true →
      ∃ admin args, called = some (Admin.builtin admin, args) ∧
        request = .store (admin.query args) := by
    intro hwrite
    rw [Request.isWrite_of_area hr] at hwrite
    cases hwrite
  rw [handle_eq]
  refine .bind (setup.resolve_asks text sender (motive := fun called request =>
      request.isWrite = true → ∃ admin args, called = some (Admin.builtin admin, args) ∧
        request = .store (admin.query args))
    (fun _ request hr => hread request (by simp [hr])) (fun _ hwrite => by cases hwrite)
    (fun _ hwrite => by cases hwrite) fun command args => ?_) fun reply => ?_
  · refine (Builtin.execute_asks ..).widen fun request hr => ?_
    rcases hr.store_cases with harea | ⟨-, rfl⟩ | ⟨action, rfl, rfl⟩ | ⟨action, rfl, rfl⟩
    · exact hread request harea
    · exact fun hwrite => by cases hwrite
    · exact fun _ => ⟨.custom action, args, rfl, rfl⟩
    · exact fun _ => ⟨.trust action, args, rfl, rfl⟩
  · exact (setup.finish_not_store reply).widen hread

end Setup

/-! ## What replies tell -/

/-- No query failed on the path. -/
def Exchange.StoreHolds (path : List Exchange) : Prop :=
  ∀ query failure, (⟨.store query, .error failure⟩ : Exchange) ∉ path

open Exchange (StoreHolds)

/-- What the reply to a command that changes a table tells of the database before and after, and of
    what the store answered on the way. -/
inductive Admin.Told (isBuiltin : String → Bool) (admin : Admin) (args sender : String)
    (before after : Database) (path : List Exchange) : String → Prop
  /-- The look-up of the sender failed. -/
  | denied {failure : Store.Failure} :
      ⟨.store (.isTrusted sender), .error failure⟩ ∈ path → after.SameTables before →
      Told isBuiltin admin args sender before after path (Failure.denial sender)
  /-- The arguments were refused. -/
  | refused {objection : Failure} :
      admin.objection? isBuiltin args sender = some objection → after.SameTables before →
      Told isBuiltin admin args sender before after path objection.reply
  /-- The query failed. -/
  | failed {failure : Store.Failure} :
      admin.objection? isBuiltin args sender = none →
      ⟨.store (admin.query args), .error failure⟩ ∈ path → after.SameTables before →
      Told isBuiltin admin args sender before after path ""
  /-- The store did what it was asked for. -/
  | done :
      admin.objection? isBuiltin args sender = none → StoreHolds path →
      before.Applies (admin.query args) → before.Done after (admin.query args) →
      Told isBuiltin admin args sender before after path (admin.replyTo args true)
  /-- There was nothing to do. -/
  | idle :
      admin.objection? isBuiltin args sender = none → StoreHolds path →
      ¬before.Applies (admin.query args) → after.SameRows before →
      Told isBuiltin admin args sender before after path (admin.replyTo args false)

namespace Exchange

variable {front back path : List Exchange} {exchange : Exchange}

/-- The exchange is a query that failed. -/
def fails : Exchange → Bool
  | ⟨.store _, .error _⟩ => true
  | _ => false

theorem storeHolds_iff : StoreHolds path ↔ ∀ exchange ∈ path, exchange.fails = false := by
  constructor
  · intro h exchange hmem
    obtain ⟨request, answer⟩ := exchange
    cases request with
    | store query =>
      cases answer with
      | error failure => exact absurd hmem (h query failure)
      | ok result => rfl
    | _ => rfl
  · intro h query failure hmem
    have hfails := h _ hmem
    cases hfails

instance (path : List Exchange) : Decidable (StoreHolds path) :=
  decidable_of_iff _ storeHolds_iff.symm

theorem OnlyLog.storeHolds (h : OnlyLog path) : StoreHolds path := by
  intro query failure hmem
  have harea := h _ hmem
  cases harea

/-- Records do not concern the database. -/
theorem OnlyLog.eq_of_answersAll (h : OnlyLog path) {db last : Database}
    (ha : db.AnswersAll path last) : last = db :=
  ha.eq_of_area fun exchange he => by simp [h exchange he]

/-- With records around it, an exchange is all that the database answers. -/
theorem OnlyLog.answers (hfront : OnlyLog front) (hback : OnlyLog back) {db last : Database}
    (ha : db.AnswersAll (front ++ exchange :: back) last) : db.Answers exchange last := by
  obtain ⟨asked, hchecks, hrest⟩ := ha.split
  obtain rfl := hfront.eq_of_answersAll hchecks
  cases hrest with
  | cons hanswer hlast =>
    obtain rfl := hback.eq_of_answersAll hlast
    exact hanswer

theorem StoreHolds.append (hfront : StoreHolds front) (hback : StoreHolds back) :
    StoreHolds (front ++ back) := by
  intro query failure hmem
  rcases List.mem_append.mp hmem with hmem | hmem
  · exact hfront query failure hmem
  · exact hback query failure hmem

theorem StoreHolds.cons_ok {query : Query} {result : query.Result} (h : StoreHolds path) :
    StoreHolds (⟨.store query, .ok result⟩ :: path) := by
  intro asked failure hmem
  rcases List.mem_cons.mp hmem with hfirst | hrest
  · cases hfirst
  · exact h asked failure hrest

end Exchange

namespace Setup

variable {setup : Setup} {text sender args : String} {admin : Admin} {path : List Exchange}
  {before after : Database}

/-- What the reply to a trusted sender tells of the database. -/
theorem resolve_told {outcome : Except Failure Reply} (hdb : before.KeysDistinct)
    (hsender : before.Trusts sender) (hcall : setup.called? text = some (admin.builtin, args))
    (h : (setup.dispatcher.resolve text sender).Ends path outcome)
    (ha : before.AnswersAll path after) :
    ∃ reply, outcome = .ok (.text reply) ∧
      admin.Told setup.registry.contains args sender before after path reply := by
  obtain ⟨answer, rest, rfl, hways⟩ := resolve_admin hcall h
  cases ha with
  | @cons _ found _ _ _ hlookup hrest =>
  have hfound : found.SameTables before := hlookup.sameTables rfl
  rcases hways with ⟨hfalse, hlog, rfl⟩ | ⟨rfl, front, notes, rfl, hnotes, hcourse⟩
  · obtain rfl := hlog.eq_of_answersAll hrest
    cases answer with
    | ok granted =>
      rw [hlookup.looked_up hsender] at hfalse
      exact absurd rfl hfalse
    | error failure => exact ⟨_, rfl, .denied List.mem_cons_self hfound⟩
  · obtain ⟨middle, hfront, hback⟩ := hrest.split
    obtain rfl := hnotes.eq_of_answersAll hback
    cases hcourse with
    | refused hobjection hlog =>
      obtain rfl := hlog.eq_of_answersAll hfront
      exact ⟨_, rfl, .refused hobjection hfound⟩
    | @failed failure first last hnone hlog hmore =>
      have hmem : ⟨.store (admin.query args), .error failure⟩ ∈ (⟨.store (.isTrusted sender),
          .ok true⟩ : Exchange) ::
            (first ++ ⟨.store (admin.query args), .error failure⟩ :: last ++ notes) := by simp
      have hanswer := hlog.answers hmore hfront
      refine ⟨_, rfl, .failed hnone hmem fun name => ?_⟩
      exact (hanswer.sameTables_of_error name).trans (hfound name)
    | @answered result first last hnone hlog hmore =>
      have hholds : StoreHolds (⟨.store (.isTrusted sender), .ok true⟩ ::
          (first ++ ⟨.store (admin.query args), .ok result⟩ :: last ++ notes)) :=
        .cons_ok (.append (.append hlog.storeHolds (.cons_ok hmore.storeHolds)) hnotes.storeHolds)
      have hanswer := hlog.answers hmore hfront
      rcases hanswer.effect (hfound.keysDistinct hdb) with
        ⟨hdid, happlies, hdone⟩ | ⟨hdid, happlies, hsame⟩
      · rw [hdid]
        exact ⟨_, rfl, .done hnone hholds ((hfound.applies_iff _).mp happlies)
          ((hfound.done_iff _ _).mp hdone)⟩
      · rw [hdid]
        exact ⟨_, rfl, .idle hnone hholds (fun h => happlies ((hfound.applies_iff _).mpr h))
          (hsame.trans hfound.sameRows)⟩

end Setup

/-! ### Texts that tell of something done -/

/-- Whether a text ends like those that tell of something done: with the ending of a participle and
    one more character. -/
def tellsDone (text : String) : Bool := (text.toList.reverse.drop 1).take 2 == ['d', 'e']

theorem tellsDone_append {front back : String} (h : 3 ≤ back.length) :
    tellsDone (front ++ back) = tellsDone back := by
  have hlen : 3 ≤ back.toList.reverse.length := by
    rw [List.length_reverse, String.length_toList]
    exact h
  unfold tellsDone
  rw [String.toList_append, List.reverse_append, List.drop_append_of_le_length (by omega),
    List.take_append_of_le_length (by rw [List.length_drop]; omega)]

theorem tellsDone_denial (sender : String) : tellsDone (Failure.denial sender) = false := by
  rw [Failure.denial, tellsDone_append (by decide)]
  decide

/-- What a command tells of a failure does not sound like something done. -/
theorem tellsDone_reply {failure : Failure} (h : failure.isTold = true) :
    tellsDone failure.reply = false := by
  cases failure with
  | usage form =>
    cases form with
    | nameAndResponse sender command =>
      rw [Failure.reply, Usage.text, tellsDone_append (by decide)]
      decide
    | name sender =>
      rw [Failure.reply, Usage.text, tellsDone_append (by decide)]
      decide
    | user sender command =>
      rw [Failure.reply, Usage.text, tellsDone_append (by decide)]
      decide
    | snippet => decide
  | invalidName problem =>
    cases problem with
    | notACommandName => decide
    | builtin action =>
      have htext : (NameProblem.builtin action).text =
          "The command you are trying to " ++ action ++
            " already exists as a built-in command." := rfl
      rw [Failure.reply, htext, tellsDone_append (by decide)]
      decide
    | notAUserName => decide
  | store trouble =>
    show tellsDone "" = false
    decide
  | _ => cases h

namespace Admin

theorem tellsDone_replyTo (admin : Admin) (args : String) :
    tellsDone (admin.replyTo args true) = true := by
  cases admin with
  | custom action =>
    show tellsDone action.doneText = true
    cases action <;> decide
  | trust action =>
    rw [replyTo, TrustAdmin.doneText]
    cases action with
    | grant =>
      rw [tellsDone_append (by decide)]
      decide
    | revoke =>
      rw [tellsDone_append (by decide)]
      decide

/-- Where there can be nothing to do, the reply to that does not sound like something done. -/
theorem tellsDone_idle {admin : Admin} {args : String} {db : Database}
    (h : ¬db.Applies (admin.query args)) : tellsDone (admin.replyTo args false) = false := by
  cases admin with
  | custom action =>
    show tellsDone action.refusedText = false
    cases action <;> decide
  | trust action =>
    -- trust can always be changed
    cases action <;> exact absurd trivial h

theorem isTold_of_objection? {isBuiltin : String → Bool} {admin : Admin} {args sender : String}
    {failure : Failure} (h : admin.objection? isBuiltin args sender = some failure) :
    failure.isTold = true := by
  cases admin with
  | custom action => cases action <;> exact isTold_of_objection h
  | trust action => exact isTold_of_objection h

namespace Told

variable {isBuiltin : String → Bool} {admin : Admin} {args sender reply : String}
  {before after : Database} {front back path : List Exchange}

/-- What follows without a query does not matter. -/
theorem append (h : admin.Told isBuiltin args sender before after front reply)
    (hback : ∀ exchange ∈ back, exchange.request.area ≠ .store) :
    admin.Told isBuiltin args sender before after (front ++ back) reply := by
  have hholds : StoreHolds back := fun query failure hmem => hback _ hmem rfl
  cases h with
  | denied hmem hsame => exact .denied (List.mem_append_left back hmem) hsame
  | refused hobjection hsame => exact .refused hobjection hsame
  | failed hnone hmem hsame => exact .failed hnone (List.mem_append_left back hmem) hsame
  | done hnone hfront happlies hdone => exact .done hnone (hfront.append hholds) happlies hdone
  | idle hnone hfront happlies hsame => exact .idle hnone (hfront.append hholds) happlies hsame

/-- The reply tells that something was done just if nothing stood in the way, and then it was done;
    otherwise every row stayed. -/
theorem determines (h : admin.Told isBuiltin args sender before after path reply) :
    (reply = admin.replyTo args true ↔ admin.objection? isBuiltin args sender = none ∧
        StoreHolds path ∧ before.Applies (admin.query args)) ∧
      if reply = admin.replyTo args true then before.Done after (admin.query args)
      else after.SameRows before := by
  have hdone := admin.tellsDone_replyTo args
  have hother {text : String} (htext : tellsDone text = false) :
      text ≠ admin.replyTo args true := by
    rintro rfl
    rw [hdone] at htext
    cases htext
  cases h with
  | denied hmem hsame =>
    have hne := hother (tellsDone_denial sender)
    rw [if_neg hne]
    exact ⟨iff_of_false hne (fun h => h.2.1 _ _ hmem), hsame.sameRows⟩
  | refused hobjection hsame =>
    have hne := hother (tellsDone_reply (isTold_of_objection? hobjection))
    rw [if_neg hne, hobjection]
    exact ⟨iff_of_false hne (fun h => by cases h.1), hsame.sameRows⟩
  | failed hnone hmem hsame =>
    have hne := hother (show tellsDone "" = false by decide)
    rw [if_neg hne]
    exact ⟨iff_of_false hne (fun h => h.2.1 _ _ hmem), hsame.sameRows⟩
  | done hnone hholds happlies hdone =>
    rw [if_pos rfl]
    exact ⟨iff_of_true rfl ⟨hnone, hholds, happlies⟩, hdone⟩
  | idle hnone hholds happlies hsame =>
    have hne := hother (tellsDone_idle happlies)
    rw [if_neg hne]
    exact ⟨iff_of_false hne (fun h => happlies h.2.2), hsame⟩

end Told

end Admin

/-! ## Lines -/

namespace Setup

variable {setup : Setup} {text sender args : String} {admin : Admin} {path : List Exchange}
  {before after : Database} {outcome : Except Failure Unit}

/-- What the reply to a line of a trusted sender tells of the database. -/
theorem handle_told (hdb : before.KeysDistinct) (hsender : before.Trusts sender)
    (hcall : setup.called? text = some (admin.builtin, args))
    (h : (setup.handle text sender).Ends path outcome) (ha : before.AnswersAll path after) :
    ∃ reply, setup.reply? text sender path = some (.text reply) ∧
      admin.Told setup.registry.contains args sender before after path reply := by
  rcases handle_ends h with
    ⟨front, back, found, rfl, hfront, hback, hreply⟩ | ⟨failure, hfailed, -⟩
  · obtain ⟨middle, hanswers, hrest⟩ := ha.split
    obtain ⟨reply, hfound, htold⟩ := resolve_told hdb hsender hcall hfront hanswers
    obtain rfl := Except.ok.inj hfound
    have hsaid := (hback.within (setup.finish_not_store _)).1
    obtain rfl := hrest.eq_of_area hsaid
    exact ⟨reply, hreply, htold.append hsaid⟩
  · obtain ⟨reply, hfound, -⟩ := resolve_told hdb hsender hcall hfailed ha
    cases hfound

/-- A line leaves the rows of all names but the one that it is about. -/
theorem handle_row?_eq (hcall : setup.called? text = some (admin.builtin, args))
    (h : (setup.handle text sender).Ends path outcome) (ha : before.AnswersAll path after)
    {name : TableName} {key : String}
    (hkey : name = (admin.query args).table → (admin.query args).key? ≠ some key) :
    after.row? name key = before.row? name key := by
  refine ha.row?_eq fun exchange he htouches => ?_
  obtain ⟨query, hquery, rfl, hown⟩ := htouches
  have hwrite : exchange.request.isWrite = true := by
    rw [hquery]
    exact Query.isWrite_of_key? hown
  obtain ⟨other, others, hother, hrequest⟩ :=
    (h.within (setup.handle_writes_called text sender)).1 exchange he hwrite
  obtain ⟨hsame, rfl⟩ := Prod.mk.inj (Option.some.inj (hcall.symm.trans hother))
  obtain rfl := Admin.builtin_injective hsame
  obtain rfl := Request.store.inj (hquery.symm.trans hrequest)
  exact hkey rfl hown

end Setup

/-- **Truthful replies.** Whatever arguments a trusted sender gives to a command that changes a
    table, and whatever fails meanwhile, there is a reply, and it tells what became of the tables.
    It tells that the command was done just if the arguments were fine, no query failed and there
    was something to do; then it was done, and otherwise every row is as it was. Rows of other names
    are as they were in any case. -/
theorem replies_tell_transition (setup : Setup) (surroundings : Surroundings) (start : World)
    (admin : Admin) (text sender args : String) (hdb : start.db.KeysDistinct)
    (hsender : start.db.Trusts sender)
    (hcall : setup.called? text = some (admin.builtin, args)) :
    let run := (setup.handle text sender).attempt.record (World.answer surroundings) start
    let last := run.2.2.db
    ∃ reply, setup.reply? text sender run.1 = some (.text reply) ∧
      admin.Told setup.registry.contains args sender start.db last run.1 reply ∧
      (reply = admin.replyTo args true ↔
        admin.objection? setup.registry.contains args sender = none ∧ StoreHolds run.1 ∧
          start.db.Applies (admin.query args)) ∧
      (if reply = admin.replyTo args true then start.db.Done last (admin.query args)
        else last.SameRows start.db) ∧
      ∀ (name : TableName) (key : String),
        (name = (admin.query args).table → (admin.query args).key? ≠ some key) →
        last.row? name key = start.db.row? name key := by
  intro run last
  have hends : (setup.handle text sender).Ends run.1 run.2.1 :=
    World.ends_record surroundings _ start
  have hanswers : start.db.AnswersAll run.1 last := World.answersAll_record surroundings _ start
  obtain ⟨reply, hreply, htold⟩ := setup.handle_told hdb hsender hcall hends hanswers
  obtain ⟨hiff, hdone⟩ := htold.determines
  exact ⟨reply, hreply, htold, hiff, hdone, fun name key hkey =>
    setup.handle_row?_eq hcall hends hanswers hkey⟩

/-- Alice makes a command, and is told so. -/
theorem replies_tell_transition_created :
    let start : World := { db := ((Database.fresh "bot.db").trust "alice").2 }
    let setup := Setup.ofRun {} {}
    let run := (setup.handle "!addcmd hi hello" "alice").attempt.record (World.answer .calm) start
    setup.called? "!addcmd hi hello" = some (.custom .create, "hi hello") ∧
      (setup.reply? "!addcmd hi hello" "alice" run.1).map Reply.shown = some "Command created!" ∧
      run.2.2.db.responses "hi" = some "hello" ∧
      ∀ user, run.2.2.db.row? .trusted user = start.db.row? .trusted user := by
  intro start setup run
  have hdb : start.db.Reachable :=
    .trust .good (.trust "alice") (.trust .good .reopen (.command .good .reopen (.made "bot.db")))
  have hsender : start.db.Trusts "alice" :=
    ⟨⟨[⟨1, "alice", 1, 1, none⟩], 1⟩, by decide, ⟨1, "alice", 1, 1, none⟩, by decide, rfl, rfl⟩
  have hcall : setup.called? "!addcmd hi hello" = some (.custom .create, "hi hello") := by
    decide +kernel
  have hcreated : (setup.reply? "!addcmd hi hello" "alice" run.1).map Reply.shown =
      some "Command created!" := by decide +kernel
  obtain ⟨reply, hreply, -, -, hdone, hrows⟩ := replies_tell_transition setup .calm start
    (.custom .create) _ _ _ hdb.keysDistinct hsender hcall
  rw [hreply] at hcreated
  obtain rfl : reply = "Command created!" := Option.some.inj hcreated
  have htext : (Admin.custom .create).replyTo "hi hello" true = "Command created!" := rfl
  rw [htext, if_pos rfl] at hdone
  exact ⟨hcall, by rw [hreply]; rfl, hdone, fun user => hrows .trusted user fun h => by cases h⟩

end ChatWarden
