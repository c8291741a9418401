import ChatWarden.Proofs.Bot.Sent
import ChatWarden.Proofs.Command.Admin
import ChatWarden.Proofs.Command.OddsQuery

/-!
# Failures stay contained

Handling a line comes to an end whatever fails on the way, as long as no service on the web and no
snippet is involved. A reply is said once, whatever becomes of that. If a statement of a command
that changes a table fails, or the look-up of a custom command, nothing is said at all, and no
table has changed.

Results:
* `Contained`, which holds of the way to every such reply: `Builtin.execute_contained`,
  `Setup.resolve_contained`.
* `Said.of_handle`: how often a reply is said.
* `failures_contained`: all of it, for whatever says the replies.
-/

namespace ChatWarden

open Exchange (OnlyLog)

/-! ## Failures of the store -/

/-- Whether the sender is told nothing if a query fails: it changes a table, or looks for a custom
    command. -/
def Store.Query.isSilenced : Store.Query → Bool
  | .isTrusted _ => false
  | .listNames => false
  | _ => true

/-- A query failed whose failure is not told. -/
def Exchange.IsSilence (exchange : Exchange) : Prop :=
  ∃ query failure, exchange = ⟨.store query, .error failure⟩ ∧ query.isSilenced = true

/-- If the data file cannot be read, that is trouble with files. -/
def Exchange.DataFails (path : List Exchange) : Prop :=
  ∀ fault, ⟨.readData, .error fault⟩ ∈ path → fault.isFileTrouble = true

open Exchange (IsSilence DataFails)

/-- The way to a reply: it leads to a text, and to the empty one with no table changed if a query
    failed whose failure is not told. -/
structure Contained (path : List Exchange) (outcome : Except Failure Reply) : Prop where
  replies : ∃ reply, outcome = .ok (.text reply)
  silent : (∃ exchange ∈ path, exchange.IsSilence) →
    outcome = .ok (.text "") ∧
      ∀ exchange ∈ path, exchange.request.isWrite = true → exchange.IsSilence

variable {path : List Exchange} {outcome : Except Failure Reply}

theorem Exchange.not_isSilence_of_area {exchange : Exchange}
    (h : exchange.request.area ≠ .store) : ¬exchange.IsSilence := by
  rintro ⟨query, failure, rfl, -⟩
  exact h rfl

theorem Exchange.OnlyLog.not_isSilence (h : OnlyLog path) :
    ∀ exchange ∈ path, ¬exchange.IsSilence :=
  fun exchange he => Exchange.not_isSilence_of_area (by simp [h exchange he])

theorem Exchange.OnlyLog.not_isWrite (h : OnlyLog path) :
    ∀ exchange ∈ path, exchange.request.isWrite = false :=
  fun exchange he => Request.isWrite_of_area (by simp [h exchange he])

namespace Contained

/-- A way on which no such query fails. -/
theorem of_text {reply : String} (h : ∀ exchange ∈ path, ¬exchange.IsSilence) :
    Contained path (.ok (.text reply)) where
  replies := ⟨reply, rfl⟩
  silent := fun ⟨exchange, he, hsilence⟩ => absurd hsilence (h exchange he)

/-- A way on which one such query fails, between records. -/
theorem of_failed {query : Store.Query} {failure : Store.Failure} {front back : List Exchange}
    (hquery : query.isSilenced = true) (hfront : OnlyLog front) (hback : OnlyLog back) :
    Contained (front ++ ⟨.store query, .error failure⟩ :: back) (.ok (.text "")) where
  replies := ⟨"", rfl⟩
  silent _ := by
    refine ⟨rfl, fun exchange he hwrite => ?_⟩
    rcases List.mem_append.mp he with he | he
    · rw [hfront.not_isWrite exchange he] at hwrite
      cases hwrite
    rcases List.mem_cons.mp he with rfl | he
    · exact ⟨query, failure, rfl, hquery⟩
    · rw [hback.not_isWrite exchange he] at hwrite
      cases hwrite

/-- What comes before the way to a reply, or behind it, may neither write nor fail like this. -/
theorem append {front back : List Exchange} (h : Contained path outcome)
    (hfront : ∀ exchange ∈ front, ¬exchange.IsSilence ∧ exchange.request.isWrite = false)
    (hback : OnlyLog back) : Contained (front ++ path ++ back) outcome where
  replies := h.replies
  silent := by
    rintro ⟨exchange, he, hsilence⟩
    have hmem : exchange ∈ path := by
      rcases List.mem_append.mp he with he | he
      · rcases List.mem_append.mp he with he | he
        · exact absurd hsilence (hfront exchange he).1
        · exact he
      · exact absurd hsilence (hback.not_isSilence exchange he)
    obtain ⟨hempty, hwrites⟩ := h.silent ⟨exchange, hmem, hsilence⟩
    refine ⟨hempty, fun other hother hwrite => ?_⟩
    rcases List.mem_append.mp hother with hother | hother
    · rcases List.mem_append.mp hother with hother | hother
      · rw [(hfront other hother).2] at hwrite
        cases hwrite
      · exact hwrites other hother hwrite
    · rw [hback.not_isWrite other hother] at hwrite
      cases hwrite

end Contained

/-! ## Commands -/

theorem Listing.execute_contained {openNames : List String}
    (h : (execute openNames).Ends path outcome) : Contained path outcome := by
  obtain ⟨answer, rest, rfl, hrest⟩ := Job.ends_request_bind.mp h
  have hlisting : ¬Exchange.IsSilence ⟨.store .listNames, answer⟩ := by
    rintro ⟨query, failure, heq, hquery⟩
    cases heq
    cases hquery
  cases answer with
  | ok custom =>
    obtain ⟨rfl, rfl⟩ := Job.ends_pure.mp hrest
    exact .of_text (by simpa using hlisting)
  | error failure =>
    obtain ⟨more, rfl, hmore⟩ := Job.ends_note_bind.mp hrest
    obtain ⟨rfl, rfl⟩ := Job.ends_pure.mp hmore
    refine .of_text (List.forall_mem_cons.mpr ⟨hlisting, ?_⟩)
    simp [Exchange.IsSilence]

/-- A job that asks the store for nothing leads to a text if it ends with one. -/
theorem Contained.of_asks {job : Job Reply} {asks : Request → Prop} (h : job.Ends path outcome)
    (hjob : job.AsksOnly asks) (hasks : ∀ request, asks request → request.area ≠ .store)
    (hreply : ∃ reply, outcome = .ok (.text reply)) : Contained path outcome := by
  obtain ⟨reply, rfl⟩ := hreply
  exact .of_text fun exchange he =>
    Exchange.not_isSilence_of_area (hasks _ ((h.within hjob).1 exchange he))

theorem OddsQuery.execute_contained {args sender : String}
    (h : (execute args sender).Ends path outcome) : Contained path outcome := by
  refine .of_asks h (execute_asks ..) (fun request hr => by simp [hr]) ?_
  rcases execute_ends h with ⟨refusal, -, hrefused⟩ | ⟨q, -, -, hanswered⟩
  · exact ⟨refusal, hrefused⟩
  · exact ⟨q.answer, hanswered⟩

theorem DataLine.execute_contained {dataPath args : String}
    (h : (execute dataPath args).Ends path outcome) (hdata : DataFails path) :
    Contained path outcome := by
  refine .of_asks h (execute_asks ..) (fun request hr => by rcases hr with hr | hr <;> simp [hr]) ?_
  obtain ⟨answer, rest, rfl, hrest⟩ := Job.ends_request_bind.mp h
  cases answer with
  | error fault =>
    have hfault : fault.isFileTrouble = true := hdata fault List.mem_cons_self
    rcases Job.ends_ite.mp hrest with ⟨hother, -⟩ | ⟨-, hnoted⟩
    · simp [hfault] at hother
    · obtain ⟨more, -, hmore⟩ := Job.ends_note_bind.mp hnoted
      exact ⟨_, (Job.ends_pure.mp hmore).2⟩
  | ok bytes =>
    dsimp only at hrest
    split at hrest
    · exact ⟨"", (Job.ends_pure.mp hrest).2⟩
    · obtain ⟨n, more, -, hmore⟩ := Job.ends_request_bind.mp hrest
      exact ⟨_, (Job.ends_pure.mp hmore).2⟩

theorem Admin.query_isSilenced (admin : Admin) (args : String) :
    (admin.query args).isSilenced = true := by
  cases admin with
  | custom action => cases action <;> rfl
  | trust action => cases action <;> rfl

theorem Admin.execute_contained {tools : Builtin.Tools} {registry : Registry Builtin}
    {admin : Admin} {args sender : String}
    (h : (Builtin.execute tools registry admin.builtin args sender).Ends path outcome) :
    Contained path outcome := by
  cases Admin.execute_course h with
  | refused _ hlog => exact .of_text hlog.not_isSilence
  | failed _ hfront hback => exact .of_failed (admin.query_isSilenced args) hfront hback
  | answered _ hfront hback =>
    refine .of_text fun exchange he => ?_
    rcases List.mem_append.mp he with he | he
    · exact hfront.not_isSilence exchange he
    rcases List.mem_cons.mp he with rfl | he
    · rintro ⟨query, failure, heq, -⟩
      cases heq
    · exact hback.not_isSilence exchange he

/-- A command that needs neither a service on the web nor the sandbox. -/
def Builtin.IsHomely : Builtin → Prop
  | .weather => False
  | .card => False
  | .node => False
  | _ => True

theorem Builtin.execute_contained {tools : Tools} {registry : Registry Builtin}
    {command : Builtin} {args sender : String} (hcommand : command.IsHomely)
    (h : (execute tools registry command args sender).Ends path outcome)
    (hdata : DataFails path) : Contained path outcome := by
  cases command with
  | ping =>
    obtain ⟨rfl, rfl⟩ := Job.ends_pure.mp h
    exact .of_text (by simp)
  | commands => exact Listing.execute_contained h
  | odds => exact OddsQuery.execute_contained h
  | dataLine => exact DataLine.execute_contained h hdata
  | custom action =>
    have hadmin : (execute tools registry (Admin.custom action).builtin args sender).Ends path
        outcome := h
    exact Admin.execute_contained hadmin
  | trust action =>
    have hadmin : (execute tools registry (Admin.trust action).builtin args sender).Ends path
        outcome := h
    exact Admin.execute_contained hadmin
  | weather | card | node => exact hcommand.elim

/-- The gate writes no table, and a look-up of trust that fails is told. -/
theorem Gate.isAllowed_tells {κ : Type} [IsCommand κ] {command : κ} {sender : String}
    {allowed : Except Failure Bool}
    (h : (liftM (isAllowed command sender) : Job Bool).Ends path allowed) :
    ∀ exchange ∈ path, ¬exchange.IsSilence ∧ exchange.request.isWrite = false := by
  have hasks : (liftM (isAllowed command sender) : Job Bool).AsksOnly fun request =>
      request = .store (.isTrusted sender) ∨ request.area = .log :=
    isAllowed_asks command (.inl rfl) fun _ => .inr
  intro exchange he
  rcases (h.within hasks).1 exchange he with hlookup | hlog
  · obtain ⟨request, answer⟩ := exchange
    obtain rfl : request = .store (.isTrusted sender) := hlookup
    refine ⟨?_, rfl⟩
    rintro ⟨query, failure, heq, hquery⟩
    cases heq
    cases hquery
  · exact ⟨Exchange.not_isSilence_of_area (by simp [hlog]),
      Request.isWrite_of_area (by simp [hlog])⟩

/-! ## Lines -/

theorem Dispatcher.resolveCustom_contained {name sender : String}
    (h : (resolveCustom name sender).Ends path outcome) : Contained path outcome := by
  obtain ⟨answer, rest, rfl, hrest⟩ := Job.ends_request_bind.mp h
  have hfound {response : Option String} :
      ¬Exchange.IsSilence ⟨.store (.findResponse name), .ok response⟩ := by
    rintro ⟨query, failure, heq, -⟩
    cases heq
  rcases answer with failure | _ | response
  · obtain ⟨more, rfl, hmore⟩ := Job.ends_note_bind.mp hrest
    obtain ⟨rfl, rfl⟩ := Job.ends_pure.mp hmore
    have hfailed (record : Log.Record) (hrecord : record.origin.isSandbox = false) :
        Contained ([] ++ ⟨.store (.findResponse name), .error failure⟩ :: [⟨.note record, ()⟩])
          (.ok (.text "")) := .of_failed rfl (List.forall_mem_nil _) (by simp [OnlyLog, hrecord])
    exact hfailed _ rfl
  · obtain ⟨more, rfl, hmore⟩ := Job.ends_note_bind.mp hrest
    obtain ⟨rfl, rfl⟩ := Job.ends_pure.mp hmore
    refine .of_text (List.forall_mem_cons.mpr ⟨hfound, ?_⟩)
    simp [Exchange.IsSilence]
  · obtain ⟨more, rfl, hmore⟩ := Job.ends_note_bind.mp hrest
    obtain ⟨rfl, rfl⟩ := Job.ends_pure.mp hmore
    refine .of_text (List.forall_mem_cons.mpr ⟨hfound, ?_⟩)
    simp [Exchange.IsSilence]

theorem Setup.resolveSubject_contained {text sender : String}
    (h : (Dispatcher.resolveSubject text sender).Ends path outcome) : Contained path outcome := by
  refine .of_asks h (resolveSubject_asks ..) (fun request hr => by simp [hr]) ?_
  rw [Dispatcher.resolveSubject] at h
  split at h
  · exact ⟨"", (Job.ends_pure.mp h).2⟩
  · obtain ⟨more, -, hmore⟩ := Job.ends_note_bind.mp h
    exact ⟨_, (Job.ends_pure.mp hmore).2⟩

namespace Setup

variable (setup : Setup) (text sender : String)

/-- The line calls no command that needs a service on the web or the sandbox. -/
def IsHomely : Prop :=
  ∀ command args, setup.called? text = some (command, args) → command.IsHomely

theorem resolve_contained (htext : setup.IsHomely text)
    (h : (setup.dispatcher.resolve text sender).Ends path outcome) (hdata : DataFails path) :
    Contained path outcome := by
  revert htext h
  refine setup.resolve_cases text sender
    (motive := fun called job => (∀ command args, called = some (command, args) →
      command.IsHomely) → job.Ends path outcome → Contained path outcome)
    (fun _ h => resolveSubject_contained h)
    (fun name _ h => Dispatcher.resolveCustom_contained h) fun command call hhomely h => ?_
  have hcommand : command.IsHomely := hhomely command call.args rfl
  -- a call that got its reply is written down
  have hinvoked {front : List Exchange} {found : Except Failure Reply}
      (hdata : DataFails front)
      (hfront : (Gate.invoke (Builtin.execute setup.tools setup.registry command) command call.args
        sender).Ends front found) : Contained front found := by
    rcases Job.ends_bind.mp hfront with
      ⟨asked, ran, allowed, rfl, hasked, hran⟩ | ⟨failure, hfailed, -⟩
    · have hcontained : Contained ran found := by
        rcases Job.ends_ite.mp hran with ⟨-, hrun⟩ | ⟨-, hdenied⟩
        · exact Builtin.execute_contained hcommand hrun fun fault hfault =>
            hdata fault (List.mem_append_right asked hfault)
        · obtain ⟨rfl, rfl⟩ := Job.ends_pure.mp hdenied
          exact .of_text (by simp)
      have happended := hcontained.append (Gate.isAllowed_tells hasked) (List.forall_mem_nil _)
      rwa [List.append_nil] at happended
    · obtain ⟨_, -, hnone⟩ := Job.ends_lift.mp hfailed
      cases hnone
  rcases Job.ends_bind.mp h with ⟨front, back, reply, rfl, hfront, hback⟩ | ⟨failure, hfailed, rfl⟩
  · have hcontained := hinvoked (fun fault hfault => hdata fault (List.mem_append_left back hfault))
      hfront
    obtain ⟨rest, rfl, hrest⟩ := Job.ends_note_bind.mp hback
    obtain ⟨rfl, rfl⟩ := Job.ends_pure.mp hrest
    have happended := hcontained.append (List.forall_mem_nil _)
      (by simp [OnlyLog, Dispatcher.callRecord, Log.Origin.isSandbox] :
        OnlyLog [⟨.note (Dispatcher.callRecord .debug sender call.name ("@" ++ sender ++
          " triggered builtin command `" ++ call.name ++ "` with args `" ++ call.args ++
          "`. Response: " ++ reply.shown)), ()⟩])
    exact happended
  · exact hinvoked hdata hfailed

end Setup

/-! ## Saying a reply -/

/-- What is done to say a reply through `send`, and how often `send` is called for it: an empty
    reply is kept back, and a call that fails is written down. -/
inductive Said (send : Reply → Job Unit) (reply : Reply) : (calls : Nat) → List Exchange → Prop
  | kept : reply.isEmpty = true → Said send reply 0 []
  | sent {path : List Exchange} :
      reply.isEmpty = false → (send reply).Ends path (.ok ()) → Said send reply 1 path
  | failed {path : List Exchange} {failure : Failure} :
      reply.isEmpty = false → (send reply).Ends path (.error failure) →
      Said send reply 1 (path ++ [⟨.note (Dispatcher.record .error
        ("Failed to send message: " ++ failure.shown)), ()⟩])

namespace Said

variable {send : Reply → Job Unit} {reply : Reply} {calls : Nat}

theorem calls_le (h : Said send reply calls path) : calls ≤ 1 := by
  cases h <;> simp

/-- An empty reply is kept back. -/
theorem of_empty (h : Said send reply calls path) (hreply : reply.isEmpty = true) :
    calls = 0 ∧ path = [] := by
  cases h with
  | kept => exact ⟨rfl, rfl⟩
  | sent hfull => simp [hreply] at hfull
  | failed hfull => simp [hreply] at hfull

/-- Whatever becomes of it, saying a reply does not fail. -/
theorem of_ends {ending : Except Failure Unit}
    (h : (if !reply.isEmpty then Dispatcher.say send reply else pure () : Job Unit).Ends path
      ending) : ending = .ok () ∧ ∃ calls, Said send reply calls path := by
  rcases Job.ends_ite.mp h with ⟨hfull, hsaid⟩ | ⟨hempty, hdone⟩
  · replace hfull : reply.isEmpty = false := by simpa using hfull
    rcases Job.ends_tryCatch.mp hsaid with
      ⟨_, hsent, rfl⟩ | ⟨front, back, failure, rfl, hfailed, hback⟩
    · exact ⟨rfl, 1, .sent hfull hsent⟩
    · obtain ⟨rfl, rfl⟩ := Job.ends_note.mp hback
      exact ⟨rfl, 1, .failed hfull hfailed⟩
  · obtain ⟨rfl, rfl⟩ := Job.ends_pure.mp hdone
    exact ⟨rfl, 0, .kept (by simpa using hempty)⟩

end Said

/-- Queries that fail change no table. -/
theorem Store.Database.AnswersAll.sameTables_of_silence {db last : Store.Database}
    (h : db.AnswersAll path last)
    (hwrites : ∀ exchange ∈ path, exchange.request.isWrite = true → exchange.IsSilence) :
    last.SameTables db := by
  induction h with
  | nil db => exact fun _ => rfl
  | @cons db next last exchange rest hfirst _ ih =>
    obtain ⟨hwrite, hrest⟩ := List.forall_mem_cons.mp hwrites
    have hsame : next.SameTables db := by
      cases hread : exchange.request.isWrite with
      | false => exact hfirst.sameTables hread
      | true =>
        obtain ⟨query, failure, rfl, -⟩ := hwrite hread
        exact hfirst.sameTables_of_error
    exact fun name => (ih hrest name).trans (hsame name)

/-- **Containment.** Whatever says the replies, whatever the line and its sender, whatever tables
    there are, and whatever fails meanwhile: if the line needs neither a service on the web nor the
    sandbox, and the data file can only fail with trouble with files, handling it ends well. It goes
    to a text without any way to say it, and then the text is said once at most, and never again
    after that failed. If a statement of a command that changes a table failed, or the look-up of a
    custom command, nothing is said, and both tables are what they were. -/
theorem failures_contained (setup : Setup) (send : Reply → Job Unit) (text sender : String)
    (surroundings : Surroundings) (world : World) (htext : setup.IsHomely text)
    (hdata : ∀ asked fault, surroundings.answer asked .readData = .error fault →
      fault.isFileTrouble = true) :
    let run := (setup.dispatcher.handle send text sender).attempt.record
      (World.answer surroundings) world
    run.2.1 = .ok () ∧
      ∃ found said reply calls, run.1 = found ++ said ∧
        (setup.dispatcher.resolve text sender).Ends found (.ok (.text reply)) ∧
        (∀ exchange ∈ found, exchange.request.area ≠ .channel) ∧
        Said send (.text reply) calls said ∧ calls ≤ 1 ∧
        ((∃ exchange ∈ found, exchange.IsSilence) →
          calls = 0 ∧ said = [] ∧ run.2.2.db.SameTables world.db) := by
  intro run
  have hends : (setup.dispatcher.handle send text sender).Ends run.1 run.2.1 :=
    World.ends_record surroundings _ world
  have hfile : DataFails run.1 := by
    intro fault hmem
    obtain ⟨earlier, hanswer⟩ := World.mem_record hmem
    exact hdata earlier.asked fault hanswer.symm
  rcases Job.ends_bind.mp hends with
    ⟨found, said, reply, hpath, hfound, hsaid⟩ | ⟨failure, hfailed, -⟩
  · have hcontained := setup.resolve_contained text sender htext hfound fun fault hmem =>
      hfile fault (hpath ▸ List.mem_append_left said hmem)
    obtain ⟨shown, hshown⟩ := hcontained.replies
    obtain rfl := Except.ok.inj hshown
    obtain ⟨hok, calls, hcalls⟩ := Said.of_ends hsaid
    refine ⟨hok, found, said, shown, calls, hpath, hfound,
      (hfound.within (setup.resolve_not_channel text sender)).1, hcalls, hcalls.calls_le, ?_⟩
    intro hsilence
    obtain ⟨hempty, hwrites⟩ := hcontained.silent hsilence
    obtain rfl := Reply.text.inj (Except.ok.inj hempty)
    obtain ⟨hnone, rfl⟩ := hcalls.of_empty rfl
    have hanswers := World.answersAll_record surroundings
      (setup.dispatcher.handle send text sender).attempt world
    rw [hpath, List.append_nil] at hanswers
    exact ⟨hnone, rfl, hanswers.sameTables_of_silence hwrites⟩
  · obtain ⟨reply, hreply⟩ := (setup.resolve_contained text sender htext hfailed hfile).replies
    cases hreply

/-- Alice makes a command, and the statement breaks off. -/
theorem failures_contained_broken :
    let setup := Setup.ofRun {} {}
    let broken : Surroundings :=
      { Surroundings.calm with condition := fun asked =>
          if asked = 1 then .breaks 0 (.told "disk I/O error") else .good }
    let world : World := { db := ((Store.Database.fresh "bot.db").trust "alice").2 }
    let run := (setup.dispatcher.handle (Channel.send setup.channel) "!addcmd hi hello"
      "alice").attempt.record (World.answer broken) world
    setup.IsHomely "!addcmd hi hello" ∧
      (∀ asked fault, broken.answer asked .readData = .error fault →
        fault.isFileTrouble = true) ∧
      run.2.1 = .ok () ∧ Exchange.sent run.1 = [] ∧
      run.2.2.db.trusted.map (fun table => table.rows.map (·.user)) = some ["alice"] ∧
      run.2.2.db.commands.map (fun table => table.rows.map (·.name)) = some [] := by
  intro setup broken world run
  have htext : setup.IsHomely "!addcmd hi hello" := by
    intro command args hcalled
    have hcommand : setup.called? "!addcmd hi hello" = some (.custom .create, "hi hello") := by
      decide +kernel
    obtain ⟨rfl, -⟩ := Prod.mk.inj (Option.some.inj (hcommand.symm.trans hcalled))
    trivial
  have hdata : ∀ asked fault, broken.answer asked .readData = .error fault →
      fault.isFileTrouble = true := by
    intro asked fault hfault
    obtain rfl : Fault.missingFile = fault := Except.error.inj hfault
    rfl
  have hrun := failures_contained setup (Channel.send setup.channel) "!addcmd hi hello" "alice"
    broken world htext hdata
  exact ⟨htext, hdata, hrun.1, by decide +kernel, by decide +kernel, by decide +kernel⟩

end ChatWarden
