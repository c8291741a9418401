import ChatWarden.Proofs.Store.Answers

/-!
# The history of a database

A run of calls of both stores leaves a history: the writes that were carried out, each with the
time that the clock said and with what it came to. The history is written down beside the run, from
the calls and what they yield. The tables after the run are what the writes of the history make of
the tables before it, so what rows tell of the past can be proved write by write.

Results:
* `call_unfolds` and `make_unfolds`: a call, and a run of calls, carry out their history and change
  no table otherwise.
* `Unfolds.increase`: every write comes later than the one before.
* `Unfolds.induct`: what holds at first and is kept by every write holds along the whole history.
-/

namespace ChatWarden.Store

/-! ## Calls of both stores -/

/-- Calls of one store or of another one. -/
instance {κ ι : Type} [StoreCall κ] [StoreCall ι] : StoreCall (κ ⊕ ι) where
  Result := Sum.elim StoreCall.Result StoreCall.Result
  perform condition
    | .inl call => StoreCall.perform condition call
    | .inr call => StoreCall.perform condition call

/-- A call of the store of commands or of that of trusted users. -/
abbrev AnyCall := CommandCall ⊕ TrustCall

/-! ## Events -/

/-- A write that was carried out. -/
structure Event where
  write : Query
  /-- The time that the clock said. -/
  tick : Tick
  /-- Whether a row was added or changed. -/
  effective : Bool
  deriving DecidableEq, Repr

namespace Query

/-- Whether a write adds or changes a row, by its answer. Revoking trust does not tell in its
    answer whether the user was trusted. -/
def isEffective (db : Database) : (query : Query) → query.Result → Bool
  | .createCommand _ _, created => created
  | .updateCommand _ _, updated => updated
  | .deleteCommand _, deleted => deleted
  | .trust _, _ => true
  | .untrust user, _ => db.trusted.any (TrustTable.isTrusted user)
  | .isTrusted _, _ => false
  | .findResponse _, _ => false
  | .listNames, _ => false

/-- What a query makes of the tables. -/
def rewrite (query : Query) (now : Tick) : (name : TableName) → Table name.Row → Table name.Row
  | .commands, table =>
    match query with
    | .createCommand name response => (CommandTable.create now name response table).1
    | .updateCommand name response => (CommandTable.update now name response table).1
    | .deleteCommand name => (CommandTable.delete now name table).1
    | _ => table
  | .trusted, table =>
    match query with
    | .trust user => TrustTable.trust now user table
    | .untrust user => TrustTable.untrust now user table
    | _ => table

theorem rewrite_self (query : Query) (now : Tick) (table : Table query.table.Row) :
    query.rewrite now query.table table = (query.statement now table).1 := by
  cases query <;> rfl

theorem rewrite_of_ne {query : Query} {name : TableName} (h : name ≠ query.table) (now : Tick)
    (table : Table name.Row) : query.rewrite now name table = table := by
  cases name <;> cases query <;> first | rfl | exact absurd rfl h

/-- The events of a query: one if it succeeds. -/
def events (condition : Condition) (db : Database) (query : Query) : List Event :=
  match condition.perform (·.answer query) db with
  | (.ok result, after) => [⟨query, after.clock, query.isEffective db result⟩]
  | (.error _, _) => []

end Query

/-- The events of trusting users one after the other, up to the first failure. -/
def Database.grants (db : Database) : List String → List Event
  | [] => []
  | user :: rest =>
    match db.trust user with
    | (.error _, _) => []
    | (.ok (), next) => ⟨.trust user, next.clock, true⟩ :: next.grants rest

/-- The events of a call of the store of commands. -/
def CommandCall.events (condition : Condition) (db : Database) : CommandCall → List Event
  | .create name response => (Query.createCommand name response).events condition db
  | .update name response => (Query.updateCommand name response).events condition db
  | .delete name => (Query.deleteCommand name).events condition db
  | .find _ => []
  | .list => []
  | .reopen => []

/-- The events of a call of the store of trusted users. Seeding trusts one user after the other,
    and those who come before it breaks off are trusted. -/
def TrustCall.events (condition : Condition) (db : Database) : TrustCall → List Event
  | .trust user => (Query.trust user).events condition db
  | .untrust user => (Query.untrust user).events condition db
  | .seed users =>
    match condition with
    | .stands medium => Database.grants { db with medium } users
    | .breaks done _ => Database.grants { db with medium := .database } (users.take done)
  | .isTrusted _ => []
  | .list => []
  | .reopen => []

/-- The events of a call. -/
def AnyCall.events (condition : Condition) (db : Database) : AnyCall → List Event
  | .inl call => call.events condition db
  | .inr call => call.events condition db

/-- The history of a run of calls. -/
def Database.history : List (Condition × AnyCall) → Database → List Event
  | [], _ => []
  | (condition, call) :: rest, db =>
    AnyCall.events condition db call ++ history rest (StoreCall.perform condition call db).2

namespace Database

/-! ## Time -/

section Time

variable {α : Type}

@[simp] theorem clock_withTable (db : Database) (name : TableName) (table : Table name.Row) :
    (db.withTable name table).clock = db.clock := by
  cases name <;> rfl

theorem le_clock_onCommands (db : Database) (deed : Deed) (asksClock : Bool)
    (statement : Tick → CommandTable → CommandTable × α) :
    db.clock ≤ (db.onCommands deed asksClock statement).2.clock := by
  have htick : db.clock ≤ (if asksClock = true then db.ticked else db).clock := by
    split
    · exact Nat.le_succ _
    · exact Nat.le_refl _
  unfold onCommands
  split
  · exact Nat.le_refl _
  · dsimp only
    split
    · exact htick
    · exact htick

theorem le_clock_onTrusted (db : Database) (deed : Deed)
    (statement : Tick → TrustTable → TrustTable × α) :
    db.clock ≤ (db.onTrusted deed statement).2.clock := by
  unfold onTrusted
  split
  · exact Nat.le_refl _
  · split <;> exact Nat.le_refl _

/-- No query turns the clock back. -/
theorem le_clock_answer (query : Query) (db : Database) :
    db.clock ≤ (db.answer query).2.clock := by
  have hticked : db.clock ≤ db.ticked.clock := Nat.le_succ _
  cases query with
  | isTrusted user => exact le_clock_onTrusted ..
  | trust user => exact hticked.trans (le_clock_onTrusted ..)
  | untrust user => exact hticked.trans (le_clock_onTrusted ..)
  | findResponse name => exact le_clock_onCommands ..
  | createCommand name response => exact hticked.trans (le_clock_onCommands ..)
  | updateCommand name response => exact le_clock_onCommands ..
  | deleteCommand name => exact le_clock_onCommands ..
  | listNames =>
    show db.clock ≤ db.listCommands.2.clock
    exact le_clock_onCommands ..

end Time

/-! ## Unfolding -/

/-- Time may pass, and a table that was missing may be there, with no rows. -/
structure Rests (before after : Database) : Prop where
  clock_le : before.clock ≤ after.clock
  tables : ∀ name, after.table? name = before.table? name ∨
    before.table? name = none ∧ after.table? name = some {}

theorem Rests.of_moved (db : Database) {medium : Medium} {clock : Tick} (h : db.clock ≤ clock) :
    db.Rests { db with medium, clock } where
  clock_le := h
  tables _ := .inl (table?_moved ..)

/-- A table that is there stays as it is. -/
theorem Rests.table?_of_some {db next : Database} (h : db.Rests next) (name : TableName)
    {table : Table name.Row} (ht : db.table? name = some table) :
    next.table? name = some table := by
  rcases h.tables name with hsame | ⟨hnone, -⟩
  · exact hsame.trans ht
  · exact absurd (ht.symm.trans hnone) (by simp)

end Database

/-- The write of an event is carried out, later than everything before. -/
structure Event.Happens (event : Event) (before after : Database) : Prop where
  later : before.clock < event.tick
  tick_eq : event.tick = after.clock
  tables : ∀ name, after.table? name =
    (before.table? name).map (event.write.rewrite event.tick name)
  effective : ∀ table, before.table? event.write.table = some table →
    event.effective = event.write.isEffective before (event.write.statement event.tick table).2

theorem Event.Happens.table?_of_some {event : Event} {before after : Database}
    (h : event.Happens before after) (name : TableName) {table : Table name.Row}
    (ht : before.table? name = some table) :
    after.table? name = some (event.write.rewrite event.tick name table) := by
  rw [h.tables, ht, Option.map_some]

namespace Database

/-- The events are carried out one after the other, and no table is changed otherwise. -/
inductive Unfolds : Database → List Event → Database → Prop
  | refl (db : Database) : Unfolds db [] db
  | rest {db next last : Database} {events : List Event} :
      db.Rests next → Unfolds next events last → Unfolds db events last
  | event {db next last : Database} {event : Event} {events : List Event} :
      event.Happens db next → Unfolds next events last → Unfolds db (event :: events) last

namespace Unfolds

variable {db middle last : Database} {events more : List Event}

theorem append (h : db.Unfolds events middle) (h' : middle.Unfolds more last) :
    db.Unfolds (events ++ more) last := by
  induction h with
  | refl db => exact h'
  | rest hrests _ ih => exact .rest hrests (ih h')
  | event hhappens _ ih => exact .event hhappens (ih h')

theorem of_rests (h : db.Rests last) : db.Unfolds [] last := .rest h (.refl last)

/-- What holds at first and is kept by every event holds along the whole history. -/
theorem induct {motive : List Event → Database → Prop}
    (hrest : ∀ past db next, motive past db → db.Rests next → motive past next)
    (hevent : ∀ past db next event, motive past db → event.Happens db next →
      motive (past ++ [event]) next)
    (h : db.Unfolds events last) (hfirst : motive [] db) : motive events last := by
  -- some events may be past already
  have hfrom (past : List Event) (hpast : motive past db) : motive (past ++ events) last := by
    clear hfirst
    induction h generalizing past with
    | refl db => rwa [List.append_nil]
    | rest hrests _ ih => exact ih past (hrest _ _ _ hpast hrests)
    | event hhappens _ ih =>
      rw [List.append_cons]
      exact ih _ (hevent _ _ _ _ hpast hhappens)
  exact hfrom [] hfirst

/-- Every write comes later than the one before. -/
theorem increase (h : db.Unfolds events last) : (events.map Event.tick).Pairwise (· < ·) := by
  refine (h.induct (motive := fun past db =>
    (past.map Event.tick).Pairwise (· < ·) ∧ ∀ event ∈ past, event.tick ≤ db.clock)
    (fun past db next ⟨hpast, hle⟩ hrests => ?_)
    (fun past db next event ⟨hpast, hle⟩ hhappens => ?_) (by simp)).1
  · exact ⟨hpast, fun event he => (hle event he).trans hrests.clock_le⟩
  · have hlt (old : Event) (ho : old ∈ past) : old.tick < event.tick :=
      Nat.lt_of_le_of_lt (hle old ho) hhappens.later
    refine ⟨?_, fun old ho => ?_⟩
    · rw [List.map_append, List.map_singleton, List.pairwise_append]
      refine ⟨hpast, List.pairwise_singleton .., fun tick htick new hnew => ?_⟩
      obtain ⟨old, ho, rfl⟩ := List.mem_map.mp htick
      obtain rfl := List.mem_singleton.mp hnew
      exact hlt old ho
    · rw [← hhappens.tick_eq]
      rcases List.mem_append.mp ho with ho | ho
      · exact (hlt old ho).le
      · rw [List.mem_singleton.mp ho]

end Unfolds

/-! ## Calls -/

section Calls

variable {α : Type} {name : TableName} {operation : Database → Step α} {ticks : Nat}
  {statement : Tick → Table name.Row → Table name.Row × α}

/-- `IsStatement.perform_cases` with the time that passes. -/
theorem IsStatement.perform_timed (h : IsStatement name operation ticks statement)
    (htime : ∀ db, db.clock ≤ (operation db).2.clock) (condition : Condition) (db : Database) :
    (∃ table, db.table? name = some table ∧
      condition.perform operation db = (.ok (statement (db.clock + ticks) table).2,
        { db with medium := .database, clock := db.clock + ticks }.withTable name
          (statement (db.clock + ticks) table).1)) ∨
    (∃ failure medium clock, db.clock ≤ clock ∧
      condition.perform operation db = (.error failure, { db with medium, clock })) := by
  cases condition with
  | breaks done failure => exact .inr ⟨failure, db.medium, db.clock, Nat.le_refl _, rfl⟩
  | stands medium =>
    by_cases hf : medium ≠ .database ∨ db.table? name = none
    · obtain ⟨failure, clock, hs⟩ := h.failed { db with medium } (by simpa using hf)
      have hle := htime { db with medium }
      rw [hs] at hle
      exact .inr ⟨failure, medium, clock, hle, hs⟩
    · obtain ⟨rfl, ht⟩ : medium = .database ∧ db.table? name ≠ none := by simpa using hf
      obtain ⟨table, ht⟩ := Option.ne_none_iff_exists'.mp ht
      exact .inl ⟨table, ht, h.done { db with medium := .database } rfl (by simpa using ht)⟩

/-- An operation that only reads changes no table. -/
theorem IsStatement.rests_of_read (h : IsStatement name operation ticks statement)
    (htime : ∀ db, db.clock ≤ (operation db).2.clock)
    (hread : ∀ now table, (statement now table).1 = table) (condition : Condition)
    (db : Database) : db.Rests (condition.perform operation db).2 := by
  rcases h.perform_timed htime condition db with
    ⟨table, ht, hs⟩ | ⟨failure, medium, clock, hle, hs⟩
  · rw [hs, hread]
    refine ⟨by simp, fun other => .inl ?_⟩
    by_cases ho : other = name
    · subst ho
      rw [table?_withTable_self, ht]
    · rw [table?_withTable_of_ne ho, table?_moved]
  · rw [hs]
    exact Rests.of_moved db hle

end Calls

/-- A write asks the clock once. -/
theorem write_isStatement {query : Query} (hw : query.isWrite = true) :
    IsStatement query.table (·.answer query) 1 query.statement := by
  cases query with
  | trust user => exact trust_isStatement user
  | untrust user => exact untrust_isStatement user
  | createCommand name response => exact createCommand_isStatement name response
  | updateCommand name response => exact updateCommand_isStatement name response
  | deleteCommand name => exact deleteCommand_isStatement name
  | isTrusted user => cases hw
  | findResponse name => cases hw
  | listNames => cases hw

/-- A write that succeeds is carried out, and one that fails changes nothing. -/
theorem write_unfolds {query : Query} (hw : query.isWrite = true) (condition : Condition)
    (db : Database) :
    db.Unfolds (query.events condition db) (condition.perform (·.answer query) db).2 := by
  rcases (write_isStatement hw).perform_timed (le_clock_answer query) condition db with
    ⟨table, ht, hs⟩ | ⟨failure, medium, clock, hle, hs⟩
  · rw [Query.events, hs]
    refine .event ⟨?_, rfl, fun name => ?_, fun found hfound => ?_⟩ (.refl _)
    · simp
    · by_cases hn : name = query.table
      · subst hn
        rw [table?_withTable_self, ht, Option.map_some, Query.rewrite_self]
        simp
      · have hkept : query.rewrite (db.clock + 1) name = id :=
          funext fun table => Query.rewrite_of_ne hn _ table
        rw [table?_withTable_of_ne hn, table?_moved]
        simp [hkept]
    · obtain rfl : table = found := Option.some.inj (ht.symm.trans hfound)
      simp
  · rw [Query.events, hs]
    exact .of_rests (Rests.of_moved db hle)

/-- Trusting users one after the other carries out the trusts up to the first failure. -/
theorem trustAll_unfolds (users : List String) :
    ∀ db : Database, db.Unfolds (db.grants users) (db.trustAll users).2 := by
  induction users with
  | nil => exact .refl
  | cons user rest ih =>
    intro db
    have hfirst := @write_unfolds (.trust user) rfl (.stands db.medium) db
    have hperform : Condition.perform (.stands db.medium) (·.answer (.trust user)) db =
        db.trust user := rfl
    rw [Query.events, hperform] at hfirst
    rw [grants, trustAll]
    rcases hs : db.trust user with ⟨failure | done, next⟩
    · rw [hs] at hfirst
      exact hfirst
    · rw [hs] at hfirst
      exact hfirst.append (ih next)

/-- Opening a store changes no row. -/
theorem migrate_rests (name : TableName) (condition : Condition) (db : Database) :
    db.Rests (condition.perform (·.migrate name) db).2 := by
  cases condition with
  | breaks done failure => exact Rests.of_moved db (Nat.le_refl _)
  | stands medium =>
    cases medium with
    | directory => exact Rests.of_moved db (Nat.le_refl _)
    | junk => exact Rests.of_moved db (Nat.le_refl _)
    | database =>
      obtain ⟨path, medium, commands, trusted, clock⟩ := db
      have hopened {ρ : Type} (table : Option (Table ρ)) :
          some (table.getD {}) = table ∨ table = none ∧ some (table.getD {}) = some {} := by
        cases table with
        | none => exact .inr ⟨rfl, rfl⟩
        | some table => exact .inl rfl
      cases name with
      | commands =>
        refine ⟨Nat.le_refl clock, fun other => ?_⟩
        cases other with
        | commands => exact hopened commands
        | trusted => exact .inl rfl
      | trusted =>
        refine ⟨Nat.le_refl clock, fun other => ?_⟩
        cases other with
        | commands => exact .inl rfl
        | trusted => exact hopened trusted

/-- A call carries out its events and changes no table otherwise. -/
theorem call_unfolds (condition : Condition) (call : AnyCall) (db : Database) :
    db.Unfolds (AnyCall.events condition db call) (StoreCall.perform condition call db).2 := by
  cases call with
  | inl call =>
    cases call with
    | create name response => exact write_unfolds rfl condition db
    | update name response => exact write_unfolds rfl condition db
    | delete name => exact write_unfolds rfl condition db
    | find name =>
      exact .of_rests ((response?_isStatement name).rests_of_read
        (le_clock_answer (.findResponse name)) (fun _ _ => rfl) condition db)
    | list =>
      exact .of_rests (listCommands_isStatement.rests_of_read (le_clock_answer .listNames)
        (fun _ _ => rfl) condition db)
    | reopen => exact .of_rests (migrate_rests .commands condition db)
  | inr call =>
    cases call with
    | trust user => exact write_unfolds rfl condition db
    | untrust user => exact write_unfolds rfl condition db
    | isTrusted user =>
      exact .of_rests ((isTrusted_isStatement user).rests_of_read
        (le_clock_answer (.isTrusted user)) (fun _ _ => rfl) condition db)
    | list =>
      exact .of_rests (listTrusted_isStatement.rests_of_read
        (fun db => le_clock_onTrusted db .listTrusted _) (fun _ _ => rfl) condition db)
    | seed users =>
      cases condition with
      | breaks done failure =>
        exact .rest (Rests.of_moved db (Nat.le_refl _)) (trustAll_unfolds (users.take done) _)
      | stands medium =>
        show db.Unfolds _ ((Database.seed { db with medium } users).value).2
        rw [seed_value]
        exact .rest (Rests.of_moved db (Nat.le_refl _)) (trustAll_unfolds users _)
    | reopen => exact .of_rests (migrate_rests .trusted condition db)

/-- A run of calls carries out its history and changes no table otherwise. -/
theorem make_unfolds (calls : List (Condition × AnyCall)) :
    ∀ db : Database, db.Unfolds (db.history calls) (db.make calls).2 := by
  induction calls with
  | nil => exact .refl
  | cons first rest ih =>
    intro db
    obtain ⟨condition, call⟩ := first
    exact (call_unfolds condition call db).append (ih _)

end Database

end ChatWarden.Store
