import ChatWarden.Proofs.Store.CommandMap
import Mathlib.Data.Set.Insert

/-!
# The store of trusted users is a set

Revoking trust deletes a row and granting it again revives that row, so a user never has two. What
the live rows say is a set of users, which granting, revoking and seeding change as they should,
over any number of restarts on the same file.

Results:
* `TrustCall.step`: every call does to the set what it stands for, or fails and leaves it.
* `Database.Reachable.keysDistinct`: calls lead to no database in which a key has two rows.
* `trustStore_refines_set`: so does every run of calls on every reachable database.
-/

namespace ChatWarden.Store

/-! ## Calls and what they stand for -/

/-- A call of the store of trusted users. -/
inductive TrustCall where
  | trust (user : String)
  | untrust (user : String)
  | isTrusted (user : String)
  | list
  | seed (users : List String)
  /-- The store is opened again on the same file. -/
  | reopen
  deriving DecidableEq, Repr

namespace TrustCall

/-- What a call yields if it succeeds. -/
abbrev Result : TrustCall → Type
  | .trust _ => Unit
  | .untrust _ => Unit
  | .isTrusted _ => Bool
  | .list => List TrustRow
  | .seed _ => Nat
  | .reopen => Unit

/-- The operation on the database behind a call. -/
def operation : (call : TrustCall) → Database → Database.Step call.Result
  | .trust user => (·.trust user)
  | .untrust user => (·.untrust user)
  | .isTrusted user => (·.isTrusted user)
  | .list => Database.listTrusted
  | .seed users => fun db => (db.seed users).value
  | .reopen => (·.migrate .trusted)

/-- Makes a call under a condition. Only seeding is more than one statement: if it breaks off, the
    users before are trusted already. -/
def perform (condition : Condition) (call : TrustCall) (db : Database) :
    Database.Step call.Result :=
  match call with
  | .seed users =>
    match condition with
    | .stands medium => ({ db with medium }.seed users).value
    | .breaks done failure =>
      (.error failure, ({ db with medium := .database }.trustAll (users.take done)).2)
  | call => condition.perform call.operation db

/-- All calls but seeding are one statement. -/
theorem perform_of_ne_seed {condition : Condition} {call : TrustCall}
    (h : ∀ users, call ≠ .seed users) {db : Database} :
    call.perform condition db = condition.perform call.operation db := by
  cases call with
  | seed users => exact absurd rfl (h users)
  | _ => rfl

instance : StoreCall TrustCall where
  Result := Result
  perform := perform

/-- The result of a call and the set after it are what they should be for the set before it. -/
def Meets : (call : TrustCall) → (before : Set String) → call.Result → (after : Set String) → Prop
  | .trust user, before, _, after => after = insert user before
  | .untrust user, before, _, after => after = before \ {user}
  | .isTrusted user, before, answer, after => (answer = true ↔ user ∈ before) ∧ after = before
  | .list, before, rows, after =>
    (rows.map (·.user)).Pairwise (· < ·) ∧ (∀ user, user ∈ rows.map (·.user) ↔ user ∈ before) ∧
      after = before
  | .seed users, before, count, after =>
    count = users.length ∧ after = before ∪ {user | user ∈ users}
  | .reopen, before, _, after => after = before

/-- What a call that fails may leave behind: seeding may have trusted the first users, all other
    calls change nothing. -/
def MayLeave : (call : TrustCall) → (before after : Set String) → Prop
  | .seed users, before, after => ∃ n, after = before ∪ {user | user ∈ users.take n}
  | _, before, after => after = before

end TrustCall

/-! ## Statements on the table -/

namespace TrustTable

/-- The users whom a table trusts. -/
def members (table : TrustTable) : Set String := {user | isTrusted user table = true}

theorem mem_members_iff {table : TrustTable} {user : String} :
    user ∈ table.members ↔ ∃ row ∈ table.rows, row.user = user ∧ isLive row = true := by
  simp [members, isTrusted, Table.live?]

theorem mem_members_iff_find? {table : TrustTable} (h : table.Distinct) {user : String} :
    user ∈ table.members ↔ ((table.find? user).filter isLive).isSome = true := by
  rw [← Table.live?_eq_filter h]
  rfl

variable {now : Tick} {user : String} {table : TrustTable}

theorem trust_distinct (h : table.Distinct) : (trust now user table).Distinct :=
  h.insertOrUpdate (fun _ => rfl) fun _ _ hc => by cases hc; rfl

theorem untrust_distinct (h : table.Distinct) : (untrust now user table).Distinct :=
  h.updateLive fun _ => rfl

theorem find?_trust (other : String) :
    (trust now user table).find? other =
      if other = user then
        some ((table.find? user).elim ⟨table.lastId + 1, user, now, now, none⟩
          fun row => { row with updatedAt := now, deletedAt := none })
      else table.find? other := by
  unfold trust
  exact Table.find?_insertOrUpdate (by intro _; rfl) (by intro _ _ hc; cases hc; rfl) other

theorem find?_untrust (other : String) :
    (untrust now user table).find? other =
      (table.find? other).map fun row =>
        if other = user ∧ isLive row then { row with updatedAt := now, deletedAt := some now }
        else row := by
  unfold untrust
  exact Table.find?_updateLive (by intro _; rfl) other

theorem members_trust (h : table.Distinct) :
    (trust now user table).members = insert user table.members := by
  ext other
  rw [Set.mem_insert_iff, mem_members_iff_find? (trust_distinct h), mem_members_iff_find? h,
    find?_trust]
  by_cases ho : other = user
  · subst ho
    cases hf : table.find? other <;> simp [isLive, Row.deletedAt]
  · simp [ho]

theorem members_untrust (h : table.Distinct) :
    (untrust now user table).members = table.members \ {user} := by
  ext other
  rw [Set.mem_sdiff, Set.mem_singleton_iff, mem_members_iff_find? (untrust_distinct h),
    mem_members_iff_find? h, find?_untrust]
  cases hf : table.find? other with
  | none => simp
  | some row =>
    by_cases ho : other = user
    · cases hl : isLive row with
      | true => simp [ho, hl]; rfl
      | false => simp [ho, hl]
    · simp [ho]

theorem mem_liveSorted_iff : user ∈ table.liveSorted.map (·.user) ↔ user ∈ table.members := by
  rw [mem_members_iff]
  simp only [List.mem_map, Table.mem_liveSorted]
  constructor
  · rintro ⟨row, ⟨hr, hl⟩, hu⟩
    exact ⟨row, hr, hu, hl⟩
  · rintro ⟨row, hr, hu, hl⟩
    exact ⟨row, ⟨hr, hl⟩, hu⟩

end TrustTable

/-! ## Calls on the database -/

namespace Database

/-- The user has a live row in the table of trusted users. -/
def Trusts (db : Database) (user : String) : Prop :=
  ∃ table, db.trusted = some table ∧ ∃ row ∈ table.rows, row.user = user ∧ isLive row = true

/-- The users with a live row. -/
def trustedUsers (db : Database) : Set String := {user | db.Trusts user}

theorem trustedUsers_of_some {db : Database} {table : TrustTable} (h : db.trusted = some table) :
    db.trustedUsers = table.members := by
  ext user
  rw [TrustTable.mem_members_iff]
  simp [trustedUsers, Trusts, h]

/-! ## Seeding -/

theorem seed_value (db : Database) (users : List String) :
    (db.seed users).value =
      ((db.trustAll users).1.map fun _ => users.length, (db.trustAll users).2) := by
  unfold seed
  rcases db.trustAll users with ⟨failure | done, after⟩
  · rfl
  · cases users <;> rfl

/-- If the database is available, all users are trusted. -/
theorem trustAll_done (users : List String) :
    ∀ (db : Database) {table : TrustTable}, db.medium = .database → db.trusted = some table →
      table.Distinct → ∃ clock last, last.Distinct ∧
        last.members = table.members ∪ {user | user ∈ users} ∧
        db.trustAll users = (.ok (), { db with clock, trusted := some last }) := by
  induction users with
  | nil =>
    intro db table _ ht hd
    exact ⟨db.clock, table, hd, by simp, by rw [← ht]; rfl⟩
  | cons user rest ih =>
    intro db table hm ht hd
    have hfirst := (trust_isStatement user).done db hm ht
    obtain ⟨clock, last, hlast, hmembers, hrest⟩ := ih
      { db with
        clock := db.clock + 1
        trusted := some (TrustTable.trust (db.clock + 1) user table) }
      hm rfl (TrustTable.trust_distinct hd)
    refine ⟨clock, last, hlast, ?_, ?_⟩
    · rw [hmembers, TrustTable.members_trust hd]
      ext other
      simp only [Set.mem_union, Set.mem_insert_iff, Set.mem_ofPred_eq, List.mem_cons]
      tauto
    · rw [trustAll, show db.trust user = _ from hfirst]
      exact hrest

/-- If the database is not available, no user is trusted, and only the empty list does not fail. -/
theorem trustAll_failed (db : Database) (hm : db.medium ≠ .database) (users : List String) :
    ∃ clock, (db.trustAll users).2 = { db with clock } ∧
      ((db.trustAll users).1 = .ok () → users = []) := by
  cases users with
  | nil => exact ⟨db.clock, rfl, fun _ => rfl⟩
  | cons user rest =>
    obtain ⟨failure, clock, hf⟩ := (trust_isStatement user).failed db (.inl hm)
    refine ⟨clock, ?_, ?_⟩
    · rw [trustAll, show db.trust user = _ from hf]
    · rw [trustAll, show db.trust user = _ from hf]
      intro h
      cases h

end Database

namespace TrustCall

/-- The calls of the store of trusted users, as calls of a set. -/
def contract : Contract TrustCall (Set String) where
  Meets := Meets
  MayLeave := MayLeave

/-- The database holds a table without doubled users that stands for the set, and has these other
    tables. -/
abbrev Represents (other : (name : TableName) → Option (Table name.Row)) :
    Database → Set String → Prop :=
  Contract.Represents .trusted (fun table : TrustTable => table.Distinct)
    TrustTable.members other

variable {other : (name : TableName) → Option (Table name.Row)}

theorem seed_step (condition : Condition) (users : List String) (db : Database)
    (before : Set String) (h : Represents other db before) :
    ∃ after, contract.Keeps condition (.seed users) before
        ((TrustCall.seed users).perform condition db).1 after ∧
      Represents other ((TrustCall.seed users).perform condition db).2 after := by
  obtain ⟨table, ht, hd, rfl, hother⟩ := h
  have hother' {medium : Medium} {clock : Tick} {last : TrustTable} (name : TableName)
      (hn : name ≠ .trusted) :
      Database.table? { db with medium, clock, trusted := some last } name = other name := by
    cases name with
    | commands => exact hother .commands hn
    | trusted => exact absurd rfl hn
  cases condition with
  | breaks done failure =>
    obtain ⟨clock, last, hlast, hmembers, hs⟩ := Database.trustAll_done (users.take done)
      { db with medium := .database } rfl ht hd
    refine ⟨last.members, ⟨by simp [Condition.good], done, hmembers⟩, last, ?_, hlast, rfl, ?_⟩
    · simp only [perform, hs]; rfl
    · simpa only [perform, hs] using hother'
  | stands medium =>
    have hvalue : (TrustCall.seed users).perform (.stands medium) db =
        ((Database.trustAll { db with medium } users).1.map fun _ => users.length,
          (Database.trustAll { db with medium } users).2) :=
      Database.seed_value _ users
    rw [hvalue]
    by_cases hm : medium = .database
    · subst hm
      obtain ⟨clock, last, hlast, hmembers, hs⟩ := Database.trustAll_done users
        { db with medium := .database } rfl ht hd
      rw [hs]
      exact ⟨last.members, ⟨rfl, hmembers⟩, last, rfl, hlast, rfl, hother'⟩
    · obtain ⟨clock, hs, hempty⟩ := Database.trustAll_failed { db with medium } hm users
      have hsame : Represents other (Database.trustAll { db with medium } users).2
          (TrustTable.members table) := by
        rw [hs]
        exact ⟨table, ht, hd, rfl, fun name hn => by
          rw [Database.table?_moved]; exact hother name hn⟩
      refine ⟨TrustTable.members table, ?_, hsame⟩
      cases hr : (Database.trustAll { db with medium } users).1 with
      | ok done => exact ⟨rfl, by simp [hempty hr]⟩
      | error failure => exact ⟨by simpa [Condition.good] using hm, 0, by simp⟩

theorem step (condition : Condition) (call : TrustCall) (db : Database) (before : Set String)
    (h : Represents other db before) :
    ∃ after, contract.Keeps condition call before (call.perform condition db).1 after ∧
      Represents other (call.perform condition db).2 after := by
  by_cases hseed : ∃ users, call = .seed users
  · obtain ⟨users, rfl⟩ := hseed
    exact seed_step condition users db before h
  rw [perform_of_ne_seed fun users hc => hseed ⟨users, hc⟩]
  cases call with
  | seed users => exact absurd ⟨users, rfl⟩ hseed
  | trust user =>
    refine Contract.step_of_does (Database.trust_isStatement user).does ?_ ?_ ?_ condition h
    · exact fun now table => TrustTable.trust_distinct
    · exact fun now table => TrustTable.members_trust
    · exact fun _ => rfl
  | untrust user =>
    refine Contract.step_of_does (Database.untrust_isStatement user).does ?_ ?_ ?_ condition h
    · exact fun now table => TrustTable.untrust_distinct
    · exact fun now table => TrustTable.members_untrust
    · exact fun _ => rfl
  | isTrusted user =>
    refine Contract.step_of_does (Database.isTrusted_isStatement user).does ?_ ?_ ?_ condition h
    · exact fun now table hd => hd
    · exact fun now table _ => ⟨Iff.rfl, rfl⟩
    · exact fun _ => rfl
  | list =>
    refine Contract.step_of_does Database.listTrusted_isStatement.does ?_ ?_ ?_ condition h
    · exact fun now table hd => hd
    · intro now table hd
      exact ⟨Table.liveSorted_strict hd, fun user => TrustTable.mem_liveSorted_iff, rfl⟩
    · exact fun _ => rfl
  | reopen =>
    refine Contract.step_of_does (Database.migrate_does .trusted) ?_ ?_ ?_ condition h
    · exact fun now table hd => hd
    · exact fun now table _ => rfl
    · exact fun _ => rfl

end TrustCall

/-! ## Reachable databases -/

instance namedRow : (name : TableName) → Row name.Row
  | .commands => inferInstanceAs (Row CommandRow)
  | .trusted => inferInstanceAs (Row TrustRow)

namespace Database

/-- The databases that calls of both stores lead to, available or not, from one just made. -/
inductive Reachable : Database → Prop
  | made (path : String) : Reachable { path }
  | command {db : Database} (condition : Condition) (call : CommandCall) :
      Reachable db → Reachable (StoreCall.perform condition call db).2
  | trust {db : Database} (condition : Condition) (call : TrustCall) :
      Reachable db → Reachable (StoreCall.perform condition call db).2

/-- No table has two rows of one key. -/
def KeysDistinct (db : Database) : Prop :=
  ∀ (name : TableName) (table : Table name.Row), db.table? name = some table → table.Distinct

namespace KeysDistinct

variable {db : Database}

theorem moved (h : db.KeysDistinct) {medium : Medium} {clock : Tick} :
    KeysDistinct { db with medium, clock } := by
  intro name table ht
  rw [table?_moved] at ht
  exact h name table ht

theorem withTable (h : db.KeysDistinct) {name : TableName} {table : Table name.Row}
    (hd : table.Distinct) : (db.withTable name table).KeysDistinct := by
  intro other last hlast
  by_cases ho : other = name
  · subst ho
    rw [table?_withTable_self] at hlast
    obtain rfl := Option.some.inj hlast
    exact hd
  · rw [table?_withTable_of_ne ho] at hlast
    exact h other last hlast

theorem statement (h : db.KeysDistinct) {α : Type} {name : TableName}
    {operation : Database → Step α} {ticks : Nat}
    {statement : Tick → Table name.Row → Table name.Row × α}
    (hs : IsStatement name operation ticks statement)
    (hkeeps : ∀ now table, table.Distinct → (statement now table).1.Distinct)
    (condition : Condition) : (condition.perform operation db).2.KeysDistinct := by
  rcases hs.perform_cases condition db with
    ⟨now, table, ht, hdone⟩ | ⟨failure, medium, clock, -, hfailed⟩
  · rw [hdone]
    exact h.moved.withTable (hkeeps now table (h name table ht))
  · rw [hfailed]
    exact h.moved

theorem migrate (h : db.KeysDistinct) (name : TableName) (condition : Condition) :
    (condition.perform (·.migrate name) db).2.KeysDistinct := by
  have hopen : ((db.table? name).getD {}).Distinct := by
    cases ht : db.table? name with
    | none => exact Table.distinct_empty
    | some table => exact h name table ht
  cases condition with
  | breaks done failure => exact h
  | stands medium =>
    cases medium with
    | directory => exact h.moved
    | junk => exact h.moved
    | database => cases name <;> exact h.moved.withTable hopen

theorem trustAll (users : List String) :
    ∀ {db : Database}, db.KeysDistinct → (db.trustAll users).2.KeysDistinct := by
  induction users with
  | nil => exact id
  | cons user rest ih =>
    intro db h
    have hfirst : (db.trust user).2.KeysDistinct :=
      h.statement (trust_isStatement user) (fun _ _ => TrustTable.trust_distinct)
        (.stands db.medium)
    rw [Database.trustAll]
    split
    · next hs => rw [hs] at hfirst; exact hfirst
    · next hs => rw [hs] at hfirst; exact ih hfirst

theorem commandCall (h : db.KeysDistinct) (condition : Condition) (call : CommandCall) :
    (condition.perform call.operation db).2.KeysDistinct := by
  cases call with
  | create name response =>
    exact h.statement (createCommand_isStatement name response)
      (fun _ _ => CommandTable.create_distinct) condition
  | update name response =>
    exact h.statement (updateCommand_isStatement name response)
      (fun _ _ => CommandTable.update_distinct) condition
  | delete name =>
    exact h.statement (deleteCommand_isStatement name)
      (fun _ _ => CommandTable.delete_distinct) condition
  | find name => exact h.statement (response?_isStatement name) (fun _ _ hd => hd) condition
  | list => exact h.statement listCommands_isStatement (fun _ _ hd => hd) condition
  | reopen => exact h.migrate .commands condition

theorem trustCall (h : db.KeysDistinct) (condition : Condition) (call : TrustCall) :
    (call.perform condition db).2.KeysDistinct := by
  cases call with
  | trust user =>
    exact h.statement (trust_isStatement user) (fun _ _ => TrustTable.trust_distinct) condition
  | untrust user =>
    exact h.statement (untrust_isStatement user) (fun _ _ => TrustTable.untrust_distinct) condition
  | isTrusted user => exact h.statement (isTrusted_isStatement user) (fun _ _ hd => hd) condition
  | list => exact h.statement listTrusted_isStatement (fun _ _ hd => hd) condition
  | seed users =>
    cases condition with
    | breaks done failure => exact trustAll (users.take done) h.moved
    | stands medium =>
      show ((Database.seed { db with medium } users).value).2.KeysDistinct
      rw [seed_value]
      exact trustAll users h.moved
  | reopen => exact h.migrate .trusted condition

end KeysDistinct

theorem Reachable.keysDistinct {db : Database} (h : db.Reachable) : db.KeysDistinct := by
  induction h with
  | made path => intro name table ht; cases name <;> cases ht
  | command condition call _ ih => exact ih.commandCall condition call
  | trust condition call _ ih => exact ih.trustCall condition call

end Database

/-- **Refinement.** On every reachable database the store of trusted users opens as the set of the
    users with a live row, and every run of calls is a run of that set, which ends as the set of the
    users with a live row. No user has two rows then, and the table of commands stays as it was. -/
theorem trustStore_refines_set {db : Database} (h : db.Reachable)
    (calls : List (Condition × TrustCall)) :
    let opened := StoreCall.perform .good TrustCall.reopen db
    let run := opened.2.make calls
    opened.1 = .ok () ∧ TrustCall.contract.Runs db.trustedUsers run.1 run.2.trustedUsers ∧
      (∃ table, run.2.trusted = some table ∧ (table.rows.map (·.user)).Nodup) ∧
      run.2.commands = db.commands := by
  intro opened run
  have hopened : TrustCall.Represents opened.2.table? opened.2 db.trustedUsers := by
    refine ⟨db.trusted.getD {}, rfl, ?_, ?_, fun _ _ => rfl⟩
    · have hkeys : opened.2.KeysDistinct := h.keysDistinct.trustCall .good .reopen
      exact hkeys .trusted _ rfl
    · cases ht : db.trusted with
      | none =>
        ext user
        simp [Database.trustedUsers, Database.Trusts, TrustTable.mem_members_iff, ht]
      | some table => rw [Database.trustedUsers_of_some ht]; rfl
  obtain ⟨last, hruns, table, ht, hd, rfl, hother⟩ :=
    Contract.runs_of_steps TrustCall.step calls hopened
  refine ⟨rfl, ?_, ⟨table, ht, hd⟩, hother .commands (by simp)⟩
  rw [Database.trustedUsers_of_some ht]
  exact hruns

/-- A user who lost trust before the store was opened is trusted again, and one more comes from a
    seeding that breaks off after its first user. -/
theorem trustStore_refines_set_revived :
    let db := (Database.make [(.good, TrustCall.reopen), (.good, .trust "alice"),
      (.good, .untrust "alice")] { path := "bot.db" }).2
    let calls : List (Condition × TrustCall) := [(.good, .trust "alice"),
      (.stands .directory, .untrust "alice"),
      (.breaks 1 (.because (.trust "carol") .notADatabase), .seed ["bob", "carol"])]
    let opened := StoreCall.perform .good TrustCall.reopen db
    let run := opened.2.make calls
    db.Reachable ∧
      TrustCall.contract.Runs db.trustedUsers run.1 run.2.trustedUsers ∧
      run.2.trusted = some ⟨[⟨1, "alice", 1, 3, none⟩, ⟨3, "bob", 5, 5, none⟩], 3⟩ := by
  intro db calls opened run
  have hdb : db.Reachable :=
    .trust .good (.untrust "alice") (.trust .good (.trust "alice")
      (.trust .good .reopen (.made "bot.db")))
  exact ⟨hdb, (trustStore_refines_set hdb calls).2.1, by decide⟩

end ChatWarden.Store
