import ChatWarden.Store.Query

/-!
# Access to the database

Operations meet the database under conditions: a directory or a file of junk may stand in its
place, and a statement may break off, which leaves no trace of it. An operation that is one
statement on a table either does the whole statement or fails and leaves both tables alone.

Results:
* `IsStatement`, which holds of every operation that reads or writes rows: the operation does its
  statement if the database is there and has the table, and else changes nothing but the clock.
* `IsStatement.perform_cases`: what becomes of the operation under every condition.
* `Does`, which holds of statements and of opening a store again.
-/

namespace ChatWarden.Store

/-! ## Conditions -/

/-- The condition under which an operation meets the database. -/
inductive Condition where
  /-- This stands at the path of the database. -/
  | stands (medium : Medium)
  /-- The database stands there, but a statement of the operation breaks off and is rolled back.
      `done` statements of the operation were done before. -/
  | breaks (done : Nat) (failure : Failure)
  deriving DecidableEq, Repr

namespace Condition

/-- The database is available. -/
def good : Condition := .stands .database

/-- Performs an operation of one statement. -/
def perform {α : Type} (condition : Condition) (operation : Database → Database.Step α)
    (db : Database) : Database.Step α :=
  match condition with
  | .stands medium => operation { db with medium }
  | .breaks _ failure => (.error failure, db)

end Condition

/-! ## The tables by their names -/

/-- The rows of a table. -/
abbrev TableName.Row : TableName → Type
  | .commands => CommandRow
  | .trusted => TrustRow

namespace Database

/-- The table of a name. -/
def table? (db : Database) : (name : TableName) → Option (Table name.Row)
  | .commands => db.commands
  | .trusted => db.trusted

/-- The database with another table under a name. -/
def withTable (db : Database) : (name : TableName) → Table name.Row → Database
  | .commands, table => { db with commands := some table }
  | .trusted, table => { db with trusted := some table }

@[simp] theorem table?_moved (db : Database) (medium : Medium) (clock : Tick) (name : TableName) :
    table? { db with medium, clock } name = db.table? name := by
  cases name <;> rfl

@[simp] theorem table?_withTable_self (db : Database) (name : TableName) (table : Table name.Row) :
    (db.withTable name table).table? name = some table := by
  cases name <;> rfl

theorem table?_withTable_of_ne {name other : TableName} (h : other ≠ name) (db : Database)
    (table : Table name.Row) : (db.withTable name table).table? other = db.table? other := by
  cases name <;> cases other <;> first | rfl | exact absurd rfl h

/-! ## Statements -/

variable {α : Type} {name : TableName}

/-- The operation is a statement on the table of a name, for which the clock is asked `ticks`
    times. -/
structure IsStatement (name : TableName) (operation : Database → Step α) (ticks : Nat)
    (statement : Tick → Table name.Row → Table name.Row × α) : Prop where
  /-- What the operation does if the database is there and has the table. -/
  done (db : Database) {table : Table name.Row} :
    db.medium = .database → db.table? name = some table →
    operation db = (.ok (statement (db.clock + ticks) table).2,
      { db with clock := db.clock + ticks }.withTable name
        (statement (db.clock + ticks) table).1)
  /-- Otherwise nothing changes but the clock. -/
  failed (db : Database) : db.medium ≠ .database ∨ db.table? name = none →
    ∃ failure clock, operation db = (.error failure, { db with clock })

variable {operation : Database → Step α} {ticks : Nat}
  {statement : Tick → Table name.Row → Table name.Row × α}

theorem onCommands_isStatement (deed : Deed) (asksClock : Bool)
    (statement : Tick → CommandTable → CommandTable × α) :
    IsStatement .commands (·.onCommands deed asksClock statement) asksClock.toNat statement where
  done := by
    rintro ⟨path, medium, commands, trusted, clock⟩ table rfl rfl
    cases asksClock <;> rfl
  failed := by
    rintro ⟨path, medium, commands, trusted, clock⟩ h
    cases medium with
    | directory => exact ⟨_, clock, rfl⟩
    | junk => exact ⟨_, clock + asksClock.toNat, by cases asksClock <;> rfl⟩
    | database =>
      obtain rfl : commands = none := h.resolve_left (by simp)
      exact ⟨_, clock + asksClock.toNat, by cases asksClock <;> rfl⟩

theorem onTrusted_isStatement (deed : Deed) (statement : Tick → TrustTable → TrustTable × α) :
    IsStatement .trusted (·.onTrusted deed statement) 0 statement where
  done := by
    rintro ⟨path, medium, commands, trusted, clock⟩ table rfl rfl
    rfl
  failed := by
    rintro ⟨path, medium, commands, trusted, clock⟩ h
    cases medium with
    | directory => exact ⟨_, clock, rfl⟩
    | junk => exact ⟨_, clock, rfl⟩
    | database =>
      obtain rfl : trusted = none := h.resolve_left (by simp)
      exact ⟨_, clock, rfl⟩

namespace IsStatement

/-- The clock may also be asked before the file is opened. -/
theorem ticked (h : IsStatement name operation 0 statement) :
    IsStatement name (fun db => operation db.ticked) 1 statement where
  done := by
    intro db table hm ht
    exact h.done db.ticked hm (by simpa [Database.ticked] using ht)
  failed := by
    intro db hf
    exact h.failed db.ticked (by simpa [Database.ticked] using hf)

/-- Under every condition the whole statement is done or both tables stay as they are; the
    statement is done if the database is available and has the table. -/
theorem perform_cases (h : IsStatement name operation ticks statement) (condition : Condition)
    (db : Database) :
    (∃ now table, db.table? name = some table ∧
      condition.perform operation db = (.ok (statement now table).2,
        { db with medium := .database, clock := now }.withTable name (statement now table).1)) ∨
    (∃ failure medium clock, (condition ≠ .good ∨ db.table? name = none) ∧
      condition.perform operation db = (.error failure, { db with medium, clock })) := by
  cases condition with
  | breaks done failure =>
    exact .inr ⟨failure, db.medium, db.clock, .inl (by simp [Condition.good]), rfl⟩
  | stands medium =>
    by_cases hf : medium ≠ .database ∨ db.table? name = none
    · obtain ⟨failure, clock, hs⟩ := h.failed { db with medium } (by simpa using hf)
      exact .inr ⟨failure, medium, clock, by simpa [Condition.good] using hf, hs⟩
    · obtain ⟨rfl, ht⟩ : medium = .database ∧ db.table? name ≠ none := by simpa using hf
      obtain ⟨table, ht⟩ := Option.ne_none_iff_exists'.mp ht
      exact .inl ⟨_, table, ht,
        h.done { db with medium := .database } rfl (by simpa using ht)⟩

end IsStatement

/-- On a database that has the table, the operation does the statement or fails for a reason. -/
def Does (name : TableName) (operation : Database → Step α)
    (statement : Tick → Table name.Row → Table name.Row × α) : Prop :=
  ∀ (condition : Condition) {db : Database} {table : Table name.Row}, db.table? name = some table →
    (∃ now, condition.perform operation db = (.ok (statement now table).2,
      { db with medium := .database, clock := now }.withTable name (statement now table).1)) ∨
    (∃ failure medium clock, condition ≠ .good ∧
      condition.perform operation db = (.error failure, { db with medium, clock }))

theorem IsStatement.does (h : IsStatement name operation ticks statement) :
    Does name operation statement := by
  intro condition db table ht
  rcases h.perform_cases condition db with ⟨now, found, hf, hs⟩ | ⟨failure, medium, clock, hc, hs⟩
  · obtain rfl : table = found := Option.some.inj (ht.symm.trans hf)
    exact .inl ⟨now, hs⟩
  · exact .inr ⟨failure, medium, clock, hc.resolve_right (by simp [ht]), hs⟩

/-! ## The operations of the store -/

theorem createCommand_isStatement (name response : String) :
    IsStatement .commands (·.createCommand name response) 1
      fun now table => CommandTable.create now name response table :=
  (onCommands_isStatement _ false _).ticked

theorem updateCommand_isStatement (name response : String) :
    IsStatement .commands (·.updateCommand name response) 1
      fun now table => CommandTable.update now name response table :=
  onCommands_isStatement _ true _

theorem deleteCommand_isStatement (name : String) :
    IsStatement .commands (·.deleteCommand name) 1
      fun now table => CommandTable.delete now name table :=
  onCommands_isStatement _ true _

theorem response?_isStatement (name : String) :
    IsStatement .commands (·.response? name) 0
      fun _ table => (table, CommandTable.response? name table) :=
  onCommands_isStatement _ false _

theorem listCommands_isStatement :
    IsStatement .commands listCommands 0 fun _ table => (table, table.liveSorted) :=
  onCommands_isStatement _ false _

theorem trust_isStatement (user : String) :
    IsStatement .trusted (·.trust user) 1 fun now table => (TrustTable.trust now user table, ()) :=
  (onTrusted_isStatement _ _).ticked

theorem untrust_isStatement (user : String) :
    IsStatement .trusted (·.untrust user) 1
      fun now table => (TrustTable.untrust now user table, ()) :=
  (onTrusted_isStatement _ _).ticked

theorem isTrusted_isStatement (user : String) :
    IsStatement .trusted (·.isTrusted user) 0
      fun _ table => (table, TrustTable.isTrusted user table) :=
  onTrusted_isStatement _ _

theorem listTrusted_isStatement :
    IsStatement .trusted listTrusted 0 fun _ table => (table, table.liveSorted) :=
  onTrusted_isStatement _ _

/-- Opening a store again keeps its table. -/
theorem migrate_does (name : TableName) :
    Does name (·.migrate name) fun _ table => (table, ()) := by
  rintro condition ⟨path, medium, commands, trusted, clock⟩ table ht
  cases condition with
  | breaks done failure => exact .inr ⟨failure, medium, clock, by simp [Condition.good], rfl⟩
  | stands medium =>
    cases medium with
    | directory => exact .inr ⟨_, .directory, clock, by simp [Condition.good], rfl⟩
    | junk => exact .inr ⟨_, .junk, clock, by simp [Condition.good], rfl⟩
    | database =>
      refine .inl ⟨clock, ?_⟩
      cases name with
      | commands => obtain rfl : commands = some table := ht; rfl
      | trusted => obtain rfl : trusted = some table := ht; rfl

end Database

end ChatWarden.Store
