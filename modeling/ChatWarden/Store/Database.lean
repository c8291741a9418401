import ChatWarden.Log.Record
import ChatWarden.Store.CommandTable
import ChatWarden.Store.Failure
import ChatWarden.Store.TrustTable

/-!
# The database

The two tables in one file, with the clock that stamps their rows. Every operation is one
statement that either succeeds or fails as a whole; a failing one changes no row.

Results:
* operations ask the clock before they open the file, or between opening it and the statement;
  reading asks it never.
* `migrate` adds a missing table and leaves an existing one as it is.
-/

namespace ChatWarden.Store

/-- What stands at the path of the database. -/
inductive Medium where
  /-- The database. -/
  | database
  /-- A directory, which cannot be opened. -/
  | directory
  /-- A file that opens, but holds no database. -/
  | junk
  deriving DecidableEq, Repr

/-- The database and its surroundings. -/
structure Database where
  path : String
  medium : Medium := .database
  commands : Option CommandTable := none
  trusted : Option TrustTable := none
  clock : Tick := 0
  deriving DecidableEq, Repr

namespace Database

/-- The outcome of an operation and the database after it. -/
abbrev Step (α : Type) := Except Failure α × Database

/-- The database with its clock asked once more. -/
def ticked (db : Database) : Database := { db with clock := db.clock + 1 }

/-- Why a statement on the open file fails before it reaches its table. -/
def statementFailure? (db : Database) : Option Reason :=
  match db.medium with
  | .junk => some .notADatabase
  | _ => none

/-- Why the file does not open. -/
def openFailure? (db : Database) : Option Failure :=
  match db.medium with
  | .directory => some (.because (.openAt db.path) .unopenable)
  | _ => none

/-- The table of commands, for a statement that needs it. -/
def commandTable (db : Database) : Except Reason CommandTable :=
  match db.statementFailure? with
  | some reason => .error reason
  | none =>
    match db.commands with
    | some table => .ok table
    | none => .error (.noTable .commands)

/-- The table of trusted users, for a statement that needs it. -/
def trustTable (db : Database) : Except Reason TrustTable :=
  match db.statementFailure? with
  | some reason => .error reason
  | none =>
    match db.trusted with
    | some table => .ok table
    | none => .error (.noTable .trusted)

/-- One statement on the table of commands behind the opening of the file. -/
def onCommands {α : Type} (db : Database) (deed : Deed) (asksClock : Bool)
    (statement : Tick → CommandTable → CommandTable × α) : Step α :=
  match db.openFailure? with
  | some failure => (.error failure, db)
  | none =>
    let db := if asksClock then db.ticked else db
    match db.commandTable with
    | .error reason => (.error (.because deed reason), db)
    | .ok table =>
      let (table, answer) := statement db.clock table
      (.ok answer, { db with commands := some table })

/-- One statement on the table of trusted users behind the opening of the file. -/
def onTrusted {α : Type} (db : Database) (deed : Deed)
    (statement : Tick → TrustTable → TrustTable × α) : Step α :=
  match db.openFailure? with
  | some failure => (.error failure, db)
  | none =>
    match db.trustTable with
    | .error reason => (.error (.because deed reason), db)
    | .ok table =>
      let (table, answer) := statement db.clock table
      (.ok answer, { db with trusted := some table })

/-- Creates a command; the answer tells whether its name was free. The clock is asked first. -/
def createCommand (db : Database) (name response : String) : Step Bool :=
  db.ticked.onCommands (.createCommand name) false fun now table =>
    CommandTable.create now name response table

/-- Replaces the response of a command; the answer tells whether it was live. -/
def updateCommand (db : Database) (name response : String) : Step Bool :=
  db.onCommands (.updateCommand name) true fun now table =>
    CommandTable.update now name response table

/-- Deletes a command; the answer tells whether it was live. -/
def deleteCommand (db : Database) (name : String) : Step Bool :=
  db.onCommands (.deleteCommand name) true fun now table => CommandTable.delete now name table

/-- The response of a live command. -/
def response? (db : Database) (name : String) : Step (Option String) :=
  db.onCommands (.fetchCommand name) false fun _ table => (table, CommandTable.response? name table)

/-- The live commands in the order of their names. -/
def listCommands (db : Database) : Step (List CommandRow) :=
  db.onCommands .listCommands false fun _ table => (table, table.liveSorted)

/-- Trusts a user. The clock is asked first. -/
def trust (db : Database) (user : String) : Step Unit :=
  db.ticked.onTrusted (.trust user) fun now table => (TrustTable.trust now user table, ())

/-- Takes trust away from a user. The clock is asked first. -/
def untrust (db : Database) (user : String) : Step Unit :=
  db.ticked.onTrusted (.untrust user) fun now table => (TrustTable.untrust now user table, ())

/-- Whether a user is trusted. -/
def isTrusted (db : Database) (user : String) : Step Bool :=
  db.onTrusted (.checkTrust user) fun _ table => (table, TrustTable.isTrusted user table)

/-- The trusted users in the order of their names. -/
def listTrusted (db : Database) : Step (List TrustRow) :=
  db.onTrusted .listTrusted fun _ table => (table, table.liveSorted)

/-- Trusts every user of a list up to the first failure. -/
def trustAll (db : Database) : List String → Step Unit
  | [] => (.ok (), db)
  | user :: rest =>
    match db.trust user with
    | (.error failure, db) => (.error failure, db)
    | (.ok (), db) => db.trustAll rest

/-- Trusts the users that the configuration names; the answer is their number. -/
def seed (db : Database) (users : List String) : Log.Journal (Step Nat) := do
  match db.trustAll users with
  | (.error failure, db) => return (.error failure, db)
  | (.ok (), db) =>
    if !users.isEmpty then
      Log.Journal.write ⟨.info, .trustStore,
        "Seeded " ++ toString users.length ++ " trusted user(s) from config", none, none, none⟩
    return (.ok users.length, db)

/-- Opens the store of one table: adds the table to the database if it is missing. -/
def migrate (db : Database) (name : TableName) : Step Unit :=
  match db.openFailure? with
  | some failure => (.error failure, db)
  | none =>
    match db.statementFailure? with
    | some reason => (.error (.because (.migrate name) reason), db)
    | none =>
      match name with
      | .commands => (.ok (), { db with commands := some (db.commands.getD {}) })
      | .trusted => (.ok (), { db with trusted := some (db.trusted.getD {}) })

/-- Opens both stores, that of the commands first. -/
def openBoth (db : Database) : Step Unit :=
  match db.migrate .commands with
  | (.ok (), db) => db.migrate .trusted
  | failed => failed

/-- Opens both stores and trusts the users that the configuration names. -/
def openFor (db : Database) (users : List String) : Log.Journal (Step Unit) := do
  match db.openBoth with
  | (.error failure, db) => return (.error failure, db)
  | (.ok (), db) =>
    let (outcome, db) ← db.seed users
    return (outcome.map fun _ => (), db)

/-- A database that was just made at a path, with both tables. -/
def fresh (path : String) : Database := { path, commands := some {}, trusted := some {} }

/-- The database without one of its tables. -/
def drop (db : Database) : TableName → Database
  | .commands => { db with commands := none }
  | .trusted => { db with trusted := none }

end Database

end ChatWarden.Store
