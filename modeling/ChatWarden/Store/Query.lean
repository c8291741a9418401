import ChatWarden.Store.Database

/-!
# Queries

What commands ask of the store while they run. Each query is one statement on the database, and
`Database.answer` answers it.
-/

namespace ChatWarden.Store

/-- A query. -/
inductive Query where
  /-- Whether a user is trusted. -/
  | isTrusted (user : String)
  | trust (user : String)
  | untrust (user : String)
  /-- The response of a live custom command. -/
  | findResponse (name : String)
  | createCommand (name response : String)
  | updateCommand (name response : String)
  | deleteCommand (name : String)
  /-- The names of the live custom commands, in increasing order. -/
  | listNames
  deriving DecidableEq, Repr

namespace Query

/-- What a query yields if it succeeds. -/
abbrev Result : Query → Type
  | .isTrusted _ => Bool
  | .trust _ => Unit
  | .untrust _ => Unit
  | .findResponse _ => Option String
  | .createCommand _ _ => Bool
  | .updateCommand _ _ => Bool
  | .deleteCommand _ => Bool
  | .listNames => List String

/-- Whether a query may change a table. -/
def isWrite : Query → Bool
  | .isTrusted _ => false
  | .findResponse _ => false
  | .listNames => false
  | _ => true

end Query

/-- Answers a query. -/
def Database.answer (db : Database) : (query : Query) → Database.Step query.Result
  | .isTrusted user => db.isTrusted user
  | .trust user => db.trust user
  | .untrust user => db.untrust user
  | .findResponse name => db.response? name
  | .createCommand name response => db.createCommand name response
  | .updateCommand name response => db.updateCommand name response
  | .deleteCommand name => db.deleteCommand name
  | .listNames =>
    let (rows, db) := db.listCommands
    (rows.map fun rows => rows.map (·.name), db)

end ChatWarden.Store
