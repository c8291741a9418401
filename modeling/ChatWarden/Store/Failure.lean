/-!
# Failures of the store

What the store was asked to do when it failed, and why it could not.
-/

namespace ChatWarden.Store

/-- The two tables. -/
inductive TableName where
  | commands
  | trusted
  deriving DecidableEq, Repr

/-- The name of a table in the database. -/
def TableName.text : TableName → String
  | .commands => "commands"
  | .trusted => "trusted_users"

/-- What the store was asked to do. -/
inductive Deed where
  | openAt (path : String)
  | migrate (table : TableName)
  | fetchCommand (name : String)
  | createCommand (name : String)
  | updateCommand (name : String)
  | deleteCommand (name : String)
  | listCommands
  | checkTrust (user : String)
  | trust (user : String)
  | untrust (user : String)
  | listTrusted
  deriving DecidableEq, Repr

/-- The deed as the beginning of a message. -/
def Deed.text : Deed → String
  | .openAt path => "Cannot open database " ++ path
  | .migrate table => "Cannot migrate " ++ table.text ++ " table"
  | .fetchCommand name => "Failed to fetch command " ++ name
  | .createCommand name => "Failed to create command " ++ name
  | .updateCommand name => "Failed to update command " ++ name
  | .deleteCommand name => "Failed to delete command " ++ name
  | .listCommands => "Failed to list commands"
  | .checkTrust user => "Failed to check trust for " ++ user
  | .trust user => "Failed to trust " ++ user
  | .untrust user => "Failed to untrust " ++ user
  | .listTrusted => "Failed to list trusted users"

/-- Why the store could not do it. -/
inductive Reason where
  /-- The database file cannot be opened. -/
  | unopenable
  /-- The file is no database. -/
  | notADatabase
  /-- The database lacks a table. -/
  | noTable (table : TableName)
  deriving DecidableEq, Repr

/-- The reason as the end of a message. -/
def Reason.text : Reason → String
  | .unopenable => "unable to open database file"
  | .notADatabase => "file is not a database"
  | .noTable table => "no such table: " ++ table.text

/-- A failure of the store. -/
inductive Failure where
  | because (deed : Deed) (reason : Reason)
  /-- A failure of which only the message is known. -/
  | told (message : String)
  deriving DecidableEq, Repr

/-- The message of a failure. -/
def Failure.message : Failure → String
  | .because deed reason => deed.text ++ ": " ++ reason.text
  | .told message => message

end ChatWarden.Store
