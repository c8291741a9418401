import ChatWarden.Store.Table

/-!
# The table of custom commands

Names with the responses that viewers stored under them.

Results:
* a name that is not live can be created, a live one can be updated and deleted, and each
  operation tells whether it did what it was asked for.
-/

namespace ChatWarden.Store

/-- A custom command. -/
structure CommandRow where
  id : Nat
  name : String
  response : String
  createdAt : Tick
  updatedAt : Tick
  deletedAt : Option Tick := none
  deriving DecidableEq, Repr

instance : Row CommandRow where
  id := CommandRow.id
  key := CommandRow.name
  deletedAt := CommandRow.deletedAt

/-- The table of custom commands. -/
abbrev CommandTable := Table CommandRow

namespace CommandTable

/-- A deleted row written anew; a live one stays as it is. -/
def revived? (now : Tick) (response : String) (row : CommandRow) : Option CommandRow :=
  if isLive row then none
  else some { row with response, createdAt := now, updatedAt := now, deletedAt := none }

/-- Creates a command unless its name is live. -/
def create (now : Tick) (name response : String) (table : CommandTable) : CommandTable × Bool :=
  table.insertOrUpdate name (fun id => ⟨id, name, response, now, now, none⟩)
    (revived? now response)

/-- Replaces the response of a live command. -/
def update (now : Tick) (name response : String) (table : CommandTable) : CommandTable × Bool :=
  table.updateLive name fun row => { row with response, updatedAt := now }

/-- Deletes a live command. -/
def delete (now : Tick) (name : String) (table : CommandTable) : CommandTable × Bool :=
  table.updateLive name fun row => { row with deletedAt := some now }

/-- The response of a live command. -/
def response? (name : String) (table : CommandTable) : Option String :=
  (table.live? name).map (·.response)

end CommandTable

end ChatWarden.Store
