/-!
# Tables

Rows with an identifier, a key and a mark of deletion. A row that is deleted keeps its place, its
identifier and its key, and counts as live again once it is written anew.

Results:
* `insertOrUpdate` is the only way a row comes into a table: every call takes the next
  identifier, also when the key has a row already and that row keeps its own.
* `updateLive` changes the live row of a key.
-/

namespace ChatWarden.Store

/-- A time, as the number of times the clock has been asked. -/
abbrev Tick := Nat

/-- What tables need to know of their rows. -/
class Row (ρ : Type) where
  id : ρ → Nat
  key : ρ → String
  deletedAt : ρ → Option Tick

/-- Whether a row is live. -/
def isLive {ρ : Type} [Row ρ] (row : ρ) : Bool := (Row.deletedAt row).isNone

/-- A table: its rows in the order of their identifiers, and the last identifier taken. -/
structure Table (ρ : Type) where
  rows : List ρ := []
  lastId : Nat := 0
  deriving DecidableEq, Repr

namespace Table

variable {ρ : Type} [Row ρ]

/-- The row of a key, live or deleted. -/
def find? (table : Table ρ) (key : String) : Option ρ :=
  table.rows.find? fun row => Row.key row == key

/-- The live row of a key. -/
def live? (table : Table ρ) (key : String) : Option ρ :=
  table.rows.find? fun row => Row.key row == key && isLive row

/-- Takes the next identifier. A key without a row gets a new one with it; the row of a key that
    has one is changed by `change`, if `change` applies to it. -/
def insertOrUpdate (table : Table ρ) (key : String) (fresh : (id : Nat) → ρ)
    (change : ρ → Option ρ) : Table ρ × Bool :=
  let id := table.lastId + 1
  match table.find? key with
  | none => ({ rows := table.rows ++ [fresh id], lastId := id }, true)
  | some row =>
    match change row with
    | none => ({ table with lastId := id }, false)
    | some changed =>
      let put (old : ρ) := if Row.key old == key then changed else old
      ({ rows := table.rows.map put, lastId := id }, true)

/-- Changes the live row of a key, and tells whether there is one. -/
def updateLive (table : Table ρ) (key : String) (change : ρ → ρ) : Table ρ × Bool :=
  let applies (row : ρ) := Row.key row == key && isLive row
  ({ table with rows := table.rows.map fun row => if applies row then change row else row },
    table.rows.any applies)

/-- The live rows in the order of their keys. -/
def liveSorted (table : Table ρ) : List ρ :=
  (table.rows.filter isLive).mergeSort fun a b => decide (Row.key a ≤ Row.key b)

end Table

end ChatWarden.Store
