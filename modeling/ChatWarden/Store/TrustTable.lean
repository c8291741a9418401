import ChatWarden.Store.Table

/-!
# The table of trusted users

Users who may call privileged commands. Trust is taken away by deleting a row and given back by
writing it anew, so no user ever has two rows.
-/

namespace ChatWarden.Store

/-- A user who is or was trusted. -/
structure TrustRow where
  id : Nat
  user : String
  createdAt : Tick
  updatedAt : Tick
  deletedAt : Option Tick := none
  deriving DecidableEq, Repr

instance : Row TrustRow where
  id := TrustRow.id
  key := TrustRow.user
  deletedAt := TrustRow.deletedAt

/-- The table of trusted users. -/
abbrev TrustTable := Table TrustRow

namespace TrustTable

/-- Trusts a user. -/
def trust (now : Tick) (user : String) (table : TrustTable) : TrustTable :=
  (table.insertOrUpdate user (fun id => ⟨id, user, now, now, none⟩)
    fun row => some { row with updatedAt := now, deletedAt := none }).1

/-- Takes trust away from a user who has it. -/
def untrust (now : Tick) (user : String) (table : TrustTable) : TrustTable :=
  (table.updateLive user fun row => { row with updatedAt := now, deletedAt := some now }).1

/-- Whether a user is trusted. -/
def isTrusted (user : String) (table : TrustTable) : Bool := (table.live? user).isSome

/-- The trusted users in increasing order. -/
def users (table : TrustTable) : List String := table.liveSorted.map (·.user)

end TrustTable

end ChatWarden.Store
