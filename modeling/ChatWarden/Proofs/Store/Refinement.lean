import ChatWarden.Proofs.Store.Access

/-!
# Stores and what they stand for

A store is a set of calls on the database. A contract says what the calls do to a state that users
of the store have in mind. A database represents such a state through one of its tables.

Results:
* `Contract.step_of_does`: a call that does one statement keeps its contract under every condition
  if the statement keeps it on the table, and it leaves the other table alone.
* `Contract.runs_of_steps`: if every call keeps its contract, then every run of calls is one of the
  state that the database represents.
-/

namespace ChatWarden.Store

/-! ## Calls -/

/-- What is known of the calls of a store. -/
class StoreCall (κ : Type) where
  /-- What a call yields if it succeeds. -/
  Result : κ → Type
  /-- Makes a call under a condition. -/
  perform : Condition → (call : κ) → Database → Database.Step (Result call)

/-- A call that was made, the condition under which it was made, and what came of it. -/
structure Report (κ : Type) [StoreCall κ] where
  condition : Condition
  call : κ
  outcome : Except Failure (StoreCall.Result call)

/-- Makes calls one after the other, each under its condition. -/
def Database.make {κ : Type} [StoreCall κ] :
    List (Condition × κ) → Database → List (Report κ) × Database
  | [], db => ([], db)
  | (condition, call) :: rest, db =>
    let (outcome, db) := StoreCall.perform condition call db
    let (reports, last) := make rest db
    (⟨condition, call, outcome⟩ :: reports, last)

/-! ## Contracts -/

/-- What calls do to a state. -/
structure Contract (κ : Type) [StoreCall κ] (σ : Type) where
  /-- The result of a call and the state after it are right for the state before it. -/
  Meets : (call : κ) → (before : σ) → StoreCall.Result call → (after : σ) → Prop
  /-- A call that fails may leave this state behind. -/
  MayLeave : κ → (before after : σ) → Prop

namespace Contract

variable {κ σ : Type} [StoreCall κ] (contract : Contract κ σ)

/-- The contract as it is kept by one call. Calls fail only if the database is not available. -/
def Keeps (condition : Condition) (call : κ) (before : σ) :
    Except Failure (StoreCall.Result call) → (after : σ) → Prop
  | .ok result, after => contract.Meets call before result after
  | .error _, after => condition ≠ .good ∧ contract.MayLeave call before after

/-- The reports are those of calls that keep the contract, from one state to another. -/
inductive Runs : σ → List (Report κ) → σ → Prop
  | nil (state : σ) : Runs state [] state
  | cons {before next last : σ} {condition : Condition} {call : κ}
      {outcome : Except Failure (StoreCall.Result call)} {rest : List (Report κ)} :
      contract.Keeps condition call before outcome next → Runs next rest last →
      Runs before (⟨condition, call, outcome⟩ :: rest) last

variable {contract}

/-- What one call does carries over to every run of calls. -/
theorem runs_of_steps {Represents : Database → σ → Prop}
    (hstep : ∀ condition call db before, Represents db before →
      ∃ after, contract.Keeps condition call before (StoreCall.perform condition call db).1 after ∧
        Represents (StoreCall.perform condition call db).2 after)
    (calls : List (Condition × κ)) :
    ∀ {db : Database} {before : σ}, Represents db before →
      ∃ after, contract.Runs before (db.make calls).1 after ∧
        Represents (db.make calls).2 after := by
  induction calls with
  | nil =>
    intro db before hr
    exact ⟨before, .nil before, hr⟩
  | cons first rest ih =>
    intro db before hr
    obtain ⟨condition, call⟩ := first
    obtain ⟨next, hkeeps, hnext⟩ := hstep condition call db before hr
    obtain ⟨last, hruns, hlast⟩ := ih hnext
    exact ⟨last, .cons hkeeps hruns, hlast⟩

/-! ## Calls that do a statement -/

variable {name : TableName} {view : Table name.Row → σ} {Good : Table name.Row → Prop}

/-- The database holds a good table that stands for the state, and has this other table. -/
def Represents (name : TableName) (Good : Table name.Row → Prop) (view : Table name.Row → σ)
    (other : (name : TableName) → Option (Table name.Row)) (db : Database) (state : σ) : Prop :=
  ∃ table, db.table? name = some table ∧ Good table ∧ view table = state ∧
    ∀ name', name' ≠ name → db.table? name' = other name'

theorem step_of_does {call : κ} {operation : Database → Database.Step (StoreCall.Result call)}
    {statement : Tick → Table name.Row → Table name.Row × StoreCall.Result call}
    (h : Database.Does name operation statement)
    (hgood : ∀ now table, Good table → Good (statement now table).1)
    (hmeets : ∀ now table, Good table →
      contract.Meets call (view table) (statement now table).2 (view (statement now table).1))
    (hleave : ∀ state, contract.MayLeave call state state)
    (condition : Condition) {db : Database} {before : σ}
    {other : (name : TableName) → Option (Table name.Row)}
    (hdb : Represents name Good view other db before) :
    ∃ after, contract.Keeps condition call before (condition.perform operation db).1 after ∧
      Represents name Good view other (condition.perform operation db).2 after := by
  obtain ⟨table, ht, hg, rfl, hother⟩ := hdb
  rcases h condition ht with ⟨now, hs⟩ | ⟨failure, medium, clock, hc, hs⟩
  · refine ⟨view (statement now table).1, ?_, (statement now table).1, ?_, hgood now table hg, rfl,
      ?_⟩
    · rw [hs]
      exact hmeets now table hg
    · rw [hs, Database.table?_withTable_self]
    · intro name' hname
      rw [hs, Database.table?_withTable_of_ne hname, Database.table?_moved]
      exact hother name' hname
  · refine ⟨view table, ?_, table, ?_, hg, rfl, ?_⟩
    · rw [hs]
      exact ⟨hc, hleave _⟩
    · rw [hs, Database.table?_moved, ht]
    · intro name' hname
      rw [hs, Database.table?_moved]
      exact hother name' hname

end Contract

end ChatWarden.Store
