import ChatWarden.Proofs.Store.Refinement
import ChatWarden.Proofs.Store.Rows
import Mathlib.Logic.Function.Basic

/-!
# The store of commands is a map

Deleted rows stay in the table of commands with their old responses, and creating a command may
insert a row, revive one, or be refused. Whoever uses the store sees none of this: it is a finite
map from names to responses.

Results:
* `responses_create`, `responses_update` and `responses_delete`: what the statements on a table with
  distinct names do to the map of its live responses.
* `CommandCall.step`: every call does to this map what it stands for, or fails and leaves it.
* `commandStore_refines_map`: so does every run of calls on a store that was just made, whichever
  of them fail.
-/

namespace ChatWarden.Store

/-! ## Calls and what they stand for -/

/-- A map from names to responses. -/
abbrev CommandMap := String → Option String

/-- A call of the store of commands. -/
inductive CommandCall where
  | create (name response : String)
  | update (name response : String)
  | delete (name : String)
  | find (name : String)
  | list
  /-- The store is opened again on the same file. -/
  | reopen
  deriving DecidableEq, Repr

namespace CommandCall

/-- What a call yields if it succeeds. -/
abbrev Result : CommandCall → Type
  | .create _ _ => Bool
  | .update _ _ => Bool
  | .delete _ => Bool
  | .find _ => Option String
  | .list => List CommandRow
  | .reopen => Unit

/-- The operation on the database behind a call. -/
def operation : (call : CommandCall) → Database → Database.Step call.Result
  | .create name response => (·.createCommand name response)
  | .update name response => (·.updateCommand name response)
  | .delete name => (·.deleteCommand name)
  | .find name => (·.response? name)
  | .list => Database.listCommands
  | .reopen => (·.migrate .commands)

instance : StoreCall CommandCall where
  Result := Result
  perform condition call := condition.perform call.operation

/-- The result of a call and the map after it are what they should be for the map before it. -/
def Meets : (call : CommandCall) → (before : CommandMap) → call.Result → (after : CommandMap) → Prop
  | .create name response, before, created, after =>
    created = (before name).isNone ∧
      after = if created then Function.update before name (some response) else before
  | .update name response, before, updated, after =>
    updated = (before name).isSome ∧
      after = if updated then Function.update before name (some response) else before
  | .delete name, before, deleted, after =>
    deleted = (before name).isSome ∧ after = Function.update before name none
  | .find name, before, found, after => found = before name ∧ after = before
  | .list, before, rows, after =>
    (rows.map (·.name)).Pairwise (· < ·) ∧
      (∀ name response, (name, response) ∈ rows.map (fun row => (row.name, row.response)) ↔
        before name = some response) ∧
      after = before
  | .reopen, before, _, after => after = before

/-- The calls of the store of commands, as calls of a map. One that fails changes nothing. -/
def contract : Contract CommandCall CommandMap where
  Meets := Meets
  MayLeave _ before after := after = before

end CommandCall

/-! ## Statements on the table -/

namespace CommandTable

/-- The live responses of a table. -/
def responses (table : CommandTable) : CommandMap := fun name => response? name table

theorem responses_eq {table : CommandTable} (h : table.Distinct) (name : String) :
    table.responses name = ((table.find? name).filter isLive).map (·.response) := by
  rw [responses, response?, Table.live?_eq_filter h]

theorem responses_eq_some_iff {table : CommandTable} (h : table.Distinct)
    {name response : String} : table.responses name = some response ↔
      ∃ row ∈ table.rows, row.name = name ∧ isLive row = true ∧ row.response = response := by
  simp only [responses, response?, Option.map_eq_some_iff, Table.live?_eq_some_iff h]
  constructor
  · rintro ⟨row, ⟨hr, hn, hl⟩, rfl⟩
    exact ⟨row, hr, hn, hl, rfl⟩
  · rintro ⟨row, hr, hn, hl, rfl⟩
    exact ⟨row, ⟨hr, hn, hl⟩, rfl⟩

variable {now : Tick} {name response : String} {table : CommandTable}

/-- A row written anew keeps its identifier and its name only. -/
theorem eq_of_revived {row changed : CommandRow} (h : revived? now response row = some changed) :
    changed = { row with response, createdAt := now, updatedAt := now, deletedAt := none } := by
  unfold revived? at h
  split_ifs at h
  exact (Option.some.inj h).symm

theorem key_revived {row changed : CommandRow} (h : revived? now response row = some changed) :
    Row.key changed = Row.key row := by
  rw [eq_of_revived h]
  rfl

theorem id_revived {row changed : CommandRow} (h : revived? now response row = some changed) :
    Row.id changed = Row.id row := by
  rw [eq_of_revived h]
  rfl

theorem create_distinct (h : table.Distinct) : (create now name response table).1.Distinct :=
  h.insertOrUpdate (fun _ => rfl) fun _ _ => key_revived

theorem update_distinct (h : table.Distinct) : (update now name response table).1.Distinct :=
  h.updateLive fun _ => rfl

theorem delete_distinct (h : table.Distinct) : (delete now name table).1.Distinct :=
  h.updateLive fun _ => rfl

theorem find?_create (other : String) :
    (create now name response table).1.find? other =
      if other = name then
        some ((table.find? name).elim ⟨table.lastId + 1, name, response, now, now, none⟩
          fun row => (revived? now response row).getD row)
      else table.find? other := by
  unfold create
  exact Table.find?_insertOrUpdate (by intro _; rfl) (by intro _ _; exact key_revived) other

theorem find?_update (other : String) :
    (update now name response table).1.find? other =
      (table.find? other).map fun row =>
        if other = name ∧ isLive row then { row with response, updatedAt := now } else row := by
  unfold update
  exact Table.find?_updateLive (by intro _; rfl) other

theorem find?_delete (other : String) :
    (delete now name table).1.find? other =
      (table.find? other).map fun row =>
        if other = name ∧ isLive row then { row with deletedAt := some now } else row := by
  unfold delete
  exact Table.find?_updateLive (by intro _; rfl) other

theorem create_answer (h : table.Distinct) :
    (create now name response table).2 = (table.responses name).isNone := by
  rw [responses_eq h, create]
  cases hf : table.find? name with
  | none => simp [Table.insertOrUpdate_of_none hf]
  | some row =>
    cases hl : isLive row with
    | true =>
      have hc : revived? now response row = none := by simp [revived?, hl]
      simp [Table.insertOrUpdate_of_refused hf hc, hl]
    | false =>
      have hc : revived? now response row = some { row with
          response, createdAt := now, updatedAt := now, deletedAt := none } := by
        simp [revived?, hl]
      simp [Table.insertOrUpdate_of_changed hf hc, hl]

theorem update_answer :
    (update now name response table).2 = (table.responses name).isSome := by
  simp [update, Table.updateLive_answer, responses, response?]

theorem delete_answer : (delete now name table).2 = (table.responses name).isSome := by
  simp [delete, Table.updateLive_answer, responses, response?]

theorem mem_liveSorted_iff (h : table.Distinct) (name response : String) :
    (name, response) ∈ table.liveSorted.map (fun row => (row.name, row.response)) ↔
      table.responses name = some response := by
  rw [responses_eq_some_iff h]
  simp only [List.mem_map, Table.mem_liveSorted, Prod.mk.injEq]
  constructor
  · rintro ⟨row, ⟨hr, hl⟩, hn, hresponse⟩
    exact ⟨row, hr, hn, hl, hresponse⟩
  · rintro ⟨row, hr, hn, hl, hresponse⟩
    exact ⟨row, ⟨hr, hl⟩, hn, hresponse⟩

theorem responses_create (h : table.Distinct) :
    (create now name response table).1.responses =
      if (table.responses name).isNone then Function.update table.responses name (some response)
      else table.responses := by
  funext other
  rw [responses_eq (create_distinct h), find?_create]
  by_cases ho : other = name
  · subst ho
    rw [if_pos rfl, responses_eq h]
    cases hf : table.find? other with
    | none => simp [isLive, Row.deletedAt]
    | some row =>
      cases hl : isLive row with
      | true => simp [responses_eq h, hf, hl, revived?]
      | false => simp [hl, revived?]; rfl
  · rw [if_neg ho, ← responses_eq h]
    cases (table.responses name).isNone <;> simp [ho]

theorem responses_update (h : table.Distinct) :
    (update now name response table).1.responses =
      if (table.responses name).isSome then Function.update table.responses name (some response)
      else table.responses := by
  funext other
  rw [responses_eq (update_distinct h), find?_update]
  by_cases ho : other = name
  · subst ho
    rw [responses_eq h]
    cases hf : table.find? other with
    | none => simp [responses_eq h, hf]
    | some row =>
      cases hl : isLive row with
      | true => simp [hl]; exact hl
      | false => simp [responses_eq h, hf, hl]
  · simp only [ho, false_and, if_false, Option.map_id']
    rw [← responses_eq h]
    cases (table.responses name).isSome <;> simp [ho]

theorem responses_delete (h : table.Distinct) :
    (delete now name table).1.responses = Function.update table.responses name none := by
  funext other
  rw [responses_eq (delete_distinct h), find?_delete]
  by_cases ho : other = name
  · subst ho
    rw [Function.update_self]
    cases hf : table.find? other with
    | none => rfl
    | some row =>
      cases hl : isLive row with
      | true => simp only [Option.map_some, hl, and_self, if_true]; rfl
      | false => simp [hl]
  · simp [ho, responses_eq h]

end CommandTable

/-! ## Calls on the database -/

/-- The live responses in a database. -/
def Database.responses (db : Database) : CommandMap :=
  fun name => db.commands.bind (CommandTable.response? name)

theorem Database.responses_of_some {db : Database} {table : CommandTable}
    (h : db.commands = some table) : db.responses = table.responses := by
  funext name
  simp [Database.responses, CommandTable.responses, h]

namespace CommandCall

/-- The database holds a table without doubled names that stands for the map, and has these other
    tables. -/
abbrev Represents (other : (name : TableName) → Option (Table name.Row)) :
    Database → CommandMap → Prop :=
  Contract.Represents .commands (fun table : CommandTable => table.Distinct)
    CommandTable.responses other

theorem step {other : (name : TableName) → Option (Table name.Row)} (condition : Condition)
    (call : CommandCall) (db : Database) (before : CommandMap) (h : Represents other db before) :
    ∃ after, contract.Keeps condition call before (condition.perform call.operation db).1 after ∧
      Represents other (condition.perform call.operation db).2 after := by
  cases call with
  | create name response =>
    refine Contract.step_of_does (Database.createCommand_isStatement name response).does
      (fun now table => CommandTable.create_distinct) (fun now table hd => ?_) (fun _ => rfl)
      condition h
    exact ⟨CommandTable.create_answer hd, by
      rw [CommandTable.responses_create hd, CommandTable.create_answer hd]⟩
  | update name response =>
    refine Contract.step_of_does (Database.updateCommand_isStatement name response).does
      (fun now table => CommandTable.update_distinct) (fun now table hd => ?_) (fun _ => rfl)
      condition h
    exact ⟨CommandTable.update_answer, by
      rw [CommandTable.responses_update hd, CommandTable.update_answer]⟩
  | delete name =>
    refine Contract.step_of_does (Database.deleteCommand_isStatement name).does
      (fun now table => CommandTable.delete_distinct) (fun now table hd => ?_) (fun _ => rfl)
      condition h
    exact ⟨CommandTable.delete_answer, CommandTable.responses_delete hd⟩
  | find name =>
    refine Contract.step_of_does (Database.response?_isStatement name).does
      (fun now table hd => hd) (fun now table hd => ?_) (fun _ => rfl) condition h
    exact ⟨rfl, rfl⟩
  | list =>
    refine Contract.step_of_does Database.listCommands_isStatement.does
      (fun now table hd => hd) (fun now table hd => ?_) (fun _ => rfl) condition h
    exact ⟨Table.liveSorted_strict hd, CommandTable.mem_liveSorted_iff hd, rfl⟩
  | reopen =>
    exact Contract.step_of_does (Database.migrate_does .commands)
      (fun now table hd => hd) (fun now table hd => rfl) (fun _ => rfl) condition h

end CommandCall

/-- **Refinement.** On a database that was just made, with whatever table of trusted users beside,
    the store of commands opens as the empty map, and every run of calls is a run of that map, which
    ends as the map of the live responses; the table of trusted users stays as it was. -/
theorem commandStore_refines_map (path : String) (trusted : Option TrustTable) (clock : Tick)
    (calls : List (Condition × CommandCall)) :
    let opened := ({ path, trusted, clock } : Database).migrate .commands
    let run := opened.2.make calls
    opened.1 = .ok () ∧ CommandCall.contract.Runs (fun _ => none) run.1 run.2.responses ∧
      run.2.trusted = trusted := by
  intro opened run
  have hopened : CommandCall.Represents opened.2.table? opened.2 fun _ => none :=
    ⟨{}, rfl, Table.distinct_empty, rfl, fun _ _ => rfl⟩
  obtain ⟨last, hruns, table, ht, -, rfl, hother⟩ :=
    Contract.runs_of_steps CommandCall.step calls hopened
  refine ⟨rfl, ?_, hother .trusted (by simp)⟩
  rw [Database.responses_of_some ht]
  exact hruns

end ChatWarden.Store
