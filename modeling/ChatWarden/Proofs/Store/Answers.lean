import ChatWarden.Proofs.Store.TrustSet
import ChatWarden.Proofs.Work.Path

/-!
# What the database answers

Seen from the database, an exchange is a query that it answers under some condition, or something
that does not concern it. Whether a user is trusted afterwards depends on the exchange alone.

Results:
* `answer_isStatement`: every query is one statement on one table.
* `Answers.trusts`: the look-up of a user succeeds only if the user has a live row.
* `Answers.not_trusts`: a user whose trust was revoked has no live row.
* `Answers.granted`: a user has a live row only if there was one before or trust was granted.
* `Answers.sameTables`: what is no write changes no table.
-/

namespace ChatWarden.Store

/-! ## Rows after a change of trust -/

namespace TrustTable

variable {now : Tick} {user : String} {table : TrustTable} {row : TrustRow}

/-- Granting trust writes rows of its own user only. -/
theorem mem_trust (h : row ∈ (trust now user table).rows) : row.user = user ∨ row ∈ table.rows := by
  rcases Table.mem_insertOrUpdate h with hold | rfl | ⟨old, -, hkey, hchange⟩
  · exact .inr hold
  · exact .inl rfl
  · obtain rfl := Option.some.inj hchange
    exact .inl hkey

/-- Revoking trust leaves its user no live row, and makes no row live. -/
theorem mem_untrust (h : row ∈ (untrust now user table).rows) (hl : isLive row = true) :
    row.user ≠ user ∧ row ∈ table.rows := by
  obtain ⟨old, hold, hrow⟩ := List.mem_map.mp h
  dsimp only at hrow
  split at hrow
  · subst hrow
    cases hl
  · next happlies =>
    subst hrow
    refine ⟨?_, hold⟩
    rintro rfl
    simp [hl] at happlies

end TrustTable

/-! ## Queries as statements -/

namespace Query

/-- The table that a query is about. -/
abbrev table : Query → TableName
  | .isTrusted _ => .trusted
  | .trust _ => .trusted
  | .untrust _ => .trusted
  | .findResponse _ => .commands
  | .createCommand _ _ => .commands
  | .updateCommand _ _ => .commands
  | .deleteCommand _ => .commands
  | .listNames => .commands

/-- The statement of a query. -/
def statement : (query : Query) → Tick → Table query.table.Row →
    Table query.table.Row × query.Result
  | .isTrusted user, _, table => (table, TrustTable.isTrusted user table)
  | .trust user, now, table => (TrustTable.trust now user table, ())
  | .untrust user, now, table => (TrustTable.untrust now user table, ())
  | .findResponse name, _, table => (table, CommandTable.response? name table)
  | .createCommand name response, now, table => CommandTable.create now name response table
  | .updateCommand name response, now, table => CommandTable.update now name response table
  | .deleteCommand name, now, table => CommandTable.delete now name table
  | .listNames, _, table => (table, table.liveSorted.map (·.name))

/-- A query that is no write keeps its table. -/
theorem statement_of_read {query : Query} (h : query.isWrite = false) (now : Tick)
    (table : Table query.table.Row) : (query.statement now table).1 = table := by
  cases query with
  | isTrusted user => rfl
  | findResponse name => rfl
  | listNames => rfl
  | _ => cases h

end Query

namespace Database

/-- A statement whose answer is looked at differently. -/
theorem IsStatement.map {α β : Type} {name : TableName} {operation : Database → Step α}
    {ticks : Nat} {statement : Tick → Table name.Row → Table name.Row × α}
    (h : IsStatement name operation ticks statement) (f : α → β) :
    IsStatement name (fun db => ((operation db).1.map f, (operation db).2)) ticks
      fun now table => ((statement now table).1, f (statement now table).2) where
  done db table hm ht := by
    rw [h.done db hm ht]
    rfl
  failed db hf := by
    obtain ⟨failure, clock, hs⟩ := h.failed db hf
    exact ⟨failure, clock, by rw [hs]; rfl⟩

/-- Every query is one statement on its table. -/
theorem answer_isStatement (query : Query) :
    ∃ ticks, IsStatement query.table (·.answer query) ticks query.statement := by
  cases query with
  | isTrusted user => exact ⟨0, isTrusted_isStatement user⟩
  | trust user => exact ⟨1, trust_isStatement user⟩
  | untrust user => exact ⟨1, untrust_isStatement user⟩
  | findResponse name => exact ⟨0, response?_isStatement name⟩
  | createCommand name response => exact ⟨1, createCommand_isStatement name response⟩
  | updateCommand name response => exact ⟨1, updateCommand_isStatement name response⟩
  | deleteCommand name => exact ⟨1, deleteCommand_isStatement name⟩
  | listNames => exact ⟨0, listCommands_isStatement.map fun rows => rows.map (·.name)⟩

/-! ## Answers -/

/-- The database answers the exchange, under whatever condition, and then is this one. Requests
    that are no queries do not concern it. -/
def Answers (db : Database) (exchange : Exchange) (after : Database) : Prop :=
  match exchange with
  | ⟨.store query, answer⟩ =>
    ∃ condition : Condition, condition.perform (·.answer query) db = (answer, after)
  | _ => after = db

/-- Two databases have the same tables. -/
def SameTables (db other : Database) : Prop := ∀ name, db.table? name = other.table? name

theorem SameTables.trusts_iff {db other : Database} (h : db.SameTables other) {user : String} :
    db.Trusts user ↔ other.Trusts user := by
  have ht : db.trusted = other.trusted := h .trusted
  rw [Trusts, ht, Trusts]

namespace Answers

variable {db after : Database} {user : String}

/-- A query does its statement, or fails and changes no table. -/
theorem cases_query {query : Query} {answer : Except Failure query.Result}
    (h : db.Answers ⟨.store query, answer⟩ after) :
    (∃ now table, db.table? query.table = some table ∧
      answer = .ok (query.statement now table).2 ∧
      after.table? query.table = some (query.statement now table).1 ∧
      ∀ other, other ≠ query.table → after.table? other = db.table? other) ∨
    (∃ failure, answer = .error failure ∧ after.SameTables db) := by
  obtain ⟨condition, h⟩ := h
  obtain ⟨ticks, hs⟩ := answer_isStatement query
  rcases hs.perform_cases condition db with
    ⟨now, table, ht, hdone⟩ | ⟨failure, medium, clock, -, hfailed⟩
  · obtain ⟨rfl, rfl⟩ := Prod.mk.inj (h.symm.trans hdone)
    refine .inl ⟨now, table, ht, rfl, table?_withTable_self .., fun other ho => ?_⟩
    rw [table?_withTable_of_ne ho, table?_moved]
  · obtain ⟨rfl, rfl⟩ := Prod.mk.inj (h.symm.trans hfailed)
    exact .inr ⟨failure, rfl, fun name => table?_moved ..⟩

theorem sameTables {exchange : Exchange} (h : db.Answers exchange after)
    (hr : exchange.request.isWrite = false) : after.SameTables db := by
  obtain ⟨request, answer⟩ := exchange
  cases request with
  | store query =>
    rcases h.cases_query with ⟨now, table, ht, -, htable, hother⟩ | ⟨failure, -, hsame⟩
    · intro name
      by_cases hn : name = query.table
      · subst hn
        rw [htable, ht, Query.statement_of_read hr]
      · exact hother name hn
    · exact hsame
  | _ =>
    obtain rfl : after = db := h
    exact fun _ => rfl

/-- The look-up of a user succeeds only if the user has a live row. -/
theorem trusts (h : db.Answers ⟨.store (.isTrusted user), .ok true⟩ after) : db.Trusts user := by
  rcases h.cases_query with ⟨now, table, ht, hanswer, -⟩ | ⟨failure, hanswer, -⟩
  · have hmem : user ∈ TrustTable.members table := (Except.ok.inj hanswer).symm
    exact ⟨table, ht, TrustTable.mem_members_iff.mp hmem⟩
  · cases hanswer

/-- A user whose trust was revoked has no live row. -/
theorem not_trusts (h : db.Answers ⟨.store (.untrust user), .ok ()⟩ after) :
    ¬after.Trusts user := by
  rcases h.cases_query with ⟨now, table, ht, -, htable, -⟩ | ⟨failure, hanswer, -⟩
  · rintro ⟨last, hlast, row, hrow, huser, hlive⟩
    obtain rfl : TrustTable.untrust now user table = last :=
      Option.some.inj (htable.symm.trans hlast)
    exact (TrustTable.mem_untrust hrow hlive).1 huser
  · cases hanswer

/-- A user has a live row only if there was one before or trust in the user was granted. -/
theorem granted {exchange : Exchange} (h : db.Answers exchange after) (ht : after.Trusts user) :
    db.Trusts user ∨ exchange = ⟨.store (.trust user), .ok ()⟩ := by
  cases hw : exchange.request.isWrite with
  | false => exact .inl ((h.sameTables hw).trusts_iff.mp ht)
  | true =>
    obtain ⟨last, hlast, row, hrow, huser, hlive⟩ := ht
    obtain ⟨request, answer⟩ := exchange
    cases request with
    | store query =>
      rcases h.cases_query with ⟨now, table, ht, hanswer, htable, hother⟩ | ⟨failure, -, hsame⟩
      · cases query with
        | trust other =>
          obtain rfl : TrustTable.trust now other table = last :=
            Option.some.inj (htable.symm.trans hlast)
          rcases TrustTable.mem_trust hrow with hu | hrow
          · obtain rfl : other = user := hu.symm.trans huser
            exact .inr (by rw [hanswer])
          · exact .inl ⟨table, ht, row, hrow, huser, hlive⟩
        | untrust other =>
          obtain rfl : TrustTable.untrust now other table = last :=
            Option.some.inj (htable.symm.trans hlast)
          exact .inl ⟨table, ht, row, (TrustTable.mem_untrust hrow hlive).2, huser, hlive⟩
        | isTrusted other => cases hw
        | _ =>
          have hsame : after.trusted = db.trusted := hother .trusted (by simp)
          exact .inl ⟨last, hsame ▸ hlast, row, hrow, huser, hlive⟩
      · exact .inl (hsame.trusts_iff.mp ⟨last, hlast, row, hrow, huser, hlive⟩)
    | _ => cases hw

end Answers

/-- The database answers the exchanges one after the other. -/
inductive AnswersAll : Database → List Exchange → Database → Prop
  | nil (db : Database) : AnswersAll db [] db
  | cons {db next last : Database} {exchange : Exchange} {rest : List Exchange} :
      db.Answers exchange next → AnswersAll next rest last → AnswersAll db (exchange :: rest) last

namespace AnswersAll

variable {db last : Database} {path : List Exchange}

theorem sameTables (h : db.AnswersAll path last)
    (hr : ∀ exchange ∈ path, exchange.request.isWrite = false) : last.SameTables db := by
  induction h with
  | nil db => exact fun _ => rfl
  | cons hfirst _ ih =>
    obtain ⟨hread, hrest⟩ := List.forall_mem_cons.mp hr
    intro name
    exact (ih hrest name).trans (hfirst.sameTables hread name)

theorem granted (h : db.AnswersAll path last) {user : String} (ht : last.Trusts user) :
    db.Trusts user ∨ ⟨.store (.trust user), .ok ()⟩ ∈ path := by
  induction h with
  | nil db => exact .inl ht
  | cons hfirst _ ih =>
    rcases ih ht with hnext | hmem
    · rcases hfirst.granted hnext with hdb | heq
      · exact .inl hdb
      · exact .inr (by rw [heq]; exact List.mem_cons_self)
    · exact .inr (List.mem_cons_of_mem _ hmem)

end AnswersAll

end Database

end ChatWarden.Store
