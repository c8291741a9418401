import ChatWarden.Proofs.Store.Answers

/-!
# What the rows hold

Whatever rows hold was written by a query: the store invents no name, no response and no user, and
a row that is deleted or written anew keeps to that. So a property of all that queries write is one
of all rows, deleted ones included.

Results:
* `Query.statement_holds`: one statement.
* `Answers.holds` and `AnswersAll.holds`: one exchange, and a path.
* `openFor_holds`: opening the stores and trusting the users of the configuration.
-/

namespace ChatWarden.Store

/-- Properties of what rows hold. -/
structure Content where
  name : String → Prop
  response : String → Prop
  user : String → Prop

variable {content : Content}

/-- The row holds only such things. -/
def Content.OfRow (content : Content) : (name : TableName) → name.Row → Prop
  | .commands, row => content.name row.name ∧ content.response row.response
  | .trusted, row => content.user row.user

/-- The query writes only such things. -/
def Content.OfQuery (content : Content) : Query → Prop
  | .createCommand name response => content.name name ∧ content.response response
  | .updateCommand _ response => content.response response
  | .trust user => content.user user
  | _ => True

/-- All rows of a database, deleted ones included, hold only such things. -/
def Database.Holds (content : Content) (db : Database) : Prop :=
  ∀ name table, db.table? name = some table → ∀ row ∈ table.rows, content.OfRow name row

/-! ## One statement -/

namespace Query

/-- A statement whose query writes only such things keeps the rows to them. -/
theorem statement_holds {query : Query} (hq : content.OfQuery query) (now : Tick)
    {table : Table query.table.Row} (ht : ∀ row ∈ table.rows, content.OfRow query.table row) :
    ∀ row ∈ (query.statement now table).1.rows, content.OfRow query.table row := by
  intro row hrow
  cases query with
  | isTrusted user => exact ht row hrow
  | findResponse name => exact ht row hrow
  | listNames => exact ht row hrow
  | trust user =>
    rcases Table.mem_insertOrUpdate hrow with hold | rfl | ⟨old, hold, -, hchange⟩
    · exact ht row hold
    · exact hq
    · obtain rfl := Option.some.inj hchange
      exact ht old hold
  | untrust user =>
    rcases Table.mem_updateLive hrow with hold | ⟨old, hold, -, -, rfl⟩
    · exact ht row hold
    · exact ht old hold
  | createCommand name response =>
    rcases Table.mem_insertOrUpdate hrow with hold | rfl | ⟨old, hold, -, hchange⟩
    · exact ht row hold
    · exact hq
    · -- a deleted row that is written anew gets the response of the query and keeps its name
      rw [CommandTable.revived?] at hchange
      split at hchange
      · cases hchange
      · obtain rfl := Option.some.inj hchange
        exact ⟨(ht old hold).1, hq.2⟩
  | updateCommand name response =>
    rcases Table.mem_updateLive hrow with hold | ⟨old, hold, -, -, rfl⟩
    · exact ht row hold
    · exact ⟨(ht old hold).1, hq⟩
  | deleteCommand name =>
    rcases Table.mem_updateLive hrow with hold | ⟨old, hold, -, -, rfl⟩
    · exact ht row hold
    · exact ht old hold

end Query

/-! ## Paths -/

namespace Database

variable {db after last : Database}

theorem Holds.of_sameTables (h : db.Holds content) (hsame : after.SameTables db) :
    after.Holds content :=
  fun name table ht => h name table ((hsame name).symm.trans ht)

/-- An exchange that writes only such things keeps the rows to them. -/
theorem Answers.holds {exchange : Exchange} (h : db.Answers exchange after)
    (hq : ∀ query, exchange.request = .store query → content.OfQuery query)
    (hdb : db.Holds content) : after.Holds content := by
  obtain ⟨request, answer⟩ := exchange
  cases request with
  | store query =>
    rcases h.cases_query with ⟨now, table, ht, -, htable, hother⟩ | ⟨failure, -, hsame⟩
    · intro name found hfound
      by_cases hn : name = query.table
      · subst hn
        obtain rfl := Option.some.inj (htable.symm.trans hfound)
        exact Query.statement_holds (hq query rfl) now (hdb _ table ht)
      · exact hdb name found ((hother name hn).symm.trans hfound)
    · exact hdb.of_sameTables hsame
  | _ =>
    obtain rfl : after = db := h
    exact hdb

/-- A path that writes only such things keeps the rows to them. -/
theorem AnswersAll.holds {path : List Exchange} (h : db.AnswersAll path last)
    (hq : ∀ exchange ∈ path, ∀ query, exchange.request = .store query → content.OfQuery query)
    (hdb : db.Holds content) : last.Holds content := by
  induction h with
  | nil db => exact hdb
  | cons hfirst _ ih =>
    obtain ⟨hexchange, hrest⟩ := List.forall_mem_cons.mp hq
    exact ih hrest (hfirst.holds hexchange hdb)

/-! ## Opening the stores -/

/-- Trusting users one after the other is answering one query after the other. -/
theorem trustAll_holds {users : List String} (husers : ∀ user ∈ users, content.user user)
    (hdb : db.Holds content) : (db.trustAll users).2.Holds content := by
  induction users generalizing db with
  | nil => exact hdb
  | cons user rest ih =>
    obtain ⟨huser, hrest⟩ := List.forall_mem_cons.mp husers
    have hanswers : db.Answers ⟨.store (.trust user), (db.trust user).1⟩ (db.trust user).2 :=
      ⟨.stands db.medium, rfl⟩
    have hfirst : (db.trust user).2.Holds content :=
      hanswers.holds (by rintro query ⟨⟩; exact huser) hdb
    rw [trustAll]
    split
    · next failure next hstep =>
      rw [hstep] at hfirst
      exact hfirst
    · next next hstep =>
      rw [hstep] at hfirst
      exact ih hrest hfirst

/-- A table that is added is empty. -/
theorem migrate_holds (name : TableName) (hdb : db.Holds content) :
    (db.migrate name).2.Holds content := by
  have hgetD {other : TableName} {table : Table other.Row}
      (ht : table = (db.table? other).getD {}) :
      ∀ row ∈ table.rows, content.OfRow other row := by
    subst ht
    cases hfound : db.table? other with
    | none => simp
    | some found => exact hdb other found hfound
  unfold migrate
  split
  · exact hdb
  split
  · exact hdb
  cases name with
  | commands =>
    rintro (_ | _) table ht
    · exact hgetD (Option.some.inj ht).symm
    · exact hdb .trusted table ht
  | trusted =>
    rintro (_ | _) table ht
    · exact hdb .commands table ht
    · exact hgetD (Option.some.inj ht).symm

/-- Opening both stores and trusting users keeps the rows to what they held and to the users. -/
theorem openFor_holds {users : List String} (husers : ∀ user ∈ users, content.user user)
    (hdb : db.Holds content) : (db.openFor users).value.2.Holds content := by
  have hboth : db.openBoth.2.Holds content := by
    have hcommands := migrate_holds .commands hdb
    rw [openBoth]
    split
    · next next hstep =>
      rw [hstep] at hcommands
      exact migrate_holds .trusted hcommands
    · exact hcommands
  have hseed : (db.openBoth.2.seed users).value.2.Holds content := by
    rw [seed_value]
    exact trustAll_holds husers hboth
  unfold openFor
  split
  · next failure next hstep =>
    rw [hstep] at hboth
    exact hboth
  · next next hstep =>
    rw [hstep] at hseed
    exact hseed

/-- A database that was not there before can be opened. -/
theorem openFor_new (path : String) (clock : Tick) (users : List String) :
    ((openFor { path, clock } users).value.1) = .ok () := by
  let opened : Database := { path, clock, commands := some {}, trusted := some {} }
  have hopened : (openFor { path, clock } users).value.1 =
      (opened.seed users).value.1.map fun _ => () := rfl
  obtain ⟨now, last, -, -, hdone⟩ := trustAll_done users opened rfl rfl Table.distinct_empty
  rw [hopened, seed_value, hdone]
  rfl

end Database

end ChatWarden.Store
