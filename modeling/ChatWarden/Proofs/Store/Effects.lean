import ChatWarden.Proofs.Store.Answers

/-!
# What answers tell of the rows

An answer of the store tells what became of the one row that the query is about: it did what it was
asked for, or there was nothing to do and every row stays, or it failed and both tables stay.

Results:
* `Answers.keysDistinct`: no answer gives a key a second row.
* `Answers.row?_eq`: every row stays but the one that the query is about.
* `Answers.effect`: what a query that succeeded found and did.
* `AnswersAll.split` and `AnswersAll.row?_eq`: answers along a path, and the rows that they leave.
* `AnswersAll.keeps_response`: a live command keeps its response until it is replaced or deleted.
-/

namespace ChatWarden.Store

/-! ## Rows that stay -/

/-- What is not live to change leaves every row as it is. -/
theorem Table.updateLive_rows {ρ : Type} [Row ρ] {table : Table ρ} {key : String} {change : ρ → ρ}
    (h : (table.updateLive key change).2 = false) :
    (table.updateLive key change).1.rows = table.rows := by
  have hnone : ∀ row ∈ table.rows, (Row.key row == key && isLive row) = false := by
    intro row hrow
    rw [Bool.eq_false_iff]
    exact List.any_eq_false.mp h row hrow
  have hkept : ∀ row ∈ table.rows,
      (if (Row.key row == key && isLive row) = true then change row else row) = id row := by
    intro row hrow
    rw [hnone row hrow, if_neg Bool.false_ne_true, id]
  calc (table.updateLive key change).1.rows = table.rows.map id := List.map_congr_left hkept
    _ = table.rows := List.map_id _

theorem CommandTable.create_rows {now : Tick} {name response : String} {table : CommandTable}
    (h : (create now name response table).2 = false) :
    (create now name response table).1.rows = table.rows := by
  unfold create at h ⊢
  cases hfind : table.find? name with
  | none =>
    rw [Table.insertOrUpdate_of_none hfind] at h
    cases h
  | some row =>
    cases hrevived : revived? now response row with
    | none => rw [Table.insertOrUpdate_of_refused hfind hrevived]
    | some changed =>
      rw [Table.insertOrUpdate_of_changed hfind hrevived] at h
      cases h

/-- A live command has a live row. -/
theorem CommandTable.exists_live_row {table : CommandTable} {name : String} (hd : table.Distinct)
    (h : (table.responses name).isSome = true) :
    ∃ row, table.find? name = some row ∧ isLive row = true := by
  rw [responses_eq hd, Option.isSome_map] at h
  obtain ⟨row, hrow⟩ := Option.isSome_iff_exists.mp h
  exact ⟨row, Option.filter_eq_some_iff.mp hrow⟩

namespace Query

/-! ## What queries are about -/

/-- The key of the row that a query may write. -/
def key? : Query → Option String
  | .trust user => some user
  | .untrust user => some user
  | .createCommand name _ => some name
  | .updateCommand name _ => some name
  | .deleteCommand name => some name
  | .isTrusted _ => none
  | .findResponse _ => none
  | .listNames => none

/-- Only writes are about a row. -/
theorem isWrite_of_key? {query : Query} {key : String} (h : query.key? = some key) :
    query.isWrite = true := by
  cases query with
  | isTrusted user => cases h
  | findResponse name => cases h
  | listNames => cases h
  | _ => rfl

/-- Whether the store did what a query asks for, by the result of the query. -/
def did : (query : Query) → query.Result → Bool
  | .createCommand _ _, done => done
  | .updateCommand _ _, done => done
  | .deleteCommand _, done => done
  | .trust _, _ => true
  | .untrust _, _ => true
  | .isTrusted _, _ => false
  | .findResponse _, _ => false
  | .listNames, _ => false

/-- No statement gives a key a second row. -/
theorem statement_distinct (query : Query) (now : Tick) {table : Table query.table.Row}
    (h : table.Distinct) : (query.statement now table).1.Distinct := by
  cases query with
  | trust user => exact TrustTable.trust_distinct h
  | untrust user => exact TrustTable.untrust_distinct h
  | createCommand name response => exact CommandTable.create_distinct h
  | updateCommand name response => exact CommandTable.update_distinct h
  | deleteCommand name => exact CommandTable.delete_distinct h
  | _ => exact h

/-- A statement leaves the rows of all keys but its own. -/
theorem statement_find? {query : Query} {key : String} (hkey : query.key? ≠ some key) (now : Tick)
    (table : Table query.table.Row) :
    (query.statement now table).1.find? key = table.find? key := by
  have hne {own : String} (h : some own ≠ some key) : key ≠ own := fun heq => h (by rw [heq])
  cases query with
  | trust user =>
    refine (TrustTable.find?_trust key).trans ?_
    rw [if_neg (hne hkey)]
  | untrust user =>
    refine (TrustTable.find?_untrust key).trans ?_
    simp only [hne hkey, false_and, if_false, Option.map_id']
  | createCommand name response =>
    refine (CommandTable.find?_create key).trans ?_
    rw [if_neg (hne hkey)]
  | updateCommand name response =>
    refine (CommandTable.find?_update key).trans ?_
    simp only [hne hkey, false_and, if_false, Option.map_id']
  | deleteCommand name =>
    refine (CommandTable.find?_delete key).trans ?_
    simp only [hne hkey, false_and, if_false, Option.map_id']
  | _ => rfl

end Query

namespace Database

/-! ## Rows of a database -/

/-- The row of a key, live or deleted. -/
def row? (db : Database) (name : TableName) (key : String) : Option name.Row :=
  (db.table? name).bind (·.find? key)

theorem row?_of_some {db : Database} (name : TableName) {table : Table name.Row}
    (h : db.table? name = some table) (key : String) : db.row? name key = table.find? key := by
  rw [row?, h, Option.bind_some]

/-- The same rows stand in the tables. -/
def SameRows (db other : Database) : Prop :=
  ∀ name, (db.table? name).map (·.rows) = (other.table? name).map (·.rows)

variable {db after : Database}

theorem SameTables.sameRows (h : after.SameTables db) : after.SameRows db := by
  intro name
  rw [h name]

theorem SameTables.row?_eq (h : after.SameTables db) (name : TableName) (key : String) :
    after.row? name key = db.row? name key := by
  rw [row?, h name, row?]

theorem SameTables.responses_eq (h : after.SameTables db) : after.responses = db.responses := by
  have hcommands : after.commands = db.commands := h .commands
  funext name
  rw [responses, hcommands, responses]

theorem SameTables.keysDistinct (h : after.SameTables db) (hdb : db.KeysDistinct) :
    after.KeysDistinct := by
  intro name table ht
  rw [h name] at ht
  exact hdb name table ht

/-! ## One answer -/

/-- What has to be so before, for the store to do what a query asks for. -/
def Applies (db : Database) : Query → Prop
  | .createCommand name _ => db.responses name = none
  | .updateCommand name _ => (db.responses name).isSome = true
  | .deleteCommand name => (db.responses name).isSome = true
  | .trust _ => True
  | .untrust _ => True
  | .isTrusted _ => False
  | .findResponse _ => False
  | .listNames => False

/-- What is so once the store did what a query asks for. -/
def Done (db after : Database) : Query → Prop
  | .createCommand name response => after.responses name = some response
  | .updateCommand name response => after.responses name = some response ∧
      ∃ now, after.row? .commands name = (db.row? .commands name).map fun row : CommandRow =>
        { row with response, updatedAt := now }
  | .deleteCommand name => after.responses name = none ∧
      ∃ now, after.row? .commands name = (db.row? .commands name).map fun row : CommandRow =>
        { row with deletedAt := some now }
  | .trust user => after.Trusts user
  | .untrust user => ¬after.Trusts user
  | .isTrusted _ => False
  | .findResponse _ => False
  | .listNames => False

theorem SameTables.applies_iff (h : after.SameTables db) (query : Query) :
    after.Applies query ↔ db.Applies query := by
  cases query <;> simp only [Applies, h.responses_eq]

theorem SameTables.done_iff (h : after.SameTables db) (last : Database) (query : Query) :
    after.Done last query ↔ db.Done last query := by
  cases query <;> simp only [Done, h.row?_eq]

theorem SameRows.row?_eq (h : after.SameRows db) (name : TableName) (key : String) :
    after.row? name key = db.row? name key := by
  have hrows (db : Database) : db.row? name key =
      ((db.table? name).map (·.rows)).bind fun rows => rows.find? (Row.key · == key) := by
    rw [row?, Option.bind_map]
    rfl
  rw [hrows, hrows, h name]

/-- The response of a command is that of its row, if the row is live. -/
theorem responses_eq_row? (hdb : db.KeysDistinct) (name : String) :
    db.responses name =
      ((db.row? .commands name).filter isLive).map fun row : CommandRow => row.response := by
  cases ht : db.commands with
  | none =>
    rw [responses, row?, table?, ht, Option.bind_none, Option.bind_none]
    rfl
  | some table =>
    rw [responses_of_some ht, CommandTable.responses_eq (hdb .commands table ht),
      row?_of_some .commands ht]

theorem SameRows.trans {last : Database} (h : last.SameRows after) (h' : after.SameRows db) :
    last.SameRows db := by
  intro name
  rw [h name, h' name]

namespace Answers

/-- The look-up of a user who has a live row succeeds, if it does not fail. -/
theorem looked_up {user : String} {found : Bool}
    (h : db.Answers ⟨.store (.isTrusted user), .ok found⟩ after) (ht : db.Trusts user) :
    found = true := by
  rcases h.cases_query with ⟨now, table, htable, hanswer, -⟩ | ⟨_, hanswer, -⟩
  · obtain ⟨trusted, htrusted, hlive⟩ := ht
    obtain rfl : trusted = table := Option.some.inj (htrusted.symm.trans htable)
    have hmem : user ∈ TrustTable.members trusted := TrustTable.mem_members_iff.mpr hlive
    exact (Except.ok.inj hanswer).trans hmem
  · cases hanswer

/-- The look-up of a command finds its response, if it does not fail. -/
theorem found {name : String} {found : Option String}
    (h : db.Answers ⟨.store (.findResponse name), .ok found⟩ after) :
    found = db.responses name := by
  rcases h.cases_query with ⟨now, table, htable, hanswer, -⟩ | ⟨_, hanswer, -⟩
  · rw [responses_of_some htable]
    exact Except.ok.inj hanswer
  · cases hanswer

theorem keysDistinct {exchange : Exchange} (h : db.Answers exchange after)
    (hdb : db.KeysDistinct) : after.KeysDistinct := by
  obtain ⟨request, answer⟩ := exchange
  cases request with
  | store query =>
    rcases h.cases_query with ⟨now, table, ht, -, htable, hother⟩ | ⟨failure, -, hsame⟩
    · intro name last hlast
      by_cases hn : name = query.table
      · subst hn
        rw [htable] at hlast
        obtain rfl := Option.some.inj hlast
        exact query.statement_distinct now (hdb _ table ht)
      · rw [hother name hn] at hlast
        exact hdb name last hlast
    · exact hsame.keysDistinct hdb
  | _ =>
    obtain rfl : after = db := h
    exact hdb

/-- Every row stays but the one that a query is about. -/
theorem row?_eq {query : Query} {answer : Except Failure query.Result}
    (h : db.Answers ⟨.store query, answer⟩ after) {name : TableName} {key : String}
    (hkey : name = query.table → query.key? ≠ some key) :
    after.row? name key = db.row? name key := by
  rcases h.cases_query with ⟨now, table, ht, -, htable, hother⟩ | ⟨failure, -, hsame⟩
  · by_cases hn : name = query.table
    · subst hn
      rw [row?, htable, row?, ht]
      exact Query.statement_find? (hkey rfl) now table
    · rw [row?, hother name hn, row?]
  · exact hsame.row?_eq name key

/-- A query that fails changes no table. -/
theorem sameTables_of_error {query : Query} {failure : Failure}
    (h : db.Answers ⟨.store query, .error failure⟩ after) : after.SameTables db := by
  rcases h.cases_query with ⟨now, table, -, hanswer, -⟩ | ⟨_, -, hsame⟩
  · cases hanswer
  · exact hsame

/-- The rows stay if the statement on the table of the query leaves its rows. -/
theorem sameRows_of_statement {query : Query} {now : Tick} {table : Table query.table.Row}
    (ht : db.table? query.table = some table)
    (htable : after.table? query.table = some (query.statement now table).1)
    (hother : ∀ other, other ≠ query.table → after.table? other = db.table? other)
    (hrows : (query.statement now table).1.rows = table.rows) : after.SameRows db := by
  intro name
  by_cases hn : name = query.table
  · subst hn
    rw [htable, ht, Option.map_some, Option.map_some, hrows]
  · rw [hother name hn]

/-! ### Statements on the commands -/

section Commands

variable {table : CommandTable} {now : Tick} {name response : String}

/-- A command is created if its name is not live. -/
theorem effect_create (hd : table.Distinct) (ht : db.commands = some table)
    (htable : after.commands = some (CommandTable.create now name response table).1) :
    ((CommandTable.create now name response table).2 = true ∧
        db.Applies (.createCommand name response) ∧ db.Done after (.createCommand name response)) ∨
      ((CommandTable.create now name response table).2 = false ∧
        ¬db.Applies (.createCommand name response)) := by
  rw [Applies, Done, responses_of_some ht, responses_of_some htable,
    CommandTable.create_answer hd, CommandTable.responses_create hd]
  cases hlive : table.responses name with
  | none =>
    refine .inl ⟨rfl, rfl, ?_⟩
    rw [Option.isNone_none, if_pos rfl, Function.update_self]
  | some old => exact .inr ⟨rfl, Option.some_ne_none old⟩

/-- The response of a command is changed if its name is live. -/
theorem effect_update (hd : table.Distinct) (ht : db.commands = some table)
    (htable : after.commands = some (CommandTable.update now name response table).1) :
    ((CommandTable.update now name response table).2 = true ∧
        db.Applies (.updateCommand name response) ∧ db.Done after (.updateCommand name response)) ∨
      ((CommandTable.update now name response table).2 = false ∧
        ¬db.Applies (.updateCommand name response)) := by
  rw [Applies, Done, responses_of_some ht, responses_of_some htable, CommandTable.update_answer,
    CommandTable.responses_update hd]
  cases hlive : (table.responses name).isSome with
  | true =>
    obtain ⟨row, hfind, hrow⟩ := CommandTable.exists_live_row hd hlive
    refine .inl ⟨rfl, rfl, ?_, now, ?_⟩
    · rw [if_pos rfl, Function.update_self]
    · rw [row?_of_some .commands htable, row?_of_some .commands ht]
      refine (CommandTable.find?_update name).trans ?_
      rw [hfind]
      simp [hrow]
  | false => exact .inr ⟨rfl, Bool.false_ne_true⟩

/-- A command is deleted if its name is live. -/
theorem effect_delete (hd : table.Distinct) (ht : db.commands = some table)
    (htable : after.commands = some (CommandTable.delete now name table).1) :
    ((CommandTable.delete now name table).2 = true ∧
        db.Applies (.deleteCommand name) ∧ db.Done after (.deleteCommand name)) ∨
      ((CommandTable.delete now name table).2 = false ∧ ¬db.Applies (.deleteCommand name)) := by
  rw [Applies, Done, responses_of_some ht, responses_of_some htable, CommandTable.delete_answer,
    CommandTable.responses_delete hd]
  cases hlive : (table.responses name).isSome with
  | true =>
    obtain ⟨row, hfind, hrow⟩ := CommandTable.exists_live_row hd hlive
    refine .inl ⟨rfl, rfl, Function.update_self .., now, ?_⟩
    rw [row?_of_some .commands htable, row?_of_some .commands ht]
    refine (CommandTable.find?_delete name).trans ?_
    rw [hfind]
    simp [hrow]
  | false => exact .inr ⟨rfl, Bool.false_ne_true⟩

end Commands

/-- A query that succeeds tells whether the store could do what it asks for. If so it is done, and
    else every row stays. -/
theorem effect {query : Query} {result : query.Result} (hdb : db.KeysDistinct)
    (h : db.Answers ⟨.store query, .ok result⟩ after) :
    (query.did result = true ∧ db.Applies query ∧ db.Done after query) ∨
      (query.did result = false ∧ ¬db.Applies query ∧ after.SameRows db) := by
  rcases h.cases_query with ⟨now, table, ht, hanswer, htable, hother⟩ | ⟨_, hanswer, -⟩
  swap
  · cases hanswer
  obtain rfl := Except.ok.inj hanswer
  have hd : table.Distinct := hdb _ table ht
  have hsame (hrows : (query.statement now table).1.rows = table.rows) : after.SameRows db :=
    sameRows_of_statement ht htable hother hrows
  cases query with
  | createCommand name response =>
    refine (effect_create hd ht htable).imp id fun ⟨hrefused, happlies⟩ => ?_
    exact ⟨hrefused, happlies, hsame (CommandTable.create_rows hrefused)⟩
  | updateCommand name response =>
    refine (effect_update hd ht htable).imp id fun ⟨hrefused, happlies⟩ => ?_
    exact ⟨hrefused, happlies, hsame (Table.updateLive_rows hrefused)⟩
  | deleteCommand name =>
    refine (effect_delete hd ht htable).imp id fun ⟨hrefused, happlies⟩ => ?_
    exact ⟨hrefused, happlies, hsame (Table.updateLive_rows hrefused)⟩
  | trust user =>
    have hmem : user ∈ after.trustedUsers := by
      rw [trustedUsers_of_some htable]
      have hmembers : (TrustTable.trust now user table).members =
          insert user (TrustTable.members table) := TrustTable.members_trust hd
      exact hmembers ▸ Set.mem_insert user _
    exact .inl ⟨rfl, trivial, hmem⟩
  | untrust user =>
    refine .inl ⟨rfl, trivial, fun htrusts => ?_⟩
    have hmem : user ∈ after.trustedUsers := htrusts
    rw [trustedUsers_of_some htable] at hmem
    have hmembers : (TrustTable.untrust now user table).members =
        TrustTable.members table \ {user} := TrustTable.members_untrust hd
    exact (hmembers ▸ hmem : user ∈ TrustTable.members table \ {user}).2 rfl
  | _ => exact .inr ⟨rfl, id, hsame rfl⟩

end Answers

end Database

end ChatWarden.Store

/-! ## Many answers -/

namespace ChatWarden

open Store (Database TableName)

/-- The request may write the row of a key. -/
def Request.Touches (request : Request) (name : TableName) (key : String) : Prop :=
  ∃ query, request = .store query ∧ query.table = name ∧ query.key? = some key

/-- The request neither replaces the response of a command nor deletes the command. -/
def Request.Spares (request : Request) (name : String) : Prop :=
  (∀ response, request ≠ .store (.updateCommand name response)) ∧
    request ≠ .store (.deleteCommand name)

namespace Store.Database

variable {db last : Database} {path : List Exchange}

theorem Answers.row?_eq_of_not_touches {exchange : Exchange} {after : Database}
    (h : db.Answers exchange after) {name : TableName} {key : String}
    (ht : ¬exchange.request.Touches name key) : after.row? name key = db.row? name key := by
  obtain ⟨request, answer⟩ := exchange
  cases request with
  | store query => exact h.row?_eq fun hname hkey => ht ⟨query, rfl, hname.symm, hkey⟩
  | _ =>
    obtain rfl : after = db := h
    rfl

/-- The response of a live command stays, unless it is replaced or the command is deleted. To
    create the command once more changes nothing. -/
theorem Answers.keeps_response {exchange : Exchange} {after : Database} {name response : String}
    (h : db.Answers exchange after) (hdb : db.KeysDistinct)
    (hlive : db.responses name = some response) (hs : exchange.request.Spares name) :
    after.responses name = some response := by
  have hrow : after.row? .commands name = db.row? .commands name := by
    by_cases ht : exchange.request.Touches .commands name
    · obtain ⟨request, answer⟩ := exchange
      obtain ⟨query, rfl, htable, hkey⟩ := ht
      cases query with
      | createCommand own text =>
        obtain rfl := Option.some.inj hkey
        cases answer with
        | error failure => exact h.sameTables_of_error.row?_eq .commands own
        | ok done =>
          rcases h.effect hdb with ⟨-, happlies, -⟩ | ⟨-, -, hsame⟩
          · rw [Applies, hlive] at happlies
            cases happlies
          · exact hsame.row?_eq .commands own
      | updateCommand own text =>
        obtain rfl := Option.some.inj hkey
        exact absurd rfl (hs.1 text)
      | deleteCommand own =>
        obtain rfl := Option.some.inj hkey
        exact absurd rfl hs.2
      | trust user => cases htable
      | untrust user => cases htable
      | _ => cases hkey
    · exact h.row?_eq_of_not_touches ht
  rw [responses_eq_row? (h.keysDistinct hdb), hrow, ← responses_eq_row? hdb, hlive]

namespace AnswersAll

/-- What is answered along a path is answered along its first part, and then along the rest. -/
theorem split {front back : List Exchange} (h : db.AnswersAll (front ++ back) last) :
    ∃ middle, db.AnswersAll front middle ∧ middle.AnswersAll back last := by
  induction front generalizing db with
  | nil => exact ⟨db, .nil db, h⟩
  | cons first rest ih =>
    cases h with
    | cons hfirst hrest =>
      obtain ⟨middle, hfront, hback⟩ := ih hrest
      exact ⟨middle, .cons hfirst hfront, hback⟩

/-- Nothing but queries concerns the database. -/
theorem eq_of_area (h : db.AnswersAll path last)
    (hpath : ∀ exchange ∈ path, exchange.request.area ≠ .store) : last = db := by
  induction h with
  | nil db => rfl
  | @cons db next last exchange rest hfirst _ ih =>
    obtain ⟨harea, hmore⟩ := List.forall_mem_cons.mp hpath
    rw [ih hmore]
    obtain ⟨request, answer⟩ := exchange
    cases request with
    | store query => exact absurd rfl harea
    | _ => exact hfirst

theorem keysDistinct (h : db.AnswersAll path last) (hdb : db.KeysDistinct) :
    last.KeysDistinct := by
  induction h with
  | nil db => exact hdb
  | cons hfirst _ ih => exact ih (hfirst.keysDistinct hdb)

theorem keeps_response {name response : String} (h : db.AnswersAll path last)
    (hdb : db.KeysDistinct) (hlive : db.responses name = some response)
    (hpath : ∀ exchange ∈ path, exchange.request.Spares name) :
    last.responses name = some response := by
  induction h with
  | nil db => exact hlive
  | cons hfirst _ ih =>
    obtain ⟨hs, hmore⟩ := List.forall_mem_cons.mp hpath
    exact ih (hfirst.keysDistinct hdb) (hfirst.keeps_response hdb hlive hs) hmore

/-- A row stays if no request may write it. -/
theorem row?_eq (h : db.AnswersAll path last) {name : TableName} {key : String}
    (hpath : ∀ exchange ∈ path, ¬exchange.request.Touches name key) :
    last.row? name key = db.row? name key := by
  induction h with
  | nil db => rfl
  | cons hfirst _ ih =>
    obtain ⟨htouches, hmore⟩ := List.forall_mem_cons.mp hpath
    exact (ih hmore).trans (hfirst.row?_eq_of_not_touches htouches)

end AnswersAll

end Store.Database

end ChatWarden
