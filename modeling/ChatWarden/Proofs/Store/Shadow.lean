import ChatWarden.Proofs.Store.Answers
import ChatWarden.Proofs.Store.CommandMap

/-!
# Names out of sight

Two databases may differ in the commands under some names, and be the same for whoever never asks
for these names. Queries about other names, and about trust, get the same answers from both and
leave them so; only a listing of all names could tell them apart.

Results:
* `CommandTable.AgreesOff`, and that every statement about another name keeps it.
* `Database.AgreesOff.perform`: the same for queries, under every condition.
-/

namespace ChatWarden.Store

/-! ## Tables -/

namespace CommandTable

/-- The tables have the same live responses under all names but the hidden ones. -/
structure AgreesOff (hidden : String → Bool) (table other : CommandTable) : Prop where
  distinct : table.Distinct
  distinct' : other.Distinct
  responses : ∀ name, hidden name = false → table.responses name = other.responses name

namespace AgreesOff

variable {hidden : String → Bool} {table other : CommandTable} {now : Tick}
  {name response : String}

/-- Two maps that agree off the hidden names do so after the same change. -/
theorem update_congr {map map' : CommandMap}
    (h : ∀ key, hidden key = false → map key = map' key) (value : Option String) (key : String)
    (hkey : hidden key = false) :
    Function.update map name value key = Function.update map' name value key := by
  by_cases heq : key = name
  · rw [heq, Function.update_self, Function.update_self]
  · rw [Function.update_of_ne heq, Function.update_of_ne heq, h key hkey]

theorem create (h : table.AgreesOff hidden other) (hname : hidden name = false) :
    (CommandTable.create now name response table).2 =
        (CommandTable.create now name response other).2 ∧
      AgreesOff hidden (CommandTable.create now name response table).1
        (CommandTable.create now name response other).1 := by
  have hsame := h.responses name hname
  refine ⟨by rw [create_answer h.distinct, create_answer h.distinct', hsame],
    create_distinct h.distinct, create_distinct h.distinct', fun key hkey => ?_⟩
  rw [responses_create h.distinct, responses_create h.distinct', hsame]
  cases (other.responses name).isNone with
  | true => exact update_congr h.responses (some response) key hkey
  | false => exact h.responses key hkey

theorem update (h : table.AgreesOff hidden other) (hname : hidden name = false) :
    (CommandTable.update now name response table).2 =
        (CommandTable.update now name response other).2 ∧
      AgreesOff hidden (CommandTable.update now name response table).1
        (CommandTable.update now name response other).1 := by
  have hsame := h.responses name hname
  refine ⟨by rw [update_answer, update_answer, hsame],
    update_distinct h.distinct, update_distinct h.distinct', fun key hkey => ?_⟩
  rw [responses_update h.distinct, responses_update h.distinct', hsame]
  cases (other.responses name).isSome with
  | true => exact update_congr h.responses (some response) key hkey
  | false => exact h.responses key hkey

theorem delete (h : table.AgreesOff hidden other) (hname : hidden name = false) :
    (CommandTable.delete now name table).2 = (CommandTable.delete now name other).2 ∧
      AgreesOff hidden (CommandTable.delete now name table).1
        (CommandTable.delete now name other).1 := by
  have hsame := h.responses name hname
  refine ⟨by rw [delete_answer, delete_answer, hsame],
    delete_distinct h.distinct, delete_distinct h.distinct', fun key hkey => ?_⟩
  rw [responses_delete h.distinct, responses_delete h.distinct']
  exact update_congr h.responses none key hkey

end AgreesOff

end CommandTable

/-! ## Databases -/

/-- Whether a query is about no hidden command: it is about one of another name, or about trust. -/
def Query.AvoidsHidden (hidden : String → Bool) : Query → Prop
  | .findResponse name => hidden name = false
  | .createCommand name _ => hidden name = false
  | .updateCommand name _ => hidden name = false
  | .deleteCommand name => hidden name = false
  | .listNames => False
  | .isTrusted _ | .trust _ | .untrust _ => True

namespace Database

/-- The databases have the same live responses under all names but the hidden ones, and are the
    same otherwise. What stands at their path when an operation begins is left to the condition. -/
structure AgreesOff (hidden : String → Bool) (db other : Database) : Prop where
  path : db.path = other.path
  trusted : db.trusted = other.trusted
  clock : db.clock = other.clock
  commands : (db.commands = none ∧ other.commands = none) ∨
    ∃ table table', db.commands = some table ∧ other.commands = some table' ∧
      table.AgreesOff hidden table'

namespace AgreesOff

variable {hidden : String → Bool} {db other : Database}

/-- The live responses are the same under all names but the hidden ones. -/
theorem responses (h : db.AgreesOff hidden other) {name : String} (hname : hidden name = false) :
    db.responses name = other.responses name := by
  rcases h.commands with ⟨hnone, hnone'⟩ | ⟨table, table', ht, ht', hagree⟩
  · simp [Database.responses, hnone, hnone']
  · rw [responses_of_some ht, responses_of_some ht', hagree.responses name hname]

theorem moved (h : db.AgreesOff hidden other) (medium : Medium) :
    AgreesOff hidden { db with medium } { other with medium } :=
  ⟨h.path, h.trusted, h.clock, h.commands⟩

theorem ticked (h : db.AgreesOff hidden other) : AgreesOff hidden db.ticked other.ticked :=
  ⟨h.path, h.trusted, congrArg (· + 1) h.clock, h.commands⟩

/-- A statement on the commands that tables which agree answer alike. -/
theorem onCommands {α : Type} (h : db.AgreesOff hidden other) (hmedium : db.medium = other.medium)
    (deed : Deed) (asksClock : Bool) {statement : Tick → CommandTable → CommandTable × α}
    (hstatement : ∀ now table table', CommandTable.AgreesOff hidden table table' →
      (statement now table).2 = (statement now table').2 ∧
        CommandTable.AgreesOff hidden (statement now table).1 (statement now table').1) :
    (db.onCommands deed asksClock statement).1 = (other.onCommands deed asksClock statement).1 ∧
      AgreesOff hidden (db.onCommands deed asksClock statement).2
        (other.onCommands deed asksClock statement).2 := by
  obtain ⟨path, medium, commands, trusted, clock⟩ := db
  obtain ⟨path', medium', commands', trusted', clock'⟩ := other
  obtain ⟨rfl, rfl, rfl, hcommands⟩ := h
  obtain rfl := hmedium
  cases medium with
  | directory => exact ⟨rfl, rfl, rfl, rfl, hcommands⟩
  | junk => cases asksClock <;> exact ⟨rfl, rfl, rfl, rfl, hcommands⟩
  | database =>
    rcases hcommands with ⟨hnone, hnone'⟩ | ⟨table, table', hsome, hsome', hagree⟩
    · obtain rfl : commands = none := hnone
      obtain rfl : commands' = none := hnone'
      cases asksClock <;> exact ⟨rfl, rfl, rfl, rfl, .inl ⟨rfl, rfl⟩⟩
    · obtain rfl : commands = some table := hsome
      obtain rfl : commands' = some table' := hsome'
      obtain ⟨hanswer, hafter⟩ := hstatement (clock + asksClock.toNat) table table' hagree
      cases asksClock with
      | true =>
        exact ⟨congrArg Except.ok hanswer, rfl, rfl, rfl, .inr ⟨_, _, rfl, rfl, hafter⟩⟩
      | false =>
        exact ⟨congrArg Except.ok hanswer, rfl, rfl, rfl, .inr ⟨_, _, rfl, rfl, hafter⟩⟩

/-- A statement on who is trusted does not concern the commands. -/
theorem onTrusted {α : Type} (h : db.AgreesOff hidden other) (hmedium : db.medium = other.medium)
    (deed : Deed) (statement : Tick → TrustTable → TrustTable × α) :
    (db.onTrusted deed statement).1 = (other.onTrusted deed statement).1 ∧
      AgreesOff hidden (db.onTrusted deed statement).2 (other.onTrusted deed statement).2 := by
  obtain ⟨path, medium, commands, trusted, clock⟩ := db
  obtain ⟨path', medium', commands', trusted', clock'⟩ := other
  obtain ⟨rfl, rfl, rfl, hcommands⟩ := h
  obtain rfl := hmedium
  cases medium <;> cases trusted <;> exact ⟨rfl, rfl, rfl, rfl, hcommands⟩

/-- Queries that avoid the hidden names are answered alike. -/
theorem answer (h : db.AgreesOff hidden other) (hmedium : db.medium = other.medium)
    {query : Query} (hquery : query.AvoidsHidden hidden) :
    (db.answer query).1 = (other.answer query).1 ∧
      AgreesOff hidden (db.answer query).2 (other.answer query).2 := by
  cases query with
  | isTrusted user => exact h.onTrusted hmedium _ _
  | trust user => exact h.ticked.onTrusted hmedium _ _
  | untrust user => exact h.ticked.onTrusted hmedium _ _
  | findResponse name =>
    exact h.onCommands hmedium _ _ fun _ _ _ hagree => ⟨hagree.responses name hquery, hagree⟩
  | createCommand name response =>
    exact h.ticked.onCommands hmedium _ _ fun _ _ _ hagree => hagree.create hquery
  | updateCommand name response =>
    exact h.onCommands hmedium _ _ fun _ _ _ hagree => hagree.update hquery
  | deleteCommand name =>
    exact h.onCommands hmedium _ _ fun _ _ _ hagree => hagree.delete hquery
  | listNames => exact hquery.elim

/-- Under the same condition, queries that avoid the hidden names are answered alike. -/
theorem perform (h : db.AgreesOff hidden other) (condition : Condition) {query : Query}
    (hquery : query.AvoidsHidden hidden) :
    (condition.perform (·.answer query) db).1 = (condition.perform (·.answer query) other).1 ∧
      AgreesOff hidden (condition.perform (·.answer query) db).2
        (condition.perform (·.answer query) other).2 := by
  cases condition with
  | stands medium => exact (h.moved medium).answer rfl hquery
  | breaks done failure => exact ⟨rfl, h⟩

end AgreesOff

end Database

end ChatWarden.Store
