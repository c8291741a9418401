import ChatWarden.Proofs.Store.Answers

/-!
# Look-ups and statements commute

Looking up who is trusted leaves the database as it was, and what the look-up finds does not depend
on the table of commands. So it makes no difference to either of them whether a look-up comes before
or after a statement on the commands.

Results:
* `Condition.perform_congr`: what stood at the path of the database before never matters.
* `Condition.lookUp_alike`: a look-up leaves the database as it was.
* `Condition.lookUp_congr`: a look-up finds the same in databases that agree on trust.
* `Condition.agrees_of_commands`: a statement on the commands leaves trust as it was.
-/

namespace ChatWarden.Store

namespace Database

/-- The databases differ at most in what stands at their path. No operation meets that: each finds
    something there anew. -/
def Alike (db other : Database) : Prop := ∃ medium, other = { db with medium }

/-- The databases stand at the same path and have the same table of trusted users. -/
def AgreesOnTrust (db other : Database) : Prop :=
  db.path = other.path ∧ db.trusted = other.trusted

namespace Alike

variable {db other last : Database}

@[refl] theorem refl (db : Database) : db.Alike db := ⟨db.medium, rfl⟩

@[symm] theorem symm (h : db.Alike other) : other.Alike db := by
  obtain ⟨medium, rfl⟩ := h
  exact ⟨db.medium, rfl⟩

@[trans] theorem trans (h : db.Alike other) (h' : other.Alike last) : db.Alike last := by
  obtain ⟨medium, rfl⟩ := h
  obtain ⟨medium', rfl⟩ := h'
  exact ⟨medium', rfl⟩

theorem sameTables (h : db.Alike other) : db.SameTables other := by
  obtain ⟨medium, rfl⟩ := h
  intro name
  cases name <;> rfl

end Alike

/-- Looking up a user changes nothing. -/
theorem isTrusted_database (db : Database) (user : String) : (db.isTrusted user).2 = db := by
  obtain ⟨path, medium, commands, trusted, clock⟩ := db
  cases medium <;> cases trusted <;> rfl

/-- Looking up a user depends on nothing but the path, what stands there, and who is trusted. -/
theorem isTrusted_congr {db other : Database} (h : db.AgreesOnTrust other) (medium : Medium)
    (user : String) :
    (isTrusted { db with medium } user).1 = (isTrusted { other with medium } user).1 := by
  obtain ⟨path, _, commands, trusted, clock⟩ := db
  obtain ⟨path', _, commands', trusted', clock'⟩ := other
  obtain ⟨rfl, rfl⟩ := h
  cases medium <;> cases trusted <;> rfl

end Database

namespace Condition

open Database

variable {db other : Database} (condition : Condition)

/-- Under the same condition operations meet databases that are alike in the same way. -/
theorem perform_congr {α : Type} (operation : Database → Step α) (h : db.Alike other) :
    (condition.perform operation db).1 = (condition.perform operation other).1 ∧
      (condition.perform operation db).2.Alike (condition.perform operation other).2 := by
  cases condition with
  | breaks done failure => exact ⟨rfl, h⟩
  | stands medium =>
    obtain ⟨medium', rfl⟩ := h
    exact ⟨rfl, .refl _⟩

theorem lookUp_alike (db : Database) (user : String) :
    db.Alike (condition.perform (·.answer (.isTrusted user)) db).2 := by
  cases condition with
  | breaks done failure => exact .refl db
  | stands medium => exact ⟨medium, isTrusted_database _ user⟩

theorem lookUp_congr (h : db.AgreesOnTrust other) (user : String) :
    (condition.perform (·.answer (.isTrusted user)) db).1 =
      (condition.perform (·.answer (.isTrusted user)) other).1 := by
  cases condition with
  | breaks done failure => rfl
  | stands medium => exact isTrusted_congr h medium user

theorem agrees_of_commands {query : Query} (h : query.table = .commands) (db : Database) :
    db.AgreesOnTrust (condition.perform (·.answer query) db).2 := by
  obtain ⟨ticks, hs⟩ := answer_isStatement query
  rcases hs.perform_cases condition db with
    ⟨now, table, -, hdone⟩ | ⟨failure, medium, clock, -, hfailed⟩
  · rw [hdone]
    cases query with
    | isTrusted user => cases h
    | trust user => cases h
    | untrust user => cases h
    | _ => exact ⟨rfl, rfl⟩
  · rw [hfailed]
    exact ⟨rfl, rfl⟩

end Condition

end ChatWarden.Store
