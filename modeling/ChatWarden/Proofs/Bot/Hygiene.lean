import ChatWarden.Launch
import ChatWarden.Proofs.Bot.Confinement
import ChatWarden.Proofs.Chat.Words
import ChatWarden.Proofs.Store.Content

/-!
# What can be in the store

The store takes what it is given. That nothing else gets in than names of custom commands, trimmed
responses and names of users is up to those who write to it: the commands, which check their
arguments, and the configuration, which drops what is no user name.

Results:
* `Builtin.execute_writes` and `Setup.handle_writes`: what a command and a line write.
* `Identity.ofEntries_trusted`: whom the configuration trusts.
* `store_stays_clean`: every row after every run over a new database.
-/

namespace ChatWarden

open Store (Content Database Query)

/-! ## What commands write -/

/-- What the checks of the commands let through. -/
def Content.checked (isBuiltin : String → Bool) : Content where
  name := CustomAdmin.IsFree isBuiltin
  response text := text ≠ "" ∧ Text.Trimmed text.toList
  user name := Chat.isUserName name = true

/-- Requests that write only what the checks let through. -/
def WritesChecked (isBuiltin : String → Bool) (request : Request) : Prop :=
  ∀ query, request = .store query → (Content.checked isBuiltin).OfQuery query

variable {isBuiltin : String → Bool}

theorem WritesChecked.of_area {request : Request} (h : request.area ≠ .store) :
    WritesChecked isBuiltin request := by
  rintro query rfl
  exact absurd rfl h

theorem WritesChecked.of_query {query : Query} (h : (Content.checked isBuiltin).OfQuery query) :
    WritesChecked isBuiltin (.store query) := by
  rintro other ⟨⟩
  exact h

theorem CustomAdmin.Passes.content {action : CustomAdmin} {args : String}
    (h : action.Passes isBuiltin args) : (Content.checked isBuiltin).OfQuery (action.query args) := by
  cases action with
  | create => exact ⟨h.2, Chat.response_of_hasWords h.1⟩
  | update => exact Chat.response_of_hasWords h.1
  | delete => trivial

/-- A command writes only what the checks let through. -/
theorem Builtin.execute_writes (tools : Tools) (registry : Registry Builtin) (command : Builtin)
    (args sender : String) :
    (execute tools registry command args sender).AsksOnly (WritesChecked registry.contains) := by
  have hlog (request : Request) (h : request.area = .log) :
      WritesChecked registry.contains request := .of_area (by simp [h])
  cases command with
  | custom action =>
    refine (CustomAdmin.execute_asks ..).widen ?_
    rintro request (⟨rfl, hpasses⟩ | h)
    · exact .of_query hpasses.content
    · exact hlog request h
  | trust action =>
    refine (TrustAdmin.execute_asks ..).widen ?_
    rintro request (⟨rfl, huser⟩ | h)
    · cases action with
      | grant => exact .of_query huser
      | revoke => exact .of_query trivial
    · exact hlog request h
  | _ =>
    refine (execute_asks ..).widen fun request h => ?_
    rcases h.store_cases with harea | ⟨-, rfl⟩ | ⟨_, hcommand, -⟩ | ⟨_, hcommand, -⟩
    · exact .of_area harea
    · exact .of_query trivial
    · cases hcommand
    · cases hcommand

/-! ## What lines write -/

/-- A line writes only what the checks let through. -/
theorem Setup.handle_writes (setup : Setup) (text sender : String) :
    (setup.handle text sender).AsksOnly (WritesChecked setup.registry.contains) := by
  have hreply (request : Request) (h : request.area = .channel ∨ request.area = .log) :
      WritesChecked setup.registry.contains request :=
    .of_area (by rcases h with h | h <;> simp [h])
  refine .bind ?_ fun reply => (setup.finish_asks reply).widen hreply
  exact setup.resolve_asks text sender
    (motive := fun _ request => WritesChecked setup.registry.contains request)
    (fun _ request h => hreply request (.inr h)) (fun _ => .of_query trivial)
    (fun _ => .of_query trivial) fun command args => Builtin.execute_writes ..

/-- A line that was handled keeps the rows to what the checks let through. -/
theorem Handled.holds {setup : Setup} {line : Handling} (h : Handled setup line)
    (hdb : line.before.Holds (Content.checked setup.registry.contains)) :
    line.after.Holds (Content.checked setup.registry.contains) := by
  have hasks := (h.leads.within (Job.within_iff.mp (setup.handle_writes line.text line.sender))).1
  exact h.answers.holds hasks hdb

/-- Lines that were handled one after the other keep the rows to what the checks let through. -/
theorem Handles.holds {setup : Setup} {start last : Database} {run : List Handling}
    (h : Handles setup start run last)
    (hdb : start.Holds (Content.checked setup.registry.contains)) :
    last.Holds (Content.checked setup.registry.contains) := by
  induction h with
  | nil db => exact hdb
  | cons hline _ ih => exact ih (hline.holds hdb)

/-! ## What the configuration writes -/

namespace Config.Identity

theorem validUsers_valid (names : List String) :
    ∀ user ∈ (validUsers names).value, Chat.isUserName user = true := by
  induction names with
  | nil => simp [validUsers, pure]
  | cons name rest ih =>
    rw [validUsers]
    split
    · next hname => exact List.forall_mem_cons.mpr ⟨hname, ih⟩
    · exact ih

/-- The configuration trusts nobody but users. -/
theorem ofEntries_trusted (list : List Entry) :
    ∀ user ∈ (ofEntries list).value.trusted, Chat.isUserName user = true :=
  validUsers_valid _

end Config.Identity

/-- The stores are open if nothing failed on the way. -/
theorem Launch.openStores_value (identity : Config.Identity) (db : Database)
    (h : (db.openFor identity.trusted).value.1 = .ok ()) :
    (openStores identity (.ok db)).value = .ok (db.openFor identity.trusted).value.2 := by
  rcases hopened : db.openFor identity.trusted with ⟨records, outcome, after⟩
  rw [hopened] at h
  obtain rfl : outcome = .ok () := h
  simp only [openStores, hopened]
  rfl

/-! ## All rows -/

/-- A row of a custom command: its name holds ASCII letters and digits only and is no name of a
    built-in command, and its response is not empty and has no blanks at its ends. -/
structure Store.CommandRow.IsClean (row : Store.CommandRow) : Prop where
  name_ne : row.name ≠ ""
  name_chars : ∀ c ∈ row.name.toList, c.isAlphanum = true
  not_builtin : ∀ command : Builtin, row.name ≠ IsCommand.name command
  response_ne : row.response ≠ ""
  response_trimmed : Text.Trimmed row.response.toList

/-- A row of a trusted user: the name has 3 to 25 characters, of which the first one is a small
    ASCII letter and the others are small ASCII letters, digits and underscores. -/
structure Store.TrustRow.IsClean (row : Store.TrustRow) : Prop where
  length_ge : 3 ≤ row.user.length
  length_le : row.user.length ≤ 25
  first : ∀ c, row.user.toList.head? = some c → c.isLower = true
  others : ∀ c ∈ row.user.toList.tail, c.isLower = true ∨ c.isDigit = true ∨ c = '_'

/-- Every built-in command is in the registry of a run. -/
theorem Builtin.registry_contains (command : Builtin) :
    registry.value.contains (IsCommand.name command) = true := by
  rcases command with _ | _ | _ | _ | _ | _ | _ | ⟨⟨⟩⟩ | ⟨⟨⟩⟩ <;> decide +kernel

theorem Store.CommandRow.IsClean.of_content {row : Store.CommandRow}
    (h : (Content.checked Builtin.registry.value.contains).OfRow .commands row) : row.IsClean := by
  obtain ⟨⟨hname, hfree⟩, hresponse, htrimmed⟩ := h
  obtain ⟨hne, hchars⟩ := Chat.isCommandName_iff.mp hname
  refine ⟨hne, hchars, fun command heq => ?_, hresponse, htrimmed⟩
  rw [heq, Builtin.registry_contains] at hfree
  cases hfree

theorem Store.TrustRow.IsClean.of_content {row : Store.TrustRow}
    (h : (Content.checked isBuiltin).OfRow .trusted row) : row.IsClean := by
  obtain ⟨first, rest, huser, hfirst, hge, hle, hothers⟩ := Chat.isUserName_iff.mp h
  have hlength : row.user.length = rest.length + 1 := by
    rw [← String.length_toList, huser, List.length_cons]
  refine ⟨by omega, by omega, ?_, ?_⟩
  · rw [huser]
    rintro c ⟨⟩
    exact hfirst
  · rw [huser]
    exact hothers

/-- **Only clean rows.** Whatever the configuration file says, the stores can be opened on a new
    database, and whatever lines are handled after that, by whatever senders and whatever fails
    meanwhile, all rows of both tables are clean, also the deleted ones. -/
theorem store_stays_clean (settings : Config.Settings) (text : List Char) (path : String)
    (clock : Store.Tick) (surroundings : Surroundings) (lines : List (String × String)) :
    let identity := (Config.Identity.ofEntries (Config.entries text)).value
    ∃ db, (Launch.openStores identity (.ok { path, clock })).value = .ok db ∧
      let last := ((Setup.ofRun settings identity).handleAll surroundings { db } lines).2.db
      (∀ table, last.commands = some table → ∀ row ∈ table.rows, row.IsClean) ∧
        ∀ table, last.trusted = some table → ∀ row ∈ table.rows, row.IsClean := by
  intro identity
  have hempty : ({ path, clock } : Database).Holds
      (Content.checked Builtin.registry.value.contains) := by
    rintro (_ | _) table ⟨⟩
  have hheld := Database.openFor_holds
    (Config.Identity.ofEntries_trusted (Config.entries text)) hempty
  refine ⟨_, Launch.openStores_value identity _ (Database.openFor_new ..), ?_⟩
  intro last
  have hlast : last.Holds (Content.checked Builtin.registry.value.contains) :=
    (Setup.handleAll_handles _ surroundings lines _).holds hheld
  exact ⟨fun table ht row hrow => .of_content (hlast .commands table ht row hrow),
    fun table ht row hrow => .of_content (hlast .trusted table ht row hrow)⟩

end ChatWarden
