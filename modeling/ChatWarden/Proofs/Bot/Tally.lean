import ChatWarden.Proofs.Bot.Replies
import ChatWarden.Proofs.Bot.Revocation
import ChatWarden.Proofs.Store.CommandMap

/-!
# Keeping tally

A name becomes live only by being created and ceases to be so only by being deleted, and the store
tells each time. So what was told about a name accounts for whether it is live at the end.

Results:
* `CommandTable.create_tallies` and the like: what is live before and after a statement.
* `Answers.tallies` and `Passes.tally`: how liveness follows from the deeds of the store.
* `Scene.Sound.deeds_perm`: what all replies together tell is what the store did.
-/

namespace ChatWarden

open Store (CommandTable Database)
open Exchange (deed? deeds deeds_cons)

/-! ## One request -/

/-- How often the store did this in an exchange: once or never. -/
def Exchange.times (exchange : Exchange) (deed : Deed) : Nat := exchange.deed?.toList.count deed

theorem Exchange.times_eq {exchange : Exchange} {done : Bool} {deed : Deed}
    (h : exchange.deed? = if done then some deed else none) (other : Deed) :
    exchange.times other = if done ∧ deed = other then 1 else 0 := by
  rw [times, h]
  cases done <;> simp [List.count_singleton]

namespace Store.CommandTable

/-- One if a command of this name is live, and zero if none is. -/
def live (table : CommandTable) (name : String) : Nat := (table.responses name).isSome.toNat

/-- The table before an exchange and the one after it differ in what the store did in it. -/
def Tallies (before : CommandTable) (exchange : Exchange) (after : CommandTable) : Prop :=
  ∀ name, exchange.times (.create, name) + before.live name =
    exchange.times (.delete, name) + after.live name

variable {table : CommandTable} {now : Tick} {other response : String}

theorem create_tallies (hd : table.Distinct) :
    table.Tallies ⟨.store (.createCommand other response),
      .ok (create now other response table).2⟩ (create now other response table).1 := by
  have hdeed (done : Bool) : deed? ⟨.store (.createCommand other response), .ok done⟩ =
      if done then some (.create, other) else none := by cases done <;> rfl
  intro name
  rw [Exchange.times_eq (hdeed _), Exchange.times_eq (hdeed _), live, live, responses_create hd,
    create_answer hd]
  by_cases hname : other = name
  · subst hname
    cases h : table.responses other <;> simp [h]
  · cases table.responses other <;> simp [hname, Ne.symm hname]

theorem update_tallies (hd : table.Distinct) :
    table.Tallies ⟨.store (.updateCommand other response),
      .ok (update now other response table).2⟩ (update now other response table).1 := by
  have hdeed (done : Bool) : deed? ⟨.store (.updateCommand other response), .ok done⟩ =
      if done then some (.update, other) else none := by cases done <;> rfl
  intro name
  rw [Exchange.times_eq (hdeed _), Exchange.times_eq (hdeed _), live, live, responses_update hd]
  by_cases hname : other = name
  · subst hname
    cases h : table.responses other <;> simp [h]
  · cases table.responses other <;> simp [Ne.symm hname]

theorem delete_tallies (hd : table.Distinct) :
    table.Tallies ⟨.store (.deleteCommand other), .ok (delete now other table).2⟩
      (delete now other table).1 := by
  have hdeed (done : Bool) : deed? ⟨.store (.deleteCommand other), .ok done⟩ =
      if done then some (.delete, other) else none := by cases done <;> rfl
  intro name
  rw [Exchange.times_eq (hdeed _), Exchange.times_eq (hdeed _), live, live, responses_delete hd,
    delete_answer]
  by_cases hname : other = name
  · subst hname
    cases table.responses other <;> simp
  · simp [hname, Ne.symm hname]

end Store.CommandTable

namespace Store.Database

/-- The table of commands, if there is one, has no name twice. -/
def HasDistinctCommands (db : Database) : Prop :=
  ∀ table, db.commands = some table → Table.Distinct table

/-- One if a command of this name is live, and zero if none is. -/
def live (db : Database) (name : String) : Nat := (db.responses name).isSome.toNat

theorem HasDistinctCommands.of_some {db : Database} {table : CommandTable}
    (h : db.commands = some table) (hd : table.Distinct) : db.HasDistinctCommands := by
  intro other ho
  obtain rfl := Option.some.inj (h.symm.trans ho)
  exact hd

theorem live_of_some {db : Database} {table : CommandTable} (h : db.commands = some table)
    (name : String) : db.live name = table.live name := by
  rw [live, responses_of_some h, CommandTable.live]

theorem live_congr {db other : Database} (h : db.commands = other.commands) (name : String) :
    db.live name = other.live name := by
  rw [live, responses, h, live, responses]

/-- The databases before and after an exchange differ in what the store did in it. -/
structure Tallies (before : Database) (exchange : Exchange) (after : Database) : Prop where
  distinct : after.HasDistinctCommands
  live (name : String) : exchange.times (.create, name) + before.live name =
    exchange.times (.delete, name) + after.live name

variable {db after : Database} {exchange : Exchange}

theorem Tallies.of_tables {table changed : CommandTable} (ht : db.commands = some table)
    (hafter : after.commands = some changed) (hdistinct : changed.Distinct)
    (h : table.Tallies exchange changed) : db.Tallies exchange after where
  distinct := .of_some hafter hdistinct
  live name := by
    rw [live_of_some ht, live_of_some hafter]
    exact h name

theorem Tallies.of_same (hd : db.HasDistinctCommands) (hdeed : exchange.deed? = none)
    (h : after.commands = db.commands) : db.Tallies exchange after where
  distinct := by
    rw [HasDistinctCommands, h]
    exact hd
  live name := by
    rw [Exchange.times, Exchange.times, hdeed, live_congr h]
    rfl

/-- A name that becomes live was created, and one that ceases to be live was deleted. -/
theorem Answers.tallies (h : db.Answers exchange after) (hd : db.HasDistinctCommands) :
    db.Tallies exchange after := by
  obtain ⟨request, answer⟩ := exchange
  cases request with
  | store query =>
    rcases h.cases_query with ⟨now, table, ht, rfl, hafter, hother⟩ | ⟨failure, rfl, hsame⟩
    · cases query with
      | createCommand other response =>
        exact .of_tables ht hafter (CommandTable.create_distinct (hd table ht))
          (CommandTable.create_tallies (hd table ht))
      | updateCommand other response =>
        exact .of_tables ht hafter (CommandTable.update_distinct (hd table ht))
          (CommandTable.update_tallies (hd table ht))
      | deleteCommand other =>
        exact .of_tables ht hafter (CommandTable.delete_distinct (hd table ht))
          (CommandTable.delete_tallies (hd table ht))
      | findResponse other => exact .of_same hd rfl (hafter.trans ht.symm)
      | listNames => exact .of_same hd rfl (hafter.trans ht.symm)
      | _ => exact .of_same hd rfl (hother .commands (by simp))
    · refine .of_same hd ?_ (hsame .commands)
      cases query <;> rfl
  | _ =>
    obtain rfl : after = db := h
    exact .of_same hd rfl rfl

end Store.Database

/-! ## Many requests -/

/-- What is live at the end is what was live at the start, with all that the store did. -/
theorem Passes.tally {db last : Database} {moments : List Moment} (h : Passes db moments last)
    (hd : db.HasDistinctCommands) (name : String) :
    (deeds (moments.map (·.exchange))).count (.create, name) + db.live name =
      (deeds (moments.map (·.exchange))).count (.delete, name) + last.live name := by
  induction h with
  | nil db => rfl
  | @cons moment next last rest hfirst _ ih =>
    have htallies := hfirst.tallies hd
    have hnow := htallies.live name
    have hrest := ih htallies.distinct
    simp only [List.map_cons, deeds_cons, List.count_append]
    simp only [Exchange.times] at hnow
    omega

/-! ## Lists by keys -/

section Keys

variable {α : Type} (key : α → Nat)

/-- A list taken apart by its keys is the same list in another order. -/
theorem perm_flatMap_filter (l : List α) (n : Nat) :
    ((List.range n).flatMap fun k => l.filter (key · == k)).Perm (l.filter (key · < n)) := by
  induction n with
  | zero => simp
  | succ n ih =>
    rw [List.range_succ, List.flatMap_append, List.flatMap_singleton]
    refine (ih.append_right _).trans ?_
    have hless : l.filter (key · < n) = (l.filter (key · < n + 1)).filter (key · < n) := by
      rw [List.filter_filter]
      refine List.filter_congr fun a _ => ?_
      simp only [← Bool.decide_and, decide_eq_decide]
      omega
    have hlast : l.filter (key · == n) = (l.filter (key · < n + 1)).filter (!key · < n) := by
      rw [List.filter_filter]
      refine List.filter_congr fun a _ => ?_
      simp only [← Bool.decide_and, ← decide_not, decide_eq_decide, beq_eq_decide]
      omega
    rw [hless, hlast]
    exact List.filter_append_perm _ _

/-- A list whose keys come in some order is put together again by that order. -/
theorem flatMap_filter_eq {l : List α} {order : List Nat} (horder : order.Nodup)
    (hkeys : (l.map key).Sublist order) : (order.flatMap fun k => l.filter (key · == k)) = l := by
  induction order generalizing l with
  | nil => simpa using hkeys
  | cons k rest ih =>
    obtain ⟨hk, hrest⟩ := List.nodup_cons.mp horder
    have hnone {l : List α} (hl : (l.map key).Sublist rest) : l.filter (key · == k) = [] := by
      refine List.filter_eq_nil_iff.mpr fun a ha hak => hk ?_
      rw [← beq_iff_eq.mp hak]
      exact hl.subset (List.mem_map_of_mem ha)
    rw [List.flatMap_cons]
    rcases List.sublist_cons_iff.mp hkeys with hkeys | ⟨keys, hl, hkeys⟩
    · rw [hnone hkeys, List.nil_append, ih hrest hkeys]
    · obtain ⟨a, more, rfl, rfl, rfl⟩ := List.map_eq_cons_iff.mp hl
      have hskip (j : Nat) (hj : j ∈ rest) :
          (a :: more).filter (key · == j) = more.filter (key · == j) := by
        refine List.filter_cons_of_neg ?_
        simp only [beq_iff_eq]
        rintro rfl
        exact hk hj
      rw [List.filter_cons_of_pos (by simp), hnone hkeys, List.flatMap_congr hskip, ih hrest hkeys]
      rfl

end Keys

/-! ## All lines -/

namespace Handler

/-- The line was handled to its end. -/
def IsDone (handler : Handler) : Prop := handler.rest.first? = none

instance (handler : Handler) : Decidable handler.IsDone :=
  inferInstanceAs (Decidable (handler.rest.first? = none))

theorem IsDone.exists_outcome {handler : Handler} (h : handler.IsDone) :
    ∃ outcome, handler.rest = .done outcome := by
  obtain ⟨text, sender, rest⟩ := handler
  cases rest with
  | done outcome => exact ⟨outcome, rfl⟩
  | ask request next => cases h

end Handler

namespace Scene

variable {setup : Setup} {start : Database} {scene : Scene}

/-- What the reply to the line of a handler tells. -/
def told? (setup : Setup) (scene : Scene) (who : Nat) : Option Deed :=
  scene.handlers[who]?.bind fun handler =>
    setup.told? handler.text handler.sender (exchangesOf who scene.moments)

/-- What the replies to all lines tell. -/
def told (setup : Setup) (scene : Scene) : List Deed :=
  (List.range scene.handlers.length).filterMap (scene.told? setup)

/-- What the replies to all lines together tell is what the store did, up to its order. -/
theorem Sound.deeds_perm (h : scene.Sound setup start)
    (hdone : ∀ handler ∈ scene.handlers, handler.IsDone) :
    (deeds (scene.moments.map (·.exchange))).Perm (scene.told setup) := by
  have hall : scene.moments.filter (·.who < scene.handlers.length) = scene.moments :=
    List.filter_eq_self.mpr fun moment hm => by simpa using h.who_lt hm
  have hperm := perm_flatMap_filter (fun moment : Moment => moment.who) scene.moments
    scene.handlers.length
  rw [hall] at hperm
  have htold (who : Nat) (hwho : who ∈ List.range scene.handlers.length) :
      deeds (exchangesOf who scene.moments) = (scene.told? setup who).toList := by
    obtain ⟨⟨text, sender, work⟩, hhandler⟩ : ∃ handler, scene.handlers[who]? = some handler :=
      ⟨_, List.getElem?_eq_getElem (List.mem_range.mp hwho)⟩
    obtain ⟨outcome, rfl⟩ := (hdone _ (List.mem_of_getElem? hhandler)).exists_outcome
    have hleads := h.leads hhandler
    rw [told?, hhandler]
    exact Setup.handle_deeds (Job.ends_iff.mpr hleads)
  refine ((hperm.map (·.exchange)).filterMap deed?).symm.trans ?_
  rw [List.map_flatMap, List.filterMap_flatMap, told, List.filterMap_eq_flatMap_toList,
    ← List.flatMap_congr htold]
  rfl

end Scene

end ChatWarden
