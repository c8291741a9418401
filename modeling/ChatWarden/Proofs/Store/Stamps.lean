import ChatWarden.Proofs.Store.Effects
import ChatWarden.Proofs.Store.History

/-!
# The times in the rows

Each row holds three times, and they tell what happened to it. The two tables differ in this: a
command that is created anew gets new times, and its deletion counts as no update; a user who is
trusted anew keeps the first time, and revoking trust is an update as well. What the times tell is
said here in terms of the history, the writes that were carried out.

Results:
* `CommandRow.ToldBy` and `TrustRow.ToldBy`: the times of a row are those of the history.
* `CommandTable.ToldBy.rewrite` and `TrustTable.ToldBy.rewrite`: every write keeps this.
* `Unfolds.sameRows`: a history without an effective write changes no row.
* `stamps_tell_history`: the times after every run of calls, and which calls change none of them.
-/

namespace ChatWarden.Store

/-! ## Changes in a history -/

/-- What writes do to the rows that they are about. -/
inductive Change where
  | created
  | updated
  | deleted
  | granted
  | revoked
  deriving DecidableEq, Repr

/-- What a write does if it is effective, and the key of the row. -/
def Query.change? : Query → Option (Change × String)
  | .createCommand name _ => some (.created, name)
  | .updateCommand name _ => some (.updated, name)
  | .deleteCommand name => some (.deleted, name)
  | .trust user => some (.granted, user)
  | .untrust user => some (.revoked, user)
  | .isTrusted _ => none
  | .findResponse _ => none
  | .listNames => none

/-- The event was one of these changes of the row of a key. -/
def Event.isOneOf (changes : List Change) (key : String) (event : Event) : Bool :=
  event.effective && event.write.change?.any fun (change, own) =>
    own == key && changes.contains change

/-- When the row of a key last went through one of these changes. -/
def lastTime? (changes : List Change) (key : String) (history : List Event) : Option Tick :=
  (history.filter (Event.isOneOf changes key)).getLast?.map Event.tick

/-- When the row of a key first went through one of these changes. -/
def firstTime? (changes : List Change) (key : String) (history : List Event) : Option Tick :=
  (history.find? (Event.isOneOf changes key)).map Event.tick

section Times

variable {changes : List Change} {change : Change} {key : String} {past : List Event}
  {event : Event}

namespace Event

theorem isOneOf_of_change (he : event.effective = true)
    (hc : event.write.change? = some (change, key)) :
    event.isOneOf changes key = changes.contains change := by
  simp [isOneOf, he, hc]

/-- A change counts for its own key only, and only if it is effective. -/
theorem isOneOf_of_not {own : String} (hc : event.write.change? = some (change, own))
    (h : own = key → event.effective = false) : event.isOneOf changes key = false := by
  by_cases hown : own = key
  · simp [isOneOf, h hown]
  · simp [isOneOf, hc, hown]

/-- An event that is none of some changes is none of fewer. -/
theorem isOneOf_of_subset {fewer : List Change} (hsub : fewer ⊆ changes)
    (h : event.isOneOf changes key = false) : event.isOneOf fewer key = false := by
  cases hc : event.write.change? with
  | none => simp [isOneOf, hc]
  | some changed =>
    simp only [isOneOf, hc, Option.any_some, Bool.and_eq_false_iff] at h ⊢
    refine h.imp_right fun h => h.imp_right fun h => ?_
    rw [Bool.eq_false_iff, ne_eq, List.contains_iff_mem] at h ⊢
    exact fun hmem => h (hsub hmem)

end Event

theorem lastTime?_concat (changes : List Change) (key : String) (past : List Event)
    (event : Event) : lastTime? changes key (past ++ [event]) =
      if event.isOneOf changes key then some event.tick else lastTime? changes key past := by
  rw [lastTime?, List.filter_append]
  split
  · next h => simp [h]
  · next h => simp [h, lastTime?]

theorem firstTime?_concat (changes : List Change) (key : String) (past : List Event)
    (event : Event) : firstTime? changes key (past ++ [event]) =
      (firstTime? changes key past).or
        (if event.isOneOf changes key then some event.tick else none) := by
  rw [firstTime?, firstTime?, List.find?_append]
  cases past.find? (Event.isOneOf changes key) with
  | some first => rfl
  | none => cases h : event.isOneOf changes key <;> simp [h]

/-- A change is the last one of those that it is among. -/
theorem lastTime?_of_mem (he : event.effective = true)
    (hc : event.write.change? = some (change, key)) (hmem : change ∈ changes) :
    lastTime? changes key (past ++ [event]) = some event.tick := by
  rw [lastTime?_concat, Event.isOneOf_of_change he hc, if_pos (List.contains_iff_mem.mpr hmem)]

/-- A change leaves the last time of other changes. -/
theorem lastTime?_of_notMem (he : event.effective = true)
    (hc : event.write.change? = some (change, key)) (hmem : change ∉ changes) :
    lastTime? changes key (past ++ [event]) = lastTime? changes key past := by
  rw [lastTime?_concat, Event.isOneOf_of_change he hc,
    if_neg (mt List.contains_iff_mem.mp hmem)]

theorem lastTime?_of_not {fewer : List Change} (h : event.isOneOf changes key = false)
    (hsub : fewer ⊆ changes) :
    lastTime? fewer key (past ++ [event]) = lastTime? fewer key past := by
  rw [lastTime?_concat, Event.isOneOf_of_subset hsub h]
  rfl

theorem lastTime?_le {clock time : Tick} (hle : ∀ event ∈ past, event.tick ≤ clock)
    (h : lastTime? changes key past = some time) : time ≤ clock := by
  obtain ⟨event, he, rfl⟩ := Option.map_eq_some_iff.mp h
  exact hle event (List.mem_of_mem_filter (List.mem_of_getLast? he))

end Times

section Steps

variable {past : List Event} {event : Event} {clock : Tick} {db next : Database}

/-! ## Rows of commands -/

/-- The times of a command are those of the history. -/
structure CommandRow.ToldBy (history : List Event) (row : CommandRow) : Prop where
  /-- It was created when its name last became live. -/
  created : lastTime? [.created] row.name history = some row.createdAt
  updated : lastTime? [.created, .updated] row.name history = some row.updatedAt
  /-- It is live if it was not deleted since. -/
  live_iff : isLive row = true ↔
    lastTime? [.created, .deleted] row.name history = some row.createdAt
  deleted : isLive row = false → lastTime? [.deleted] row.name history = row.deletedAt
  created_le : row.createdAt ≤ row.updatedAt
  deleted_later : ∀ time, row.deletedAt = some time → row.updatedAt < time

namespace CommandRow.ToldBy

variable {row : CommandRow}

/-- What happens elsewhere leaves a row as it is told. -/
theorem kept (h : row.ToldBy past)
    (he : event.isOneOf [.created, .updated, .deleted] row.name = false) :
    row.ToldBy (past ++ [event]) where
  created := (lastTime?_of_not he (by decide)).trans h.created
  updated := (lastTime?_of_not he (by decide)).trans h.updated
  live_iff := by
    rw [lastTime?_of_not he (by decide)]
    exact h.live_iff
  deleted hdead := (lastTime?_of_not he (by decide)).trans (h.deleted hdead)
  created_le := h.created_le
  deleted_later := h.deleted_later

/-- A row that was just created, be it new or revived. -/
theorem of_created (he : event.effective = true)
    (hc : event.write.change? = some (.created, row.name)) (hcreated : row.createdAt = event.tick)
    (hupdated : row.updatedAt = event.tick) (hdeleted : row.deletedAt = none) :
    row.ToldBy (past ++ [event]) := by
  have hlive : isLive row = true := by simp [isLive, Row.deletedAt, hdeleted]
  refine ⟨?_, ?_, iff_of_true hlive ?_, fun hdead => ?_, ?_, fun time htime => ?_⟩
  · rw [lastTime?_of_mem he hc (by decide), hcreated]
  · rw [lastTime?_of_mem he hc (by decide), hupdated]
  · rw [lastTime?_of_mem he hc (by decide), hcreated]
  · exact absurd (hlive.symm.trans hdead) (by decide)
  · rw [hcreated, hupdated]
  · exact absurd (hdeleted.symm.trans htime) (by simp)

theorem update (h : row.ToldBy past) (hlive : isLive row = true) (he : event.effective = true)
    (hc : event.write.change? = some (.updated, row.name))
    (hle : ∀ event ∈ past, event.tick ≤ clock) (hlater : clock < event.tick) (response : String) :
    ToldBy (past ++ [event]) { row with response, updatedAt := event.tick } := by
  have hnone : row.deletedAt = none := by simpa [isLive, Row.deletedAt] using hlive
  refine ⟨?_, ?_, ?_, fun hdead => ?_, ?_, fun time htime => ?_⟩
  · exact (lastTime?_of_notMem he hc (by decide)).trans h.created
  · exact lastTime?_of_mem he hc (by decide)
  · rw [lastTime?_of_notMem he hc (by decide)]
    exact h.live_iff
  · exact absurd (hlive.symm.trans hdead) (by decide)
  · exact (lastTime?_le hle h.created).trans hlater.le
  · exact absurd (hnone.symm.trans htime) (by simp)

theorem delete (h : row.ToldBy past) (he : event.effective = true)
    (hc : event.write.change? = some (.deleted, row.name))
    (hle : ∀ event ∈ past, event.tick ≤ clock) (hlater : clock < event.tick) :
    ToldBy (past ++ [event]) { row with deletedAt := some event.tick } := by
  have hcreated : row.createdAt < event.tick :=
    Nat.lt_of_le_of_lt (lastTime?_le hle h.created) hlater
  refine ⟨?_, ?_, ?_, fun _ => ?_, h.created_le, ?_⟩
  · exact (lastTime?_of_notMem he hc (by decide)).trans h.created
  · exact (lastTime?_of_notMem he hc (by decide)).trans h.updated
  · rw [lastTime?_of_mem he hc (by decide)]
    exact iff_of_false (by simp [isLive, Row.deletedAt])
      fun heq => hcreated.ne (Option.some.inj heq).symm
  · exact lastTime?_of_mem he hc (by decide)
  · rintro time ⟨⟩
    exact Nat.lt_of_le_of_lt (lastTime?_le hle h.updated) hlater

end CommandRow.ToldBy

/-- The times of all commands are those of the history, and only names without a row were never
    created. -/
structure CommandTable.ToldBy (history : List Event) (table : CommandTable) : Prop where
  rows : ∀ name row, table.find? name = some row → row.ToldBy history
  strangers : ∀ name, table.find? name = none → lastTime? [.created] name history = none

namespace CommandTable.ToldBy

variable {table : CommandTable} {name response : String}

theorem create (h : table.ToldBy past) (hw : event.write = .createCommand name response)
    (he : event.effective = (CommandTable.create event.tick name response table).2) :
    ToldBy (past ++ [event]) (CommandTable.create event.tick name response table).1 := by
  have hc : event.write.change? = some (.created, name) := by rw [hw]; rfl
  refine ⟨fun other row hrow => ?_, fun other hnone => ?_⟩
  · have hname : row.name = other := Table.key_of_find? hrow
    unfold CommandTable.create at hrow he
    rcases Table.find?_insertOrUpdate_cases (by intro _; rfl)
      (by intro _ _; exact CommandTable.key_revived) hrow with ⟨rfl, hdone, hnew⟩ | ⟨hf, hrefused⟩
    · have hc : event.write.change? = some (.created, row.name) := hname ▸ hc
      rcases hnew with ⟨-, rfl⟩ | ⟨old, -, hrevived⟩
      · exact .of_created (he.trans hdone) hc rfl rfl rfl
      · obtain rfl := CommandTable.eq_of_revived hrevived
        exact .of_created (he.trans hdone) hc rfl rfl rfl
    · exact (h.rows other row hf).kept (Event.isOneOf_of_not hc fun heq =>
        he.trans (hrefused (heq.trans hname).symm).1)
  · rw [CommandTable.find?_create] at hnone
    split at hnone
    · cases hnone
    · next hne =>
      rw [lastTime?_concat, Event.isOneOf_of_not hc fun heq => absurd heq.symm hne]
      exact h.strangers other hnone

theorem update (h : table.ToldBy past) (hd : table.Distinct)
    (hle : ∀ event ∈ past, event.tick ≤ clock) (hlater : clock < event.tick)
    (hw : event.write = .updateCommand name response)
    (he : event.effective = (CommandTable.update event.tick name response table).2) :
    ToldBy (past ++ [event]) (CommandTable.update event.tick name response table).1 := by
  have hc : event.write.change? = some (.updated, name) := by rw [hw]; rfl
  refine ⟨fun other row hrow => ?_, fun other hnone => ?_⟩
  · unfold CommandTable.update at hrow he
    obtain ⟨old, hf, ⟨rfl, hlive, hdone, rfl⟩ | ⟨rfl, hrefused⟩⟩ :=
      Table.find?_updateLive_cases hd (by intro _; rfl) hrow
    · have hname : old.name = other := Table.key_of_find? hf
      exact (h.rows other old hf).update hlive (he.trans hdone) (hname ▸ hc) hle hlater response
    · have hname : row.name = other := Table.key_of_find? hf
      exact (h.rows other row hf).kept (Event.isOneOf_of_not hc fun heq =>
        he.trans (hrefused (heq.trans hname).symm))
  · rw [CommandTable.find?_update, Option.map_eq_none_iff] at hnone
    rw [lastTime?_concat, h.strangers other hnone]
    simp [Event.isOneOf, hc]

theorem delete (h : table.ToldBy past) (hd : table.Distinct)
    (hle : ∀ event ∈ past, event.tick ≤ clock) (hlater : clock < event.tick)
    (hw : event.write = .deleteCommand name)
    (he : event.effective = (CommandTable.delete event.tick name table).2) :
    ToldBy (past ++ [event]) (CommandTable.delete event.tick name table).1 := by
  have hc : event.write.change? = some (.deleted, name) := by rw [hw]; rfl
  refine ⟨fun other row hrow => ?_, fun other hnone => ?_⟩
  · unfold CommandTable.delete at hrow he
    obtain ⟨old, hf, ⟨rfl, -, hdone, rfl⟩ | ⟨rfl, hrefused⟩⟩ :=
      Table.find?_updateLive_cases hd (by intro _; rfl) hrow
    · have hname : old.name = other := Table.key_of_find? hf
      exact (h.rows other old hf).delete (he.trans hdone) (hname ▸ hc) hle hlater
    · have hname : row.name = other := Table.key_of_find? hf
      exact (h.rows other row hf).kept (Event.isOneOf_of_not hc fun heq =>
        he.trans (hrefused (heq.trans hname).symm))
  · rw [CommandTable.find?_delete, Option.map_eq_none_iff] at hnone
    rw [lastTime?_concat, h.strangers other hnone]
    simp [Event.isOneOf, hc]

/-- Every write keeps the times of all commands told. -/
theorem rewrite (h : table.ToldBy past) (hd : table.Distinct) (ht : db.commands = some table)
    (hle : ∀ event ∈ past, event.tick ≤ db.clock) (hhappens : event.Happens db next) :
    ToldBy (past ++ [event]) (event.write.rewrite event.tick .commands table) := by
  have he := hhappens.effective
  obtain ⟨write, tick, effective⟩ := event
  cases write with
  | createCommand name response => exact h.create rfl (he table ht)
  | updateCommand name response => exact h.update hd hle hhappens.later rfl (he table ht)
  | deleteCommand name => exact h.delete hd hle hhappens.later rfl (he table ht)
  | _ =>
    refine ⟨fun name row hrow => (h.rows name row hrow).kept ?_, fun name hnone => ?_⟩
    · simp [Event.isOneOf, Query.change?]
    · rw [lastTime?_concat, h.strangers name hnone]
      simp [Event.isOneOf, Query.change?]

/-- The names with a row are those that were created. -/
theorem mem_iff (h : table.ToldBy past) (hd : table.Distinct) (name : String) :
    name ∈ table.rows.map (·.name) ↔ (lastTime? [.created] name past).isSome = true := by
  constructor
  · intro hmem
    obtain ⟨row, hrow, rfl⟩ := List.mem_map.mp hmem
    rw [(h.rows _ row (hd.find?_eq_some hrow)).created]
    rfl
  · intro hsome
    by_contra hnot
    rw [h.strangers name (Table.find?_eq_none_iff.mpr hnot)] at hsome
    cases hsome

end CommandTable.ToldBy

/-! ## Rows of trusted users -/

/-- The times of a user are those of the history. -/
structure TrustRow.ToldBy (history : List Event) (row : TrustRow) : Prop where
  /-- It was created when the user was trusted for the first time. -/
  created : firstTime? [.granted] row.user history = some row.createdAt
  updated : lastTime? [.granted, .revoked] row.user history = some row.updatedAt
  /-- The user is trusted if trust was not revoked since it was granted. -/
  live_iff : isLive row = true ↔ lastTime? [.granted] row.user history = some row.updatedAt
  revoked : isLive row = false → row.deletedAt = some row.updatedAt

namespace TrustRow.ToldBy

variable {row : TrustRow}

/-- What happens elsewhere leaves a row as it is told. -/
theorem kept (h : row.ToldBy past)
    (he : event.isOneOf [.granted, .revoked] row.user = false) : row.ToldBy (past ++ [event]) where
  created := by rw [firstTime?_concat, h.created, Option.some_or]
  updated := (lastTime?_of_not he (by decide)).trans h.updated
  live_iff := by
    rw [lastTime?_of_not he (by decide)]
    exact h.live_iff
  revoked := h.revoked

/-- A row that was just written, be it new or not. -/
theorem of_granted (he : event.effective = true)
    (hc : event.write.change? = some (.granted, row.user))
    (hcreated : firstTime? [.granted] row.user (past ++ [event]) = some row.createdAt)
    (hupdated : row.updatedAt = event.tick) (hdeleted : row.deletedAt = none) :
    row.ToldBy (past ++ [event]) := by
  have hlive : isLive row = true := by simp [isLive, Row.deletedAt, hdeleted]
  refine ⟨hcreated, ?_, iff_of_true hlive ?_, fun hdead => ?_⟩
  · rw [lastTime?_of_mem he hc (by decide), hupdated]
  · rw [lastTime?_of_mem he hc (by decide), hupdated]
  · exact absurd (hlive.symm.trans hdead) (by decide)

theorem revoke (h : row.ToldBy past) (he : event.effective = true)
    (hc : event.write.change? = some (.revoked, row.user))
    (hle : ∀ event ∈ past, event.tick ≤ clock) (hlater : clock < event.tick) :
    ToldBy (past ++ [event])
      { row with updatedAt := event.tick, deletedAt := some event.tick } := by
  refine ⟨?_, ?_, ?_, fun _ => rfl⟩
  · rw [firstTime?_concat, h.created, Option.some_or]
  · exact lastTime?_of_mem he hc (by decide)
  · rw [lastTime?_of_notMem he hc (by decide)]
    refine iff_of_false (by simp [isLive, Row.deletedAt]) fun heq => ?_
    exact Nat.lt_irrefl _ (Nat.lt_of_lt_of_le hlater (lastTime?_le hle heq))

end TrustRow.ToldBy

/-- The times of all users are those of the history, and only users without a row were never
    trusted. -/
structure TrustTable.ToldBy (history : List Event) (table : TrustTable) : Prop where
  rows : ∀ user row, table.find? user = some row → row.ToldBy history
  strangers : ∀ user, table.find? user = none → firstTime? [.granted] user history = none

namespace TrustTable.ToldBy

variable {table : TrustTable} {user : String}

theorem trust (h : table.ToldBy past) (hw : event.write = .trust user)
    (he : event.effective = true) :
    ToldBy (past ++ [event]) (TrustTable.trust event.tick user table) := by
  have hc : event.write.change? = some (.granted, user) := by rw [hw]; rfl
  refine ⟨fun other row hrow => ?_, fun other hnone => ?_⟩
  · have hname : row.user = other := Table.key_of_find? hrow
    unfold TrustTable.trust at hrow
    rcases Table.find?_insertOrUpdate_cases (by intro _; rfl)
      (by intro _ _ heq; cases heq; rfl) hrow with ⟨rfl, -, hnew⟩ | ⟨hf, hrefused⟩
    · have hc : event.write.change? = some (.granted, row.user) := hname ▸ hc
      have hnow : event.isOneOf [.granted] row.user = true := Event.isOneOf_of_change he hc
      rcases hnew with ⟨hf, rfl⟩ | ⟨old, hf, hrevived⟩
      · refine .of_granted he hc ?_ rfl rfl
        rw [firstTime?_concat, hnow, h.strangers _ hf]
        rfl
      · obtain rfl := Option.some.inj hrevived
        refine .of_granted he hc ?_ rfl rfl
        rw [firstTime?_concat, (h.rows _ old hf).created]
        rfl
    · refine (h.rows other row hf).kept (Event.isOneOf_of_not hc fun heq => ?_)
      -- granting trust is never refused
      cases (hrefused (heq.trans hname).symm).2
  · rw [TrustTable.find?_trust] at hnone
    split at hnone
    · cases hnone
    · next hne =>
      rw [firstTime?_concat, Event.isOneOf_of_not hc fun heq => absurd heq.symm hne,
        h.strangers other hnone]
      rfl

theorem untrust (h : table.ToldBy past) (hd : table.Distinct)
    (hle : ∀ event ∈ past, event.tick ≤ clock) (hlater : clock < event.tick)
    (hw : event.write = .untrust user) (he : event.effective = TrustTable.isTrusted user table) :
    ToldBy (past ++ [event]) (TrustTable.untrust event.tick user table) := by
  have hc : event.write.change? = some (.revoked, user) := by rw [hw]; rfl
  refine ⟨fun other row hrow => ?_, fun other hnone => ?_⟩
  · unfold TrustTable.untrust at hrow
    obtain ⟨old, hf, ⟨rfl, -, hdone, rfl⟩ | ⟨rfl, hrefused⟩⟩ :=
      Table.find?_updateLive_cases hd (by intro _; rfl) hrow
    · have hname : old.user = other := Table.key_of_find? hf
      rw [Table.updateLive_answer] at hdone
      exact (h.rows other old hf).revoke (he.trans hdone) (hname ▸ hc) hle hlater
    · have hname : row.user = other := Table.key_of_find? hf
      rw [Table.updateLive_answer] at hrefused
      exact (h.rows other row hf).kept (Event.isOneOf_of_not hc fun heq =>
        he.trans (hrefused (heq.trans hname).symm))
  · rw [TrustTable.find?_untrust, Option.map_eq_none_iff] at hnone
    have hnot : event.isOneOf [.granted] other = false := by simp [Event.isOneOf, hc]
    rw [firstTime?_concat, h.strangers other hnone, hnot]
    rfl

/-- Every write keeps the times of all users told. -/
theorem rewrite (h : table.ToldBy past) (hd : table.Distinct) (ht : db.trusted = some table)
    (hle : ∀ event ∈ past, event.tick ≤ db.clock) (hhappens : event.Happens db next) :
    ToldBy (past ++ [event]) (event.write.rewrite event.tick .trusted table) := by
  have he := hhappens.effective
  obtain ⟨write, tick, effective⟩ := event
  cases write with
  | trust user => exact h.trust rfl (he table ht)
  | untrust user =>
    have htrusted : db.trusted.any (TrustTable.isTrusted user) =
        TrustTable.isTrusted user table := by rw [ht, Option.any_some]
    exact h.untrust hd hle hhappens.later rfl ((he table ht).trans htrusted)
  | _ =>
    refine ⟨fun user row hrow => (h.rows user row hrow).kept ?_, fun user hnone => ?_⟩
    · simp [Event.isOneOf, Query.change?]
    · rw [firstTime?_concat, h.strangers user hnone]
      simp [Event.isOneOf, Query.change?]

/-- The users with a row are those who were trusted at some time. -/
theorem mem_iff (h : table.ToldBy past) (hd : table.Distinct) (user : String) :
    user ∈ table.rows.map (·.user) ↔ (firstTime? [.granted] user past).isSome = true := by
  constructor
  · intro hmem
    obtain ⟨row, hrow, rfl⟩ := List.mem_map.mp hmem
    rw [(h.rows _ row (hd.find?_eq_some hrow)).created]
    rfl
  · intro hsome
    by_contra hnot
    rw [h.strangers user (Table.find?_eq_none_iff.mpr hnot)] at hsome
    cases hsome

end TrustTable.ToldBy

end Steps

/-! ## Databases -/

namespace Query

theorem rewrite_distinct (query : Query) (now : Tick) {name : TableName} {table : Table name.Row}
    (h : table.Distinct) : (query.rewrite now name table).Distinct := by
  by_cases hn : name = query.table
  · subst hn
    rw [rewrite_self]
    exact query.statement_distinct now h
  · rwa [rewrite_of_ne hn]

end Query

namespace Database

/-- Both tables are there, and the times of all rows are those of the history. -/
structure ToldBy (history : List Event) (db : Database) : Prop where
  le_clock : ∀ event ∈ history, event.tick ≤ db.clock
  commands : ∃ table, db.commands = some table ∧ table.Distinct ∧
    CommandTable.ToldBy history table
  trusted : ∃ table, db.trusted = some table ∧ table.Distinct ∧ TrustTable.ToldBy history table

namespace ToldBy

variable {past : List Event} {db next : Database} {event : Event}

theorem fresh (path : String) (clock : Tick) :
    ToldBy [] { Database.fresh path with clock } where
  le_clock := by simp
  commands := ⟨{}, rfl, Table.distinct_empty, by simp [Table.find?], fun _ _ => rfl⟩
  trusted := ⟨{}, rfl, Table.distinct_empty, by simp [Table.find?], fun _ _ => rfl⟩

theorem rests (h : db.ToldBy past) (hrests : db.Rests next) : next.ToldBy past := by
  obtain ⟨commands, hcommands, htold⟩ := h.commands
  obtain ⟨trusted, htrusted, htold'⟩ := h.trusted
  exact ⟨fun event he => (h.le_clock event he).trans hrests.clock_le,
    ⟨commands, hrests.table?_of_some .commands hcommands, htold⟩,
    ⟨trusted, hrests.table?_of_some .trusted htrusted, htold'⟩⟩

theorem happens (h : db.ToldBy past) (hhappens : event.Happens db next) :
    next.ToldBy (past ++ [event]) := by
  obtain ⟨commands, hcommands, hd, htold⟩ := h.commands
  obtain ⟨trusted, htrusted, hd', htold'⟩ := h.trusted
  refine ⟨fun old ho => ?_,
    ⟨_, hhappens.table?_of_some .commands hcommands,
      event.write.rewrite_distinct event.tick hd,
      htold.rewrite hd hcommands h.le_clock hhappens⟩,
    ⟨_, hhappens.table?_of_some .trusted htrusted,
      event.write.rewrite_distinct event.tick hd',
      htold'.rewrite hd' htrusted h.le_clock hhappens⟩⟩
  rw [← hhappens.tick_eq]
  rcases List.mem_append.mp ho with ho | ho
  · exact (h.le_clock old ho).trans hhappens.later.le
  · rw [List.mem_singleton.mp ho]

end ToldBy

end Database

/-! ## What changes no row -/

/-- What is not effective changes no row. -/
theorem Query.statement_rows {query : Query} {now : Tick} {db : Database}
    {table : Table query.table.Row} (ht : db.table? query.table = some table)
    (h : query.isEffective db (query.statement now table).2 = false) :
    (query.statement now table).1.rows = table.rows := by
  cases query with
  | createCommand name response => exact CommandTable.create_rows h
  | updateCommand name response => exact Table.updateLive_rows h
  | deleteCommand name => exact Table.updateLive_rows h
  | trust user => cases h
  | untrust user =>
    have htrusted : db.trusted = some table := ht
    rw [isEffective, htrusted, Option.any_some, TrustTable.isTrusted,
      ← Table.updateLive_answer] at h
    exact Table.updateLive_rows h
  | _ => rfl

/-- The events of a query that fails or is refused are not effective. -/
theorem Query.events_vain {query : Query} {condition : Condition} {db : Database}
    (h : ∀ result, (condition.perform (·.answer query) db).1 = .ok result →
      query.isEffective db result = false) :
    ∀ event ∈ query.events condition db, event.effective = false := by
  unfold events
  split
  · next result after hs =>
    intro event he
    rw [List.mem_singleton.mp he]
    exact h result (by rw [hs])
  · simp

/-- A call that failed, or to which the store answered that there was nothing to do. A seeding is as
    many calls as it trusts users, so it is none of these. -/
def AnyCall.IsVain : (call : AnyCall) → Except Failure (StoreCall.Result call) → Prop
  | .inr (.seed _), _ => False
  | .inl (.create _ _), .ok created => created = false
  | .inl (.update _ _), .ok updated => updated = false
  | .inl (.delete _), .ok deleted => deleted = false
  | _, .ok _ => False
  | _, .error _ => True

theorem AnyCall.events_vain {condition : Condition} {call : AnyCall} {db : Database}
    (h : IsVain call (StoreCall.perform condition call db).1) :
    ∀ event ∈ AnyCall.events condition db call, event.effective = false := by
  cases call with
  | inl call =>
    cases call with
    | create name response =>
      exact Query.events_vain fun result hr => (hr ▸ h : IsVain (.inl (.create ..)) (.ok result))
    | update name response =>
      exact Query.events_vain fun result hr => (hr ▸ h : IsVain (.inl (.update ..)) (.ok result))
    | delete name =>
      exact Query.events_vain fun result hr => (hr ▸ h : IsVain (.inl (.delete ..)) (.ok result))
    | _ => exact List.forall_mem_nil _
  | inr call =>
    cases call with
    | trust user =>
      exact Query.events_vain fun result hr => (hr ▸ h : IsVain (.inr (.trust _)) (.ok result)).elim
    | untrust user =>
      exact Query.events_vain fun result hr =>
        (hr ▸ h : IsVain (.inr (.untrust _)) (.ok result)).elim
    | seed users => exact h.elim
    | _ => exact List.forall_mem_nil _

theorem Event.Happens.sameRows {db next : Database} {event : Event} (h : event.Happens db next)
    (hvain : event.effective = false) : next.SameRows db := by
  intro name
  rw [h.tables]
  cases ht : db.table? name with
  | none => rfl
  | some table =>
    rw [Option.map_some, Option.map_some, Option.map_some]
    by_cases hn : name = event.write.table
    · subst hn
      rw [Query.rewrite_self, Query.statement_rows ht ((h.effective table ht).symm.trans hvain)]
    · rw [Query.rewrite_of_ne hn]

namespace Database

/-- Without an effective write no row changes. -/
theorem Unfolds.sameRows {db last : Database} {events : List Event} (h : db.Unfolds events last)
    (hvain : ∀ event ∈ events, event.effective = false)
    (htables : ∀ name, ∃ table, db.table? name = some table) : last.SameRows db := by
  induction h with
  | refl db => exact fun _ => rfl
  | @rest db next last events hrests _ ih =>
    refine (ih hvain fun name => ?_).trans fun name => ?_
    · obtain ⟨table, ht⟩ := htables name
      exact ⟨table, hrests.table?_of_some name ht⟩
    · obtain ⟨table, ht⟩ := htables name
      rw [hrests.table?_of_some name ht, ht]
  | @event db next last event events hhappens _ ih =>
    obtain ⟨hfirst, hrest⟩ := List.forall_mem_cons.mp hvain
    refine (ih hrest fun name => ?_).trans (hhappens.sameRows hfirst)
    obtain ⟨table, ht⟩ := htables name
    exact ⟨_, hhappens.table?_of_some name ht⟩

/-! ## Seeding -/

/-- The calls that trust users one after the other. -/
def trustCalls (users : List String) : List (Condition × AnyCall) :=
  users.map fun user => (.good, .inr (.trust user))

theorem make_trustCalls (users : List String) :
    ∀ {db : Database} {table : TrustTable}, db.trusted = some table →
      (trustAll { db with medium := .database } users).2.SameTables
        (db.make (trustCalls users)).2 := by
  induction users with
  | nil => exact fun _ name => table?_moved ..
  | cons user rest ih =>
    intro db table ht
    have hfirst := (trust_isStatement user).done { db with medium := .database } rfl ht
    have hperform : StoreCall.perform .good (.inr (.trust user) : AnyCall) db =
        Database.trust { db with medium := .database } user := rfl
    rw [trustAll, trustCalls, List.map_cons, make, hperform,
      show Database.trust _ user = _ from hfirst]
    exact @ih (withTable { db with medium := .database, clock := db.clock + 1 } .trusted
      (TrustTable.trust (db.clock + 1) user table)) _ rfl

/-- A seeding that fails leaves what trusting the first users leaves. -/
theorem seed_of_failed {db : Database} {table : TrustTable} (ht : db.trusted = some table)
    (hd : table.Distinct) {condition : Condition} {users : List String} {failure : Failure}
    (hf : (StoreCall.perform condition (.inr (.seed users) : AnyCall) db).1 = .error failure) :
    ∃ done, (StoreCall.perform condition (.inr (.seed users) : AnyCall) db).2.SameTables
      (db.make (trustCalls (users.take done))).2 := by
  cases condition with
  | breaks done failure => exact ⟨done, make_trustCalls _ ht⟩
  | stands medium =>
    have hvalue : StoreCall.perform (.stands medium) (.inr (.seed users) : AnyCall) db =
        ((trustAll { db with medium } users).1.map fun _ => users.length,
          (trustAll { db with medium } users).2) := seed_value _ users
    by_cases hm : medium = .database
    · obtain ⟨clock, last, -, -, hdone⟩ := trustAll_done users { db with medium } hm ht hd
      rw [hvalue, hdone] at hf
      cases hf
    · obtain ⟨clock, hsame, -⟩ := trustAll_failed { db with medium } hm users
      rw [hvalue, hsame]
      exact ⟨0, fun name => table?_moved ..⟩

end Database

/-- **Times.** From two tables just made, whatever calls of both stores are made, and whichever of
    them fail, the rows are those of the names that were created and the users who were trusted, and
    their times are those of the history, which is told by a clock that increases from write to
    write: a command was created when its name last became live, updated by the last creation or
    replacement, and if it is not live, deleted after that; a user was trusted first when the row
    was created, and the row was updated by the last change of trust, which if the user is not
    trusted is the time of the deletion too. A further call that fails or is refused changes no row,
    and a seeding that fails has trusted its first users and done no more. -/
theorem stamps_tell_history (path : String) (clock : Tick)
    (calls : List (Condition × AnyCall)) :
    let db : Database := { Database.fresh path with clock }
    let history := db.history calls
    let last := (db.make calls).2
    (history.map Event.tick).Pairwise (· < ·) ∧
      (∃ table, last.commands = some table ∧ (∀ row ∈ table.rows, row.ToldBy history) ∧
        ∀ name, name ∈ table.rows.map (·.name) ↔
          (lastTime? [.created] name history).isSome = true) ∧
      (∃ table, last.trusted = some table ∧ (∀ row ∈ table.rows, row.ToldBy history) ∧
        ∀ user, user ∈ table.rows.map (·.user) ↔
          (firstTime? [.granted] user history).isSome = true) ∧
      (∀ (condition : Condition) (call : AnyCall),
        AnyCall.IsVain call (StoreCall.perform condition call last).1 →
          (StoreCall.perform condition call last).2.SameRows last) ∧
      ∀ (condition : Condition) (users : List String) (failure : Failure),
        (StoreCall.perform condition (.inr (.seed users) : AnyCall) last).1 = .error failure →
          ∃ done, (StoreCall.perform condition (.inr (.seed users) : AnyCall) last).2.SameTables
            (last.make (Database.trustCalls (users.take done))).2 := by
  intro db history last
  have hunfolds : db.Unfolds history last := Database.make_unfolds calls db
  have htold : last.ToldBy history :=
    hunfolds.induct (motive := fun past db => db.ToldBy past)
      (fun _ _ _ htold hrests => htold.rests hrests)
      (fun _ _ _ _ htold hhappens => htold.happens hhappens) (.fresh path clock)
  obtain ⟨commands, hcommands, hd, hrows⟩ := htold.commands
  obtain ⟨trusted, htrusted, hd', hrows'⟩ := htold.trusted
  refine ⟨hunfolds.increase, ⟨commands, hcommands, fun row hrow => ?_, hrows.mem_iff hd⟩,
    ⟨trusted, htrusted, fun row hrow => ?_, hrows'.mem_iff hd'⟩, fun condition call hvain => ?_,
    fun condition users failure hf => Database.seed_of_failed htrusted hd' hf⟩
  · exact hrows.rows _ row (hd.find?_eq_some hrow)
  · exact hrows'.rows _ row (hd'.find?_eq_some hrow)
  · refine (Database.call_unfolds condition call last).sameRows (AnyCall.events_vain hvain)
      fun name => ?_
    cases name with
    | commands => exact ⟨commands, hcommands⟩
    | trusted => exact ⟨trusted, htrusted⟩

/-- A command that is created anew has new times, a user who is trusted anew keeps the first. -/
example :
    let calls : List (Condition × AnyCall) := [(.good, .inl (.create "greet" "hi")),
      (.good, .inl (.delete "greet")), (.good, .inr (.trust "alice")),
      (.good, .inr (.untrust "alice")), (.good, .inr (.trust "alice")),
      (.good, .inl (.create "greet" "hello"))]
    let last := ((Database.fresh "bot.db").make calls).2
    last.commands = some ⟨[⟨1, "greet", "hello", 6, 6, none⟩], 2⟩ ∧
      last.trusted = some ⟨[⟨1, "alice", 3, 5, none⟩], 2⟩ := by
  decide

end ChatWarden.Store
