import ChatWarden.Proofs.Store.History

/-!
# Rows keep their identifiers

Every write that may add a row takes the next identifier, also if the key has a row already. Rows
are revived and deleted in their places, so none of them ever loses its identifier or its key, and
an identifier that was taken in vain belongs to no row at any later time.

Results:
* `insertOrUpdate_takes` and `updateLive_takes`: what writes do to identifiers and keys.
* `Ordered.takes`: identifiers increase from row to row, and the counter is never behind.
* `Extends.takes`: the rows that came are the first that were asked for under their keys.
* `rows_never_lost`: what every run of calls leaves of a table, from any time on.
-/

namespace ChatWarden.Store

namespace Table

variable {ρ : Type} [Row ρ]

/-! ## Identifiers and keys -/

/-- The identifiers and keys of the rows. -/
def pairs (table : Table ρ) : List (ℕ × String) :=
  table.rows.map fun row => (Row.id row, Row.key row)

/-- The keys of the rows. -/
abbrev keys (table : Table ρ) : List String := table.rows.map Row.key

theorem map_snd_pairs (table : Table ρ) : table.pairs.map Prod.snd = table.keys := by
  rw [pairs, List.map_map]
  rfl

theorem key_mem_of_mem_pairs {table : Table ρ} {id : ℕ} {key : String}
    (h : (id, key) ∈ table.pairs) : key ∈ table.keys :=
  table.map_snd_pairs ▸ List.mem_map_of_mem h

/-- No key has two rows, by the pairs. -/
theorem distinct_iff {table : Table ρ} : table.Distinct ↔ (table.pairs.map Prod.snd).Nodup := by
  rw [map_snd_pairs, Distinct]

/-- What a write does to identifiers and keys. If it takes an identifier for a key, that goes to a
    new row unless the key has one. -/
def Takes (taken : Option String) (before after : Table ρ) : Prop :=
  match taken with
  | none => after.lastId = before.lastId ∧ after.pairs = before.pairs
  | some key => after.lastId = before.lastId + 1 ∧
      after.pairs = if key ∈ before.keys then before.pairs
        else before.pairs ++ [(before.lastId + 1, key)]

theorem takes_refl (table : Table ρ) : Takes none table table := ⟨rfl, rfl⟩

/-- Rows changed in their places keep their identifiers and keys. -/
theorem pairs_map {rows : List ρ} {lastId lastId' : ℕ} {change : ρ → ρ}
    (h : ∀ row ∈ rows, Row.id (change row) = Row.id row ∧ Row.key (change row) = Row.key row) :
    (⟨rows.map change, lastId⟩ : Table ρ).pairs = (⟨rows, lastId'⟩ : Table ρ).pairs := by
  rw [pairs, pairs, List.map_map]
  refine List.map_congr_left fun row hrow => ?_
  obtain ⟨hid, hkey⟩ := h row hrow
  exact Prod.ext hid hkey

theorem updateLive_takes {table : Table ρ} {key : String} {change : ρ → ρ}
    (h : ∀ row, Row.id (change row) = Row.id row ∧ Row.key (change row) = Row.key row) :
    Takes none table (table.updateLive key change).1 := by
  refine ⟨rfl, pairs_map fun row _ => ?_⟩
  split
  · exact h row
  · exact ⟨rfl, rfl⟩

theorem insertOrUpdate_takes {table : Table ρ} {key : String} {fresh : ℕ → ρ}
    {change : ρ → Option ρ} (hd : table.Distinct)
    (hfresh : ∀ id, Row.id (fresh id) = id ∧ Row.key (fresh id) = key)
    (hchange : ∀ row changed, change row = some changed →
      Row.id changed = Row.id row ∧ Row.key changed = Row.key row) :
    Takes (some key) table (table.insertOrUpdate key fresh change).1 := by
  cases hf : table.find? key with
  | none =>
    rw [insertOrUpdate_of_none hf]
    refine ⟨rfl, ?_⟩
    obtain ⟨hid, hkey⟩ := hfresh (table.lastId + 1)
    rw [if_neg (find?_eq_none_iff.mp hf), pairs, List.map_append, List.map_singleton, hid, hkey]
    rfl
  | some row =>
    have hmem : key ∈ table.keys := key_of_find? hf ▸ List.mem_map_of_mem (mem_of_find? hf)
    cases hc : change row with
    | none =>
      rw [insertOrUpdate_of_refused hf hc]
      exact ⟨rfl, (if_pos hmem).symm⟩
    | some changed =>
      rw [insertOrUpdate_of_changed hf hc]
      refine ⟨rfl, ?_⟩
      obtain ⟨hid, hkey⟩ := hchange row changed hc
      rw [if_pos hmem]
      refine pairs_map fun old hold => ?_
      split
      · next hsame =>
        -- the key has one row only, so this is the row that was found
        have hfound := hd.find?_eq_some hold
        rw [beq_iff_eq.mp hsame, hf] at hfound
        obtain rfl := Option.some.inj hfound
        exact ⟨hid, hkey⟩
      · exact ⟨rfl, rfl⟩

/-! ## One write -/

/-- Identifiers increase from row to row up to the counter, and no key has two rows. -/
structure Ordered (table : Table ρ) : Prop where
  increase : (table.pairs.map Prod.fst).Pairwise (· < ·)
  le_last : ∀ pair ∈ table.pairs, pair.1 ≤ table.lastId
  distinct : table.Distinct

theorem ordered_empty : ({} : Table ρ).Ordered where
  increase := List.Pairwise.nil
  le_last := by simp [pairs]
  distinct := distinct_empty

variable {before middle after : Table ρ}

theorem Ordered.takes {taken : Option String} (h : before.Ordered) (ht : Takes taken before after) :
    after.Ordered := by
  have hold := distinct_iff.mp h.distinct
  cases taken with
  | none =>
    obtain ⟨hlast, hpairs⟩ := ht
    refine ⟨hpairs ▸ h.increase, ?_, distinct_iff.mpr (hpairs ▸ hold)⟩
    rw [hpairs, hlast]
    exact h.le_last
  | some key =>
    obtain ⟨hlast, hpairs⟩ := ht
    have hle : ∀ pair ∈ before.pairs, pair.1 ≤ after.lastId := fun pair hp =>
      (h.le_last pair hp).trans (hlast ▸ Nat.le_succ _)
    split at hpairs
    · exact ⟨hpairs ▸ h.increase, hpairs ▸ hle, distinct_iff.mpr (hpairs ▸ hold)⟩
    · next hnew =>
      refine ⟨?_, ?_, distinct_iff.mpr ?_⟩
      · rw [hpairs, List.map_append, List.pairwise_append]
        refine ⟨h.increase, List.pairwise_singleton .., fun id hid new hn => ?_⟩
        obtain ⟨pair, hp, rfl⟩ := List.mem_map.mp hid
        obtain rfl := List.mem_singleton.mp hn
        exact Nat.lt_succ_of_le (h.le_last pair hp)
      · rw [hpairs]
        refine List.forall_mem_append.mpr ⟨hle, fun pair hp => ?_⟩
        obtain rfl := List.mem_singleton.mp hp
        exact hlast ▸ Nat.le_refl _
      · rw [hpairs, List.map_append]
        refine List.nodup_append.mpr ⟨hold, List.nodup_singleton _, fun old ho new hn => ?_⟩
        obtain rfl := List.mem_singleton.mp hn
        rintro rfl
        exact hnew (before.map_snd_pairs ▸ ho)

/-- What became of a table for whose keys these identifiers were taken: rows came behind those of
    before, and their identifiers are the first that were taken for their keys. -/
structure Extends (before after : Table ρ) (taken : List String) : Prop where
  grows : before.pairs <+: after.pairs
  last_eq : after.lastId = before.lastId + taken.length
  mem_iff : ∀ id key, (id, key) ∈ after.pairs ↔ (id, key) ∈ before.pairs ∨
    key ∈ taken ∧ key ∉ before.keys ∧ id = before.lastId + 1 + taken.idxOf key

namespace Extends

variable {taken : List String}

theorem refl (table : Table ρ) : table.Extends table [] where
  grows := List.prefix_rfl
  last_eq := rfl
  mem_iff id key := by simp

/-- A key has a row if it had one before, or an identifier was taken for it since. -/
theorem key_mem_iff (h : before.Extends after taken) (key : String) :
    key ∈ after.keys ↔ key ∈ before.keys ∨ key ∈ taken := by
  rw [← map_snd_pairs, ← map_snd_pairs before]
  simp only [List.mem_map, Prod.exists, exists_eq_right]
  constructor
  · rintro ⟨id, hid⟩
    rcases (h.mem_iff id key).mp hid with hold | ⟨hnew, -⟩
    · exact .inl ⟨id, hold⟩
    · exact .inr hnew
  · rintro (⟨id, hid⟩ | hnew)
    · exact ⟨id, (h.mem_iff id key).mpr (.inl hid)⟩
    · by_cases hold : key ∈ before.keys
      · rw [← map_snd_pairs] at hold
        obtain ⟨⟨id, _⟩, hid, rfl⟩ := List.mem_map.mp hold
        exact ⟨id, (h.mem_iff id _).mpr (.inl hid)⟩
      · exact ⟨_, (h.mem_iff _ key).mpr (.inr ⟨hnew, hold, rfl⟩)⟩

theorem takes {more : Option String} (h : before.Extends middle taken)
    (ht : Takes more middle after) : before.Extends after (taken ++ more.toList) := by
  cases more with
  | none =>
    obtain ⟨hlast, hpairs⟩ := ht
    rw [Option.toList_none, List.append_nil]
    exact ⟨hpairs ▸ h.grows, hlast.trans h.last_eq, hpairs ▸ h.mem_iff⟩
  | some key =>
    obtain ⟨hlast, hpairs⟩ := ht
    have hcount : after.lastId = before.lastId + (taken ++ [key]).length := by
      rw [hlast, h.last_eq, List.length_append, List.length_singleton, Nat.add_assoc]
    -- what was taken before is found at the same place
    have hidx {other : String} (ho : other ∈ taken) :
        (taken ++ [key]).idxOf other = taken.idxOf other := List.idxOf_append_of_mem ho
    rw [Option.toList_some]
    split at hpairs
    · next hold =>
      refine ⟨hpairs ▸ h.grows, hcount, fun id other => ?_⟩
      rw [hpairs, h.mem_iff]
      refine or_congr_right ?_
      constructor
      · rintro ⟨ho, hn, rfl⟩
        exact ⟨List.mem_append_left _ ho, hn, by rw [hidx ho]⟩
      · rintro ⟨ho, hn, rfl⟩
        have ho : other ∈ taken := by
          rcases List.mem_append.mp ho with ho | ho
          · exact ho
          · obtain rfl := List.mem_singleton.mp ho
            exact ((h.key_mem_iff other).mp hold).resolve_left hn
        exact ⟨ho, hn, by rw [hidx ho]⟩
    · next hnew =>
      have hfirst : key ∉ before.keys ∧ key ∉ taken := by
        rw [h.key_mem_iff, not_or] at hnew
        exact hnew
      refine ⟨hpairs ▸ h.grows.trans (List.prefix_append ..), hcount, fun id other => ?_⟩
      rw [hpairs, List.mem_append, h.mem_iff, List.mem_singleton, Prod.mk.injEq, or_assoc]
      refine or_congr_right ?_
      constructor
      · rintro (⟨ho, hn, rfl⟩ | ⟨rfl, rfl⟩)
        · exact ⟨List.mem_append_left _ ho, hn, by rw [hidx ho]⟩
        · refine ⟨List.mem_append_right _ (List.mem_singleton.mpr rfl), hfirst.1, ?_⟩
          rw [List.idxOf_append_of_notMem hfirst.2, h.last_eq]
          simp
          omega
      · rintro ⟨ho, hn, rfl⟩
        rcases List.mem_append.mp ho with ho | ho
        · exact .inl ⟨ho, hn, by rw [hidx ho]⟩
        · obtain rfl := List.mem_singleton.mp ho
          refine .inr ⟨?_, rfl⟩
          rw [List.idxOf_append_of_notMem hfirst.2, h.last_eq]
          simp
          omega

end Extends

/-! ## A run of writes -/

/-- The time at which an identifier was first taken for a key. -/
def bornAt? (key : String) (taken : List (Tick × String)) : Option Tick :=
  (taken.find? fun taking => taking.2 == key).map Prod.fst

theorem bornAt?_eq (key : String) (taken : List (Tick × String)) :
    bornAt? key taken = (taken.map Prod.fst)[(taken.map Prod.snd).idxOf key]? := by
  induction taken with
  | nil => rfl
  | cons taking rest ih =>
    by_cases hkey : taking.2 = key
    · simp [bornAt?, hkey]
    · rw [bornAt?] at ih
      simp [bornAt?, hkey, List.idxOf_cons_ne _ hkey, ih]

/-- What a table has become for whose keys identifiers were taken at these times. -/
structure Grown (before after : Table ρ) (taken : List (Tick × String)) : Prop where
  /-- A row keeps its place, its identifier and its key. -/
  grows : before.pairs <+: after.pairs
  ids_increase : (after.pairs.map Prod.fst).Pairwise (· < ·)
  keys_differ : (after.pairs.map Prod.snd).Nodup
  last_eq : after.lastId = before.lastId + taken.length
  /-- A row that came has the first identifier that was taken for its key. -/
  mem_iff : ∀ id key, (id, key) ∈ after.pairs ↔ (id, key) ∈ before.pairs ∨
    key ∈ taken.map Prod.snd ∧ key ∉ before.keys ∧
      id = before.lastId + 1 + (taken.map Prod.snd).idxOf key
  /-- No row that came has an identifier that was taken before, be it in vain. -/
  unused : ∀ pair ∈ after.pairs, pair ∈ before.pairs ∨ before.lastId < pair.1
  /-- An identifier that was taken for a key that had a row is that of no row. -/
  spent : ∀ n key, (taken.map Prod.snd)[n]? = some key →
    key ∈ before.keys ∨ key ∈ (taken.map Prod.snd).take n →
      before.lastId + 1 + n ∉ after.pairs.map Prod.fst
  /-- The rows that came are in the order of the times at which their keys came. -/
  by_time : ∀ pair ∈ after.pairs, ∀ pair' ∈ after.pairs,
    pair.2 ∉ before.keys → pair'.2 ∉ before.keys →
      ∃ time time', bornAt? pair.2 taken = some time ∧ bornAt? pair'.2 taken = some time' ∧
        (pair.1 < pair'.1 ↔ time < time')

/-- In an increasing list the earlier place has the lesser element. -/
theorem lt_iff_of_increase {times : List Tick} (h : times.Pairwise (· < ·)) {i j : ℕ}
    {time time' : Tick} (hi : times[i]? = some time) (hj : times[j]? = some time') :
    i < j ↔ time < time' := by
  obtain ⟨hil, rfl⟩ := List.getElem?_eq_some_iff.mp hi
  obtain ⟨hjl, rfl⟩ := List.getElem?_eq_some_iff.mp hj
  have hmono := List.pairwise_iff_getElem.mp h
  constructor
  · exact hmono i j hil hjl
  · intro hlt
    by_contra hle
    rcases Nat.lt_or_eq_of_le (Nat.le_of_not_lt hle) with hji | rfl
    · exact Nat.lt_asymm hlt (hmono j i hjl hil hji)
    · exact Nat.lt_irrefl _ hlt

theorem Extends.grown {taken : List (Tick × String)} (hbefore : before.Ordered)
    (hafter : after.Ordered) (htimes : (taken.map Prod.fst).Pairwise (· < ·))
    (h : before.Extends after (taken.map Prod.snd)) : before.Grown after taken := by
  have hplace {id : ℕ} {key : String} (hmem : (id, key) ∈ after.pairs) (hnew : key ∉ before.keys) :
      key ∈ taken.map Prod.snd ∧ id = before.lastId + 1 + (taken.map Prod.snd).idxOf key := by
    rcases (h.mem_iff id key).mp hmem with hold | ⟨htaken, -, hid⟩
    · exact absurd (key_mem_of_mem_pairs hold) hnew
    · exact ⟨htaken, hid⟩
  have hborn {key : String} (htaken : key ∈ taken.map Prod.snd) :
      ∃ time, bornAt? key taken = some time ∧
        (taken.map Prod.fst)[(taken.map Prod.snd).idxOf key]? = some time := by
    have hlt : (taken.map Prod.snd).idxOf key < (taken.map Prod.fst).length := by
      have := List.idxOf_lt_length_iff.mpr htaken
      simpa using this
    exact ⟨_, (bornAt?_eq key taken).trans (List.getElem?_eq_getElem hlt),
      List.getElem?_eq_getElem hlt⟩
  refine ⟨h.grows, hafter.increase, distinct_iff.mp hafter.distinct, by simpa using h.last_eq,
    h.mem_iff, fun pair hmem => ?_, fun n key hn hold => ?_, fun pair hp pair' hp' hn hn' => ?_⟩
  · rcases (h.mem_iff _ _).mp hmem with hold | ⟨-, -, hid⟩
    · exact .inl hold
    · exact .inr (by omega)
  · intro hmem
    obtain ⟨⟨id, other⟩, hp, hid⟩ := List.mem_map.mp hmem
    obtain rfl : id = before.lastId + 1 + n := hid
    rcases (h.mem_iff _ _).mp hp with hp | ⟨htaken, hnew, heq⟩
    · have := hbefore.le_last _ hp
      dsimp only at this
      omega
    · -- the identifier is the first one of the key for which it was taken
      have hidx : (taken.map Prod.snd).idxOf other = n := by omega
      have hother : (taken.map Prod.snd)[n]? = some other := by
        rw [← hidx]
        exact List.getElem?_idxOf htaken
      obtain rfl : other = key := Option.some.inj (hother.symm.trans hn)
      rcases hold with hold | hold
      · exact hnew hold
      · have hlt := (List.mem_take_iff_idxOf_lt htaken).mp hold
        omega
  · obtain ⟨htaken, hid⟩ := hplace hp hn
    obtain ⟨htaken', hid'⟩ := hplace hp' hn'
    obtain ⟨time, htime, hat⟩ := hborn htaken
    obtain ⟨time', htime', hat'⟩ := hborn htaken'
    refine ⟨time, time', htime, htime', ?_⟩
    rw [← lt_iff_of_increase htimes hat hat', hid, hid']
    omega

end Table

/-! ## Writes of the stores -/

namespace Query

/-- The key for which a write on a table takes an identifier. -/
def taking? : TableName → Query → Option String
  | .commands, .createCommand name _ => some name
  | .trusted, .trust user => some user
  | _, _ => none

theorem rewrite_takes (query : Query) (now : Tick) {name : TableName} {table : Table name.Row}
    (hd : table.Distinct) :
    Table.Takes (query.taking? name) table (query.rewrite now name table) := by
  cases name with
  | commands =>
    cases query with
    | createCommand name response =>
      refine Table.insertOrUpdate_takes hd (fun _ => ⟨rfl, rfl⟩) fun row changed hc => ?_
      exact ⟨CommandTable.id_revived hc, CommandTable.key_revived hc⟩
    | updateCommand name response => exact Table.updateLive_takes fun _ => ⟨rfl, rfl⟩
    | deleteCommand name => exact Table.updateLive_takes fun _ => ⟨rfl, rfl⟩
    | _ => exact table.takes_refl
  | trusted =>
    cases query with
    | trust user =>
      refine Table.insertOrUpdate_takes hd (fun _ => ⟨rfl, rfl⟩) fun row changed hc => ?_
      obtain rfl := Option.some.inj hc
      exact ⟨rfl, rfl⟩
    | untrust user => exact Table.updateLive_takes fun _ => ⟨rfl, rfl⟩
    | _ => exact table.takes_refl

end Query

/-- The keys for which identifiers of a table were taken, with the times. -/
def takings (name : TableName) (history : List Event) : List (Tick × String) :=
  history.filterMap fun event => (event.write.taking? name).map (event.tick, ·)

theorem takings_concat (name : TableName) (past : List Event) (event : Event) :
    (takings name (past ++ [event])).map Prod.snd =
      (takings name past).map Prod.snd ++ (event.write.taking? name).toList := by
  rw [takings, List.filterMap_append, List.map_append]
  cases h : event.write.taking? name <;> simp [takings, h]

theorem takings_increase {name : TableName} {history : List Event}
    (h : (history.map Event.tick).Pairwise (· < ·)) :
    ((takings name history).map Prod.fst).Pairwise (· < ·) := by
  refine h.sublist ?_
  induction history with
  | nil => exact List.nil_sublist _
  | cons event rest ih =>
    have hrest := ih h.of_cons
    cases ht : event.write.taking? name with
    | none => simpa [takings, ht] using hrest.cons event.tick
    | some key => simpa [takings, ht] using hrest.cons_cons event.tick

namespace Database

/-- Both tables, as far as they are there, are in order. -/
def InOrder (db : Database) : Prop :=
  ∀ (name : TableName) (table : Table name.Row), db.table? name = some table → table.Ordered

theorem Unfolds.inOrder {db last : Database} {events : List Event} (h : db.Unfolds events last)
    (hdb : db.InOrder) : last.InOrder := by
  refine h.induct (motive := fun _ db => db.InOrder)
    (fun past db next hold hrests name table ht => ?_)
    (fun past db next event hold hhappens name table ht => ?_) hdb
  · rcases hrests.tables name with hsame | ⟨-, hnew⟩
    · exact hold name table (hsame ▸ ht)
    · obtain rfl := Option.some.inj (ht.symm.trans hnew)
      exact Table.ordered_empty
  · rw [hhappens.tables, Option.map_eq_some_iff] at ht
    obtain ⟨table, ht, rfl⟩ := ht
    have hordered := hold name table ht
    exact hordered.takes (event.write.rewrite_takes event.tick hordered.distinct)

theorem Reachable.inOrder {db : Database} (h : db.Reachable) : db.InOrder := by
  induction h with
  | made path => intro name table ht; cases name <;> cases ht
  | command condition call _ ih => exact (call_unfolds condition (.inl call) _).inOrder ih
  | trust condition call _ ih => exact (call_unfolds condition (.inr call) _).inOrder ih

end Database

/-- **Identifiers.** From any time on, whatever calls of both stores are made, and whichever of them
    fail, both tables only grow: every row keeps its identifier and its key, no two rows share one
    of them, and no identifier is given to a second row. New rows come in the order in which their
    keys were first written, each with the identifier that was taken then; identifiers that were
    taken for keys that had rows already never show up. -/
theorem rows_never_lost {db : Database} (h : db.Reachable) {name : TableName}
    {table : Table name.Row} (ht : db.table? name = some table)
    (calls : List (Condition × AnyCall)) :
    ∃ after, (db.make calls).2.table? name = some after ∧
      table.Grown after (takings name (db.history calls)) := by
  have hfirst := h.inOrder name table ht
  have hunfolds := Database.make_unfolds calls db
  obtain ⟨after, hafter, hordered, hextends⟩ := hunfolds.induct
    (motive := fun past db => ∃ now, db.table? name = some now ∧ now.Ordered ∧
      table.Extends now ((takings name past).map Prod.snd))
    (fun past db next ⟨now, hnow, hold⟩ hrests => ⟨now, hrests.table?_of_some name hnow, hold⟩)
    (fun past db next event ⟨now, hnow, hordered, hextends⟩ hhappens => by
      have htakes := event.write.rewrite_takes event.tick hordered.distinct
      exact ⟨_, hhappens.table?_of_some name hnow, hordered.takes htakes,
        takings_concat .. ▸ hextends.takes htakes⟩)
    ⟨table, ht, hfirst, .refl table⟩
  exact ⟨after, hafter, hextends.grown hfirst hordered (takings_increase hunfolds.increase)⟩

/-- A name is created again while it is live, and after it was deleted. The identifiers that this
    takes are on no row, and a creation that fails takes none. -/
theorem rows_never_lost_revived :
    let db := (Database.make [(.good, CommandCall.reopen), (.good, .create "greet" "hi")]
      { path := "bot.db" }).2
    let table : CommandTable := ⟨[⟨1, "greet", "hi", 1, 1, none⟩], 1⟩
    let calls : List (Condition × AnyCall) := [(.good, .inl (.create "greet" "hello")),
      (.good, .inl (.delete "greet")), (.good, .inl (.create "bye" "so long")),
      (.stands .directory, .inl (.create "lurk" "...")),
      (.good, .inl (.create "greet" "hey")), (.good, .inl (.create "lurk" "..."))]
    db.Reachable ∧ db.table? .commands = some table ∧
      ∃ after, (db.make calls).2.table? .commands = some after ∧
        table.Grown after (takings .commands (db.history calls)) ∧
        after.pairs = [(1, "greet"), (3, "bye"), (5, "lurk")] ∧
        takings .commands (db.history calls) =
          [(2, "greet"), (4, "bye"), (6, "greet"), (7, "lurk")] := by
  intro db table calls
  have hdb : db.Reachable :=
    .command .good (.create "greet" "hi") (.command .good .reopen (.made "bot.db"))
  have ht : db.table? .commands = some table := by decide
  obtain ⟨after, hafter, hgrown⟩ := rows_never_lost hdb ht calls
  have hpairs : ((db.make calls).2.table? .commands).map Table.pairs =
      some [(1, "greet"), (3, "bye"), (5, "lurk")] := by decide
  rw [hafter, Option.map_some, Option.some.injEq] at hpairs
  exact ⟨hdb, ht, after, hafter, hgrown, hpairs, by decide⟩

end ChatWarden.Store
