import ChatWarden.Store.CommandTable
import ChatWarden.Store.TrustTable
import Mathlib.Data.List.Nodup
import Mathlib.Data.String.Basic

/-!
# Rows by their keys

A table whose keys all differ is a partial function from keys to rows, `Table.find?`, and the two
writing operations change this function at one key only.

Results:
* `find?_insertOrUpdate` and `find?_updateLive`: what every key finds after a write; with
  `find?_insertOrUpdate_cases` and `find?_updateLive_cases` for what this tells of the answer.
* `Distinct.insertOrUpdate` and `Distinct.updateLive`: writes keep the keys different.
* `mem_insertOrUpdate` and `mem_updateLive`: where the rows after a write come from.
* `live?_eq_filter` and `live?_eq_some_iff`: the live row of a key.
* `liveSorted_strict`: the live rows are listed by strictly increasing keys.
-/

namespace ChatWarden.Store

/-! ## Rows of the two tables -/

@[simp] theorem CommandRow.key_eq (row : CommandRow) : Row.key row = row.name := rfl

@[simp] theorem TrustRow.key_eq (row : TrustRow) : Row.key row = row.user := rfl

namespace Table

variable {ρ : Type} [Row ρ]

/-- No key has two rows. -/
def Distinct (table : Table ρ) : Prop := (table.rows.map Row.key).Nodup

theorem distinct_empty : ({} : Table ρ).Distinct := List.nodup_nil

/-! ## The row of a key -/

theorem key_of_find? {table : Table ρ} {key : String} {row : ρ}
    (h : table.find? key = some row) : Row.key row = key := by
  simpa using List.find?_some h

theorem mem_of_find? {table : Table ρ} {key : String} {row : ρ}
    (h : table.find? key = some row) : row ∈ table.rows := List.mem_of_find?_eq_some h

theorem find?_eq_none_iff {table : Table ρ} {key : String} :
    table.find? key = none ↔ key ∉ table.rows.map Row.key := by
  simp [find?]

/-- In a table with distinct keys every row is the one that its key finds. -/
theorem Distinct.find?_eq_some {table : Table ρ} (h : table.Distinct) {row : ρ}
    (hr : row ∈ table.rows) : table.find? (Row.key row) = some row := by
  obtain ⟨found, hf⟩ : ∃ found, table.find? (Row.key row) = some found := by
    cases hf : table.find? (Row.key row) with
    | none => exact absurd (List.mem_map_of_mem hr) (find?_eq_none_iff.mp hf)
    | some found => exact ⟨found, rfl⟩
  have hk := key_of_find? hf
  rw [hf, List.inj_on_of_nodup_map h (mem_of_find? hf) hr hk]

/-! ## Rows changed in their places -/

/-- A change that keeps keys is seen by every key at its own row. -/
theorem find?_map {rows : List ρ} {lastId : Nat} (lastId' : Nat) {change : ρ → ρ}
    (hchange : ∀ row, Row.key (change row) = Row.key row) (key : String) :
    (⟨rows.map change, lastId⟩ : Table ρ).find? key =
      ((⟨rows, lastId'⟩ : Table ρ).find? key).map change := by
  have hput : (fun row => Row.key row == key) ∘ change = fun row => Row.key row == key := by
    funext row
    simp [hchange]
  simp only [find?, List.find?_map, hput]

theorem distinct_map {rows : List ρ} {lastId lastId' : Nat} {change : ρ → ρ}
    (hchange : ∀ row, Row.key (change row) = Row.key row)
    (h : (⟨rows, lastId'⟩ : Table ρ).Distinct) :
    (⟨rows.map change, lastId⟩ : Table ρ).Distinct := by
  have hput : Row.key ∘ change = (Row.key : ρ → String) := funext hchange
  simpa only [Distinct, List.map_map, hput] using h

/-! ## The live row of a key -/

theorem live?_eq_some_iff {table : Table ρ} (h : table.Distinct) {key : String} {row : ρ} :
    table.live? key = some row ↔ row ∈ table.rows ∧ Row.key row = key ∧ isLive row = true := by
  constructor
  · intro hl
    have hp : (Row.key row == key && isLive row) = true :=
      List.find?_some (p := fun row : ρ => Row.key row == key && isLive row) hl
    rw [Bool.and_eq_true, beq_iff_eq] at hp
    exact ⟨List.mem_of_find?_eq_some hl, hp⟩
  · rintro ⟨hr, rfl, hlive⟩
    cases hl : table.live? (Row.key row) with
    | none =>
      have := List.find?_eq_none.mp hl row hr
      simp [hlive] at this
    | some found =>
      have hp : (Row.key found == Row.key row && isLive found) = true :=
        List.find?_some (p := fun found : ρ => Row.key found == Row.key row && isLive found) hl
      rw [Bool.and_eq_true, beq_iff_eq] at hp
      rw [List.inj_on_of_nodup_map h (List.mem_of_find?_eq_some hl) hr hp.1]

/-- The live row of a key is its row, if that is live. -/
theorem live?_eq_filter {table : Table ρ} (h : table.Distinct) (key : String) :
    table.live? key = (table.find? key).filter isLive := by
  ext row
  rw [live?_eq_some_iff h, Option.filter_eq_some_iff]
  constructor
  · rintro ⟨hr, rfl, hlive⟩
    exact ⟨h.find?_eq_some hr, hlive⟩
  · rintro ⟨hf, hlive⟩
    exact ⟨mem_of_find? hf, key_of_find? hf, hlive⟩

/-- Also without distinct keys a key has a live row if `live?` finds one. -/
theorem live?_isSome_iff {table : Table ρ} {key : String} :
    (table.live? key).isSome ↔ ∃ row ∈ table.rows, Row.key row = key ∧ isLive row = true := by
  simp [live?]

/-! ## Insert or update -/

section InsertOrUpdate

variable {table : Table ρ} {key : String} {fresh : Nat → ρ} {change : ρ → Option ρ}

/-- The call of a key that has no row. -/
theorem insertOrUpdate_of_none (h : table.find? key = none) :
    table.insertOrUpdate key fresh change =
      (⟨table.rows ++ [fresh (table.lastId + 1)], table.lastId + 1⟩, true) := by
  simp [insertOrUpdate, h]

/-- The call of a key whose row is not to be changed. -/
theorem insertOrUpdate_of_refused {row : ρ} (h : table.find? key = some row)
    (hc : change row = none) :
    table.insertOrUpdate key fresh change = (⟨table.rows, table.lastId + 1⟩, false) := by
  simp [insertOrUpdate, h, hc]

/-- The call of a key whose row is changed. -/
theorem insertOrUpdate_of_changed {row changed : ρ} (h : table.find? key = some row)
    (hc : change row = some changed) :
    table.insertOrUpdate key fresh change =
      (⟨table.rows.map fun old => if Row.key old == key then changed else old,
        table.lastId + 1⟩, true) := by
  simp [insertOrUpdate, h, hc]

/-- A row put in the place of another one of its key keeps all keys. -/
theorem key_put {changed : ρ} (hkey : Row.key changed = key) (old : ρ) :
    Row.key (if Row.key old == key then changed else old) = Row.key old := by
  by_cases hold : Row.key old = key <;> simp [hold, hkey]

/-- What a key finds after a call, which puts `fresh` or `changed` in the place of its own key. -/
theorem find?_insertOrUpdate (hfresh : ∀ id, Row.key (fresh id) = key)
    (hchange : ∀ row changed, change row = some changed → Row.key changed = Row.key row)
    (other : String) :
    (table.insertOrUpdate key fresh change).1.find? other =
      if other = key then
        some ((table.find? key).elim (fresh (table.lastId + 1)) fun row => (change row).getD row)
      else table.find? other := by
  cases h : table.find? key with
  | none =>
    rw [insertOrUpdate_of_none h]
    by_cases ho : other = key
    · subst ho
      simp only [find?] at h
      simp [find?, List.find?_append, h, hfresh]
    · simp [find?, List.find?_append, hfresh, ho, Ne.symm ho]
  | some row =>
    cases hc : change row with
    | none =>
      rw [insertOrUpdate_of_refused h hc]
      by_cases ho : other = key
      · subst ho; simpa [find?, hc] using h
      · simp [find?, ho]
    | some changed =>
      have hkey : Row.key changed = key := (hchange _ _ hc).trans (key_of_find? h)
      rw [insertOrUpdate_of_changed h hc, find?_map table.lastId (key_put hkey)]
      by_cases ho : other = key
      · subst ho
        simp [h, hc, key_of_find? h]
      · cases hf : table.find? other with
        | none => simp [ho]
        | some found => simp [ho, key_of_find? hf]

/-- A row after a call is the one that the call wrote, or one that it left as it was. -/
theorem find?_insertOrUpdate_cases (hfresh : ∀ id, Row.key (fresh id) = key)
    (hchange : ∀ row changed, change row = some changed → Row.key changed = Row.key row)
    {other : String} {row : ρ}
    (h : (table.insertOrUpdate key fresh change).1.find? other = some row) :
    (other = key ∧ (table.insertOrUpdate key fresh change).2 = true ∧
      (table.find? key = none ∧ row = fresh (table.lastId + 1) ∨
        ∃ old, table.find? key = some old ∧ change old = some row)) ∨
    (table.find? other = some row ∧ (other = key →
      (table.insertOrUpdate key fresh change).2 = false ∧ change row = none)) := by
  rw [find?_insertOrUpdate hfresh hchange] at h
  split at h
  · next hsame =>
    cases hf : table.find? key with
    | none =>
      rw [hf] at h
      rw [insertOrUpdate_of_none hf]
      exact .inl ⟨hsame, rfl, .inl ⟨rfl, (Option.some.inj h).symm⟩⟩
    | some old =>
      rw [hf, Option.elim_some] at h
      cases hc : change old with
      | none =>
        rw [hc] at h
        obtain rfl := Option.some.inj h
        rw [insertOrUpdate_of_refused hf hc, hsame, hf]
        exact .inr ⟨rfl, fun _ => ⟨rfl, hc⟩⟩
      | some changed =>
        rw [hc] at h
        rw [insertOrUpdate_of_changed hf hc]
        exact .inl ⟨hsame, rfl, .inr ⟨old, rfl, hc.trans h⟩⟩
  · next hne => exact .inr ⟨h, fun heq => absurd heq hne⟩

theorem Distinct.insertOrUpdate (h : table.Distinct) (hfresh : ∀ id, Row.key (fresh id) = key)
    (hchange : ∀ row changed, change row = some changed → Row.key changed = Row.key row) :
    (table.insertOrUpdate key fresh change).1.Distinct := by
  cases hf : table.find? key with
  | none =>
    rw [insertOrUpdate_of_none hf]
    have hn : key ∉ table.rows.map Row.key := find?_eq_none_iff.mp hf
    simpa [Distinct, hfresh, List.nodup_append] using ⟨h, by simpa using hn⟩
  | some row =>
    cases hc : change row with
    | none => rw [insertOrUpdate_of_refused hf hc]; exact h
    | some changed =>
      rw [insertOrUpdate_of_changed hf hc]
      exact distinct_map (key_put ((hchange _ _ hc).trans (key_of_find? hf))) h

/-- After a call a row is an old one, the new one, or what became of an old one of the key. -/
theorem mem_insertOrUpdate {row : ρ}
    (h : row ∈ (table.insertOrUpdate key fresh change).1.rows) :
    row ∈ table.rows ∨ row = fresh (table.lastId + 1) ∨
      ∃ old ∈ table.rows, Row.key old = key ∧ change old = some row := by
  cases hf : table.find? key with
  | none =>
    rw [insertOrUpdate_of_none hf] at h
    rcases List.mem_append.mp h with h | h
    · exact .inl h
    · exact .inr (.inl (List.mem_singleton.mp h))
  | some found =>
    cases hc : change found with
    | none =>
      rw [insertOrUpdate_of_refused hf hc] at h
      exact .inl h
    | some changed =>
      rw [insertOrUpdate_of_changed hf hc] at h
      obtain ⟨old, hold, rfl⟩ := List.mem_map.mp h
      split
      · exact .inr (.inr ⟨found, mem_of_find? hf, key_of_find? hf, hc⟩)
      · exact .inl hold

end InsertOrUpdate

/-! ## Update of the live row -/

section UpdateLive

variable {table : Table ρ} {key : String} {change : ρ → ρ}

/-- A row changed in a way that keeps its key keeps it also if only some rows are changed. -/
theorem key_changeIf (hchange : ∀ row, Row.key (change row) = Row.key row) (applies : ρ → Bool)
    (row : ρ) : Row.key (if applies row then change row else row) = Row.key row := by
  split
  · exact hchange row
  · rfl

/-- What a key finds after an update, which reaches the row of its own key if that is live. -/
theorem find?_updateLive (hchange : ∀ row, Row.key (change row) = Row.key row) (other : String) :
    (table.updateLive key change).1.find? other =
      (table.find? other).map fun row => if other = key ∧ isLive row then change row else row := by
  have happly := key_changeIf hchange fun row => Row.key row == key && isLive row
  simp only [updateLive]
  rw [find?_map table.lastId happly]
  cases hf : table.find? other with
  | none => simp
  | some row => simp [key_of_find? hf]

/-- The answer of an update tells whether its key is live. -/
theorem updateLive_answer :
    (table.updateLive key change).2 = (table.live? key).isSome := by
  rw [Bool.eq_iff_iff, live?_isSome_iff]
  simp [updateLive]

/-- A row after an update is the live one that was changed, or one that was left as it was. -/
theorem find?_updateLive_cases (hd : table.Distinct)
    (hchange : ∀ row, Row.key (change row) = Row.key row) {other : String} {row : ρ}
    (h : (table.updateLive key change).1.find? other = some row) :
    ∃ old, table.find? other = some old ∧
      ((other = key ∧ isLive old = true ∧ (table.updateLive key change).2 = true ∧
          row = change old) ∨
        (row = old ∧ (other = key → (table.updateLive key change).2 = false))) := by
  rw [find?_updateLive hchange] at h
  obtain ⟨old, hf, rfl⟩ := Option.map_eq_some_iff.mp h
  have hanswer (hsame : other = key) : (table.updateLive key change).2 = isLive old := by
    subst hsame
    rw [updateLive_answer, live?_eq_filter hd, hf]
    cases hl : isLive old <;> simp [hl]
  refine ⟨old, hf, ?_⟩
  split
  · next happlies =>
    exact .inl ⟨happlies.1, happlies.2, (hanswer happlies.1).trans happlies.2, rfl⟩
  · next hnot =>
    refine .inr ⟨rfl, fun hsame => ?_⟩
    rw [hanswer hsame]
    simpa [hsame] using hnot

theorem Distinct.updateLive (h : table.Distinct)
    (hchange : ∀ row, Row.key (change row) = Row.key row) :
    (table.updateLive key change).1.Distinct :=
  distinct_map (key_changeIf hchange fun row => Row.key row == key && isLive row) h

/-- After an update a row is an old one, or what became of the live one of the key. -/
theorem mem_updateLive {row : ρ} (h : row ∈ (table.updateLive key change).1.rows) :
    row ∈ table.rows ∨ ∃ old ∈ table.rows, Row.key old = key ∧ isLive old = true ∧
      change old = row := by
  obtain ⟨old, hold, hrow⟩ := List.mem_map.mp h
  split at hrow
  · next happlies =>
    rw [Bool.and_eq_true, beq_iff_eq] at happlies
    exact .inr ⟨old, hold, happlies.1, happlies.2, hrow⟩
  · exact .inl (hrow ▸ hold)

end UpdateLive

/-! ## The list of live rows -/

theorem mem_liveSorted {table : Table ρ} {row : ρ} :
    row ∈ table.liveSorted ↔ row ∈ table.rows ∧ isLive row = true := by
  simp [liveSorted]

/-- The live rows of a table with distinct keys are listed by strictly increasing keys. -/
theorem liveSorted_strict {table : Table ρ} (h : table.Distinct) :
    (table.liveSorted.map Row.key).Pairwise (· < ·) := by
  have hle : table.liveSorted.Pairwise fun a b => Row.key a ≤ Row.key b := by
    have hsorted : table.liveSorted.Pairwise fun a b => decide (Row.key a ≤ Row.key b) = true :=
      List.pairwise_mergeSort (fun a b c => by simpa using le_trans)
        (fun a b => by simpa using le_total _ _) _
    simpa using hsorted
  have hne : (table.liveSorted.map Row.key).Nodup := by
    have hperm := (List.mergeSort_perm (table.rows.filter isLive)
      fun a b => decide (Row.key a ≤ Row.key b)).map Row.key
    exact hperm.nodup_iff.mpr (h.sublist (List.filter_sublist.map _))
  rw [List.pairwise_map] at *
  rw [List.Nodup, List.pairwise_map] at hne
  exact (hle.and hne).imp fun ⟨hab, hneq⟩ => lt_of_le_of_ne hab hneq

end Table

end ChatWarden.Store
