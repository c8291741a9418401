import ChatWarden.Proofs.Chat.Arguments
import ChatWarden.Proofs.Text.Splitting
import ChatWarden.Proofs.Url.Percent
import ChatWarden.Url.Query
import Mathlib.Data.List.Basic

/-!
# Reading written queries back

A name or a value is written with plus signs for blanks and with escapes for everything but letters,
digits and four marks, so the marks that hold a query together are never part of one. Whatever the
pairs are, the query that is written for them is read as these pairs.

Results:
* `mem_encodePart` and `mem_encodePairs`: the characters of a written name or value, and of a
  written query.
* `decodePart_encodePart`: a name or a value is read back.
* `pairs_encodePairs`: a written query is read as the pairs it was written for.
* `filledPairs_eq`: leaving out what has nothing behind its equals sign is leaving out the pairs
  whose value is empty once it is read.
-/

namespace ChatWarden.Url

variable {c : Char} {cs : List Char}

/-! ## Names and values -/

theorem isFormSafe_hexDigit : ∀ n < 16, isFormSafe (hexDigit n) = true := by decide

theorem mem_escapeChar {d : Char} (hc : c ∈ escapeChar d) : c = '%' ∨ isFormSafe c = true := by
  obtain ⟨b, -, hb⟩ := List.mem_flatMap.mp hc
  have hlt : b.toNat < 256 := b.toNat_lt
  simp only [escapeByte, List.mem_cons, List.not_mem_nil, or_false] at hb
  rcases hb with rfl | rfl | rfl
  · exact .inl rfl
  · exact .inr (isFormSafe_hexDigit _ (by omega))
  · exact .inr (isFormSafe_hexDigit _ (by omega))

/-- What is written of a name or a value are plus signs, escapes and safe characters. -/
theorem mem_encodePart (hc : c ∈ encodePart cs) : c = '+' ∨ c = '%' ∨ isFormSafe c = true := by
  obtain ⟨d, -, hd⟩ := List.mem_flatMap.mp hc
  split at hd
  · exact .inl (List.mem_singleton.mp hd)
  · split at hd
    · next hsafe =>
      rw [List.mem_singleton.mp hd]
      exact .inr (.inr hsafe)
    · exact .inr (mem_escapeChar hd)

/-- A mark that holds queries together is no part of a written name or value. -/
theorem notMem_encodePart (hplus : c ≠ '+') (hpercent : c ≠ '%') (hsafe : isFormSafe c = false)
    (cs : List Char) : c ∉ encodePart cs := by
  intro hc
  rcases mem_encodePart hc with h | h | h
  · exact hplus h
  · exact hpercent h
  · rw [hsafe] at h
    cases h

theorem isVisible_of_isFormSafe (h : isFormSafe c = true) : isVisible c = true := by
  simp only [isFormSafe, Bool.or_eq_true, beq_iff_eq] at h
  rcases h with (((h | rfl) | rfl) | rfl) | rfl
  · have hrange := Text.toNat_of_isAlphanum h
    simp only [isVisible, Bool.and_eq_true, decide_eq_true_eq]
    omega
  all_goals decide

/-- The characters that are read as they are written, once plus signs are blanks. -/
def isFormKept (c : Char) : Bool := c == ' ' || isFormSafe c

theorem isAscii_of_isFormKept (h : isFormKept c = true) : isAscii c = true := by
  rcases Bool.or_eq_true_iff.mp h with h | h
  · rw [beq_iff_eq.mp h]
    decide
  · have hvisible := isVisible_of_isFormSafe h
    simp only [isVisible, Bool.and_eq_true, decide_eq_true_eq] at hvisible
    exact decide_eq_true (by omega)

/-- With its plus signs read, a written name or value is escaped but for blanks and safe
    characters. -/
theorem map_encodePart (cs : List Char) :
    (encodePart cs).map (fun c => if c == '+' then ' ' else c) = encodeOutside isFormKept cs := by
  have hkept (front : List Char) (h : '+' ∉ front) :
      front.map (fun c => if c == '+' then ' ' else c) = front := by
    have hid : ∀ c ∈ front, (if c == '+' then ' ' else c) = id c := by
      intro c hc
      refine if_neg fun hplus => h ?_
      rwa [← beq_iff_eq.mp hplus]
    rw [List.map_congr_left hid, List.map_id]
  unfold encodePart encodeOutside
  rw [List.map_flatMap]
  refine List.flatMap_congr fun c _ => ?_
  unfold isFormKept
  by_cases hblank : c = ' '
  · rw [hblank]
    rfl
  · rw [beq_eq_false_iff_ne.mpr hblank, if_neg Bool.false_ne_true, Bool.false_or]
    split
    · next hsafe =>
      refine hkept [c] fun hmem => ?_
      rw [← List.mem_singleton.mp hmem] at hsafe
      exact absurd hsafe (by decide)
    · refine hkept (escapeChar c) fun hmem => ?_
      rcases mem_escapeChar hmem with h | h
      · exact absurd h (by decide)
      · exact absurd h (by decide)

/-- A written name or value is read back. -/
theorem decodePart_encodePart (cs : List Char) : decodePart (encodePart cs) = cs := by
  rw [decodePart, map_encodePart]
  apply decode_encodeOutside
  · intro d hd
    exact isAscii_of_isFormKept hd
  · rintro c - hc rfl
    exact absurd hc (by decide)

/-- Nothing but the empty part is read as an empty name or value. -/
theorem isEmpty_decodePart (cs : List Char) : (decodePart cs).isEmpty = cs.isEmpty := by
  rw [Bool.eq_iff_iff, List.isEmpty_iff, List.isEmpty_iff, decodePart, decode_eq_nil_iff,
    List.map_eq_nil_iff]

/-! ## Queries -/

/-- A pair as it is read. -/
def readPair (part : List Char) : Pair :=
  (decodePart (splitPair part).1, decodePart (splitPair part).2)

/-- Only ampersands and equals signs are written between names and values. -/
theorem notMem_encodePair (hplus : c ≠ '+') (hpercent : c ≠ '%') (hequals : c ≠ '=')
    (hsafe : isFormSafe c = false) (pair : Pair) : c ∉ encodePair pair := by
  rw [encodePair, List.mem_append, List.mem_cons, not_or, not_or]
  exact ⟨notMem_encodePart hplus hpercent hsafe _, hequals,
    notMem_encodePart hplus hpercent hsafe _⟩

/-- What is written of a query are the signs that hold it together and its names and values. -/
theorem mem_encodePairs {list : List Pair} (hc : c ∈ encodePairs list) :
    (c = '&' ∨ c = '=') ∨ c = '+' ∨ c = '%' ∨ isFormSafe c = true := by
  rcases Text.mem_joinWith hc with hmark | ⟨part, hpart, hc⟩
  · exact .inl (.inl (List.mem_singleton.mp hmark))
  · obtain ⟨pair, -, rfl⟩ := List.mem_map.mp hpart
    rcases List.mem_append.mp hc with hname | hc
    · exact .inr (mem_encodePart hname)
    · rcases List.mem_cons.mp hc with hequals | hvalue
      · exact .inl (.inr hequals)
      · exact .inr (mem_encodePart hvalue)

theorem hash_notMem_encodePairs (list : List Pair) : '#' ∉ encodePairs list := by
  intro hc
  have hsafe : isFormSafe '#' = false := by decide
  simpa [hsafe] using mem_encodePairs hc

/-- A written query holds visible ASCII characters only. -/
theorem isVisible_of_mem_encodePairs {list : List Pair} (hc : c ∈ encodePairs list) :
    isVisible c = true := by
  rcases mem_encodePairs hc with (rfl | rfl) | rfl | rfl | hsafe
  · decide
  · decide
  · decide
  · decide
  · exact isVisible_of_isFormSafe hsafe

theorem readPair_encodePair (pair : Pair) : readPair (encodePair pair) = pair := by
  have hname : '=' ∉ encodePart pair.1 :=
    notMem_encodePart (by decide) (by decide) (by decide) _
  have hsplit : splitPair (encodePair pair) = (encodePart pair.1, encodePart pair.2) := by
    rw [splitPair, encodePair, Text.cutAt?_append hname, Option.getD_some]
  rw [readPair, hsplit, decodePart_encodePart, decodePart_encodePart]

theorem pairs_eq (query : List Char) :
    pairs query = ((Text.splitAt '&' query).filter (!·.isEmpty)).map readPair := rfl

/-- A written query is read as the pairs it was written for. -/
theorem pairs_encodePairs (list : List Pair) : pairs (encodePairs list) = list := by
  cases list with
  | nil => rfl
  | cons pair rest =>
    have hparts : ∀ part ∈ (pair :: rest).map encodePair, '&' ∉ part := by
      intro part hpart
      obtain ⟨other, -, rfl⟩ := List.mem_map.mp hpart
      exact notMem_encodePair (by decide) (by decide) (by decide) (by decide) other
    have hsplit : Text.splitAt '&' (encodePairs (pair :: rest)) = (pair :: rest).map encodePair :=
      Text.splitAt_joinWith (List.cons_ne_nil _ _) hparts
    have hfull : ∀ part ∈ (pair :: rest).map encodePair, (!part.isEmpty) = true := by
      intro part hpart
      obtain ⟨other, -, rfl⟩ := List.mem_map.mp hpart
      simp [encodePair]
    have hread : ∀ other ∈ pair :: rest, (readPair ∘ encodePair) other = id other :=
      fun other _ => readPair_encodePair other
    rw [pairs_eq, hsplit, List.filter_eq_self.mpr hfull, List.map_map, List.map_congr_left hread,
      List.map_id]

/-- The pairs with something behind their equals sign are those whose value is not empty. -/
theorem filledPairs_eq (query : List Char) :
    filledPairs query = (pairs query).filter (!·.2.isEmpty) := by
  have hfilled : filledPairs query = ((Text.splitAt '&' query).filter fun part =>
      !(splitPair part).2.isEmpty).map readPair := rfl
  have hsame : ∀ part ∈ Text.splitAt '&' query,
      (!(splitPair part).2.isEmpty) = ((!(readPair part).2.isEmpty) && !part.isEmpty) := by
    intro part _
    rw [readPair, isEmpty_decodePart]
    cases part with
    | nil => rfl
    | cons c rest => rw [List.isEmpty_cons, Bool.not_false, Bool.and_true]
  rw [hfilled, pairs_eq, List.filter_map, List.filter_filter, List.filter_congr hsame]
  rfl

end ChatWarden.Url
