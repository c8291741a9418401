import ChatWarden.NameMap
import Mathlib.Data.List.Induction

/-!
# What a map is made of

A map that is built from pairs has each name once, in the order in which the names first come up
in the pairs, and the value that the name comes up with last.

Results:
* `keys_ofPairs`, `lookup_ofPairs`: the names of a map and their values.
-/

namespace ChatWarden.NameMap

variable {κ υ : Type} [BEq κ] [LawfulBEq κ]

omit [LawfulBEq κ] in
theorem ofPairs_concat (pairs : List (κ × υ)) (pair : κ × υ) :
    ofPairs (pairs ++ [pair]) = set pair.1 pair.2 (ofPairs pairs) := by
  unfold ofPairs
  rw [List.foldl_append, List.foldl_cons, List.foldl_nil]

/-- A name keeps its place, and a new one is the last. -/
theorem keys_set (name : κ) (value : υ) (map : List (κ × υ)) :
    (set name value map).map Prod.fst =
      map.map Prod.fst ++ if name ∈ map.map Prod.fst then [] else [name] := by
  induction map with
  | nil => rfl
  | cons pair rest ih =>
    obtain ⟨key, old⟩ := pair
    rw [set]
    by_cases hkey : key = name
    · have hknown : name ∈ ((key, old) :: rest).map Prod.fst := by
        rw [hkey]
        exact List.mem_cons_self
      rw [if_pos (beq_iff_eq.mpr hkey), if_pos hknown, List.append_nil]
      rfl
    · have hother : name ∈ ((key, old) :: rest).map Prod.fst ↔ name ∈ rest.map Prod.fst := by
        rw [List.map_cons, List.mem_cons, or_iff_right (Ne.symm hkey)]
      rw [if_neg (by simpa using hkey), List.map_cons, ih]
      simp only [hother]
      rfl

theorem set_of_notMem {name : κ} {map : List (κ × υ)} (h : name ∉ map.map Prod.fst) (value : υ) :
    set name value map = map ++ [(name, value)] := by
  induction map with
  | nil => rfl
  | cons pair rest ih =>
    obtain ⟨key, old⟩ := pair
    rw [List.map_cons, List.mem_cons, not_or] at h
    rw [set, if_neg (by simpa using Ne.symm h.1), ih h.2]
    rfl

theorem eraseDups_concat (keys : List κ) (key : κ) :
    (keys ++ [key]).eraseDups = keys.eraseDups ++ if key ∈ keys then [] else [key] := by
  rw [List.eraseDups_append]
  by_cases hknown : key ∈ keys
  · simp [List.removeAll, hknown]
  · simp [List.removeAll, hknown, List.eraseDups_cons]

/-- The names of a map: those of the pairs, each where it first comes up. -/
theorem keys_ofPairs (pairs : List (κ × υ)) :
    (ofPairs pairs).map Prod.fst = (pairs.map Prod.fst).eraseDups := by
  induction pairs using List.reverseRecOn with
  | nil => rfl
  | append_singleton pairs pair ih =>
    rw [ofPairs_concat, keys_set, ih, List.map_append, List.map_singleton, eraseDups_concat]
    simp only [List.mem_eraseDups]

/-- The value of a name in a map: the one that it comes up with last. -/
theorem lookup_ofPairs (pairs : List (κ × υ)) (name : κ) :
    (ofPairs pairs).lookup name = pairs.reverse.lookup name := by
  induction pairs using List.reverseRecOn with
  | nil => rfl
  | append_singleton pairs pair ih =>
    rw [ofPairs_concat, lookup_set, ih, List.reverse_concat, List.lookup_cons]
    cases name == pair.1 <;> rfl

end ChatWarden.NameMap
