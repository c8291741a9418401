/-!
# Maps that keep the order of their names

A map from names to values is a list of pairs. A name keeps the place where it first came up and
has the value that it was given last.

Results:
* `NameMap.set` gives a name its value; `lookup_set` says that it changes no other name.
-/

namespace ChatWarden.NameMap

/-- The pairs with a name set to a value: in its old place if the name has one, else last. -/
def set {κ υ : Type} [BEq κ] (name : κ) (value : υ) : List (κ × υ) → List (κ × υ)
  | [] => [(name, value)]
  | (key, old) :: rest =>
    if key == name then (key, value) :: rest else (key, old) :: set name value rest

/-- The map that a list of pairs builds, the first pair first. -/
def ofPairs {κ υ : Type} [BEq κ] (pairs : List (κ × υ)) : List (κ × υ) :=
  pairs.foldl (fun map pair => set pair.1 pair.2 map) []

theorem lookup_set {κ υ : Type} [BEq κ] [LawfulBEq κ] (name other : κ) (value : υ)
    (map : List (κ × υ)) :
    (set name value map).lookup other = if other == name then some value else map.lookup other := by
  induction map with
  | nil =>
    simp only [set, List.lookup_cons, List.lookup_nil]
    cases other == name <;> rfl
  | cons pair rest ih =>
    obtain ⟨key, old⟩ := pair
    by_cases hk : key = name
    · subst hk
      simp only [set, beq_self_eq_true, if_true, List.lookup_cons]
      cases other == key <;> rfl
    · have hkey : (key == name) = false := by simpa using hk
      simp only [set, hkey, Bool.false_eq_true, if_false, List.lookup_cons, ih]
      by_cases h : other = key
      · subst h
        simp [hk]
      · have hother : (other == key) = false := by simpa using h
        simp [hother]

end ChatWarden.NameMap
