import ChatWarden.Text.Split
import Mathlib.Data.List.TakeWhile

/-!
# Cutting and joining

Cutting a text at every place of a character and joining the parts around that character undo each
other, as long as no part holds the character.

Results:
* `cutAt?_eq_none_iff`, `cutAt?_append`: where a text is cut in two.
* `joinWith_splitAt`: the parts of a text make up the text.
* `splitAt_joinWith`: joined parts are found again.
* `splitOn_intercalate`: so are texts that were joined by a longer separator.
-/

namespace ChatWarden.Text

variable {mark c : Char} {cs front back part : List Char} {parts : List (List Char)}

/-! ## Two sides -/

/-- All characters of a text without the mark differ from it. -/
theorem forall_bne_mark (h : mark ∉ cs) : ∀ d ∈ cs, (d != mark) = true := by
  intro d hd
  rw [bne_iff_ne]
  rintro rfl
  exact h hd

theorem cutAt?_eq_none_iff : cutAt? mark cs = none ↔ mark ∉ cs := by
  have hdrop : cs.dropWhile (· != mark) = [] ↔ mark ∉ cs := by
    rw [List.dropWhile_eq_nil_iff]
    constructor
    · intro h hmem
      simpa using h mark hmem
    · exact forall_bne_mark
  rw [← hdrop, cutAt?]
  cases cs.dropWhile (· != mark) <;> simp

theorem cutAt?_append (h : mark ∉ front) (back : List Char) :
    cutAt? mark (front ++ mark :: back) = some (front, back) := by
  have hfront := forall_bne_mark h
  have hmark : ¬(mark != mark) = true := by simp
  have htake : (front ++ mark :: back).takeWhile (· != mark) = front := by
    rw [List.takeWhile_append_of_pos hfront, List.takeWhile_cons, if_neg hmark, List.append_nil]
  have hdrop : (front ++ mark :: back).dropWhile (· != mark) = mark :: back := by
    rw [List.dropWhile_append_of_pos hfront, List.dropWhile_cons, if_neg hmark]
  rw [cutAt?, hdrop, htake]

/-- The first place of a character. -/
theorem exists_cutAt? (h : mark ∈ cs) :
    ∃ front back, cs = front ++ mark :: back ∧ mark ∉ front ∧
      cutAt? mark cs = some (front, back) := by
  obtain ⟨front, back, rfl, hfront⟩ := List.eq_append_cons_of_mem h
  exact ⟨front, back, rfl, hfront, cutAt?_append hfront back⟩

/-! ## All parts -/

theorem splitAt_mark (mark : Char) (rest : List Char) :
    splitAt mark (mark :: rest) = [] :: splitAt mark rest := by
  rw [splitAt, if_pos (beq_self_eq_true mark)]

theorem splitAt_ne_nil (mark : Char) (cs : List Char) : splitAt mark cs ≠ [] := by
  fun_cases splitAt mark cs <;> exact List.cons_ne_nil _ _

/-- Another character belongs to the first part of what follows it. -/
theorem splitAt_cons (h : c ≠ mark) {rest : List Char}
    (hrest : splitAt mark rest = part :: parts) :
    splitAt mark (c :: rest) = (c :: part) :: parts := by
  rw [splitAt, if_neg (by simpa using h), hrest]

theorem exists_splitAt_cons (h : c ≠ mark) (rest : List Char) :
    ∃ part parts, splitAt mark rest = part :: parts ∧
      splitAt mark (c :: rest) = (c :: part) :: parts := by
  obtain ⟨part, parts, hrest⟩ := List.exists_cons_of_ne_nil (splitAt_ne_nil mark rest)
  exact ⟨part, parts, hrest, splitAt_cons h hrest⟩

/-- No part holds the character at which the text was cut. -/
theorem notMem_of_mem_splitAt (h : part ∈ splitAt mark cs) : mark ∉ part := by
  induction cs generalizing part with
  | nil =>
    rw [List.mem_singleton.mp h]
    exact List.not_mem_nil
  | cons c rest ih =>
    by_cases hc : c = mark
    · rw [hc, splitAt_mark] at h
      rcases List.mem_cons.mp h with rfl | hlater
      · exact List.not_mem_nil
      · exact ih hlater
    · obtain ⟨first, others, hrest, hwhole⟩ := exists_splitAt_cons hc rest
      rw [hwhole] at h
      rw [hrest] at ih
      rcases List.mem_cons.mp h with rfl | hlater
      · rw [List.mem_cons, not_or]
        exact ⟨Ne.symm hc, ih List.mem_cons_self⟩
      · exact ih (List.mem_cons_of_mem _ hlater)

theorem joinWith_cons (separator part : List Char) (h : parts ≠ []) :
    joinWith separator (part :: parts) = part ++ separator ++ joinWith separator parts := by
  obtain ⟨next, others, rfl⟩ := List.exists_cons_of_ne_nil h
  rfl

theorem joinWith_cons_cons (separator : List Char) (c : Char) (part : List Char)
    (parts : List (List Char)) :
    joinWith separator ((c :: part) :: parts) = c :: joinWith separator (part :: parts) := by
  cases parts <;> rfl

/-- A character of joined texts is one of a text or of the separator. -/
theorem mem_joinWith {separator : List Char} (hc : c ∈ joinWith separator parts) :
    c ∈ separator ∨ ∃ part ∈ parts, c ∈ part := by
  fun_induction joinWith separator parts with
  | case1 => cases hc
  | case2 part => exact .inr ⟨part, by simp, hc⟩
  | case3 part parts _ ih =>
    rcases List.mem_append.mp hc with hc | hc
    · rcases List.mem_append.mp hc with hc | hc
      · exact .inr ⟨part, by simp, hc⟩
      · exact .inl hc
    · rcases ih hc with hmark | ⟨other, hother, hc⟩
      · exact .inl hmark
      · exact .inr ⟨other, by simp [hother], hc⟩

/-- A character of a part is one of the joined text. -/
theorem mem_joinWith_of_mem {separator : List Char} (hpart : part ∈ parts) (hc : c ∈ part) :
    c ∈ joinWith separator parts := by
  induction parts with
  | nil => cases hpart
  | cons first others ih =>
    rcases List.mem_cons.mp hpart with rfl | hlater
    · cases others with
      | nil => exact hc
      | cons _ _ => exact List.mem_append_left _ (List.mem_append_left _ hc)
    · rw [joinWith_cons _ _ (List.ne_nil_of_mem hlater)]
      exact List.mem_append_right _ (ih hlater)

/-- The parts of a text make up the text. -/
theorem joinWith_splitAt (mark : Char) (cs : List Char) :
    joinWith [mark] (splitAt mark cs) = cs := by
  induction cs with
  | nil => rfl
  | cons c rest ih =>
    by_cases hc : c = mark
    · rw [hc, splitAt_mark, joinWith_cons _ _ (splitAt_ne_nil mark rest), ih, List.nil_append,
        List.singleton_append]
    · obtain ⟨part, parts, hrest, hwhole⟩ := exists_splitAt_cons hc rest
      rw [hwhole, joinWith_cons_cons, ← hrest, ih]

theorem splitAt_of_notMem (h : mark ∉ cs) : splitAt mark cs = [cs] := by
  induction cs with
  | nil => rfl
  | cons c rest ih =>
    rw [List.mem_cons, not_or] at h
    exact splitAt_cons (Ne.symm h.1) (ih h.2)

theorem splitAt_append (h : mark ∉ front) (rest : List Char) :
    splitAt mark (front ++ mark :: rest) = front :: splitAt mark rest := by
  induction front with
  | nil => exact splitAt_mark mark rest
  | cons c more ih =>
    rw [List.mem_cons, not_or] at h
    exact splitAt_cons (Ne.symm h.1) (ih h.2)

/-- Joined parts are found again. -/
theorem splitAt_joinWith (hne : parts ≠ []) (h : ∀ part ∈ parts, mark ∉ part) :
    splitAt mark (joinWith [mark] parts) = parts := by
  induction parts with
  | nil => exact absurd rfl hne
  | cons part others ih =>
    obtain ⟨hpart, hothers⟩ := List.forall_mem_cons.mp h
    by_cases hlast : others = []
    · rw [hlast]
      exact splitAt_of_notMem hpart
    · rw [joinWith_cons _ _ hlast, List.append_assoc, List.singleton_append, splitAt_append hpart,
        ih hlast hothers]

/-! ## Longer separators -/

/-- The parts of a text between the places of a separator, which are looked for from the left. The
    first `skipped` characters belong to a place that was found. -/
def splitOnFrom (separator : List Char) : (skipped : Nat) → List Char → List (List Char)
  | _, [] => [[]]
  | skipped + 1, _ :: rest => splitOnFrom separator skipped rest
  | 0, c :: rest =>
    if separator.isPrefixOf (c :: rest) then
      [] :: splitOnFrom separator (separator.length - 1) rest
    else match splitOnFrom separator 0 rest with
      | [] => [[c]]
      | part :: parts => (c :: part) :: parts

/-- The parts of a text between the places of a separator, which are looked for from the left. -/
def splitOn (separator text : String) : List String :=
  (splitOnFrom separator.toList 0 text.toList).map .ofList

section Separator

variable {more rest : List Char}

theorem splitOnFrom_length (separator front rest : List Char) :
    splitOnFrom separator front.length (front ++ rest) = splitOnFrom separator 0 rest := by
  induction front with
  | nil => rfl
  | cons c front ih => exact ih

/-- A place of the separator ends a part. -/
theorem splitOnFrom_separator (mark : Char) (more rest : List Char) :
    splitOnFrom (mark :: more) 0 (mark :: more ++ rest) =
      [] :: splitOnFrom (mark :: more) 0 rest := by
  have hfound : (mark :: more).isPrefixOf (mark :: (more ++ rest)) = true :=
    List.isPrefixOf_iff_prefix.mpr (List.prefix_append (mark :: more) rest)
  rw [List.cons_append, splitOnFrom, if_pos hfound]
  exact congrArg ([] :: ·) (splitOnFrom_length (mark :: more) more rest)

/-- A character that cannot begin a separator belongs to the first part of what follows it. -/
theorem splitOnFrom_cons (h : c ≠ mark) (hrest : splitOnFrom (mark :: more) 0 rest = part :: parts) :
    splitOnFrom (mark :: more) 0 (c :: rest) = (c :: part) :: parts := by
  have hother : ¬(mark :: more).isPrefixOf (c :: rest) = true := by
    rw [List.isPrefixOf_iff_prefix, List.cons_prefix_cons]
    exact fun ⟨hsame, _⟩ => h hsame.symm
  rw [splitOnFrom, if_neg hother, hrest]

theorem splitOnFrom_of_notMem (h : mark ∉ cs) : splitOnFrom (mark :: more) 0 cs = [cs] := by
  induction cs with
  | nil => rfl
  | cons c rest ih =>
    rw [List.mem_cons, not_or] at h
    exact splitOnFrom_cons (Ne.symm h.1) (ih h.2)

theorem splitOnFrom_append (h : mark ∉ front) (more rest : List Char) :
    splitOnFrom (mark :: more) 0 (front ++ (mark :: more ++ rest)) =
      front :: splitOnFrom (mark :: more) 0 rest := by
  induction front with
  | nil => exact splitOnFrom_separator mark more rest
  | cons c others ih =>
    rw [List.mem_cons, not_or] at h
    exact splitOnFrom_cons (Ne.symm h.1) (ih h.2)

theorem splitOnFrom_intercalate (hne : parts ≠ []) (h : ∀ part ∈ parts, mark ∉ part) :
    splitOnFrom (mark :: more) 0 ((mark :: more).intercalate parts) = parts := by
  induction parts with
  | nil => exact absurd rfl hne
  | cons part others ih =>
    obtain ⟨hpart, hothers⟩ := List.forall_mem_cons.mp h
    by_cases hlast : others = []
    · rw [hlast, List.intercalate_singleton]
      exact splitOnFrom_of_notMem hpart
    · rw [List.intercalate_cons_of_ne_nil hlast, List.append_assoc, splitOnFrom_append hpart,
        ih hlast hothers]

end Separator

/-- Texts that do not hold the first character of the separator are found again. -/
theorem splitOn_intercalate {separator : String} {texts : List String} {more : List Char}
    (hseparator : separator.toList = mark :: more) (hne : texts ≠ [])
    (h : ∀ text ∈ texts, mark ∉ text.toList) :
    splitOn separator (separator.intercalate texts) = texts := by
  have hmap : texts.map String.toList ≠ [] := by simpa using hne
  have hparts : ∀ part ∈ texts.map String.toList, mark ∉ part := List.forall_mem_map.mpr h
  rw [splitOn, String.toList_intercalate, hseparator, splitOnFrom_intercalate hmap hparts,
    List.map_map]
  refine (List.map_congr_left fun text _ => ?_).trans (List.map_id texts)
  exact String.ofList_toList

/-- Otherwise they need not be found. -/
example : splitOn ", " (", ".intercalate ["a", "", "b,", " c"]) = ["a", "", "b,", " c"] ∧
    splitOn ", " (", ".intercalate ["a, b", "c,"]) = ["a", "b", "c,"] := by decide +kernel

end ChatWarden.Text
