import ChatWarden.Chat.Arguments
import ChatWarden.Chat.Name
import Mathlib.Data.List.TakeWhile

/-!
# Trimmed texts and names

Trimming a text drops nothing but blanks. The names of commands and users are told by their
characters.

Results:
* `strip_trimmed`: a trimmed text neither begins nor ends with a blank.
* `mem_strip`: trimming keeps every character that is not blank.
* `isCommandName_iff`, `isUserName_iff`: which names pass the checks.
-/

namespace ChatWarden.Text

variable {cs : List Char} {c : Char}

/-- The text neither begins nor ends with a blank. -/
structure Trimmed (cs : List Char) : Prop where
  first : ∀ c, cs.head? = some c → isBlank c = false
  last : ∀ c, cs.getLast? = some c → isBlank c = false

instance : DecidablePred Trimmed := fun cs =>
  decidable_of_iff ((cs.head?.all (!isBlank ·) && cs.getLast?.all (!isBlank ·)) = true) <| by
    rw [Bool.and_eq_true, Option.all_eq_true, Option.all_eq_true]
    simp only [Bool.not_eq_true']
    exact ⟨fun h => ⟨h.1, h.2⟩, fun h => ⟨h.first, h.last⟩⟩

/-- ASCII letters and digits stand between the zero and the small z. -/
theorem toNat_of_isAlphanum (h : c.isAlphanum = true) : 48 ≤ c.toNat ∧ c.toNat ≤ 122 := by
  have hrange : ((65 ≤ c.toNat ∧ c.toNat ≤ 90) ∨ (97 ≤ c.toNat ∧ c.toNat ≤ 122)) ∨
      (48 ≤ c.toNat ∧ c.toNat ≤ 57) := by
    rcases Bool.or_eq_true_iff.mp h with hletter | hdigit
    · rcases Bool.or_eq_true_iff.mp hletter with hupper | hlower
      · exact .inl (.inl (of_decide_eq_true hupper))
      · exact .inl (.inr ((Bool.and_eq_true_iff.mp hlower).imp of_decide_eq_true of_decide_eq_true))
    · exact .inr ((Bool.and_eq_true_iff.mp hdigit).imp of_decide_eq_true of_decide_eq_true)
  omega

/-! ## Trimming -/

/-- What is trimmed off the end of a text is blank. -/
theorem stripEnd_append (cs : List Char) :
    ∃ blanks, cs = stripEnd cs ++ blanks ∧ ∀ c ∈ blanks, isBlank c = true := by
  refine ⟨(cs.reverse.takeWhile isBlank).reverse, ?_, fun c hc => ?_⟩
  · rw [stripEnd, ← List.reverse_append, List.takeWhile_append_dropWhile, List.reverse_reverse]
  · exact List.mem_takeWhile_imp (List.mem_reverse.mp hc)

theorem mem_stripStart (hc : c ∈ cs) (hb : isBlank c = false) : c ∈ stripStart cs := by
  rw [← List.takeWhile_append_dropWhile (p := isBlank) (l := cs)] at hc
  rcases List.mem_append.mp hc with hc | hc
  · rw [List.mem_takeWhile_imp hc] at hb
    cases hb
  · exact hc

theorem mem_stripEnd (hc : c ∈ cs) (hb : isBlank c = false) : c ∈ stripEnd cs := by
  obtain ⟨blanks, happend, hblanks⟩ := stripEnd_append cs
  rw [happend] at hc
  rcases List.mem_append.mp hc with hc | hc
  · exact hc
  · rw [hblanks c hc] at hb
    cases hb

/-- Trimming keeps every character that is not blank. -/
theorem mem_strip (hc : c ∈ cs) (hb : isBlank c = false) : c ∈ strip cs :=
  mem_stripEnd (mem_stripStart hc hb) hb

/-- A trimmed text neither begins nor ends with a blank. -/
theorem strip_trimmed (cs : List Char) : Trimmed (strip cs) where
  first c hc := by
    obtain ⟨blanks, happend, -⟩ := stripEnd_append (stripStart cs)
    obtain ⟨rest, hrest⟩ := List.head?_eq_some_iff.mp hc
    have hstart : cs.dropWhile isBlank = c :: (rest ++ blanks) := by
      rw [← List.cons_append, ← hrest]
      exact happend
    exact head_dropWhile isBlank hstart
  last c hc := by
    rw [strip, stripEnd, List.getLast?_reverse] at hc
    obtain ⟨rest, hrest⟩ := List.head?_eq_some_iff.mp hc
    exact head_dropWhile isBlank hrest

/-- A trimmed text starts with its first word. -/
theorem stripStart_of_trimmed (h : Trimmed cs) : stripStart cs = cs := by
  cases cs with
  | nil => rfl
  | cons c rest => exact List.dropWhile_cons_of_neg (by simp [h.first c rfl])

end ChatWarden.Text

namespace ChatWarden.Chat

variable {name : String}

/-- The name of a custom command holds ASCII letters and digits, at least one. -/
theorem isCommandName_iff :
    isCommandName name = true ↔ name ≠ "" ∧ ∀ c ∈ name.toList, c.isAlphanum = true := by
  simp [isCommandName]

/-- A user name is a small letter and two to twenty-four small letters, digits and underscores. -/
theorem isUserName_iff :
    isUserName name = true ↔ ∃ first rest, name.toList = first :: rest ∧ first.isLower = true ∧
      2 ≤ rest.length ∧ rest.length ≤ 24 ∧
      ∀ c ∈ rest, c.isLower = true ∨ c.isDigit = true ∨ c = '_' := by
  rw [isUserName]
  split
  · next hnil => simp [hnil]
  · next first rest hcons => simp [hcons, isUserChar, and_assoc, or_assoc]

end ChatWarden.Chat
