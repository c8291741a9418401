import ChatWarden.Proofs.Chat.Calls
import ChatWarden.Proofs.Chat.Message

/-!
# What of a text is shown

A message is the flattened text or, if that is too long, the front of it with the mark of a cut.
Neither flattening nor trimming drops anything but blanks, so what is shown in front of the mark
begins like the text, blanks apart, and without a cut everything is shown.

Results:
* `visible_strip` and `visible_stripEnd_prefix`: what trimming leaves to be seen.
* `fitTo_keeps_text`: the message of a text, told by its runs, and what is shown of the text.
-/

namespace ChatWarden.Text

variable {cs : List Char}

/-! ## Trimming -/

theorem visible_eq_nil (h : ∀ c ∈ cs, isBlank c = true) : visible cs = [] := by
  simpa [visible] using h

/-- Trimming drops nothing that can be seen. -/
theorem visible_strip (cs : List Char) : visible (strip cs) = visible cs := by
  obtain ⟨front, back, happend, hfront, hback⟩ := exists_parts cs
  have hparts : visible (front ++ strip cs ++ back) =
      visible front ++ visible (strip cs) ++ visible back := by
    simp only [visible, List.filter_append]
  rw [← happend, visible_eq_nil hfront, visible_eq_nil hback, List.nil_append,
    List.append_nil] at hparts
  exact hparts.symm

/-- The front of a text shows the first of what the text shows. -/
theorem visible_stripEnd_prefix (n : ℕ) (cs : List Char) :
    visible (stripEnd (cs.take n)) <+: visible cs :=
  ((stripEnd_prefix_self _).trans (List.take_prefix n cs)).filter _

end ChatWarden.Text

namespace ChatWarden.Chat

open Text (isBlank strip stripEnd runs visible)

variable {limit : ℤ}

/-! ## Messages -/

/-- The empty text is no exception. -/
theorem toList_fitTo_of_room (h : 3 ≤ limit) (text : String) :
    (fitTo limit text).toList = fitChars limit text.toList := by
  rw [toList_fitTo]
  split
  · next hempty =>
    obtain rfl : text = "" := by simpa using hempty
    exact ((fitChars_eq_nil_iff (by omega)).mpr (by simp)).symm
  · rfl

/-- What is shown of a text. Let `flat` be the text with one blank for every maximal run of blanks
    that holds a break, and without the blanks at its ends. If it keeps the limit it is the message,
    and everything of the text is shown but blanks. Otherwise the message is the front of `flat`
    with the mark of a cut behind it, and what it shows is how the text begins, but for blanks. -/
theorem fitTo_keeps_text (h : 3 ≤ limit) (text : String) :
    let flat := strip ((runs text.toList).flatMap flattenRun)
    let front := stripEnd (flat.take (limit - 3).toNat)
    ((flat.length : ℤ) ≤ limit →
      (fitTo limit text).toList = flat ∧ visible flat = visible text.toList) ∧
    (limit < flat.length →
      (fitTo limit text).toList = front ++ ellipsis ∧ visible front <+: visible text.toList) := by
  intro flat front
  have hflat : flat = strip (flatten text.toList) := congrArg strip (flatten_eq _).symm
  have hvisible : visible flat = visible text.toList := by
    rw [hflat, Text.visible_strip, visible_flatten]
  have hmessage : (fitTo limit text).toList =
      if limit < flat.length then front ++ ellipsis else flat := by
    rw [toList_fitTo_of_room h, fitChars_eq h, ← hflat]
  constructor
  · intro hshort
    rw [hmessage, if_neg (Int.not_lt.mpr hshort)]
    exact ⟨rfl, hvisible⟩
  · intro hlong
    rw [hmessage, if_pos hlong, ← hvisible]
    exact ⟨rfl, Text.visible_stripEnd_prefix _ flat⟩

/-- A run of a blank, two breaks and a tab becomes one blank. The cut falls into a run of two
    blanks, and the one in front of it is dropped. -/
theorem fitTo_keeps_text_of_eight :
    (3 : ℤ) ≤ 8 ∧ (8 : ℤ) < (strip ((runs "a \r\n\tbc  def".toList).flatMap flattenRun)).length ∧
      fitTo 8 "a \r\n\tbc  def" = "a bc..." ∧
      visible "a bc".toList <+: visible "a \r\n\tbc  def".toList := by
  have hlong : (8 : ℤ) < (strip ((runs "a \r\n\tbc  def".toList).flatMap flattenRun)).length := by
    decide +kernel
  have hfront : stripEnd ((strip ((runs "a \r\n\tbc  def".toList).flatMap flattenRun)).take
      ((8 : ℤ) - 3).toNat) = "a bc".toList := by decide +kernel
  obtain ⟨hmessage, hshown⟩ :=
    (fitTo_keeps_text (by decide : (3 : ℤ) ≤ 8) "a \r\n\tbc  def").2 hlong
  rw [hfront] at hmessage hshown
  exact ⟨by decide, hlong, String.toList_inj.mp hmessage, hshown⟩

end ChatWarden.Chat
