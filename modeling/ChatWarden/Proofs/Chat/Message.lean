import ChatWarden.Proofs.Chat.Fit

/-!
# Messages are safe and stable

A message is one line without blanks at its ends that is no longer than the limit. Texts of this
form are what fitting leaves alone, and with room for the mark of a cut it makes nothing else.

Results:
* `not_isBreak_of_mem_flatten`: a flattened text is one line.
* `IsMessage.cut`: the front of a message with the mark of a cut behind it is a message again.
* `fitChars_isMessage`: fitting makes messages, if the limit has room for the mark.
* `fitChars_of_isMessage`: fitting leaves messages as they are.
* `fitTo_safe_and_stable`: both for texts, and which limits are kept.
-/

namespace ChatWarden.Text

theorem stripEnd_prefix_self (cs : List Char) : stripEnd cs <+: cs := by
  obtain ⟨blanks, happend, -⟩ := stripEnd_append cs
  exact ⟨blanks, happend.symm⟩

/-- Trimming adds nothing. -/
theorem strip_subset (cs : List Char) : strip cs ⊆ cs :=
  List.Subset.trans (stripEnd_prefix_self _).subset (List.dropWhile_suffix _).subset

end ChatWarden.Text

namespace ChatWarden.Chat

variable {cs run : List Char} {c : Char} {limit : ℤ}

open Text (isBlank strip stripEnd Trimmed)

/-! ## Flattened texts -/

theorem not_isBreak_of_mem_flattenRun (hc : c ∈ flattenRun run) : isBreak c = false := by
  unfold flattenRun at hc
  split at hc
  · rw [List.mem_singleton.mp hc]
    decide
  · next hnone =>
    simp only [List.any_eq_true, not_exists, not_and, Bool.not_eq_true] at hnone
    exact hnone c hc

/-- A flattened text is one line. -/
theorem not_isBreak_of_mem_flatten (hc : c ∈ flatten cs) : isBreak c = false := by
  rw [flatten_eq] at hc
  obtain ⟨run, -, hrun⟩ := List.mem_flatMap.mp hc
  exact not_isBreak_of_mem_flattenRun hrun

/-! ## Messages -/

/-- The text is a message for a limit. -/
structure IsMessage (limit : ℤ) (cs : List Char) : Prop where
  /-- It is one line. -/
  oneLine : ∀ c ∈ cs, c ≠ '\r' ∧ c ≠ '\n'
  /-- It keeps the limit. -/
  short : (cs.length : ℤ) ≤ limit
  /-- It has no blanks at its ends. -/
  trimmed : Trimmed cs

theorem isBreak_eq_false_iff : isBreak c = false ↔ c ≠ '\r' ∧ c ≠ '\n' := by
  simp [isBreak]

/-- A flattened and trimmed text that keeps the limit is a message. -/
theorem isMessage_of_short (h : ((strip (flatten cs)).length : ℤ) ≤ limit) :
    IsMessage limit (strip (flatten cs)) where
  oneLine _ hc :=
    isBreak_eq_false_iff.mp (not_isBreak_of_mem_flatten (Text.strip_subset _ hc))
  short := h
  trimmed := Text.strip_trimmed _

/-- The front of a message without trailing blanks, with the mark of a cut behind it. -/
theorem IsMessage.cut {n : ℕ} {long : ℤ} (h : IsMessage long cs) (hn : (n : ℤ) + 3 ≤ limit) :
    IsMessage limit (stripEnd (cs.take n) ++ ellipsis) where
  oneLine c hc := by
    rcases List.mem_append.mp hc with hfront | hmark
    · exact h.oneLine c (List.take_subset _ _ ((Text.stripEnd_prefix_self _).subset hfront))
    · rw [List.eq_of_mem_replicate (n := 3) hmark]
      decide
  short := by
    have hfront : (stripEnd (cs.take n)).length ≤ n :=
      (Text.stripEnd_prefix_self _).length_le.trans (List.length_take_le ..)
    have hmark : ellipsis.length = 3 := rfl
    rw [List.length_append, hmark]
    omega
  trimmed := by
    refine ⟨fun c hc => ?_, fun c hc => ?_⟩
    · obtain ⟨tail, htail⟩ : stripEnd (cs.take n) <+: cs :=
        (Text.stripEnd_prefix_self _).trans (List.take_prefix ..)
      cases hfront : stripEnd (cs.take n) with
      | nil =>
        rw [hfront] at hc
        obtain rfl := Option.some.inj hc
        decide
      | cons d rest =>
        rw [hfront] at hc htail
        obtain rfl := Option.some.inj hc
        exact h.trimmed.first d (by rw [← htail]; rfl)
    · rw [List.getLast?_append] at hc
      obtain rfl := Option.some.inj hc
      decide

/-- Fitting with room for the mark: a text that is too long keeps its front. -/
theorem fitChars_eq (h : 3 ≤ limit) (cs : List Char) :
    fitChars limit cs = if limit < (strip (flatten cs)).length then
      stripEnd ((strip (flatten cs)).take (limit - 3).toNat) ++ ellipsis
    else strip (flatten cs) := by
  have hroom : 0 ≤ limit - (ellipsis.length : ℤ) := by
    have hmark : ellipsis.length = 3 := rfl
    omega
  rw [fitChars, takeSigned, if_pos hroom]
  rfl

/-- Fitting makes messages, if the limit has room for the mark. -/
theorem fitChars_isMessage (h : 3 ≤ limit) (cs : List Char) :
    IsMessage limit (fitChars limit cs) := by
  rw [fitChars_eq h]
  split
  · exact (isMessage_of_short (Int.le_refl _)).cut (by omega)
  · next hshort => exact isMessage_of_short (Int.not_lt.mp hshort)

/-- Fitting leaves messages as they are. -/
theorem fitChars_of_isMessage (h : IsMessage limit cs) : fitChars limit cs = cs := by
  have hflat : flatten cs = cs :=
    flatten_of_noBreak fun c hc => isBreak_eq_false_iff.mpr (h.oneLine c hc)
  have hshort : ¬ limit < (cs.length : ℤ) := Int.not_lt.mpr h.short
  rw [fitChars, hflat, Text.strip_of_trimmed h.trimmed, if_neg hshort]

/-- What is cut carries the whole mark. -/
theorem length_fitChars_of_long (h : limit < (strip (flatten cs)).length) :
    3 ≤ (fitChars limit cs).length := by
  have hmark : ellipsis.length = 3 := rfl
  rw [fitChars, if_pos h, List.length_append, hmark]
  omega

/-! ## Texts as messages -/

theorem toList_fitTo (limit : ℤ) (text : String) :
    (fitTo limit text).toList = if text.isEmpty then [] else fitChars limit text.toList := by
  unfold fitTo
  split
  · next hempty =>
    obtain rfl : text = "" := by simpa using hempty
    rfl
  · exact String.toList_ofList

theorem fitTo_isMessage (h : 3 ≤ limit) (text : String) :
    IsMessage limit (fitTo limit text).toList := by
  rw [toList_fitTo]
  split
  · exact ⟨by simp, by rw [List.length_nil]; omega, ⟨by simp, by simp⟩⟩
  · exact fitChars_isMessage h _

theorem fitTo_of_isMessage {text : String} (h : IsMessage limit text.toList) :
    fitTo limit text = text := by
  unfold fitTo
  split
  · rfl
  · rw [fitChars_of_isMessage h, String.ofList_toList]

/-- With room for the mark of a cut, every text becomes a message that stays as it is when it is
    fitted again; and only limits with room for the mark are kept by every text. -/
theorem fitTo_safe_and_stable (limit : ℤ) :
    (3 ≤ limit → ∀ text, IsMessage limit (fitTo limit text).toList ∧
      fitTo limit (fitTo limit text) = fitTo limit text) ∧
    ((∀ text, ((fitTo limit text).length : ℤ) ≤ limit) ↔ 3 ≤ limit) := by
  refine ⟨fun h text => ⟨fitTo_isMessage h text, fitTo_of_isMessage (fitTo_isMessage h text)⟩,
    fun hkept => ?_, fun h text => ?_⟩
  · -- a text of three letters is cut by a smaller limit, and the mark alone is as long
    by_contra hsmall
    have hlong : 3 ≤ (fitChars limit "xxx".toList).length := by
      refine length_fitChars_of_long ?_
      have hlen : (strip (flatten "xxx".toList)).length = 3 := by decide +kernel
      omega
    have hfit : (fitTo limit "xxx").length = (fitChars limit "xxx".toList).length := by
      rw [← String.length_toList, toList_fitTo]
      rfl
    have hle := hkept "xxx"
    omega
  · rw [← String.length_toList]
    exact (fitTo_isMessage h text).short

/-- A limit of five keeps one letter, since a cut behind a blank drops the blank. -/
theorem fitTo_safe_and_stable_of_five :
    (3 : ℤ) ≤ 5 ∧ fitTo 5 "a\r\n bcd e" = "a..." ∧
      IsMessage 5 (fitTo 5 "a\r\n bcd e").toList ∧
      fitTo 5 (fitTo 5 "a\r\n bcd e") = fitTo 5 "a\r\n bcd e" :=
  ⟨by decide, by decide +kernel, (fitTo_safe_and_stable 5).1 (by decide) _⟩

end ChatWarden.Chat
