import ChatWarden.Proofs.Chat.Arguments
import ChatWarden.Proofs.Chat.Flattening

/-!
# What a message keeps of a text

Flattening replaces blanks by blanks and keeps everything else, so what becomes of a text in a
message can be told from the text itself.

Results:
* `strip_eq_nil_iff` and `strip_of_trimmed`: what trimming makes of blank and of trimmed texts.
* `mem_flatten_iff`: flattening keeps every character that is not blank, and adds none.
* `flatten_of_noBreak`: a text without line breaks stays as it is.
* `fit_eq_empty_iff`: the message of a text is empty just if the text is blank.
* `fit_of_short`: the message of a short text on one line is the text without blanks at its ends.
-/

namespace ChatWarden.Text

variable {cs : List Char}

/-! ## Blank and trimmed texts -/

/-- Trimming leaves nothing just if there is nothing but blanks. -/
theorem strip_eq_nil_iff : strip cs = [] ↔ ∀ c ∈ cs, isBlank c = true := by
  constructor
  · intro hnil c hc
    by_contra hb
    have hmem : c ∈ strip cs := mem_strip hc (by simpa using hb)
    simp [hnil] at hmem
  · intro hblank
    have hstart : stripStart cs = [] := List.dropWhile_eq_nil_iff.mpr hblank
    rw [strip, hstart]
    rfl

/-- Nothing is trimmed off a trimmed text. -/
theorem strip_of_trimmed (h : Trimmed cs) : strip cs = cs := by
  rw [strip, stripStart_of_trimmed h, stripEnd]
  cases hrev : cs.reverse with
  | nil =>
    rw [List.reverse_eq_nil_iff.mp hrev]
    rfl
  | cons c rest =>
    have hlast : cs.getLast? = some c := by rw [← List.head?_reverse, hrev, List.head?_cons]
    rw [List.dropWhile_cons_of_neg (by simp [h.last c hlast]), ← hrev, List.reverse_reverse]

theorem stripped_trimmed (text : String) : Trimmed (stripped text).toList := by
  rw [stripped, String.toList_ofList]
  exact strip_trimmed text.toList

/-- Trimming a trimmed text changes nothing. -/
theorem stripped_stripped (text : String) : stripped (stripped text) = stripped text := by
  rw [stripped, stripped, String.toList_ofList, strip_of_trimmed (strip_trimmed text.toList)]

/-- The text is nothing but blanks, if anything. -/
def IsBlankText (text : String) : Prop := ∀ c ∈ text.toList, isBlank c = true

instance (text : String) : Decidable (IsBlankText text) :=
  decidable_of_iff (text.toList.all isBlank = true) List.all_eq_true

@[simp] theorem isBlankText_ofList : IsBlankText (.ofList cs) ↔ ∀ c ∈ cs, isBlank c = true := by
  rw [IsBlankText, String.toList_ofList]

theorem stripped_eq_empty_iff {text : String} : stripped text = "" ↔ IsBlankText text := by
  rw [stripped, IsBlankText, ← strip_eq_nil_iff]
  constructor
  · intro h
    simpa using congrArg String.toList h
  · intro h
    rw [h]

end ChatWarden.Text

namespace ChatWarden.Chat

variable {cs : List Char} {c : Char}

open Text (isBlank strip runs visible Trimmed IsBlankText)

/-! ## Flattening -/

/-- Flattening keeps every character that is not blank, and adds none. -/
theorem mem_flatten_iff (hb : isBlank c = false) : c ∈ flatten cs ↔ c ∈ cs := by
  have hmem (cs : List Char) : c ∈ visible cs ↔ c ∈ cs := by simp [visible, hb]
  rw [← hmem, visible_flatten, hmem]

/-- A text without line breaks stays as it is. -/
theorem flatten_of_noBreak (h : ∀ c ∈ cs, isBreak c = false) : flatten cs = cs := by
  have happend : (runs cs).flatten = cs := List.flatten_splitBy _ cs
  have hkept : ∀ run ∈ runs cs, flattenRun run = id run := fun run hrun =>
    flattenRun_of_noBreak fun d hd => h d (happend ▸ List.mem_flatten_of_mem hrun hd)
  rw [flatten_eq, List.flatMap_congr hkept, List.flatMap_id, happend]

/-! ## Fitting -/

/-- With room for something, a message is empty just if its text is blank. -/
theorem fitChars_eq_nil_iff {limit : Int} (hl : 0 ≤ limit) :
    fitChars limit cs = [] ↔ ∀ c ∈ cs, isBlank c = true := by
  have hflat : strip (flatten cs) = [] ↔ ∀ c ∈ cs, isBlank c = true := by
    rw [Text.strip_eq_nil_iff]
    constructor
    · intro h c hc
      by_contra hb
      have hb : isBlank c = false := by simpa using hb
      rw [h c ((mem_flatten_iff hb).mpr hc)] at hb
      cases hb
    · intro h c hc
      by_contra hb
      have hb : isBlank c = false := by simpa using hb
      rw [h c ((mem_flatten_iff hb).mp hc)] at hb
      cases hb
  rw [← hflat]
  unfold fitChars
  dsimp only
  split
  · next hlong =>
    -- a text that is cut is not empty, and neither is what marks it
    constructor
    · intro h
      have hmark : ellipsis = [] := (List.append_eq_nil_iff.mp h).2
      cases hmark
    · intro h
      rw [h, List.length_nil] at hlong
      omega
  · exact Iff.rfl

/-- The message of a text is empty just if the text is blank. -/
theorem fit_eq_empty_iff {text : String} : fit text = "" ↔ IsBlankText text := by
  have hchars : fitChars maxMessage text.toList = [] ↔ IsBlankText text :=
    fitChars_eq_nil_iff (by decide)
  unfold fit fitTo
  split
  · next hempty =>
    obtain rfl : text = "" := by simpa using hempty
    simp [IsBlankText]
  · rw [← hchars]
    constructor
    · intro h
      simpa using congrArg String.toList h
    · intro h
      rw [h]

/-- The message of a short text on one line is the text without the blanks at its ends. -/
theorem fit_of_short {text : String} (hbreak : ∀ c ∈ text.toList, isBreak c = false)
    (hlen : (Text.stripped text).length ≤ maxMessage) : fit text = Text.stripped text := by
  unfold fit fitTo
  split
  · next hempty =>
    obtain rfl : text = "" := by simpa using hempty
    rfl
  · have hshort : ¬ (maxMessage : Int) < (strip text.toList).length := by
      rw [Text.stripped, String.length_ofList] at hlen
      omega
    rw [Text.stripped, fitChars, flatten_of_noBreak hbreak, if_neg hshort]

end ChatWarden.Chat
