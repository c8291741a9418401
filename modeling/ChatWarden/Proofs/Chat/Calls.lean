import ChatWarden.Chat.Call
import ChatWarden.Proofs.Chat.Fit
import Mathlib.Data.List.Basic

/-!
# Calls that are put together

A line that is put together from the mark of commands, a name and something behind it is taken
apart into the same pieces, whatever blanks stand between them: the line and its arguments are cut
by different rules, and the rules agree.

Results:
* `strip_of_parts` and `exists_parts`: a text is blanks, what trimming leaves of it, and blanks.
* `strip_append_mark`: a text is trimmed on both sides of a character that is not blank.
* `headWord?_append` and `words_append`: the first word of a text is what was put in front.
* `Call.ofLine?_append`: the call in a line that was put together.
* `Composed.nameAndText_eq` and `exists_composed`: the name and the text in arguments, whatever
  blanks stand around them.
* `nameAndText_append` and `hasWords_append`: the same for one space between them.
-/

namespace ChatWarden.Text

variable {cs front back word rest : List Char}

/-! ## Trimming a text that was put together -/

theorem stripStart_append (h : ∀ c ∈ front, isBlank c = true) :
    stripStart (front ++ cs) = stripStart cs := List.dropWhile_append_of_pos h

theorem stripEnd_append_of_blank (h : ∀ c ∈ back, isBlank c = true) :
    stripEnd (cs ++ back) = stripEnd cs := by
  have hback : ∀ c ∈ back.reverse, isBlank c = true := fun c hc => h c (List.mem_reverse.mp hc)
  rw [stripEnd, List.reverse_append, List.dropWhile_append_of_pos hback, stripEnd]

/-- Trimming drops just the blanks around a trimmed text. -/
theorem strip_of_parts (hfront : ∀ c ∈ front, isBlank c = true)
    (hback : ∀ c ∈ back, isBlank c = true) (h : Trimmed cs) : strip (front ++ cs ++ back) = cs := by
  cases cs with
  | nil =>
    rw [List.append_nil]
    exact strip_eq_nil_iff.mpr (List.forall_mem_append.mpr ⟨hfront, hback⟩)
  | cons c rest =>
    have hstart : stripStart (c :: rest ++ back) = c :: rest ++ back :=
      List.dropWhile_cons_of_neg (by simp [h.first c rfl])
    calc strip (front ++ (c :: rest) ++ back)
        = stripEnd (stripStart (c :: rest ++ back)) := by
          rw [strip, List.append_assoc, stripStart_append hfront]
      _ = stripEnd (c :: rest) := by rw [hstart, stripEnd_append_of_blank hback]
      _ = strip (c :: rest) := by rw [strip, stripStart_of_trimmed h]
      _ = c :: rest := strip_of_trimmed h

/-- A text is blanks, what trimming leaves of it, and blanks. -/
theorem exists_parts (cs : List Char) : ∃ front back, cs = front ++ strip cs ++ back ∧
    (∀ c ∈ front, isBlank c = true) ∧ ∀ c ∈ back, isBlank c = true := by
  obtain ⟨back, happend, hback⟩ := stripEnd_append (stripStart cs)
  refine ⟨cs.takeWhile isBlank, back, ?_, fun c hc => List.mem_takeWhile_imp hc, hback⟩
  calc cs = cs.takeWhile isBlank ++ stripStart cs := List.takeWhile_append_dropWhile.symm
    _ = cs.takeWhile isBlank ++ (strip cs ++ back) := congrArg (_ ++ ·) happend
    _ = cs.takeWhile isBlank ++ strip cs ++ back := (List.append_assoc ..).symm

/-- Trimming does not go beyond a character that is not blank. -/
theorem dropWhile_append_mark {mark : Char} (hmark : isBlank mark = false)
    (front back : List Char) :
    (front ++ mark :: back).dropWhile isBlank = front.dropWhile isBlank ++ mark :: back := by
  rw [List.dropWhile_append]
  split
  · next hnone =>
    rw [List.isEmpty_iff.mp hnone, List.dropWhile_cons_of_neg (by simp [hmark]), List.nil_append]
  · rfl

theorem strip_append_mark {mark : Char} (hmark : isBlank mark = false) (front back : List Char) :
    strip (front ++ mark :: back) = stripStart front ++ mark :: stripEnd back := by
  have hreverse : ∀ cs : List Char,
      (cs ++ mark :: back).reverse = back.reverse ++ mark :: cs.reverse := by
    intro cs
    rw [List.reverse_append, List.reverse_cons, List.append_assoc, List.singleton_append]
  unfold strip stripStart
  rw [dropWhile_append_mark hmark, stripEnd, hreverse, dropWhile_append_mark hmark,
    List.reverse_append, List.reverse_cons, List.reverse_reverse, List.append_assoc,
    List.singleton_append, stripEnd]

/-- Blanks around a text do not matter to trimming. -/
theorem strip_append_blanks (hfront : ∀ c ∈ front, isBlank c = true)
    (hback : ∀ c ∈ back, isBlank c = true) (cs : List Char) :
    strip (front ++ cs ++ back) = strip cs := by
  obtain ⟨before, behind, hparts, hbefore, hbehind⟩ := exists_parts cs
  have hwhole : front ++ cs ++ back = front ++ before ++ strip cs ++ (behind ++ back) := by
    conv_lhs => rw [hparts]
    simp only [List.append_assoc]
  rw [hwhole]
  exact strip_of_parts (List.forall_mem_append.mpr ⟨hfront, hbefore⟩)
    (List.forall_mem_append.mpr ⟨hbehind, hback⟩) (strip_trimmed cs)

theorem strip_stripStart (cs : List Char) : strip (stripStart cs) = strip cs := by
  have hblanks : ∀ c ∈ cs.takeWhile isBlank, isBlank c = true :=
    fun c hc => List.mem_takeWhile_imp hc
  rw [← strip_append_blanks hblanks (List.forall_mem_nil _), List.append_nil, stripStart,
    List.takeWhile_append_dropWhile]

theorem strip_stripEnd (cs : List Char) : strip (stripEnd cs) = strip cs := by
  obtain ⟨blanks, happend, hblanks⟩ := stripEnd_append cs
  rw [← strip_append_blanks (List.forall_mem_nil _) hblanks, List.nil_append, ← happend]

/-! ## Words in front of a text -/

/-- The text is one word. -/
structure IsWord (cs : List Char) : Prop where
  ne_nil : cs ≠ []
  not_blank : ∀ c ∈ cs, isBlank c = false

/-- The text may follow a word: it is empty, or starts with a blank. -/
def FollowsWord (cs : List Char) : Prop := ∀ c, cs.head? = some c → isBlank c = true

theorem followsWord_nil : FollowsWord [] := by
  intro c hc
  cases hc

theorem followsWord_cons {c : Char} (h : isBlank c = true) : FollowsWord (c :: rest) := by
  intro d hd
  obtain rfl := Option.some.inj hd
  exact h

/-- A gap may follow a word, and so may what follows a word if there is no gap. -/
theorem followsWord_append {gap : List Char} (hgap : ∀ c ∈ gap, isBlank c = true)
    (h : gap = [] → FollowsWord rest) : FollowsWord (gap ++ rest) := by
  cases gap with
  | nil => exact h rfl
  | cons c more => exact followsWord_cons (hgap c List.mem_cons_self)

/-- What is left behind the word at the start of a text may follow a word. -/
theorem followsWord_afterWord (cs : List Char) : FollowsWord (afterWord cs) := by
  intro c hc
  obtain ⟨more, hmore⟩ := List.head?_eq_some_iff.mp hc
  simpa using head_dropWhile (!isBlank ·) hmore

/-- A text that does not start with a blank starts with a word. -/
theorem isWord_wordAtStart {c : Char} (h : isBlank c = false) (rest : List Char) :
    IsWord (wordAtStart (c :: rest)) := by
  constructor
  · rw [wordAtStart, List.takeWhile_cons_of_pos (by simp [h])]
    exact List.cons_ne_nil _ _
  · intro d hd
    simpa using List.mem_takeWhile_imp hd

/-- What may follow a word does not go on with it. -/
theorem FollowsWord.cut (h : FollowsWord rest) :
    wordAtStart rest = [] ∧ afterWord rest = rest := by
  cases rest with
  | nil => exact ⟨rfl, rfl⟩
  | cons c more =>
    have hc : ¬(!isBlank c) = true := by simp [h c rfl]
    exact ⟨List.takeWhile_cons_of_neg hc, List.dropWhile_cons_of_neg hc⟩

namespace IsWord

variable (hword : IsWord word)

include hword

theorem not_isBlank_all : ∀ c ∈ word, (!isBlank c) = true := by
  intro c hc
  rw [hword.not_blank c hc]
  rfl

theorem trimmed : Trimmed word where
  first c hc := hword.not_blank c (List.mem_of_mem_head? hc)
  last c hc := hword.not_blank c (List.mem_of_mem_getLast? hc)

/-- A word in front of a trimmed text starts a trimmed text, if there is a gap between the two just
    where there is something behind it. -/
theorem trimmed_append {gap text : List Char} (htext : Trimmed text) (h : gap = [] ↔ text = []) :
    Trimmed (word ++ (gap ++ text)) := by
  by_cases hnil : text = []
  · rw [h.mpr hnil, hnil, List.append_nil, List.append_nil]
    exact hword.trimmed
  · constructor
    · intro c hc
      rw [List.head?_append_of_ne_nil _ hword.ne_nil] at hc
      exact hword.trimmed.first c hc
    · intro c hc
      rw [← List.append_assoc, List.getLast?_append_of_ne_nil _ hnil] at hc
      exact htext.last c hc

theorem wordAtStart_append (h : FollowsWord rest) : wordAtStart (word ++ rest) = word := by
  have happend : wordAtStart (word ++ rest) = word ++ wordAtStart rest :=
    List.takeWhile_append_of_pos hword.not_isBlank_all
  rw [happend, h.cut.1, List.append_nil]

theorem afterWord_append (h : FollowsWord rest) : afterWord (word ++ rest) = rest := by
  have happend : afterWord (word ++ rest) = afterWord rest :=
    List.dropWhile_append_of_pos hword.not_isBlank_all
  rw [happend, h.cut.2]

/-- A word starts a text, and no blank does. -/
theorem exists_cons (rest : List Char) : ∃ c more, word ++ rest = c :: more ∧
    isBlank c = false ∧ stripStart (word ++ rest) = c :: more := by
  cases hcs : word with
  | nil => exact absurd hcs hword.ne_nil
  | cons c more =>
    have hc : isBlank c = false := hword.not_blank c (by rw [hcs]; exact List.mem_cons_self)
    exact ⟨c, more ++ rest, rfl, hc, List.dropWhile_cons_of_neg (by simp [hc])⟩

/-- The first word of a text and what follows it are what was put together. -/
theorem headWord?_append (h : FollowsWord rest) :
    headWord? (word ++ rest) = some (word, stripStart rest) := by
  obtain ⟨c, more, hcons, -, hstart⟩ := hword.exists_cons rest
  rw [headWord?, hstart]
  dsimp only
  rw [← hcons, hword.wordAtStart_append h, hword.afterWord_append h]

/-- A word in front of a text is one more of its words. -/
theorem words_append (h : FollowsWord rest) : words (word ++ rest) = word :: words rest := by
  obtain ⟨c, more, hcons, -, hstart⟩ := hword.exists_cons rest
  rw [words_of_cons hstart, ← hcons, hword.wordAtStart_append h, hword.afterWord_append h]

end IsWord

/-- A text that is not blank has a word. -/
theorem words_ne_nil {c : Char} (hc : c ∈ cs) (hb : isBlank c = false) : words cs ≠ [] := by
  obtain ⟨d, rest, hstart⟩ := List.exists_cons_of_ne_nil (List.ne_nil_of_mem (mem_stripStart hc hb))
  rw [words_of_cons hstart]
  exact List.cons_ne_nil _ _

end ChatWarden.Text

namespace ChatWarden.Chat

open Text (isBlank strip stripStart stripped Trimmed IsBlankText IsWord FollowsWord
  followsWord_cons)

variable {name text rest : String}

/-! ## Lines -/

theorem behind?_append (mark text : List Char) : behind? mark (mark ++ text) = some text := by
  induction mark with
  | nil => rfl
  | cons c mark ih =>
    rw [List.cons_append, behind?, if_pos (beq_self_eq_true c)]
    exact ih

/-- A line that was put together from the mark, a name and what may follow it is the call of the
    name. -/
theorem Call.ofLine?_append {mark : String} (hmark : mark ≠ "") (hname : IsWord name.toList)
    (hrest : FollowsWord rest.toList) :
    Call.ofLine? mark (mark ++ name ++ rest) = some ⟨name, .ofList (stripStart rest.toList)⟩ := by
  have hne : mark.isEmpty = false := by simpa using hmark
  have hbehind : behind? mark.toList (mark ++ name ++ rest).toList =
      some (name.toList ++ rest.toList) := by
    rw [String.append_assoc, String.toList_append, String.toList_append]
    exact behind?_append _ _
  obtain ⟨c, more, hcons, hc, -⟩ := hname.exists_cons rest.toList
  have hhead := hname.headWord?_append hrest
  rw [hcons] at hbehind hhead
  rw [Call.ofLine?, hne, hbehind]
  simp only [Bool.false_eq_true, if_false, hc, hhead, Option.map_some, String.ofList_toList]

/-! ## Arguments -/

/-- The name of a custom command is a word. -/
theorem isWord_of_isCommandName (h : isCommandName name = true) : IsWord name.toList := by
  obtain ⟨hne, hchars⟩ := isCommandName_iff.mp h
  refine ⟨by simpa using hne, fun c hc => ?_⟩
  have hrange := Text.toNat_of_isAlphanum (hchars c hc)
  simp only [isBlank, Bool.or_eq_false_iff, Bool.and_eq_false_iff, decide_eq_false_iff_not,
    beq_eq_false_iff_ne]
  omega

/-- Arguments that were put together from a name and a text. -/
theorem toList_pair (name text : String) :
    (name ++ " " ++ text).toList = name.toList ++ ' ' :: text.toList := by
  simp

theorem exists_not_blank (htext : ¬IsBlankText text) : ∃ c ∈ text.toList, isBlank c = false := by
  by_contra hnone
  refine htext fun c hc => ?_
  by_contra hb
  exact hnone ⟨c, hc, by simpa using hb⟩

/-- Arguments that were put together from a name and a text hold two words. -/
theorem hasWords_append (hname : IsWord name.toList) (htext : ¬IsBlankText text) :
    hasWords (name ++ " " ++ text) 2 = true := by
  obtain ⟨c, hc, hb⟩ := exists_not_blank htext
  have hwords : Text.words (' ' :: text.toList) ≠ [] :=
    Text.words_ne_nil (List.mem_cons_of_mem _ hc) hb
  have hlen := List.length_pos_iff.mpr hwords
  rw [hasWords, toList_pair, hname.words_append (followsWord_cons (by decide)), List.length_cons]
  exact decide_eq_true (by omega)

/-- The arguments are put together from a name, a gap of blanks and a trimmed text, with blanks
    around all of it. There is a gap just where there is a text. -/
structure Composed (args name gap text : String) : Prop where
  args_eq : ∃ front back, args = front ++ (name ++ gap ++ text) ++ back ∧
    IsBlankText front ∧ IsBlankText back
  name_word : IsWord name.toList
  gap_blank : IsBlankText gap
  text_trimmed : Trimmed text.toList
  gap_iff : gap = "" ↔ text = ""

theorem toList_parts (name gap text : String) :
    (name ++ gap ++ text).toList = name.toList ++ (gap.toList ++ text.toList) := by
  rw [String.toList_append, String.toList_append, List.append_assoc]

namespace Composed

variable {args gap : String} (h : Composed args name gap text)

include h

/-- Trimming the arguments leaves the name, the gap and the text. -/
theorem stripped_eq : stripped args = name ++ gap ++ text := by
  obtain ⟨front, back, rfl, hfront, hback⟩ := h.args_eq
  have hgap : gap.toList = [] ↔ text.toList = [] := by
    rw [String.toList_eq_nil_iff, String.toList_eq_nil_iff, h.gap_iff]
  have hinner : Trimmed (name ++ gap ++ text).toList :=
    toList_parts name gap text ▸ h.name_word.trimmed_append h.text_trimmed hgap
  rw [stripped, String.toList_append, String.toList_append,
    Text.strip_of_parts hfront hback hinner, String.ofList_toList]

/-- Behind the name stands nothing, or the gap. -/
theorem followsWord : FollowsWord (gap.toList ++ text.toList) := by
  refine Text.followsWord_append h.gap_blank fun hnil => ?_
  rw [h.gap_iff.mp (String.toList_eq_nil_iff.mp hnil)]
  exact Text.followsWord_nil

/-- The name and the text are found again. -/
theorem nameAndText_eq : nameAndText args = (name, text) := by
  have hargs : strip args.toList = name.toList ++ (gap.toList ++ text.toList) := by
    rw [← toList_parts, ← h.stripped_eq, stripped, String.toList_ofList]
  rw [nameAndText, hargs, h.name_word.headWord?_append h.followsWord,
    Text.stripStart_append h.gap_blank, Text.stripStart_of_trimmed h.text_trimmed]
  simp only [Text.strip_of_trimmed h.text_trimmed, String.ofList_toList]

end Composed

/-- Arguments that start with a name and go on with more than blanks hold the name and what trimming
    leaves of the rest. -/
theorem exists_composed {args front : String} (hargs : args = front ++ (name ++ rest))
    (hfront : IsBlankText front) (hname : IsWord name.toList) (hrest : FollowsWord rest.toList)
    (hmore : ¬IsBlankText rest) : ∃ gap, Composed args name gap (stripped rest) := by
  obtain ⟨before, behind, hparts, hbefore, hbehind⟩ := Text.exists_parts rest.toList
  have hsplit : rest = .ofList before ++ stripped rest ++ .ofList behind := by
    rw [stripped, ← String.ofList_append, ← String.ofList_append, ← hparts, String.ofList_toList]
  have hne : strip rest.toList ≠ [] := fun hnil => hmore (Text.strip_eq_nil_iff.mp hnil)
  -- without a gap the name would go on
  have hgap : before ≠ [] := by
    rintro rfl
    obtain ⟨c, more, hcons⟩ := List.exists_cons_of_ne_nil hne
    have hblank : isBlank c = true := hrest c (by rw [hparts, hcons]; rfl)
    have hfilled := (Text.strip_trimmed rest.toList).first c (by rw [hcons]; rfl)
    rw [hblank] at hfilled
    cases hfilled
  refine ⟨.ofList before,
    ⟨front, .ofList behind, ?_, hfront, Text.isBlankText_ofList.mpr hbehind⟩, hname,
    Text.isBlankText_ofList.mpr hbefore, Text.stripped_trimmed rest, ?_⟩
  · rw [hargs]
    conv_lhs => rw [hsplit]
    simp only [String.append_assoc]
  · exact iff_of_false (by simpa using hgap) fun hempty =>
      hmore (Text.stripped_eq_empty_iff.mp hempty)

/-- The name and the text in arguments that were put together from them; the text loses the blanks
    at its ends. -/
theorem nameAndText_append (hname : IsWord name.toList) (htext : ¬IsBlankText text) :
    nameAndText (name ++ " " ++ text) = (name, stripped text) := by
  have hrest : (" " ++ text).toList = ' ' :: text.toList := by simp
  have hmore : ¬IsBlankText (" " ++ text) := fun hblank =>
    htext fun c hc => hblank c (hrest ▸ List.mem_cons_of_mem _ hc)
  have hstrip : stripped (" " ++ text) = stripped text := by
    have hspace : ∀ c ∈ [' '], isBlank c = true :=
      List.forall_mem_singleton.mpr (show isBlank ' ' = true by decide)
    rw [stripped, hrest, ← List.append_nil (' ' :: text.toList), ← List.singleton_append,
      Text.strip_append_blanks hspace (List.forall_mem_nil _), stripped]
  have hargs : name ++ " " ++ text = "" ++ (name ++ (" " ++ text)) := by
    rw [String.empty_append, String.append_assoc]
  obtain ⟨gap, hcomposed⟩ := exists_composed hargs (List.forall_mem_nil _) hname
    (hrest ▸ followsWord_cons (by decide)) hmore
  rw [hcomposed.nameAndText_eq, hstrip]

end ChatWarden.Chat
