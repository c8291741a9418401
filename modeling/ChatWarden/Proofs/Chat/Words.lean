import ChatWarden.Proofs.Chat.Calls

/-!
# Words of arguments

A text is put together from its words and the blanks around them in one way only. What commands ask
about their arguments (how many words there are, the first one, the name and the text behind it) is
cut out by a rule of its own each time, and every rule finds these words.

Results:
* `Text.words_eq_iff`: the words of a text are those that it is put together from.
* `Text.words_append_blanks`: blanks around a text do not matter to its words.
* `blank_or_composed`: arguments are blank or hold a name.
* `Composed.wordsOf_eq`: the words of arguments are the name and the words of the text behind it.
* `coherent`: the answers to all questions about arguments fit together.
* `response_of_hasWords`: what follows the first of two words is trimmed and not empty.
-/

namespace ChatWarden.Text

variable {cs front back word : List Char} {found : List (List Char)}

/-! ## Texts put together from words -/

/-- The text is put together from these words. There may be blanks in front of each word and behind
    the last one, and behind each word stands a blank, if anything. -/
inductive Spaced : (found : List (List Char)) → (cs : List Char) → Prop
  | blanks {gap : List Char} : (∀ c ∈ gap, isBlank c = true) → Spaced [] gap
  | word {gap word rest : List Char} {found : List (List Char)} :
      (∀ c ∈ gap, isBlank c = true) → IsWord word → FollowsWord rest → Spaced found rest →
      Spaced (word :: found) (gap ++ (word ++ rest))

/-- Blanks in front of a text are in none of its words. -/
theorem words_gap_append (hfront : ∀ c ∈ front, isBlank c = true) (cs : List Char) :
    words (front ++ cs) = words cs := by
  have hstart : stripStart (front ++ cs) = stripStart cs := stripStart_append hfront
  cases h : stripStart cs with
  | nil => rw [words_of_nil (hstart.trans h), words_of_nil h]
  | cons c rest => rw [words_of_cons (hstart.trans h), words_of_cons h]

/-- The words that a text is put together from are found in it. -/
theorem Spaced.words_eq (h : Spaced found cs) : words cs = found := by
  induction h with
  | blanks hgap => exact words_of_nil (List.dropWhile_eq_nil_iff.mpr hgap)
  | word hgap hword hrest _ ih => rw [words_gap_append hgap, hword.words_append hrest, ih]

/-- Every text is put together from the words that are found in it. -/
theorem spaced_words (cs : List Char) : Spaced (words cs) cs := by
  induction cs using words.induct with
  | case1 cs hnil =>
    rw [words_of_nil hnil]
    exact .blanks (List.dropWhile_eq_nil_iff.mp hnil)
  | case2 cs c rest hstart ih =>
    rw [words_of_cons hstart]
    have hparts : cs.takeWhile isBlank ++ (wordAtStart (c :: rest) ++ afterWord (c :: rest)) = cs := by
      rw [wordAtStart, afterWord, List.takeWhile_append_dropWhile, ← hstart, stripStart,
        List.takeWhile_append_dropWhile]
    have hword := isWord_wordAtStart (head_dropWhile _ hstart) rest
    rw [← hparts]
    exact .word (fun d hd => List.mem_takeWhile_imp hd) hword (followsWord_afterWord _) ih

/-- The words of a text are those that it is put together from. -/
theorem words_eq_iff : words cs = found ↔ Spaced found cs :=
  ⟨fun h => h ▸ spaced_words cs, Spaced.words_eq⟩

/-- Blanks behind a text belong to the last gap. -/
theorem Spaced.append_blanks (h : Spaced found cs) (hback : ∀ c ∈ back, isBlank c = true) :
    Spaced found (cs ++ back) := by
  induction h with
  | blanks hgap => exact .blanks (List.forall_mem_append.mpr ⟨hgap, hback⟩)
  | @word gap word rest found hgap hword hrest _ ih =>
    have hmore : FollowsWord (rest ++ back) := by
      cases rest with
      | nil => exact fun c hc => hback c (List.mem_of_mem_head? hc)
      | cons c more => exact followsWord_cons (hrest c rfl)
    rw [List.append_assoc, List.append_assoc]
    exact .word hgap hword hmore ih

/-- Blanks around a text do not matter to its words. -/
theorem words_append_blanks (hfront : ∀ c ∈ front, isBlank c = true)
    (hback : ∀ c ∈ back, isBlank c = true) (cs : List Char) :
    words (front ++ cs ++ back) = words cs := by
  rw [List.append_assoc, words_gap_append hfront]
  exact ((spaced_words cs).append_blanks hback).words_eq

theorem words_eq_nil_iff : words cs = [] ↔ ∀ c ∈ cs, isBlank c = true := by
  constructor
  · intro h c hc
    by_contra hb
    exact words_ne_nil hc (by simpa using hb) h
  · intro h
    exact (Spaced.blanks h).words_eq

theorem wordsOf_eq_nil_iff {text : String} : wordsOf text = [] ↔ IsBlankText text := by
  rw [wordsOf, List.map_eq_nil_iff, words_eq_nil_iff, IsBlankText]

/-- The words of a text are those that it is put together from. -/
theorem wordsOf_eq_iff {text : String} {found : List String} :
    wordsOf text = found ↔ Spaced (found.map String.toList) text.toList := by
  rw [← words_eq_iff, wordsOf]
  constructor
  · rintro rfl
    simp [Function.comp_def]
  · intro h
    simp [h, Function.comp_def]

end ChatWarden.Text

namespace ChatWarden.Chat

open Text (strip stripped wordsOf Trimmed IsBlankText IsWord FollowsWord)

variable {args name gap text : String}

/-! ## Arguments and their words -/

/-- The words of arguments are the name and the words of the text behind it. -/
theorem Composed.wordsOf_eq (h : Composed args name gap text) :
    wordsOf args = name :: wordsOf text := by
  obtain ⟨front, back, hargs, hfront, hback⟩ := h.args_eq
  have hwords : Text.words args.toList = name.toList :: Text.words text.toList := by
    rw [hargs, String.toList_append, String.toList_append,
      Text.words_append_blanks hfront hback, toList_parts, h.name_word.words_append h.followsWord,
      Text.words_gap_append h.gap_blank]
  rw [wordsOf, hwords, List.map_cons, String.ofList_toList, wordsOf]

/-- Arguments are blank or hold a name. -/
theorem blank_or_composed (args : String) :
    IsBlankText args ∨ ∃ name gap text, Composed args name gap text := by
  generalize hwords : Text.words args.toList = found
  have hspaced := Text.words_eq_iff.mp hwords
  generalize hchars : args.toList = cs at hspaced
  cases hspaced with
  | blanks hblank =>
    left
    rwa [IsBlankText, hchars]
  | @word front word rest _ hfront hword hrest _ =>
    have hargs : args = .ofList front ++ (.ofList word ++ .ofList rest) := by
      rw [← String.ofList_append, ← String.ofList_append, ← hchars, String.ofList_toList]
    have hfront : IsBlankText (.ofList front) := Text.isBlankText_ofList.mpr hfront
    have hword : IsWord (String.ofList word).toList := by rwa [String.toList_ofList]
    -- behind the name there is a text, or nothing that trimming keeps
    by_cases hmore : IsBlankText (.ofList rest)
    · refine .inr ⟨.ofList word, "", "", ⟨.ofList front, .ofList rest, ?_, hfront, hmore⟩, hword,
        List.forall_mem_nil _, ⟨by simp, by simp⟩, Iff.rfl⟩
      simpa only [String.append_empty, String.append_assoc] using hargs
    · have hrest : FollowsWord (String.ofList rest).toList := by rwa [String.toList_ofList]
      obtain ⟨gap, hcomposed⟩ := exists_composed hargs hfront hword hrest hmore
      exact .inr ⟨_, gap, _, hcomposed⟩

/-- The answers to the questions that commands ask about arguments fit together: with the words of
    the arguments, and with each other. -/
structure Coherent (args : String) : Prop where
  /-- Words are counted as there are. -/
  hasWords_iff : ∀ n : Int, hasWords args n = true ↔ n ≤ (wordsOf args).length
  /-- Both ways to take the first word give the same. -/
  firstWord_eq : firstWord args = (nameAndText args).1
  name_eq : (nameAndText args).1 = (wordsOf args).headD ""
  /-- Behind the name the other words follow, in order. -/
  wordsOf_text : wordsOf (nameAndText args).2 = (wordsOf args).tail
  text_stripped : stripped (nameAndText args).2 = (nameAndText args).2
  /-- Nothing but blanks is lost between the name and the text, or around them. -/
  stripped_eq : ∃ gap, stripped args = (nameAndText args).1 ++ gap ++ (nameAndText args).2 ∧
    IsBlankText gap ∧ ((nameAndText args).2 ≠ "" → gap ≠ "")
  name_ne_iff : (nameAndText args).1 ≠ "" ↔ hasWords args 1 = true
  text_ne_iff : (nameAndText args).2 ≠ "" ↔ hasWords args 2 = true

theorem hasWords_iff (args : String) (n : Int) :
    hasWords args n = true ↔ n ≤ (wordsOf args).length := by
  rw [hasWords, decide_eq_true_iff, wordsOf, List.length_map]

theorem firstWord_eq_headD (args : String) : firstWord args = (wordsOf args).headD "" := by
  rw [firstWord, wordsOf]
  cases Text.words args.toList <;> rfl

theorem coherent_of_blank (h : IsBlankText args) : Coherent args := by
  have hstrip : strip args.toList = [] := Text.strip_eq_nil_iff.mpr h
  have hwords : wordsOf args = [] := Text.wordsOf_eq_nil_iff.mpr h
  have hpair : nameAndText args = ("", "") := by
    rw [nameAndText, hstrip]
    rfl
  have hnone (n : Int) (hn : 0 < n) : ¬hasWords args n = true := by
    rw [hasWords_iff, hwords, List.length_nil]
    omega
  constructor
  case hasWords_iff => exact hasWords_iff args
  case firstWord_eq => rw [firstWord_eq_headD, hwords, hpair, List.headD_nil]
  case name_eq => rw [hwords, hpair, List.headD_nil]
  case wordsOf_text =>
    rw [hwords, hpair]
    exact Text.wordsOf_eq_nil_iff.mpr (List.forall_mem_nil _)
  case text_stripped =>
    rw [hpair]
    rfl
  case stripped_eq =>
    rw [hpair]
    exact ⟨"", Text.stripped_eq_empty_iff.mpr h, List.forall_mem_nil _, fun hne => absurd rfl hne⟩
  case name_ne_iff => exact iff_of_false (by simp [hpair]) (hnone 1 (by decide))
  case text_ne_iff => exact iff_of_false (by simp [hpair]) (hnone 2 (by decide))

theorem Composed.coherent (h : Composed args name gap text) : Coherent args := by
  have hpair := h.nameAndText_eq
  have hwords := h.wordsOf_eq
  have hstripped : stripped text = text := by
    rw [stripped, Text.strip_of_trimmed h.text_trimmed, String.ofList_toList]
  have htext : text ≠ "" ↔ 0 < (wordsOf text).length := by
    rw [List.length_pos_iff, ne_eq, ne_eq, Text.wordsOf_eq_nil_iff, ← Text.stripped_eq_empty_iff,
      hstripped]
  constructor
  case hasWords_iff => exact hasWords_iff args
  case firstWord_eq => rw [firstWord_eq_headD, hwords, hpair, List.headD_cons]
  case name_eq => rw [hwords, hpair, List.headD_cons]
  case wordsOf_text => rw [hwords, hpair, List.tail_cons]
  case text_stripped => rwa [hpair]
  case stripped_eq =>
    rw [hpair]
    exact ⟨gap, h.stripped_eq, h.gap_blank, fun hne hgap => hne (h.gap_iff.mp hgap)⟩
  case name_ne_iff =>
    have hname : name ≠ "" := fun hempty =>
      h.name_word.ne_nil (String.toList_eq_nil_iff.mpr hempty)
    rw [hpair, hasWords_iff, hwords, List.length_cons]
    exact iff_of_true hname (by omega)
  case text_ne_iff =>
    rw [hpair, hasWords_iff, hwords, List.length_cons, htext]
    omega

/-- Whatever the arguments are, all questions about them are answered in line with their words. -/
theorem coherent (args : String) : Coherent args := by
  rcases blank_or_composed args with hblank | ⟨name, gap, text, hcomposed⟩
  · exact coherent_of_blank hblank
  · exact hcomposed.coherent

/-- What follows the first of two words is not empty, and it is trimmed. -/
theorem response_of_hasWords (h : hasWords args 2 = true) :
    (nameAndText args).2 ≠ "" ∧ Trimmed (nameAndText args).2.toList := by
  refine ⟨(coherent args).text_ne_iff.mpr h, ?_⟩
  rw [← (coherent args).text_stripped]
  exact Text.stripped_trimmed _

end ChatWarden.Chat
