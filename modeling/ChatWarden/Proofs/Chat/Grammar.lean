import ChatWarden.Proofs.Chat.Calls
import Mathlib.Data.Set.Subsingleton

/-!
# Which lines are calls

The lines that call a command are those that can be spelled: the mark, a name, blanks and the
arguments, with a blank in front of arguments and none at their beginning. A line has at most one
spelling, so reading a line and spelling a call undo each other.

Results:
* `Spells.ofLine?_eq`: a line that is spelled is read as it was spelled.
* `exists_spells`: a line that goes on with a name behind the mark has a spelling.
* `Spells.unique`: a line has at most one spelling.
* `line_calls_iff_spells`: the calls are the spelled lines, and the three kinds of other lines.
-/

namespace ChatWarden.Chat

open Text (isBlank stripStart wordAtStart afterWord headWord? IsBlankText IsWord FollowsWord)

variable {mark line : String} {call : Call} {gap : String}

/-! ## Spellings -/

/-- The text starts with a character that is not blank. -/
def StartsFilled (text : String) : Prop := ∃ c rest, text.toList = c :: rest ∧ isBlank c = false

/-- The line is put together from the mark, the name, a gap of blanks and the arguments. Arguments
    stand behind a gap and do not start with a blank; they reach to the end of the line. -/
structure Spells (mark line : String) (call : Call) (gap : String) : Prop where
  line_eq : line = mark ++ call.name ++ gap ++ call.args
  name_word : IsWord call.name.toList
  gap_blank : IsBlankText gap
  args_apart : call.args = "" ∨ gap ≠ "" ∧ StartsFilled call.args

namespace Spells

/-- What stands behind the name does not go on with it. -/
theorem followsWord (h : Spells mark line call gap) :
    FollowsWord (gap.toList ++ call.args.toList) := by
  refine Text.followsWord_append h.gap_blank fun hnil => ?_
  have hargs : call.args = "" :=
    h.args_apart.resolve_right fun hapart => hapart.1 (String.toList_eq_nil_iff.mp hnil)
  rw [hargs]
  exact Text.followsWord_nil

/-- Without the gap the arguments are left. -/
theorem stripStart_eq (h : Spells mark line call gap) :
    stripStart (gap.toList ++ call.args.toList) = call.args.toList := by
  rw [Text.stripStart_append h.gap_blank]
  rcases h.args_apart with hempty | ⟨-, c, rest, hargs, hc⟩
  · rw [hempty]
    rfl
  · rw [hargs]
    exact List.dropWhile_cons_of_neg (by simp [hc])

/-- A line that is spelled is read as it was spelled. -/
theorem ofLine?_eq (h : Spells mark line call gap) (hmark : mark ≠ "") :
    Call.ofLine? mark line = some call := by
  have hline : line = mark ++ call.name ++ (gap ++ call.args) := by
    rw [h.line_eq, String.append_assoc]
  have hrest : (gap ++ call.args).toList = gap.toList ++ call.args.toList := String.toList_append
  rw [hline, Call.ofLine?_append hmark h.name_word (hrest ▸ h.followsWord), hrest,
    h.stripStart_eq, String.ofList_toList]

/-- What is spelled behind the mark. -/
theorem toList_line (h : Spells mark line call gap) :
    line.toList = mark.toList ++ (call.name.toList ++ (gap.toList ++ call.args.toList)) := by
  rw [h.line_eq]
  simp only [String.toList_append, List.append_assoc]

/-- A line has at most one spelling. -/
theorem unique {other : Call} {apart : String} (h : Spells mark line call gap)
    (h' : Spells mark line other apart) : call = other ∧ gap = apart := by
  have hbody := List.append_cancel_left (h.toList_line.symm.trans h'.toList_line)
  have hread := h.name_word.headWord?_append h.followsWord
  rw [hbody, h'.name_word.headWord?_append h'.followsWord, h.stripStart_eq,
    h'.stripStart_eq] at hread
  obtain ⟨hname, hargs⟩ := Prod.mk.inj (Option.some.inj hread)
  rw [hname, hargs] at hbody
  have hgap := List.append_cancel_right (List.append_cancel_left hbody)
  constructor
  · cases call
    cases other
    rw [Call.mk.injEq]
    exact ⟨String.toList_inj.mp hname.symm, String.toList_inj.mp hargs.symm⟩
  · exact String.toList_inj.mp hgap

end Spells

/-! ## Lines -/

/-- A line that goes on with a name behind the mark has a spelling: the name ends at the first
    blank, and the gap in front of the next character that is none. -/
theorem exists_spells {body : String} (hline : line = mark ++ body)
    (hname : ¬FollowsWord body.toList) : ∃ call gap, Spells mark line call gap := by
  obtain ⟨c, hhead, hc⟩ : ∃ c, body.toList.head? = some c ∧ isBlank c = false := by
    simpa [FollowsWord] using hname
  obtain ⟨rest, hbody⟩ := List.head?_eq_some_iff.mp hhead
  let behind := afterWord body.toList
  have hword : wordAtStart body.toList ++ behind = body.toList := List.takeWhile_append_dropWhile
  have hbehind : behind.takeWhile isBlank ++ stripStart behind = behind :=
    List.takeWhile_append_dropWhile
  refine ⟨⟨.ofList (wordAtStart body.toList), .ofList (stripStart behind)⟩,
    .ofList (behind.takeWhile isBlank), ?_, ?_, ?_, ?_⟩
  · rw [hline, ← String.toList_inj]
    simp only [String.toList_append, String.toList_ofList, List.append_assoc]
    rw [hbehind, hword]
  · rw [String.toList_ofList, hbody]
    exact Text.isWord_wordAtStart hc rest
  · intro d hd
    rw [String.toList_ofList] at hd
    exact List.mem_takeWhile_imp hd
  · cases hargs : stripStart behind with
    | nil => exact .inl rfl
    | cons d more =>
      have hfilled := Text.head_dropWhile isBlank hargs
      refine .inr ⟨fun hempty => ?_, d, more, String.toList_ofList, hfilled⟩
      -- behind the name stands a blank, if anything
      have hnil : behind.takeWhile isBlank = [] := by simpa using hempty
      rw [hnil, hargs, List.nil_append] at hbehind
      have hfollows : FollowsWord behind := Text.followsWord_afterWord body.toList
      have hblank : isBlank d = true := hfollows d (by rw [← hbehind]; rfl)
      rw [hfilled] at hblank
      cases hblank

/-- Where a character that is not blank stands, there is a word. -/
theorem headWord?_isSome {c : Char} (hc : isBlank c = false) (rest : List Char) :
    (headWord? (c :: rest)).isSome = true := by
  have hstart : stripStart (c :: rest) = c :: rest := List.dropWhile_cons_of_neg (by simp [hc])
  rw [headWord?, hstart]
  rfl

/-- What stands behind a mark. -/
theorem behind?_eq_some_iff {mark text body : List Char} :
    behind? mark text = some body ↔ text = mark ++ body := by
  constructor
  · intro h
    induction mark generalizing text with
    | nil => exact Option.some.inj h
    | cons m mark ih =>
      cases text with
      | nil => cases h
      | cons c text =>
        rw [behind?] at h
        split at h
        · next hsame => rw [ih h, beq_iff_eq.mp hsame, List.cons_append]
        · cases h
  · rintro rfl
    exact behind?_append mark body

/-- The lines that are no calls. -/
theorem ofLine?_eq_none (h : mark = "" ∨ ¬mark.toList <+: line.toList ∨
    ∃ body, line = mark ++ body ∧ FollowsWord body.toList) : Call.ofLine? mark line = none := by
  unfold Call.ofLine?
  split
  · rfl
  · next hmark =>
    have hne : mark ≠ "" := by simpa using hmark
    split
    · rfl
    · next body hbody =>
      have hline := behind?_eq_some_iff.mp hbody
      rcases h with hempty | hother | ⟨text, htext, hblank⟩
      · exact absurd hempty hne
      · exact absurd ⟨body, hline.symm⟩ hother
      · rw [htext, String.toList_append] at hline
        obtain rfl := List.append_cancel_left hline
        split
        · rfl
        · next c rest hcons => rw [if_pos (hblank c (by rw [hcons]; rfl))]

/-- **The grammar of calls.** A line is read as a call just if it is spelled as one with a mark that
    is not empty. No line has two spellings. What is read as no call is every line for an empty
    mark, a line that does not start with the mark, and one in which nothing or a blank follows the
    mark. In every other line the first word that is asked for is there. -/
theorem line_calls_iff_spells (mark line : String) :
    (∀ call, Call.ofLine? mark line = some call ↔ mark ≠ "" ∧ ∃ gap, Spells mark line call gap) ∧
    {parts : Call × String | Spells mark line parts.1 parts.2}.Subsingleton ∧
    (Call.ofLine? mark line = none ↔ mark = "" ∨ ¬mark.toList <+: line.toList ∨
      ∃ body, line = mark ++ body ∧ FollowsWord body.toList) ∧
    ∀ c rest, isBlank c = false → (headWord? (c :: rest)).isSome = true := by
  have hspelled (h : ¬(mark = "" ∨ ¬mark.toList <+: line.toList ∨
      ∃ body, line = mark ++ body ∧ FollowsWord body.toList)) :
      mark ≠ "" ∧ ∃ call gap, Spells mark line call gap := by
    rw [not_or, not_or, not_not] at h
    obtain ⟨hmark, ⟨body, hbody⟩, hname⟩ := h
    have hline : line = mark ++ .ofList body := by
      rw [← String.toList_inj, String.toList_append, String.toList_ofList, hbody]
    exact ⟨hmark, exists_spells hline fun hblank => hname ⟨_, hline, hblank⟩⟩
  refine ⟨fun call => ⟨fun hread => ?_, fun ⟨hmark, gap, h⟩ => h.ofLine?_eq hmark⟩,
    fun first h second h' => Prod.ext_iff.mpr (h.unique h'), ⟨fun hnone => ?_, ofLine?_eq_none⟩,
    fun c rest hc => headWord?_isSome hc rest⟩
  · obtain ⟨hmark, other, gap, h⟩ := hspelled fun hother => by
      rw [ofLine?_eq_none hother] at hread
      cases hread
    obtain rfl := Option.some.inj ((h.ofLine?_eq hmark).symm.trans hread)
    exact ⟨hmark, gap, h⟩
  · by_contra hother
    obtain ⟨hmark, call, gap, h⟩ := hspelled hother
    rw [h.ofLine?_eq hmark] at hnone
    cases hnone

/-- The gap ends in front of the arguments, which keep the blanks behind them. -/
example : Call.ofLine? "! " "! ping \t a  b \n" = some ⟨"ping", "a  b \n"⟩ := by decide +kernel

end ChatWarden.Chat
