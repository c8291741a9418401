import ChatWarden.Chat.Fit
import Mathlib.Data.List.SplitBy
import Mathlib.Data.List.TakeWhile

/-!
# Flattening run by run

Flattening searches a text for blanks, breaks and blanks, and every part of this pattern may also
take what belongs to the next part. What it finds are nevertheless the maximal runs of blanks that
hold a break, each of them once and as a whole: the first part takes the run up to its last break,
which is all that is left to the second, and the third takes the rest.

Results:
* `match?_brokenBlanks`: what the pattern matches in front of a maximal run of blanks.
* `flatten_append`: flattening goes run by run.
* `flatten_eq`: a flattened text is the text with one blank for every maximal run of blanks that
  holds a break.
* `visible_flatten`: all characters but blanks stay, in their order.
* `length_flatten_le`: a flattened text is no longer than the text.
-/

namespace ChatWarden.Text

/-! ## Runs -/

/-- The maximal runs of blanks and of other characters in a text. -/
def runs (cs : List Char) : List (List Char) := cs.splitBy fun a b => isBlank a == isBlank b

/-- The characters of a text that are not blank. -/
def visible (cs : List Char) : List Char := cs.filter (!isBlank ·)

/-- Each character of the text is blank, or each is not. -/
def IsRun (blank : Bool) (cs : List Char) : Prop := ∀ c ∈ cs, isBlank c = blank

/-- The text does not go on with a run of this kind. -/
def EndsRun (blank : Bool) (cs : List Char) : Prop := ∀ c, cs.head? = some c → isBlank c = !blank

variable {blank : Bool} {run rest : List Char}

theorem IsRun.tail {c : Char} (h : IsRun blank (c :: run)) : IsRun blank run :=
  fun d hd => h d (List.mem_cons_of_mem c hd)

/-- A maximal run in front of a text is the first of its runs. -/
theorem runs_append (hne : run ≠ []) (hrun : IsRun blank run) (hrest : EndsRun blank rest) :
    runs (run ++ rest) = run :: runs rest := by
  have hends : ∀ c ∈ run.getLast?, ∀ d ∈ rest.head?, (isBlank c == isBlank d) = false := by
    intro c hc d hd
    rw [hrun c (List.mem_of_mem_getLast? hc), hrest d hd]
    cases blank <;> rfl
  have hsame : run.IsChain fun c d => isBlank c == isBlank d := by
    refine List.Pairwise.isChain (List.pairwise_of_forall_mem_list fun c hc d hd => ?_)
    rw [hrun c hc, hrun d hd]
    exact beq_self_eq_true blank
  rw [runs, List.splitBy_append hends, List.splitBy_of_isChain hne hsame]
  rfl

/-- A text is its first run and what follows it. -/
theorem exists_run (c : Char) (cs : List Char) : ∃ run rest, c :: cs = c :: run ++ rest ∧
    IsRun (isBlank c) (c :: run) ∧ EndsRun (isBlank c) rest := by
  let same (d : Char) : Bool := isBlank d == isBlank c
  refine ⟨cs.takeWhile same, cs.dropWhile same, ?_, ?_, fun d hd => ?_⟩
  · rw [List.cons_append, List.takeWhile_append_dropWhile]
  · refine List.forall_mem_cons.mpr ⟨rfl, fun d hd => ?_⟩
    have hsame : same d = true := List.mem_takeWhile_imp hd
    exact beq_iff_eq.mp hsame
  · obtain ⟨others, hothers⟩ := List.head?_eq_some_iff.mp hd
    have hdiffer : same d = false := head_dropWhile same hothers
    exact Bool.eq_not_of_ne (beq_eq_false_iff_ne.mp hdiffer)

/-- What holds of a text as soon as it holds of what follows its first run holds of every text. -/
theorem induction_on_runs {motive : List Char → Prop} (nil : motive [])
    (append : ∀ (blank : Bool) (run rest : List Char), run ≠ [] → IsRun blank run →
      EndsRun blank rest → motive rest → motive (run ++ rest)) (cs : List Char) : motive cs := by
  match cs with
  | [] => exact nil
  | c :: cs =>
    obtain ⟨run, rest, happend, hrun, hrest⟩ := exists_run c cs
    have hshort : rest.length < (c :: cs).length := by
      rw [happend, List.length_append, List.length_cons]
      omega
    rw [happend]
    exact append (isBlank c) (c :: run) rest (List.cons_ne_nil c run) hrun hrest
      (induction_on_runs nil append rest)
termination_by cs.length
decreasing_by exact hshort

end ChatWarden.Text

namespace ChatWarden.Chat

open Text (isBlank IsRun EndsRun runs visible longest? matchPieces?)

variable {run rest cs : List Char} {c : Char}

/-! ## The pattern on a run of blanks -/

theorem isBlank_of_isBreak (hc : isBreak c = true) : isBlank c = true := by
  rcases Bool.or_eq_true_iff.mp hc with h | h
  · rw [beq_iff_eq.mp h]
    decide
  · rw [beq_iff_eq.mp h]
    decide

/-- What is not blank is no break. -/
theorem not_isBreak_of_not_isBlank (hc : isBlank c = false) : isBreak c = false := by
  by_contra hbreak
  rw [isBlank_of_isBreak (by simpa using hbreak)] at hc
  cases hc

/-- The last part takes all blanks that are left. -/
theorem match_blanks (hrun : IsRun true run) (hrest : EndsRun true rest) :
    longest? isBlank (matchPieces? []) 0 (run ++ rest) = some run.length := by
  induction run with
  | nil =>
    cases rest with
    | nil => rfl
    | cons c rest =>
      have hc : isBlank c = false := hrest c rfl
      exact Text.longest?_of_back fun hblank => absurd (hc.symm.trans hblank) Bool.false_ne_true
  | cons c run ih => exact Text.longest?_of_longer (hrun c List.mem_cons_self) (ih hrun.tail)

/-- Behind the last break of a run the second part takes nothing more. -/
theorem match_breaks_of_none (hrun : IsRun true run) (hrest : EndsRun true rest)
    (hnone : ∀ d ∈ run, isBreak d = false) :
    longest? isBreak (matchPieces? [⟨isBlank, 0⟩]) 0 (run ++ rest) = some run.length := by
  rw [← match_blanks hrun hrest]
  cases hcs : run ++ rest with
  | nil => rfl
  | cons c more =>
    have hc : isBreak c = false := by
      cases run with
      | nil =>
        obtain rfl : rest = c :: more := hcs
        exact not_isBreak_of_not_isBlank (hrest c rfl)
      | cons d run =>
        obtain rfl : d = c := (List.cons.inj hcs).1
        exact hnone d List.mem_cons_self
    exact Text.longest?_of_back fun hbreak => absurd (hc.symm.trans hbreak) Bool.false_ne_true

/-- The second part needs a break. -/
theorem match_breaks_of_other (hc : isBreak c = false) :
    matchPieces? [⟨isBreak, 1⟩, ⟨isBlank, 0⟩] (c :: cs) = none :=
  Text.longest?_of_back fun hbreak => absurd (hc.symm.trans hbreak) Bool.false_ne_true

/-- In front of a maximal run of blanks, empty or not, the pattern matches the whole run if it
    holds a break, and else nothing. -/
theorem match?_brokenBlanks (hrun : IsRun true run) (hrest : EndsRun true rest) :
    brokenBlanks.match? (run ++ rest) = if run.any isBreak then some run.length else none := by
  show longest? isBlank (matchPieces? [⟨isBreak, 1⟩, ⟨isBlank, 0⟩]) 0 (run ++ rest) = _
  induction run with
  | nil =>
    cases rest with
    | nil => rfl
    | cons c rest =>
      have hc : isBlank c = false := hrest c rfl
      calc longest? isBlank (matchPieces? [⟨isBreak, 1⟩, ⟨isBlank, 0⟩]) 0 (c :: rest)
          = matchPieces? [⟨isBreak, 1⟩, ⟨isBlank, 0⟩] (c :: rest) :=
            Text.longest?_of_back fun hblank => absurd (hc.symm.trans hblank) Bool.false_ne_true
        _ = none := match_breaks_of_other (not_isBreak_of_not_isBlank hc)
  | cons c run ih =>
    have hc : isBlank c = true := hrun c List.mem_cons_self
    have hlonger := ih hrun.tail
    cases hany : run.any isBreak with
    | true =>
      -- the last break stands behind `c`, so the first part takes `c`
      rw [hany, if_pos rfl] at hlonger
      rw [List.any_cons, hany, Bool.or_true, if_pos rfl]
      exact Text.longest?_of_longer hc hlonger
    | false =>
      -- the first part takes nothing, and the last break is `c` if it is one
      rw [hany, if_neg Bool.false_ne_true] at hlonger
      have hback : longest? isBlank (matchPieces? [⟨isBreak, 1⟩, ⟨isBlank, 0⟩]) 0
          (c :: (run ++ rest)) = matchPieces? [⟨isBreak, 1⟩, ⟨isBlank, 0⟩] (c :: (run ++ rest)) :=
        Text.longest?_of_back fun _ => hlonger
      rw [List.cons_append, hback, List.any_cons, hany, Bool.or_false]
      cases hbreak : isBreak c with
      | true =>
        have hnone : ∀ d ∈ run, isBreak d = false := by simpa using hany
        exact Text.longest?_of_longer hbreak (match_breaks_of_none hrun.tail hrest hnone)
      | false => exact match_breaks_of_other hbreak

/-! ## Run by run -/

/-- What becomes of a run of a text that is flattened: one blank if it holds a break. -/
def flattenRun (run : List Char) : List Char := if run.any isBreak then [' '] else run

theorem flattenRun_of_noBreak (h : ∀ d ∈ run, isBreak d = false) : flattenRun run = run := by
  have hany : run.any isBreak = false := by simpa using h
  rw [flattenRun, hany, if_neg Bool.false_ne_true]

theorem flatten_cons_of_noMatch (h : brokenBlanks.match? (c :: cs) = none) :
    flatten (c :: cs) = c :: flatten cs := Text.Pattern.replace_cons h

/-- A run of blanks without a break stays. -/
theorem flatten_append_of_noBreak (hrun : IsRun true run) (hrest : EndsRun true rest)
    (hnone : ∀ d ∈ run, isBreak d = false) : flatten (run ++ rest) = run ++ flatten rest := by
  induction run with
  | nil => rfl
  | cons c run ih =>
    have hany : (c :: run).any isBreak = false := by simpa using hnone
    have hmatch : brokenBlanks.match? (c :: (run ++ rest)) = none := by
      rw [← List.cons_append, match?_brokenBlanks hrun hrest, hany, if_neg Bool.false_ne_true]
    rw [List.cons_append, flatten_cons_of_noMatch hmatch,
      ih hrun.tail fun d hd => hnone d (List.mem_cons_of_mem c hd), List.cons_append]

/-- What is not blank stays. -/
theorem flatten_append_of_word (hword : IsRun false run) :
    flatten (run ++ rest) = run ++ flatten rest := by
  induction run with
  | nil => rfl
  | cons c run ih =>
    have hc : EndsRun true (c :: (run ++ rest)) := by
      intro d hd
      obtain rfl := Option.some.inj hd
      exact hword c List.mem_cons_self
    have hmatch : brokenBlanks.match? (c :: (run ++ rest)) = none :=
      @match?_brokenBlanks [] (c :: (run ++ rest)) (by simp [IsRun]) hc
    rw [List.cons_append, flatten_cons_of_noMatch hmatch, ih hword.tail, List.cons_append]

/-- Flattening goes run by run. -/
theorem flatten_append {blank : Bool} (hrun : IsRun blank run) (hrest : EndsRun blank rest) :
    flatten (run ++ rest) = flattenRun run ++ flatten rest := by
  by_cases hnone : ∀ d ∈ run, isBreak d = false
  · rw [flattenRun_of_noBreak hnone]
    cases blank with
    | true => exact flatten_append_of_noBreak hrun hrest hnone
    | false => exact flatten_append_of_word hrun
  · have hany : run.any isBreak = true := by simpa using hnone
    obtain ⟨d, hd, hbreak⟩ := List.any_eq_true.mp hany
    obtain rfl : true = blank := (isBlank_of_isBreak hbreak).symm.trans (hrun d hd)
    have hmatch := match?_brokenBlanks hrun hrest
    rw [hany, if_pos rfl] at hmatch
    rw [flattenRun, hany, if_pos rfl]
    exact Text.Pattern.replace_append hmatch

/-- A flattened text is the text with one blank for every maximal run of blanks that holds a
    break. -/
theorem flatten_eq (cs : List Char) : flatten cs = (runs cs).flatMap flattenRun := by
  induction cs using Text.induction_on_runs with
  | nil => rfl
  | append blank run rest hne hrun hrest ih =>
    rw [flatten_append hrun hrest, Text.runs_append hne hrun hrest, List.flatMap_cons, ih]

/-! ## What stays -/

/-- A run that holds a break holds only blanks. -/
theorem visible_flattenRun {blank : Bool} (hrun : IsRun blank run) :
    visible (flattenRun run) = visible run := by
  cases hany : run.any isBreak with
  | false => rw [flattenRun, hany, if_neg Bool.false_ne_true]
  | true =>
    obtain ⟨d, hd, hbreak⟩ := List.any_eq_true.mp hany
    obtain rfl : true = blank := (isBlank_of_isBreak hbreak).symm.trans (hrun d hd)
    have hnone : visible run = [] := by simpa [visible, IsRun] using hrun
    rw [flattenRun, hany, if_pos rfl, hnone]
    decide

/-- Flattening keeps all characters but blanks, in their order. -/
theorem visible_flatten (cs : List Char) : visible (flatten cs) = visible cs := by
  induction cs using Text.induction_on_runs with
  | nil => rfl
  | append blank run rest hne hrun hrest ih =>
    calc visible (flatten (run ++ rest))
        = visible (flattenRun run) ++ visible (flatten rest) := by
          rw [flatten_append hrun hrest]
          exact List.filter_append _ _
      _ = visible run ++ visible rest := by rw [visible_flattenRun hrun, ih]
      _ = visible (run ++ rest) := (List.filter_append _ _).symm

/-- A run that holds a break is not empty, so one blank is no longer than the run. -/
theorem length_flattenRun_le (run : List Char) : (flattenRun run).length ≤ run.length := by
  unfold flattenRun
  split
  · next hany =>
    obtain ⟨d, hd, -⟩ := List.any_eq_true.mp hany
    exact List.length_pos_of_mem hd
  · exact Nat.le_refl _

/-- Flattening never makes a text longer. -/
theorem length_flatten_le (cs : List Char) : (flatten cs).length ≤ cs.length := by
  induction cs using Text.induction_on_runs with
  | nil => exact Nat.le_refl 0
  | append blank run rest hne hrun hrest ih =>
    have hshort := length_flattenRun_le run
    rw [flatten_append hrun hrest, List.length_append, List.length_append]
    omega

end ChatWarden.Chat
