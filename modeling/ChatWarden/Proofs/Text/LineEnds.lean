import ChatWarden.Text.Lines
import Mathlib.Data.List.Basic

/-!
# Lines that are put together

A text that is put together from lines and line ends is cut into the same lines, but for one case:
a carriage return and a line feed that come to stand side by side end one line and not two. The
line that is lost between them is empty, so whoever makes nothing of empty lines misses nothing.

Results:
* `lines_append_end`, `lines_append_both`: the first line of a text.
* `filterMap_lines_append`: what is made of the lines, whatever ends the first of them.
* `lines_plainLineEnds`: the lines do not depend on how the ends of files are written.
* `fileLines_written`: a file that is written line by line.
-/

namespace ChatWarden.Text

variable {c : Char} {line rest : List Char}

/-- The text has no line end. -/
def IsLine (cs : List Char) : Prop := ∀ c ∈ cs, isLineEnd c = false

instance : DecidablePred IsLine := fun cs =>
  decidable_of_iff (cs.all (!isLineEnd ·) = true) (by simp [IsLine])

theorem isLine_append {front back : List Char} :
    IsLine (front ++ back) ↔ IsLine front ∧ IsLine back := List.forall_mem_append

theorem isLine_cons {cs : List Char} : IsLine (c :: cs) ↔ isLineEnd c = false ∧ IsLine cs :=
  List.forall_mem_cons

/-- What ends a line: a character that does so alone, or a carriage return with its line feed. -/
inductive LineEnd where
  | single (c : Char) (ends : isLineEnd c = true)
  | both

/-- The characters of a line end. -/
def LineEnd.text : LineEnd → List Char
  | .single c _ => [c]
  | .both => ['\r', '\n']

/-! ## Reading a line -/

section Cut

variable {ends : Char → Bool}

theorem cutLines_cons (hreturn : ends '\r' = true) (h : ends c = false) (current rest : List Char) :
    cutLines ends current (c :: rest) = cutLines ends (c :: current) rest := by
  rw [cutLines, h]
  · rfl
  · rintro after rfl -
    exact absurd h (by rw [hreturn]; decide)

theorem cutLines_append (hreturn : ends '\r' = true) (h : ∀ c ∈ line, ends c = false)
    (current rest : List Char) :
    cutLines ends current (line ++ rest) = cutLines ends (line.reverse ++ current) rest := by
  induction line generalizing current with
  | nil => rfl
  | cons c line ih =>
    obtain ⟨hc, hline⟩ := List.forall_mem_cons.mp h
    rw [List.cons_append, cutLines_cons hreturn hc, ih hline, List.reverse_cons, List.append_assoc]
    rfl

theorem cutLines_end (h : ends c = true) (hfeed : c = '\r' → rest.head? ≠ some '\n')
    (current : List Char) :
    cutLines ends current (c :: rest) = current.reverse :: cutLines ends [] rest := by
  rw [cutLines, h]
  · rfl
  · rintro after hc rfl
    exact hfeed hc rfl

end Cut

theorem cutLines_both (current rest : List Char) :
    cutLines isLineEnd current ('\r' :: '\n' :: rest) = current.reverse :: lines rest := by
  rw [cutLines]
  rfl

/-! ## The first line -/

theorem lines_append_end (hline : IsLine line) (h : isLineEnd c = true)
    (hfeed : c = '\r' → rest.head? ≠ some '\n') :
    lines (line ++ c :: rest) = line :: lines rest := by
  rw [lines, cutLines_append rfl hline, cutLines_end h hfeed, List.append_nil,
    List.reverse_reverse, lines]

theorem lines_append_both (hline : IsLine line) (rest : List Char) :
    lines (line ++ '\r' :: '\n' :: rest) = line :: lines rest := by
  rw [lines, cutLines_append rfl hline, cutLines_both, List.append_nil, List.reverse_reverse]

/-- A text that begins with a line end begins with an empty line. -/
theorem lines_end (h : isLineEnd c = true) (hfeed : c = '\r' → rest.head? ≠ some '\n') :
    lines (c :: rest) = [] :: lines rest := cutLines_end h hfeed []

/-- A text without line ends is its only line, if it is not empty. -/
theorem lines_of_isLine (h : IsLine line) : lines line = if line = [] then [] else [line] := by
  have happend := cutLines_append rfl h [] []
  rw [List.append_nil, List.append_nil] at happend
  rw [lines, happend]
  cases hreverse : line.reverse with
  | nil =>
    rw [if_pos (List.reverse_eq_nil_iff.mp hreverse)]
    rfl
  | cons c back =>
    have hne : line ≠ [] := by
      rintro rfl
      cases hreverse
    rw [if_neg hne, cutLines, ← hreverse, List.reverse_reverse]

/-! ## All lines -/

section Made

variable {α : Type} {f : List Char → Option α}

theorem filterMap_lines_of_isLine (hempty : f [] = none) (h : IsLine line) :
    (lines line).filterMap f = (f line).toList := by
  rw [lines_of_isLine h]
  by_cases hnil : line = []
  · rw [if_pos hnil, hnil, hempty]
    rfl
  · rw [if_neg hnil, List.filterMap_eq_flatMap_toList, List.flatMap_singleton]

/-- What is made of the lines of a text, if nothing is made of empty ones: it does not matter what
    ends the first line. -/
theorem filterMap_lines_append (hempty : f [] = none) (hline : IsLine line) (ending : LineEnd)
    (rest : List Char) :
    (lines (line ++ (ending.text ++ rest))).filterMap f =
      (f line).toList ++ (lines rest).filterMap f := by
  have hfirst : ∀ others, (line :: others).filterMap f = (f line).toList ++ others.filterMap f := by
    intro others
    rw [List.filterMap_eq_flatMap_toList, List.flatMap_cons, ← List.filterMap_eq_flatMap_toList]
  cases ending with
  | both => rw [← hfirst, ← lines_append_both hline, LineEnd.text, List.cons_append,
      List.singleton_append]
  | single c ends =>
    rw [LineEnd.text, List.singleton_append]
    by_cases hfeed : c = '\r' → rest.head? ≠ some '\n'
    · rw [lines_append_end hline ends hfeed, hfirst]
    · -- The end of this line and the one behind it are one end, and an empty line is lost.
      obtain ⟨rfl, hhead⟩ := Classical.not_imp.mp hfeed
      obtain ⟨after, rfl⟩ := List.head?_eq_some_iff.mp (Classical.not_not.mp hhead)
      have hlost : lines ('\n' :: after) = [] :: lines after :=
        lines_end (by decide) (fun h => absurd h (by decide))
      rw [lines_append_both hline, hlost, hfirst, List.filterMap_cons_none hempty]

end Made

/-! ## Line ends of files -/

theorem cutLines_plainLineEnds (current cs : List Char) :
    cutLines isLineEnd current (plainLineEnds cs) = cutLines isLineEnd current cs := by
  have hplain : ∀ d : Char, d ≠ '\r' → (if d == '\r' then '\n' else d) = d := by
    intro d hd
    rw [if_neg (by simpa using hd)]
  have hfeed : ∀ (current rest : List Char),
      cutLines isLineEnd current ('\n' :: rest) = current.reverse :: lines rest :=
    fun current rest => cutLines_end (by decide) (fun h => absurd h (by decide)) current
  fun_induction plainLineEnds cs generalizing current with
  | case1 => rfl
  | case2 rest ih =>
    rw [hfeed, cutLines_both]
    exact congrArg _ (ih [])
  | case3 c rest hboth ih =>
    by_cases hreturn : c = '\r'
    · have hhead : c = '\r' → rest.head? ≠ some '\n' := by
        intro _ hhead
        obtain ⟨after, rfl⟩ := List.head?_eq_some_iff.mp hhead
        exact hboth after hreturn rfl
      rw [hreturn, beq_self_eq_true, if_pos rfl, hfeed, ← hreturn,
        cutLines_end (hreturn ▸ by decide) hhead]
      exact congrArg _ (ih [])
    · rw [hplain c hreturn]
      cases hend : isLineEnd c with
      | false => rw [cutLines_cons rfl hend, cutLines_cons rfl hend, ih]
      | true =>
        have hother : ∀ rest : List Char, c = '\r' → rest.head? ≠ some '\n' :=
          fun _ h => absurd h hreturn
        rw [cutLines_end hend (hother _), cutLines_end hend (hother _)]
        exact congrArg _ (ih [])

/-- The lines do not depend on how the ends of files are written. -/
theorem lines_plainLineEnds (cs : List Char) : lines (plainLineEnds cs) = lines cs :=
  cutLines_plainLineEnds [] cs

/-! ## Files that are written line by line -/

/-- Texts that are written into a file, each with a line feed behind it, are its lines, if none of
    them has a line end. -/
theorem fileLines_written {texts : List (List Char)}
    (h : ∀ text ∈ texts, ∀ c ∈ text, isFileLineEnd c = false) :
    fileLines (texts.flatMap (· ++ ['\n'])) = texts := by
  induction texts with
  | nil => rfl
  | cons text rest ih =>
    obtain ⟨htext, hrest⟩ := List.forall_mem_cons.mp h
    rw [fileLines, List.flatMap_cons, List.append_assoc, cutLines_append rfl htext,
      List.singleton_append, cutLines_end rfl (fun h => absurd h (by decide)), List.append_nil,
      List.reverse_reverse, ← fileLines, ih hrest]

end ChatWarden.Text
