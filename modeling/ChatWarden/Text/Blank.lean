/-!
# Blank characters, trimming and words

Which characters count as blank in a chat line, how a text is trimmed at its ends, and how it is
cut into words.

Results:
* `words` cuts at every run of blanks and keeps no empty word.
* `headWord?` takes the first word off a text and keeps the rest verbatim from its next
  character that is not blank.
-/

namespace ChatWarden.Text

/-- The characters that separate words: the line and tab controls, the four information
    separators and every Unicode space. -/
def isBlank (c : Char) : Bool :=
  let n := c.toNat
  (9 ≤ n && n ≤ 13) || (28 ≤ n && n ≤ 32) || n == 0x85 || n == 0xA0 || n == 0x1680 ||
  (0x2000 ≤ n && n ≤ 0x200A) || n == 0x2028 || n == 0x2029 || n == 0x202F || n == 0x205F ||
  n == 0x3000

/-- A text without its leading blanks. -/
def stripStart (cs : List Char) : List Char := cs.dropWhile isBlank

/-- A text without its trailing blanks. -/
def stripEnd (cs : List Char) : List Char := (cs.reverse.dropWhile isBlank).reverse

/-- A text without the blanks at its two ends. -/
def strip (cs : List Char) : List Char := stripEnd (stripStart cs)

/-- A text without the characters of a set at its two ends. -/
def trimSet (inSet : Char → Bool) (cs : List Char) : List Char :=
  ((cs.dropWhile inSet).reverse.dropWhile inSet).reverse

/-- The longest prefix of a text that holds no blank. -/
def wordAtStart (cs : List Char) : List Char := cs.takeWhile (!isBlank ·)

/-- What follows the first word of a text that starts with one. -/
def afterWord (cs : List Char) : List Char := cs.dropWhile (!isBlank ·)

/-- Dropping a prefix never makes a list longer. -/
theorem length_dropWhile_le (p : Char → Bool) (cs : List Char) :
    (cs.dropWhile p).length ≤ cs.length := by
  induction cs with
  | nil => simp
  | cons c rest ih =>
    by_cases h : p c
    · simp only [List.dropWhile_cons, h, if_true, List.length_cons]; omega
    · simp [h]

/-- The first character kept by `dropWhile` fails its test. -/
theorem head_dropWhile (p : Char → Bool) {cs : List Char} {c : Char} {rest : List Char}
    (h : cs.dropWhile p = c :: rest) : p c = false := by
  induction cs with
  | nil => simp at h
  | cons d ds ih =>
    by_cases hd : p d
    · simp only [List.dropWhile_cons, hd, if_true] at h; exact ih h
    · simp only [List.dropWhile_cons, hd] at h
      simp only [Bool.false_eq_true, if_false, List.cons.injEq] at h
      rw [← h.1]; simpa using hd

/-- The text left behind a word is shorter than the text that held it. -/
theorem length_afterWord_lt {cs : List Char} {c : Char} {rest : List Char}
    (h : stripStart cs = c :: rest) : (afterWord (c :: rest)).length < cs.length := by
  have hc : isBlank c = false := head_dropWhile _ h
  have step : (afterWord (c :: rest)).length ≤ rest.length := by
    simp only [afterWord, List.dropWhile_cons, hc]
    exact length_dropWhile_le _ _
  have whole : (c :: rest).length ≤ cs.length := h ▸ length_dropWhile_le _ _
  simp only [List.length_cons] at whole
  omega

/-- The words of a text in order: its maximal runs of characters that are not blank. -/
def words (cs : List Char) : List (List Char) :=
  match _h : stripStart cs with
  | [] => []
  | c :: rest => wordAtStart (c :: rest) :: words (afterWord (c :: rest))
termination_by cs.length
decreasing_by exact length_afterWord_lt _h

/-- A blank text has no words. -/
theorem words_of_nil {cs : List Char} (h : stripStart cs = []) : words cs = [] := by
  rw [words]
  split
  · rfl
  · next hcons =>
    rw [h] at hcons
    cases hcons

/-- The words of a text are the one that it starts with, without leading blanks, and those behind
    it. -/
theorem words_of_cons {cs : List Char} {c : Char} {rest : List Char} (h : stripStart cs = c :: rest) :
    words cs = wordAtStart (c :: rest) :: words (afterWord (c :: rest)) := by
  rw [words]
  split
  · next hnil =>
    rw [h] at hnil
    cases hnil
  · next hcons =>
    obtain ⟨rfl, rfl⟩ := List.cons.inj (hcons.symm.trans h)
    rfl

/-- The first word of a text and all that follows the blanks behind it, or nothing if the text
    is blank. The second part is empty exactly when no second word follows. -/
def headWord? (cs : List Char) : Option (List Char × List Char) :=
  match stripStart cs with
  | [] => none
  | c :: rest => some (wordAtStart (c :: rest), stripStart (afterWord (c :: rest)))

/-- `strip` on strings. -/
def stripped (s : String) : String := .ofList (strip s.toList)

/-- `words` on strings. -/
def wordsOf (s : String) : List String := (words s.toList).map .ofList

end ChatWarden.Text
