import ChatWarden.Config.File
import ChatWarden.Proofs.Chat.Calls
import ChatWarden.Proofs.Chat.Message
import ChatWarden.Proofs.NameMap
import ChatWarden.Proofs.Text.LineEnds
import ChatWarden.Proofs.Text.Splitting

/-!
# Configuration files that are put together

Any entries can be written into a configuration file and are read back: the keys in the order in
which they first come up, each with the value that it was given last. Values stand between double
quotes, so they may be anything that has no number sign and no line end; blanks around the parts,
comments, and lines without an entry change nothing.

Results:
* `WrittenFile`: a file line by line, with all that is free in writing it.
* `entryOfLine?_of_cut`: the entry of a line that is cut at its equals sign.
* `WrittenLine.entryOfLine?_text`: what is read from a line is what was written there.
* `written_file_read_back`: what is read from a file is what was written there.
-/

namespace ChatWarden.Config

open Text (isBlank IsLine LineEnd Trimmed strip stripStart)

/-! ## What is written -/

/-- Blanks inside a line. -/
structure Gap where
  text : List Char
  blank : ∀ c ∈ text, isBlank c = true
  isLine : IsLine text

/-- A key that can be read back. -/
structure Key where
  text : List Char
  trimmed : Trimmed text
  isLine : IsLine text
  noEquals : '=' ∉ text
  noHash : '#' ∉ text

/-- A value that can be read back. -/
structure Value where
  text : List Char
  isLine : IsLine text
  noHash : '#' ∉ text

/-- What stands behind a number sign. -/
structure Comment where
  text : List Char
  isLine : IsLine text

/-- A line with an entry: a key and a value between double quotes, with blanks around the parts, and
    perhaps a comment behind them. -/
structure EntryLine where
  key : Key
  value : Value
  indent : Gap
  beforeSign : Gap
  afterSign : Gap
  behind : Gap
  comment : Option Comment

namespace EntryLine

/-- What stands before the equals sign. -/
def front (line : EntryLine) : List Char :=
  line.indent.text ++ line.key.text ++ line.beforeSign.text

/-- What stands between the equals sign and the comment. -/
def back (line : EntryLine) : List Char :=
  line.afterSign.text ++ ('"' :: line.value.text ++ ['"']) ++ line.behind.text

/-- The comment with its number sign. -/
def remark (line : EntryLine) : List Char :=
  match line.comment with
  | none => []
  | some comment => '#' :: comment.text

/-- The line as it stands in the file. -/
def text (line : EntryLine) : List Char := line.front ++ '=' :: line.back ++ line.remark

end EntryLine

/-- A line: with an entry, or without an equals sign before its comment. Blank lines and lines of a
    comment are of the second kind. -/
inductive WrittenLine where
  | entry (line : EntryLine)
  | other (text : List Char) (isLine : IsLine text) (noEntry : '=' ∉ beforeComment text)

namespace WrittenLine

/-- The line as it stands in the file. -/
def text : WrittenLine → List Char
  | .entry line => line.text
  | .other text _ _ => text

/-- The entry of the line, if it has one. -/
def pair? : WrittenLine → Option Entry
  | .entry line => some (line.key.text, line.value.text)
  | .other _ _ _ => none

end WrittenLine

/-- A file: lines with what ends them, and a last line that nothing ends. If every line is ended,
    the last one is empty. -/
structure WrittenFile where
  ended : List (WrittenLine × LineEnd)
  last : WrittenLine

namespace WrittenFile

/-- The file as it is written. -/
def text (file : WrittenFile) : List Char :=
  file.ended.flatMap (fun (line, ending) => line.text ++ ending.text) ++ file.last.text

/-- The entries in the order in which they are written. -/
def pairs (file : WrittenFile) : List Entry :=
  file.ended.filterMap (·.1.pair?) ++ file.last.pair?.toList

end WrittenFile

/-! ## Reading a line -/

/-- The entry of a line that is cut at its equals sign. -/
theorem entryOfLine?_of_cut {line front back : List Char}
    (h : beforeComment line = front ++ '=' :: back) (hfront : '=' ∉ front) :
    entryOfLine? line = some (strip front, unquoted (strip back)) := by
  have hsign : isBlank '=' = false := by decide
  have hstart : '=' ∉ stripStart front := fun hmem =>
    hfront ((List.dropWhile_suffix _).subset hmem)
  unfold entryOfLine?
  rw [h, Text.strip_append_mark hsign, Text.cutAt?_append hstart, Option.map_some]
  dsimp only
  rw [Text.strip_stripStart, Text.strip_stripEnd]

theorem entryOfLine?_eq_none {line : List Char} (h : '=' ∉ beforeComment line) :
    entryOfLine? line = none := by
  have hstrip : '=' ∉ strip (beforeComment line) := fun hmem => h (Text.strip_subset _ hmem)
  unfold entryOfLine?
  rw [Text.cutAt?_eq_none_iff.mpr hstrip, Option.map_none]

theorem unquoted_quoted (value : List Char) : unquoted ('"' :: value ++ ['"']) = value := by
  rw [List.cons_append, unquoted, List.getLast?_concat, beq_self_eq_true, if_pos rfl,
    List.dropLast_concat]

theorem beforeComment_append {cs : List Char} (h : '#' ∉ cs) (rest : List Char) :
    beforeComment (cs ++ '#' :: rest) = cs := by
  unfold beforeComment
  rw [List.takeWhile_append_of_pos (Text.forall_bne_mark h),
    List.takeWhile_cons_of_neg (by decide), List.append_nil]

theorem beforeComment_of_notMem {cs : List Char} (h : '#' ∉ cs) : beforeComment cs = cs := by
  unfold beforeComment
  rw [List.takeWhile_eq_self_iff]
  exact Text.forall_bne_mark h

theorem Gap.notMem {c : Char} (gap : Gap) (hc : isBlank c = false) : c ∉ gap.text := by
  intro hmem
  rw [gap.blank c hmem] at hc
  cases hc

namespace EntryLine

variable (line : EntryLine)

theorem hash_notMem : '#' ∉ line.front ++ '=' :: line.back := by
  have hgap : ∀ gap : Gap, '#' ∉ gap.text := fun gap => gap.notMem (by decide)
  unfold front back
  simp [hgap, line.key.noHash, line.value.noHash]

theorem equals_notMem : '=' ∉ line.front := by
  have hgap : ∀ gap : Gap, '=' ∉ gap.text := fun gap => gap.notMem (by decide)
  unfold front
  simp [hgap, line.key.noEquals]

theorem beforeComment_text : beforeComment line.text = line.front ++ '=' :: line.back := by
  unfold text remark
  cases line.comment with
  | none =>
    dsimp only
    rw [List.append_nil, beforeComment_of_notMem line.hash_notMem]
  | some comment => exact beforeComment_append line.hash_notMem comment.text

theorem isLine_text : IsLine line.text := by
  have hfront : IsLine line.front :=
    Text.isLine_append.mpr ⟨Text.isLine_append.mpr ⟨line.indent.isLine, line.key.isLine⟩,
      line.beforeSign.isLine⟩
  have hquote : IsLine ['"'] := Text.isLine_cons.mpr ⟨rfl, List.forall_mem_nil _⟩
  have hquoted : IsLine ('"' :: line.value.text ++ ['"']) :=
    Text.isLine_cons.mpr ⟨rfl, Text.isLine_append.mpr ⟨line.value.isLine, hquote⟩⟩
  have hback : IsLine line.back :=
    Text.isLine_append.mpr ⟨Text.isLine_append.mpr ⟨line.afterSign.isLine, hquoted⟩,
      line.behind.isLine⟩
  have hremark : IsLine line.remark := by
    unfold remark
    cases line.comment with
    | none => exact List.forall_mem_nil _
    | some comment => exact Text.isLine_cons.mpr ⟨rfl, comment.isLine⟩
  exact Text.isLine_append.mpr
    ⟨Text.isLine_append.mpr ⟨hfront, Text.isLine_cons.mpr ⟨rfl, hback⟩⟩, hremark⟩

/-- What is read from a line is what was written there. -/
theorem entryOfLine?_text : entryOfLine? line.text = some (line.key.text, line.value.text) := by
  have hquoted : Trimmed ('"' :: line.value.text ++ ['"']) := by
    constructor
    · intro c hc
      rw [List.cons_append, List.head?_cons, Option.some.injEq] at hc
      rw [← hc]
      decide
    · intro c hc
      rw [List.getLast?_concat, Option.some.injEq] at hc
      rw [← hc]
      decide
  have hkey : strip line.front = line.key.text :=
    Text.strip_of_parts line.indent.blank line.beforeSign.blank line.key.trimmed
  have hvalue : strip line.back = '"' :: line.value.text ++ ['"'] :=
    Text.strip_of_parts line.afterSign.blank line.behind.blank hquoted
  rw [entryOfLine?_of_cut line.beforeComment_text line.equals_notMem, hkey, hvalue,
    unquoted_quoted]

end EntryLine

namespace WrittenLine

/-- What is read from a line is what was written there. -/
theorem entryOfLine?_text (line : WrittenLine) : entryOfLine? line.text = line.pair? := by
  cases line with
  | entry line => exact line.entryOfLine?_text
  | other text isLine noEntry => exact entryOfLine?_eq_none noEntry

theorem isLine_text (line : WrittenLine) : IsLine line.text := by
  cases line with
  | entry line => exact line.isLine_text
  | other text isLine noEntry => exact isLine

end WrittenLine

/-! ## Reading a file -/

/-- What is read from the lines of a file is what was written there. -/
theorem WrittenFile.filterMap_lines_text (file : WrittenFile) :
    (Text.lines file.text).filterMap entryOfLine? = file.pairs := by
  have hempty : entryOfLine? [] = none := rfl
  obtain ⟨ended, last⟩ := file
  unfold WrittenFile.text WrittenFile.pairs
  dsimp only
  induction ended with
  | nil =>
    rw [List.flatMap_nil, List.nil_append, List.filterMap_nil, List.nil_append,
      Text.filterMap_lines_of_isLine hempty last.isLine_text, last.entryOfLine?_text]
  | cons first others ih =>
    obtain ⟨line, ending⟩ := first
    rw [List.flatMap_cons, List.append_assoc, List.append_assoc,
      Text.filterMap_lines_append hempty line.isLine_text, ih, line.entryOfLine?_text,
      List.filterMap_eq_flatMap_toList, List.filterMap_eq_flatMap_toList, List.flatMap_cons,
      List.append_assoc]

/-- **Configuration files.** What is read from a file is what was written there, however it was
    written: the keys in the order in which they first come up, each once and with the value that
    stands there last. -/
theorem written_file_read_back (file : WrittenFile) :
    (entries file.text).map Prod.fst = (file.pairs.map Prod.fst).eraseDups ∧
      ∀ key, (entries file.text).lookup key = file.pairs.reverse.lookup key := by
  unfold entries
  rw [file.filterMap_lines_text]
  exact ⟨NameMap.keys_ofPairs _, NameMap.lookup_ofPairs _⟩

/-- A file with a comment, a line without an entry and a key that is given two values. -/
theorem written_file_read_back_of_two_users : ∃ file : WrittenFile,
    file.text = "# who\n user = \"bo=t\" # old\r\nuser\u2028user=\"\"".toList ∧
      (entries file.text).map Prod.fst = ["user".toList] ∧
      (entries file.text).lookup "user".toList = some [] := by
  let user : Key := ⟨"user".toList, by decide, by decide, by decide, by decide⟩
  let noGap : Gap := ⟨[], nofun, nofun⟩
  let blank : Gap := ⟨[' '], List.forall_mem_singleton.mpr (by decide), by decide⟩
  let old : EntryLine := ⟨user, ⟨"bo=t".toList, by decide, by decide⟩, blank, blank, blank, blank,
    some ⟨" old".toList, by decide⟩⟩
  let new : EntryLine := ⟨user, ⟨[], nofun, nofun⟩, noGap, noGap, noGap, noGap, none⟩
  let file : WrittenFile := ⟨[(.other "# who".toList (by decide) (by decide), .single '\n' rfl),
    (.entry old, .both), (.other "user".toList (by decide) (by decide), .single '\u2028' rfl)],
    .entry new⟩
  obtain ⟨hkeys, hvalues⟩ := written_file_read_back file
  exact ⟨file, rfl, hkeys, hvalues "user".toList⟩

/-- Quotes, equals signs and blanks are kept in values, and any line end ends a line. -/
example : entries "a.b = \"x=\"y\" \"#z\u2028a=\" \"\r\n c=d \x85no\x0ba.b=\"\"".toList =
    [("a.b".toList, []), ("a".toList, " ".toList), ("c".toList, "d".toList)] := by decide +kernel

end ChatWarden.Config
