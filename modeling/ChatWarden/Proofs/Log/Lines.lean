import ChatWarden.Log.Line
import ChatWarden.Proofs.Json.ReadBack
import ChatWarden.Proofs.Text.LineEnds

/-!
# One line for each record

Whatever texts a record holds, its line has no line end, and read back it gives the same texts. So a
log has as many lines as records, and no text that comes from the chat can pass for a record.

Results:
* `Line.fileLines_log`: the lines of a log are those of its records.
* `lines_read_back`: what is read back from the lines of a log.
-/

namespace ChatWarden

namespace Log.Line

open Text (isFileLineEnd fileLines)

/-- The line with texts as its sender and its command, where it is to have them. -/
def about (line : Line) (sender command : Option String) : Line :=
  { line with sender := sender.map .str, command := command.map .str }

/-- The fields of a line, each with its text if the line has it. -/
def told (line : Line) (sender command : Option String) : List (String × Option String) :=
  [("timestamp", some line.time), ("level", some line.level),
    ("logger", some line.logger), ("message", some line.message),
    ("message_id", if line.messageId = "" then none else some line.messageId),
    ("sender", sender), ("command", command), ("exception", line.failure)]

/-- The fields that have a text. -/
def present (fields : List (String × Option String)) : List (String × String) :=
  fields.filterMap fun field => field.2.map (field.1, ·)

/-- The text of a log: each line with a line feed behind it. -/
def log (lines : List Line) : List Char :=
  (lines.map fun line => line.text.toList).flatMap (· ++ ['\n'])

variable {line : Line} {sender command : Option String}

/-! ## The fields -/

theorem mem_present {fields : List (String × Option String)} {name text : String} :
    (name, text) ∈ present fields ↔ (name, some text) ∈ fields := by
  simp only [present, List.mem_filterMap, Option.map_eq_some_iff, Prod.mk.injEq]
  constructor
  · rintro ⟨⟨other, _⟩, hmem, _, rfl, rfl, rfl⟩
    exact hmem
  · exact fun hmem => ⟨_, hmem, text, rfl, rfl, rfl⟩

theorem names_present (fields : List (String × Option String)) :
    ((present fields).map Prod.fst).Sublist (fields.map Prod.fst) := by
  induction fields with
  | nil => exact .slnil
  | cons field rest ih =>
    obtain ⟨name, _ | text⟩ := field
    · exact ih.cons name
    · exact ih.cons_cons name

theorem names_told : ((line.told sender command).map Prod.fst).Nodup := by
  simp [told]

theorem optionalField_eq (name : String) (text : Option String) :
    optionalField name (text.map .str) = (present [(name, text)]).map Json.textField := by
  cases text <;> rfl

theorem json_about :
    (line.about sender command).json = Json.ofTexts (present (line.told sender command)) := by
  have hid : (if line.messageId.isEmpty then [] else [("message_id", Json.str line.messageId)]) =
      (present [("message_id", if line.messageId = "" then none else some line.messageId)]).map
        Json.textField := by
    by_cases hempty : line.messageId = "" <;> simp [present, Json.textField, hempty]
  have happend (front back : List (String × Option String)) :
      (present (front ++ back)).map Json.textField =
        (present front).map Json.textField ++ (present back).map Json.textField := by
    rw [present, List.filterMap_append, List.map_append]
    rfl
  have htold : line.told sender command =
      [("timestamp", some line.time), ("level", some line.level),
        ("logger", some line.logger), ("message", some line.message)] ++
      [("message_id", if line.messageId = "" then none else some line.messageId)] ++
      [("sender", sender)] ++ [("command", command)] ++ [("exception", line.failure)] := rfl
  rw [Json.ofTexts, htold, happend, happend, happend, happend, ← hid, ← optionalField_eq,
    ← optionalField_eq, ← optionalField_eq]
  rfl

/-! ## The lines -/

/-- A line has no line end, whatever is told in it. -/
theorem text_isLine (line : Line) : ∀ c ∈ line.text.toList, isFileLineEnd c = false := by
  intro c hc
  rw [text, Json.text, String.toList_ofList] at hc
  have hle := Json.inLine_chars line.json c hc
  rw [isFileLineEnd, Bool.or_eq_false_iff, beq_eq_false_iff_ne, beq_eq_false_iff_ne]
  exact ⟨fun h => absurd (h ▸ hle) (by decide), fun h => absurd (h ▸ hle) (by decide)⟩

theorem fileLines_log (lines : List Line) :
    fileLines (log lines) = lines.map fun line => line.text.toList :=
  Text.fileLines_written fun text htext => by
    obtain ⟨line, -, rfl⟩ := List.mem_map.mp htext
    exact line.text_isLine

end Log.Line

/-- **One line for each record, and nothing is lost.** No line has a line end in it, whatever is
    told in it, so the lines of a log are those of its records. What is read back from a line is an
    object with the fields that the line has, each of them once and with its text as it was. -/
theorem lines_read_back (lines : List Log.Line) (line : Log.Line) (sender command : Option String) :
    (∀ c ∈ line.text.toList, c ≠ '\n' ∧ c ≠ '\r') ∧
    Text.fileLines (Log.Line.log lines) = lines.map (fun line => line.text.toList) ∧
    ∃ fields, Json.read (line.about sender command).text.toList = .ok (.obj fields) ∧
      (fields.map Prod.fst).Nodup ∧
      ∀ name value, (name, value) ∈ fields ↔
        ∃ text, (name, some text) ∈ line.told sender command ∧ value = .str text := by
  let texts := Log.Line.present (line.told sender command)
  have hnames : (texts.map Prod.fst).Nodup :=
    Log.Line.names_told.sublist (Log.Line.names_present _)
  refine ⟨fun c hc => ?_, Log.Line.fileLines_log lines, texts.map Json.textField, ?_, ?_, ?_⟩
  · have hend := line.text_isLine c hc
    rwa [Text.isFileLineEnd, Bool.or_eq_false_iff, beq_eq_false_iff_ne, beq_eq_false_iff_ne] at hend
  · rw [Log.Line.text, Log.Line.json_about]
    exact Json.read_ofTexts hnames
  · rwa [List.map_map]
  · intro name value
    rw [List.mem_map]
    constructor
    · rintro ⟨⟨_, text⟩, hmem, rfl, rfl⟩
      exact ⟨text, Log.Line.mem_present.mp hmem, rfl⟩
    · rintro ⟨text, hmem, rfl⟩
      exact ⟨(name, text), Log.Line.mem_present.mpr hmem, rfl⟩

end ChatWarden
