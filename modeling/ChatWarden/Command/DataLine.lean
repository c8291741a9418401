import ChatWarden.Command.Reply
import ChatWarden.Text.Blank
import ChatWarden.Text.Lines
import ChatWarden.Text.Lower
import ChatWarden.Text.Split
import ChatWarden.Text.Utf8
import ChatWarden.Work.Basic

/-!
# Lines of the data file

The command that quotes a random line of a text file, or a random one among those that hold the
text behind the command, whatever the case of letters.

Results:
* `DataLine.matching` are the lines to pick from.
-/

namespace ChatWarden.DataLine

/-- The lines of a file that are not blank, without the blanks at their ends. -/
def linesOf (bytes : List UInt8) : List String :=
  (((Text.fileLines (Text.utf8Lossy bytes)).map Text.strip).filter (!·.isEmpty)).map .ofList

/-- The lines that hold the text between the blanks of the arguments, compared in lower case. An
    empty text is in every line. -/
def matching (args : String) (lines : List String) : List String :=
  let wanted := Text.lower (Text.strip args.toList)
  if wanted.isEmpty then lines
  else lines.filter fun line => Text.occursIn wanted (Text.lower line.toList)

/-- Runs the command on the file at a path. -/
def execute (path args : String) : Job Reply := do
  match ← Job.request .readData with
  | .error fault =>
    if !fault.isFileTrouble then throw (.fault fault)
    Job.note ⟨.error, .dataLines, "Failed to read " ++ path ++ ": " ++ fault.shown,
      none, none, none⟩
    return "Error reading file"
  | .ok bytes =>
    let lines := matching args (linesOf bytes)
    if h : lines = [] then return ""
    else
      let n ← Job.request (.draw lines)
      return lines.get ⟨n % lines.length, Nat.mod_lt _ (List.length_pos_iff.mpr h)⟩

end ChatWarden.DataLine
