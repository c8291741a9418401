import ChatWarden.Text.Path

/-!
# Setting up the log

Where log lines go and from which level on: always to the standard stream, and to a file as well
if one is named.

Results:
* `Setup.make` opens the sinks first and sets the level last, so a level that does not exist
  leaves the sinks in place, while a file that cannot be opened leaves none.
-/

namespace ChatWarden.Log

/-- The level from which on records are written, as it was chosen. -/
inductive LevelChoice where
  | number (n : Int)
  | name (text : String)
  /-- Neither a number nor a name. -/
  | other
  deriving DecidableEq, Repr

/-- Where log lines go. -/
inductive Sink where
  | stream
  | file (path : String)
  deriving DecidableEq, Repr

/-- Why the log could not be set up. -/
inductive SetupFailure where
  /-- There is no directory for the file. -/
  | missingDirectory
  /-- A directory stands in the place of the file. -/
  | isDirectory
  /-- The path of the file holds a character that no path holds. -/
  | badPath
  /-- No level has the chosen name. -/
  | unknownLevel
  /-- The chosen level is neither a number nor a name. -/
  | noLevel
  deriving DecidableEq, Repr

/-- The sinks that were opened, and the level or the failure in setting it. -/
structure Setup where
  sinks : List Sink
  level : Except SetupFailure Int

namespace Setup

/-- The level of a name. -/
def namedLevel? (name : String) : Option Int :=
  [("CRITICAL", 50), ("FATAL", 50), ("ERROR", 40), ("WARN", 30), ("WARNING", 30), ("INFO", 20),
   ("DEBUG", 10), ("NOTSET", 0)].lookup name

/-- The number of a chosen level. -/
def levelOf : LevelChoice → Except SetupFailure Int
  | .number n => .ok n
  | .name text =>
    match namedLevel? text with
    | some n => .ok n
    | none => .error .unknownLevel
  | .other => .error .noLevel

/-- What stops a file from being opened in a working directory without subdirectories. -/
def fileFailure? (path : String) : Option SetupFailure :=
  if Text.Path.isBad path then some .badPath
  else match Text.Path.steps path with
    | [] => some .isDirectory
    | [step] => if step == ['.', '.'] then some .isDirectory else none
    | _ => some .missingDirectory

/-- Opens the sinks and sets the level. An empty path names no file. -/
def make (choice : LevelChoice) (path : String) : Setup :=
  if path.isEmpty then ⟨[.stream], levelOf choice⟩
  else match fileFailure? path with
    | some failure => ⟨[], .error failure⟩
    | none => ⟨[.stream, .file path], levelOf choice⟩

/-- Whether a record of a level is written when the log starts at `threshold`. Levels that are
    not positive never are. -/
def passes (threshold level : Int) : Bool := threshold ≤ level && 0 < level

end Setup

end ChatWarden.Log
