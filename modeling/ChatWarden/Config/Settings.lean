import ChatWarden.Config.EnvFile
import ChatWarden.Config.Issue
import ChatWarden.Config.Number
import ChatWarden.Text.Lower

/-!
# Settings

The settings of the process: where data lie, how to log, which tools run snippets and how long
they may take. They come from environment variables, whose names have a common beginning and no
letter case, and from an environment file where the environment itself is silent.

Results:
* `Settings.ofEnvironment` gives the settings, or all issues with their values in the order of
  the fields.
-/

namespace ChatWarden.Config

open Decimal (Binary64)

/-- The settings of the process. -/
structure Settings where
  databasePath : String := "data/streambot.db"
  logLevel : String := "INFO"
  logFile : String := "streambot.log"
  logfireToken : String := ""
  analyzerPath : String := "vendor/robocop/bin"
  sandboxImage : String := "node-sandbox"
  /-- Where script files go; the empty text stands for the temporary directory of the system. -/
  scratchDir : String := ""
  /-- In seconds. -/
  analyzerTimeout : Binary64 := Binary64.ofInt 5
  /-- In seconds. -/
  containerTimeout : Binary64 := Binary64.ofInt 15
  dataPath : String := "data/main.scm"
  /-- In seconds. -/
  httpTimeout : Binary64 := Binary64.ofInt 10
  maxConcurrent : Int := 32

namespace Settings

/-- A variable and its value. -/
abbrev Variable := List Char × List Char

/-- Where settings come from: the variables of the environment and those of a file. -/
structure Sources where
  environment : List Variable := []
  file : List EnvFile.Binding := []

/-- What goes with the last name that is the given one in lower case. -/
def lastOf? {α : Type} (vars : List (List Char × α)) (name : List Char) : Option α :=
  (vars.reverse.find? fun v => Text.lower v.1 == name).map (·.2)

/-- The value of a setting: that of the last variable of its name, whatever the letter case. The
    file has a say only where the environment is silent. -/
def value? (sources : Sources) (name : String) : Option (List Char) :=
  let full := ("streambot_" ++ name).toList
  match lastOf? sources.environment full with
  | some value => some value
  | none => (lastOf? sources.file full).join

/-- A setting that is a text. -/
def textOr (sources : Sources) (name default : String) : String :=
  ((value? sources name).map .ofList).getD default

/-- A setting that is a floating-point number. -/
def floatOr (sources : Sources) (name : String) (default : Binary64) :
    Except (List Issue) Binary64 :=
  match value? sources name with
  | none => .ok default
  | some value =>
    match readFloat? value with
    | some x => .ok x
    | none => .error [⟨[.field name], .notNumber⟩]

/-- The most bytes of a whole number that are read. -/
def maxWholeBytes : Nat := 4300

/-- A setting that is a whole number. -/
def wholeOr (sources : Sources) (name : String) (default : Int) :
    Except (List Issue) Int :=
  match value? sources name with
  | none => .ok default
  | some value =>
    if maxWholeBytes < (String.ofList value).utf8ByteSize then
      .error [⟨[.field name], .tooLong⟩]
    else match readWhole? value with
      | some n => .ok n
      | none => .error [⟨[.field name], .notWhole⟩]

/-- The issues of a setting that was read. -/
def issuesOf {α : Type} : Except (List Issue) α → List Issue
  | .ok _ => []
  | .error issues => issues

/-- The settings that variables describe. -/
def ofSources (sources : Sources) : Except (List Issue) Settings :=
  let text := textOr sources
  let analyzerTimeout := floatOr sources "analyzer_timeout_seconds" (Binary64.ofInt 5)
  let containerTimeout := floatOr sources "container_timeout_seconds" (Binary64.ofInt 15)
  let httpTimeout := floatOr sources "http_timeout_seconds" (Binary64.ofInt 10)
  let maxConcurrent := wholeOr sources "max_concurrent_messages" 32
  match analyzerTimeout, containerTimeout, httpTimeout, maxConcurrent with
  | .ok analyzerTimeout, .ok containerTimeout, .ok httpTimeout, .ok maxConcurrent =>
    .ok {
      databasePath := text "database_path" "data/streambot.db"
      logLevel := text "log_level" "INFO"
      logFile := text "log_file" "streambot.log"
      logfireToken := text "logfire_token" ""
      analyzerPath := text "sandbox_analyzer_path" "vendor/robocop/bin"
      sandboxImage := text "sandbox_image" "node-sandbox"
      scratchDir := text "sandbox_scratch_dir" ""
      analyzerTimeout, containerTimeout, httpTimeout, maxConcurrent
      dataPath := text "gta_data_path" "data/main.scm" }
  | _, _, _, _ =>
    .error (issuesOf analyzerTimeout ++ issuesOf containerTimeout ++ issuesOf httpTimeout ++
      issuesOf maxConcurrent)

/-- The settings of an environment and, where it is silent, of an environment file. -/
def ofEnvironment (environment : List Variable) (file : List Char) :
    Except (List Issue) Settings :=
  ofSources ⟨environment, EnvFile.settled environment file⟩

end Settings

end ChatWarden.Config
