import ChatWarden.CommandLine
import ChatWarden.Log.Line
import ChatWarden.Log.Setup
import ChatWarden.Rehearsal.Clock
import ChatWarden.Rehearsal.Session

/-!
# The program

Runs the bot at the console: each line of the standard input is a chat line, a sender and a text
with a colon between them, and replies go to the standard output. The tools that run snippets and
the services on the web are not there, and the stores live as long as the program. All decisions
are made elsewhere; here the surroundings are read and what was decided is written.
-/

namespace ChatWarden.Console

/-- The fault behind a failure to read a file. -/
def faultOf : IO.Error → Fault
  | .noFileOrDirectory .. => .missingFile
  | .permissionDenied .. => .forbidden
  | .inappropriateType .. => .isDirectory
  | _ => .brokenFile

/-- What reading a file gives. -/
def content (path : String) : IO (Except Fault (List UInt8)) := do
  try return .ok (← IO.FS.readBinFile path).toList
  catch failure => return .error (faultOf failure)

/-- The variables of the environment that settings may come from. -/
def environment : IO (List Config.Settings.Variable) := do
  let names := ["DATABASE_PATH", "LOG_LEVEL", "LOG_FILE", "LOGFIRE_TOKEN", "SANDBOX_ANALYZER_PATH",
    "SANDBOX_IMAGE", "SANDBOX_SCRATCH_DIR", "ANALYZER_TIMEOUT_SECONDS",
    "CONTAINER_TIMEOUT_SECONDS", "GTA_DATA_PATH", "HTTP_TIMEOUT_SECONDS",
    "MAX_CONCURRENT_MESSAGES"].map ("STREAMBOT_" ++ ·)
  let values ← names.mapM fun name => IO.getEnv name
  return (names.zip values).filterMap fun (name, value) =>
    value.map fun value => (name.toList, value.toList)

/-- The time in seconds since the start of 1970, which is that of a file made now. -/
def now : IO Int := do
  let (_, path) ← IO.FS.createTempFile
  let seconds := (← path.metadata).modified.sec
  IO.FS.removeFile path
  return seconds

/-- Writes records to the sinks of a log. -/
def write (setup : Log.Setup) (records : List Log.Record) : IO Unit := do
  let threshold := setup.level.toOption.getD 0
  for record in records do
    let level : Int := match record.level with
      | .debug => 10
      | .info => 20
      | .warning => 30
      | .error => 40
    if Log.Setup.passes threshold level then
      let line : Log.Line := {
        time := Rehearsal.timestamp (← now), level := record.level.name
        logger := record.origin.name, message := record.message
        sender := record.sender.map .str, command := record.command.map .str
        failure := record.failure.map (Log.Line.failureText · "") }
      for sink in setup.sinks do
        match sink with
        | .stream => (← IO.getStderr).putStrLn line.text
        | .file path =>
          let file ← IO.FS.Handle.mk path .append
          file.putStrLn line.text

/-- The chat line that a line of the standard input stands for. -/
def chatLine (line : String) : ChatLine :=
  let cs := line.toList.filter fun c => c != '\n' && c != '\r'
  match Text.cutAt? ':' cs with
  | some (sender, text) => ⟨.ofList (Text.strip text), some (.ofList (Text.strip sender)), false⟩
  | none => ⟨.ofList cs, some "viewer", false⟩

/-- Hears lines of the standard input until it ends. -/
partial def listen (setup : Log.Setup) (session : Rehearsal.Session) : IO Rehearsal.Session := do
  let line ← (← IO.getStdin).getLine
  if line.isEmpty then return session
  let session := session.hear (chatLine line)
  for text in session.stage.trace.sent do IO.println text
  write setup session.stage.trace.records
  listen setup { session with stage := session.stage.cleared }

/-- What the bot meets at the console. -/
def stage (data : Except Fault (List UInt8)) : Rehearsal.Stage where
  analyzer := { mode := .missing }
  container := { connect := some (Rehearsal.containerFault "DockerException") }
  http := .error (Rehearsal.httpFault "ConnectError")
  data := match data with
    | .ok bytes => .bytes bytes
    | .error _ => .missing

/-- Runs the bot of a configuration file with some settings, and yields the exit code. -/
def run (settings : Config.Settings) (path : String) : IO UInt32 := do
  let setup := Log.Setup.make (.name (Launch.logLevel settings)) settings.logFile
  let database : Store.Database := { path := settings.databasePath }
  let launch := Launch.prepare path (← content path) (.ok database)
  write setup launch.records
  match launch.value with
  | .error .refused => return 1
  | .error (.crashed fault) =>
    IO.eprintln fault.name
    return 1
  | .ok (identity, database) =>
    let start := Rehearsal.Session.setUp settings identity database
      (stage (← content settings.dataPath))
    write setup start.records
    match start.value with
    | .error fault =>
      IO.eprintln fault.name
      return 1
    | .ok session =>
      let (before, after, _) := (← listen setup session).finish .returned
      write setup (before ++ after)
      return 0

end ChatWarden.Console

/-- Reads the command line and does what it asks for. -/
def main (arguments : List String) : IO UInt32 := do
  match ChatWarden.CommandLine.read arguments with
  | .help =>
    IO.print ChatWarden.CommandLine.helpText
    return 0
  | .misuse message =>
    IO.eprint (ChatWarden.CommandLine.misuseText message)
    return 2
  | .run path =>
    let environment ← ChatWarden.Console.environment
    match ChatWarden.Config.Settings.ofEnvironment environment [] with
    | .error issues =>
      for issue in issues do IO.eprintln issue.complaint.name
      return 1
    | .ok settings => ChatWarden.Console.run settings path
