import ChatWarden.Rehearsal.Disk
import ChatWarden.Rehearsal.Reading
import ChatWarden.Rehearsal.Trouble
import ChatWarden.Rehearsal.Web
import ChatWarden.Work.Basic

/-!
# The stage of a rehearsal

Surroundings that follow a script: tools, services and a channel that answer every request as they
were told to, a database, a scratch directory, and a record of all that was asked for. Work that
is run on a stage shows what the bot would do.

Results:
* `Stage.answer` answers one request, so `Stage.play` runs any work.
-/

namespace ChatWarden.Rehearsal

/-- What the analyzer does when it is run. -/
inductive AnalyzerMode where
  /-- It writes what it was told to. -/
  | run
  /-- It writes the snippet, and as errors the snippet behind a banner. -/
  | echo
  /-- It never ends. -/
  | hang
  /-- It is not there. -/
  | missing
  /-- It is there and cannot be started. -/
  | forbidden
  /-- It is there and is no program. -/
  | badFormat
  deriving DecidableEq, Repr

/-- The script of the analyzer. -/
structure AnalyzerScript where
  mode : AnalyzerMode := .run
  output : List UInt8 := []
  errors : List UInt8 := []
  exitCode : Int := 0
  deriving DecidableEq, Repr

/-- What happens to the script file while its container runs. -/
inductive Theft where
  | none
  /-- The file is removed. -/
  | removed
  /-- A directory takes its place. -/
  | replaced
  deriving DecidableEq, Repr

/-- The script of the container service: the fault of each call that has one, the status of the
    container, and what it writes. -/
structure ContainerScript where
  connect : Option Fault := none
  ping : Option Fault := none
  run : Option Fault := none
  wait : Option Fault := none
  logs : Option Fault := none
  remove : Option Fault := none
  status : Json := .obj [("StatusCode", .int 0)]
  output : List UInt8 := []
  errors : List UInt8 := []
  theft : Theft := .none

/-- The directory that script files go to. -/
inductive Scratch where
  /-- The configured one. -/
  | configured
  /-- That of the system. -/
  | system
  /-- One where no file can be made. -/
  | unusable (fault : Fault)
  deriving DecidableEq, Repr

/-- The scratch directory of a name. On a stage there is one directory, next to the analyzer; the
    empty name stands for the directory of the system. -/
def Scratch.ofName (name : String) : Scratch :=
  if name.isEmpty then .system
  else if Text.Path.isBad name then .unusable .badPath
  else
    match (Text.Path.steps name).map String.ofList with
    | ["scratch"] => .configured
    | "analyzer" :: _ => .unusable .notADirectory
    | _ => .unusable .missingFile

/-- What stands in the place of a script file. -/
inductive ScriptFile where
  | file (text : String)
  | directory
  deriving DecidableEq, Repr

/-- The data file. -/
inductive DataFile where
  | missing
  | directory
  | bytes (content : List UInt8)
  deriving DecidableEq, Repr

/-- A call of the container service. -/
inductive ContainerCall where
  | connect
  | ping
  /-- A container is started for a script file, which has a text if it is there. -/
  | run (image : String) (text : Option String) (inScratch : Bool)
  | wait (timeout : Decimal.Number)
  | logs (errors : Bool)
  | remove
  deriving DecidableEq, Repr

/-- What was asked for, in order. -/
structure Trace where
  records : List Log.Record := []
  sent : List String := []
  fetched : List Http.Request := []
  clients : List Decimal.Number := []
  asked : List String := []
  pools : List (List String) := []
  calls : List ContainerCall := []

/-- Surroundings that follow a script. -/
structure Stage where
  database : Store.Database := .fresh "streambot.db"
  /-- What else is on the disk. -/
  disk : Disk := {}
  /-- The message with which every look-up of trust fails, if they do. -/
  trustTrouble : Option String := none
  analyzer : AnalyzerScript := {}
  container : ContainerScript := {}
  http : Except Fault Http.Response := WebScript.answer {}
  data : DataFile := .missing
  pick : Int := 0
  joined : Bool := true
  sendTrouble : Option Fault := none
  scratch : Scratch := .configured
  /-- Whether files cannot be shared. -/
  sharingFails : Bool := false
  /-- Whether there is a link to the container service. -/
  connected : Bool := false
  scripts : List (Script × ScriptFile) := []
  nextScript : Script := 0
  trace : Trace := {}

namespace Stage

/-- The stage with more in its trace. -/
def traced (stage : Stage) (change : Trace → Trace) : Stage :=
  { stage with trace := change stage.trace }

/-- The stage with one more call of the container service in its trace. -/
def called (stage : Stage) (call : ContainerCall) : Stage :=
  stage.traced fun t => { t with calls := t.calls ++ [call] }

/-- The longest argument that a program takes, in bytes with the end mark. -/
def maxArgument : Nat := 131072

/-- How a run of the analyzer over a snippet ends. -/
def analyzerRun (script : AnalyzerScript) (snippet : String) : AnalyzerRun :=
  if Text.Path.isBad snippet then .notStarted .badPath
  else if maxArgument ≤ snippet.utf8ByteSize then .notStarted Fault.brokenFile
  else match script.mode with
    | .run => .ended script.exitCode script.output script.errors
    | .echo =>
      .ended script.exitCode (Text.utf8Bytes snippet)
        (Text.utf8Bytes ("l0\nl1\nl2\nl3\n" ++ snippet))
    | .hang => .overran none
    | .missing => .notStarted Fault.missingFile
    | .forbidden => .notStarted Fault.forbidden
    | .badFormat => .notStarted Fault.brokenFile

/-- What becomes of a script file while its container runs. -/
def afterTheft (theft : Theft) (script : Script) (files : List (Script × ScriptFile)) :
    List (Script × ScriptFile) :=
  match theft with
  | .none => files
  | .removed => files.filter (·.1 != script)
  | .replaced => files.map fun entry => if entry.1 == script then (script, .directory) else entry

/-- The text of a script file that is there. -/
def scriptText? (stage : Stage) (script : Script) : Option String :=
  match stage.scripts.lookup script with
  | some (.file text) => some text
  | _ => none

/-- A fault, if there is one, instead of a value. -/
def orFault {α : Type} (fault : Option Fault) (value : α) : Except Fault α :=
  match fault with
  | some fault => .error fault
  | none => .ok value

/-- Answers one request. -/
def answer (stage : Stage) : (request : Request) → request.Answer × Stage
  | .note record => ((), stage.traced fun t => { t with records := t.records ++ [record] })
  | .store (.isTrusted user) =>
    let stage := stage.traced fun t => { t with asked := t.asked ++ [user] }
    match stage.trustTrouble with
    | some message => (.error (.told message), stage)
    | none =>
      let (result, database) := stage.database.answer (.isTrusted user)
      (result, { stage with database })
  | .store query =>
    let (result, database) := stage.database.answer query
    (result, { stage with database })
  | .readData =>
    (match stage.data with
      | .missing => .error Fault.missingFile
      | .directory => .error Fault.isDirectory
      | .bytes content => .ok content, stage)
  | .draw lines =>
    ((stage.pick.emod lines.length).toNat,
      stage.traced fun t => { t with pools := t.pools ++ [lines] })
  | .openClient timeout =>
    ((), stage.traced fun t => { t with clients := t.clients ++ [timeout] })
  | .fetch request =>
    match sent? request with
    | none => (.error .invalidAddress, stage)
    | some sent => (stage.http, stage.traced fun t => { t with fetched := t.fetched ++ [sent] })
  | .findAnalyzer => (stage.analyzer.mode != .missing, stage)
  | .analyze snippet => (analyzerRun stage.analyzer snippet, stage)
  | .connect =>
    if stage.connected then (.ok (), stage)
    else
      let stage := stage.called .connect
      match stage.container.connect with
      | some fault => (.error fault, stage)
      | none => (.ok (), { stage with connected := true })
  | .ping => (orFault stage.container.ping (), stage.called .ping)
  | .makeScript =>
    match stage.scratch with
    | .unusable fault => (.error fault, stage)
    | _ =>
      let script := stage.nextScript
      (.ok script, { stage with
        scripts := stage.scripts ++ [(script, .file "")], nextScript := script + 1 })
  | .writeScript script text =>
    (.ok (), { stage with scripts := stage.scripts.map fun entry =>
      if entry.1 == script then (script, .file text) else entry })
  | .shareScript _ =>
    (orFault (if stage.sharingFails then some Fault.brokenFile else none) (), stage)
  | .removeScript script =>
    match stage.scripts.lookup script with
    | none => (.error Fault.missingFile, stage)
    | some .directory => (.error Fault.isDirectory, stage)
    | some (.file _) =>
      (.ok (), { stage with scripts := stage.scripts.filter (·.1 != script) })
  | .startContainer image script =>
    let stage := stage.called
      (.run image (stage.scriptText? script) (stage.scratch == .configured))
    let stage := { stage with
      scripts := afterTheft stage.container.theft script stage.scripts }
    (orFault stage.container.run "abc123", stage)
  | .awaitContainer _ timeout =>
    (orFault stage.container.wait (.json stage.container.status), stage.called (.wait timeout))
  | .containerLogs _ errors =>
    (orFault stage.container.logs
      (.bytes (if errors then stage.container.errors else stage.container.output)),
      stage.called (.logs errors))
  | .removeContainer _ => (orFault stage.container.remove (), stage.called .remove)
  | .findChannel => (stage.joined, stage)
  | .send text =>
    match stage.sendTrouble with
    | some fault => (.error fault, stage)
    | none => (.ok (), stage.traced fun t => { t with sent := t.sent ++ [text] })

/-- Runs work on a stage. -/
def play {α : Type} (stage : Stage) (work : Work α) : α × Stage :=
  work.run (fun request stage => stage.answer request) stage

/-- Runs a job on a stage. -/
def perform {α : Type} (stage : Stage) (job : Job α) : Except Failure α × Stage :=
  stage.play job.attempt

/-- The disk with what stands at the path of the database. -/
def fullDisk (stage : Stage) : Disk :=
  stage.disk.withPlace (Text.Path.steps stage.database.path)
    (match stage.database.medium with
      | .database => .database
      | .directory => .directory
      | .junk => .file [0])

/-- Opens the store of one table at a path. At the path of the database this is the table of the
    database. -/
def openStore (stage : Stage) (path : String) (table : Store.TableName) :
    Except Failure Unit × Stage :=
  if Text.Path.steps path == Text.Path.steps stage.database.path then
    let (outcome, database) := { stage.database with path }.migrate table
    (outcome.mapError .store,
      { stage with database := { database with path := stage.database.path } })
  else
    let (outcome, disk) := stage.fullDisk.openStore path table
    (outcome, { stage with disk })

/-- The path of the store of commands that all parts share. It is opened for the first who asks
    for it, and the path that others ask for does not matter. -/
def openShared (stage : Stage) (path : String) : Except Failure String × Stage :=
  match stage.disk.shared with
  | some path => (.ok path, stage)
  | none =>
    match stage.openStore path .commands with
    | (.error failure, stage) => (.error failure, stage)
    | (.ok (), stage) => (.ok path, { stage with disk := { stage.disk with shared := some path } })

/-- The stage with an empty trace. -/
def cleared (stage : Stage) : Stage := { stage with trace := {} }

end Stage

end ChatWarden.Rehearsal
