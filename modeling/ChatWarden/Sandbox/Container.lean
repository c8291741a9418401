import ChatWarden.Sandbox.Analyzer
import ChatWarden.Text.Digits

/-!
# Containers

The disposable container that runs one script: without a network, on a file system it cannot
change, and with little memory, time and room for processes.

Results:
* `Container.run` removes the container that it started exactly once, whatever happens to it.
-/

namespace ChatWarden.Sandbox

/-- Where the script is found inside the container. -/
def mountPath : String := "/sandbox/script.js"

/-- The options of a container that runs the script at a path. -/
def containerOptions (path : String) : List (String × Json) :=
  [("command", .arr [.str "node", .str mountPath]),
   ("mem_limit", .str "128m"),
   ("nano_cpus", .int 500000000),
   ("pids_limit", .int 64),
   ("network_mode", .str "none"),
   ("read_only", .bool true),
   ("volumes", .obj [(path, .obj [("bind", .str mountPath), ("mode", .str "ro")])]),
   ("detach", .bool true)]

/-- The service that runs containers: the image to use, and how many seconds a run may take. -/
structure Container where
  image : String
  timeout : Decimal.Number

namespace Container

/-- A record about containers. -/
def record (level : Log.Level) (message : String) : Log.Record :=
  ⟨level, .container, message, none, none, none⟩

/-- Whether the container service answers. -/
def ping : Job Bool := do
  let answer ← match ← Job.request .connect with
    | .ok () => Job.request .ping
    | .error fault => pure (.error fault)
  match answer with
  | .ok () => return true
  | .error fault =>
    if !fault.isContainerTrouble then throw (.fault fault)
    Job.note (record .debug ("Docker ping failed: " ++ fault.shown))
    return false

/-- The exit code that a value stands for. -/
def wholeOf : Json → Except Fault Int
  | .int n => .ok n
  | .bool b => .ok (if b then 1 else 0)
  | .float x =>
    match x, x.truncated? with
    | _, some n => .ok n
    | .nan, none => .error .unreadable
    | _, none => .error ⟨"OverflowError", .other, none⟩
  | .str s =>
    match Text.readInt? s.toList with
    | some n => .ok n
    | none => .error .unreadable
  | _ => .error .wrongKind

/-- The exit code in the status of a container; it is -1 if the status does not tell it. -/
def exitCode : ContainerStatus → Except Fault Int
  | .json (.obj fields) => wholeOf ((fields.lookup "StatusCode").getD (.int (-1)))
  | .json _ => .error .noSuchPart
  | .foreign exitCode => exitCode

/-- What a container wrote, as text. -/
def logText : ContainerLogs → Except Fault String
  | .bytes bytes => .ok (written bytes)
  | .foreign text => text

/-- What a container left behind. -/
def outcomeOf (status : ContainerStatus) (output errors : ContainerLogs) :
    Except Fault Outcome := do
  return ⟨← exitCode status, ← logText output, ← logText errors⟩

/-- Fails as a fault of a running container makes it fail. -/
def brokenRun {α : Type} (id : ContainerName) (fault : Fault) : Job α := do
  if fault.isContainerTrouble then
    Job.note (record .error ("Sandbox container " ++ id ++ " failed: " ++ fault.shown))
    throw (.unavailable .containerBroken)
  else throw (.fault fault)

/-- What a container wrote, or what it wrote as errors. -/
def logs (id : ContainerName) (errors : Bool) : Job ContainerLogs := do
  match ← Job.request (.containerLogs id errors) with
  | .ok logs => return logs
  | .error fault => brokenRun id fault

/-- Waits for a container and collects what it left behind. -/
def collect (container : Container) (id : ContainerName) : Job Outcome := do
  match ← Job.request (.awaitContainer id container.timeout) with
  | .error fault =>
    if fault.family == .stalledLink then
      Job.note (record .error
        ("Sandbox container " ++ id ++ " exceeded " ++ container.timeout.fixed 1 ++ "s"))
      throw (.timedOut .container)
    else brokenRun id fault
  | .ok status =>
    let output ← logs id false
    let errors ← logs id true
    match outcomeOf status output errors with
    | .ok outcome => return outcome
    | .error fault => brokenRun id fault

/-- Removes a container. -/
def remove (id : ContainerName) : Job Unit := do
  match ← Job.request (.removeContainer id) with
  | .ok () => return ()
  | .error fault =>
    if !fault.isContainerTrouble then throw (.fault fault)
    Job.note (record .warning
      ("Failed to remove sandbox container " ++ id ++ ": " ++ fault.shown))

/-- Starts a container that runs a script; its short name is the answer. -/
def start (container : Container) (script : Script) : Job ContainerName := do
  let answer ← match ← Job.request .connect with
    | .ok () => Job.request (.startContainer container.image script)
    | .error fault => pure (.error fault)
  match answer with
  | .ok id => return id
  | .error fault =>
    if !fault.isContainerTrouble then throw (.fault fault)
    Job.note (record .error ("Failed to start sandbox container: " ++ fault.shown))
    throw (.unavailable .containerBroken)

/-- Runs a script in a new container. -/
def run (container : Container) (script : Script) : Job Outcome := do
  let id ← container.start script
  (container.collect id).thenWith fun outcome => do
    remove id
    ExceptT.mk (pure outcome)

end Container

end ChatWarden.Sandbox
