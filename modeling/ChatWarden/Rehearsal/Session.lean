import ChatWarden.Bot.Run
import ChatWarden.Launch
import ChatWarden.Rehearsal.Stage

/-!
# Sessions on a stage

A whole run of the bot on a stage: it is launched and set up, hears lines one after the other, and
is taken down when its connection ends.

Results:
* `Session.begin`, `Session.hear` and `Session.finish` are the parts of a run.
-/

namespace ChatWarden.Rehearsal

/-- A bot that runs on a stage. -/
structure Session where
  settings : Config.Settings
  run : Run
  registry : Registry Builtin
  /-- The number of lines whose handler failed. -/
  failures : Nat := 0
  stage : Stage

namespace Session

/-- The records of a run. -/
def recordsOf (events : List Run.Event) : List Log.Record :=
  events.filterMap fun
    | .wrote record => some record
    | _ => none

/-- Sets a bot up on a stage with its database. -/
def setUp (settings : Config.Settings) (identity : Config.Identity) (database : Store.Database)
    (stage : Stage) : Log.Journal (Except Fault Session) :=
  let (events, outcome) := Run.begin settings identity {}
  ⟨recordsOf events, outcome.map fun run =>
    { settings, run, registry := Run.registry.value, stage := { stage with database } }⟩

/-- Launches the bot of a configuration file on a stage, with an empty database, and sets it up. -/
def begin (settings : Config.Settings) (content : List UInt8) (stage : Stage) :
    Log.Journal (Except Failure Session) := do
  match ← Config.Identity.load "bot.conf" (.ok content) with
  | .error fault => return .error (.fault fault)
  | .ok identity =>
    match ← Launch.openStores identity (.ok { path := stage.database.path }) with
    | .error failure => return .error failure
    | .ok database => return (← setUp settings identity database stage).mapError .fault

/-- The dispatcher that the bot was set up with. -/
def dispatcher (session : Session) : Option (Dispatcher Builtin) :=
  (Run.botOf session.settings session.run.bot.identity session.registry).dispatcher

/-- The bot loses its dispatcher. -/
def detached (session : Session) : Session :=
  { session with run := { session.run with bot := { session.run.bot with dispatcher := none } } }

/-- The bot hears a line, and handles it to its end. -/
def hear (session : Session) (line : ChatLine) : Session :=
  let (failed, stage) := session.stage.play (session.run.bot.hear line)
  { session with stage, failures := session.failures + (if failed then 1 else 0) }

/-- A built-in command without the gate in front of it. -/
def command? (session : Session) (name : String) : Option ((args sender : String) → Job Reply) :=
  (session.registry.get? name).map
    (Builtin.execute (Run.toolsOf session.settings) session.registry)

/-- The events in front of the closing of a component, and those behind it. -/
def cutAtClosing (component : String) : List Run.Event → List Run.Event × List Run.Event
  | [] => ([], [])
  | event :: rest =>
    let isClosing := match event with
      | .ran _ name => name == component
      | _ => false
    if isClosing then ([], rest)
    else
      let (before, after) := cutAtClosing component rest
      (event :: before, after)

/-- The bot is taken down after its connection ended: the records up to the closing of the
    connection, those behind it, and what becomes of the run. -/
def finish (session : Session) (ending : Ending) :
    List Log.Record × List Log.Record × Ending :=
  let (events, outcome) := session.run.finish ending
  let (before, after) := cutAtClosing "twitch connection" events
  (recordsOf before, recordsOf after, outcome)

end Session

end ChatWarden.Rehearsal
