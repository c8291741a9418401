import ChatWarden.Bot.Basic
import ChatWarden.Closers
import ChatWarden.Config.Settings

/-!
# A run of the bot

The bot opens what it needs, registers how to close it again, listens until the connection ends,
and then runs the closers: the connection is closed first, then the tasks that handle lines, then
the client for requests over HTTP. What is made by a library may fail in any way.

Results:
* `Run.begin` sets the bot up, `Run.finish` takes it down.
-/

namespace ChatWarden

/-- What can be seen of a run. -/
inductive Run.Event where
  | wrote (record : Log.Record)
  /-- The client for requests over HTTP was made. -/
  | openedClient
  /-- The closer of a registration was run. -/
  | ran (registration : Nat) (component : String)
  deriving DecidableEq, Repr

/-- What a run works with: what comes of making the bot, and what the closers do. -/
structure Run.Equipment where
  /-- The fault for which the bot cannot be made. -/
  trouble : Option Fault := none
  client : Closer := .silent
  tasks : Closer := .writes (Supervision.stopped 0) .silent
  connection : Closer := .silent

/-- A bot that is set up, with its closers. -/
structure Run where
  bot : Bot
  closers : Closers

namespace Run

/-- What can be seen of closers, as a part of a run. -/
def Event.ofClosers : Closers.Event → Event
  | .wrote record => .wrote record
  | .ran registration component => .ran registration component

/-- The closers of a run, in the order of their registration. -/
def closersOf (equipment : Equipment) : Closers :=
  (Closers.register (Closers.register (Closers.register {} "http client" equipment.client)
    "message tasks" equipment.tasks) "twitch connection" equipment.connection)

/-- What the built-in commands work with. -/
def toolsOf (settings : Config.Settings) : Builtin.Tools where
  client := .shared
  dataPath := settings.dataPath
  sandbox := {
    analyzer := ⟨settings.analyzerPath, .float settings.analyzerTimeout⟩
    container := ⟨settings.sandboxImage, .float settings.containerTimeout⟩ }

/-- The frozen registry of built-in commands, with a record that lists them. -/
def registry : Log.Journal (Registry Builtin) := do
  let registry ← Builtin.registry
  Log.Journal.write (Bot.record .info ("Registered " ++ toString registry.size ++
    " built-in commands: " ++ Text.quotedList registry.names))
  return registry

/-- The bot of an identity over a registry. -/
def botOf (settings : Config.Settings) (identity : Config.Identity)
    (registry : Registry Builtin) : Bot where
  identity
  dispatcher := (Dispatcher.make registry (Builtin.execute (toolsOf settings) registry)
    identity.mark).toOption

/-- Sets the bot up, until it is about to connect. It fails after the client was made if the
    settings ask for a negative number of slots, or if the bot cannot be made. -/
def begin (settings : Config.Settings) (identity : Config.Identity) (equipment : Equipment) :
    List Event × Except Fault Run :=
  let registry := registry
  let events := .openedClient :: registry.records.map .wrote
  match Supervision.Supervisor.ofSlots? settings.maxConcurrent, equipment.trouble with
  | none, _ => (events, .error .unreadable)
  | some _, some fault => (events, .error fault)
  | some _, none =>
    let closers := closersOf equipment
    (events ++ closers.events.map .ofClosers ++
      [.wrote (Bot.record .info ("Connecting to Twitch as " ++ Bot.shown identity.user ++ "..."))],
      .ok ⟨botOf settings identity registry.value, { closers with events := [] }⟩)

/-- How a run ends behind its connection: that the connection was cancelled is no failure. -/
def outcomeOf : (connection : Ending) → Ending
  | .failed fault => .failed fault
  | _ => .returned

/-- Takes the bot down after its connection ended. That a closer is cancelled breaks this off,
    whatever became of the connection. -/
def finish (run : Run) (ending : Ending) : List Event × Ending :=
  let signal := if ending == .cancelled then [.wrote (Bot.record .info "Received shutdown signal")]
    else []
  let (closers, isCancelled) := run.closers.shutDown
  let events := signal ++ closers.events.map .ofClosers
  if isCancelled then (events, .cancelled)
  else (events ++ [.wrote (Bot.record .info "Twitch bot stopped")], outcomeOf ending)

end Run

end ChatWarden
