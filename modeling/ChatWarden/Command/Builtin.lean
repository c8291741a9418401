import ChatWarden.Command.CustomAdmin
import ChatWarden.Command.DataLine
import ChatWarden.Command.Listing
import ChatWarden.Command.OddsQuery
import ChatWarden.Command.Registry
import ChatWarden.Command.TrustAdmin
import ChatWarden.Lookup.Card
import ChatWarden.Lookup.Weather
import ChatWarden.Sandbox.Pipeline

/-!
# The built-in commands

The twelve commands that the bot always knows, their names, and which of them only trusted users
may call.

Results:
* `Builtin.execute` runs a command without asking who may call it.
* `Builtin.registry` is the frozen registry of all of them.
-/

namespace ChatWarden

/-- A built-in command. -/
inductive Builtin where
  | ping
  | commands
  | weather
  | card
  | odds
  | dataLine
  | node
  | custom (action : CustomAdmin)
  | trust (action : TrustAdmin)
  deriving DecidableEq, Repr

/-- What the built-in commands work with. -/
structure Builtin.Tools where
  client : Lookup.Client
  dataPath : String
  sandbox : Sandbox

namespace Builtin

/-- All built-in commands in the order in which they are registered. -/
def all : List Builtin :=
  [.ping, .commands, .weather, .card, .odds, .dataLine, .node, .custom .create, .custom .update,
   .custom .delete, .trust .grant, .trust .revoke]

instance : IsCommand Builtin where
  name
    | .ping => "ping"
    | .commands => "commands"
    | .weather => "wttr"
    | .card => "card"
    | .odds => "odds"
    | .dataLine => "gta"
    | .node => "node"
    | .custom action => action.commandName
    | .trust action => action.commandName
  requiresTrust
    | .node => true
    | .custom _ => true
    | .trust _ => true
    | _ => false
  label
    | .ping => "PingCommand"
    | .commands => "CommandsCommand"
    | .weather => "WeatherCommand"
    | .card => "CardCommand"
    | .odds => "OddsCommand"
    | .dataLine => "GtaCommand"
    | .node => "NodeCommand"
    | .custom .create => "AddCommandCommand"
    | .custom .update => "UpdateCommandCommand"
    | .custom .delete => "DeleteCommandCommand"
    | .trust .grant => "TrustCommand"
    | .trust .revoke => "UntrustCommand"

/-- The names of the commands in a registry that need no trust, in increasing order. -/
def openNames (registry : Registry Builtin) : List String :=
  (registry.all.filter fun command => !IsCommand.requiresTrust command).map IsCommand.name

/-- Runs a command of a registry. -/
def execute (tools : Tools) (registry : Registry Builtin) (command : Builtin)
    (args sender : String) : Job Reply :=
  match command with
  | .ping => return "Pong!"
  | .commands => Listing.execute (openNames registry)
  | .weather => Lookup.Weather.execute tools.client args
  | .card => Lookup.Card.execute tools.client args
  | .odds => OddsQuery.execute args sender
  | .dataLine => DataLine.execute tools.dataPath args
  | .node => tools.sandbox.execute args sender
  | .custom action => action.execute registry.contains args sender
  | .trust action => action.execute args sender

/-- The frozen registry of all built-in commands. Their names differ, so none is refused. -/
def registry : Log.Journal (Registry Builtin) := do
  match ← Registry.registerAll {} all with
  | .ok registry => registry.freeze
  | .error _ => return {}

end Builtin

end ChatWarden
