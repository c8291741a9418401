/-!
# Log records

What the bot writes down about its work: a level, the part of the bot that speaks, a message, and
where they are known the sender and the command in question and the failure behind the message.

Results:
* `Journal` is a computation that yields its records, in order, along with its value.
-/

namespace ChatWarden.Log

/-- The levels of records, in increasing order. -/
inductive Level where
  | debug
  | info
  | warning
  | error
  deriving DecidableEq, Repr

/-- The name of a level. -/
def Level.name : Level → String
  | .debug => "DEBUG"
  | .info => "INFO"
  | .warning => "WARNING"
  | .error => "ERROR"

/-- The parts of the bot that write records. -/
inductive Origin where
  | config
  | registry
  | gate
  | dispatcher
  | customAdmin
  | trustAdmin
  | listing
  | dataLines
  | node
  | odds
  | trustStore
  | analyzer
  | container
  | pipeline
  | supervisor
  | closers
  | card
  | weather
  | observability
  | bot
  deriving DecidableEq, Repr

/-- The name under which a part writes its records. -/
def Origin.name : Origin → String
  | .config => "src.config"
  | .registry => "src.core.commands.registry"
  | .gate => "src.core.commands.authorization"
  | .dispatcher => "src.core.commands.dispatcher"
  | .customAdmin => "src.core.commands.builtins.custom"
  | .trustAdmin => "src.core.commands.builtins.trust"
  | .listing => "src.core.commands.builtins.listing"
  | .dataLines => "src.core.commands.builtins.gta"
  | .node => "src.core.commands.builtins.node"
  | .odds => "src.core.commands.builtins.odds"
  | .trustStore => "src.core.trust.repository"
  | .analyzer => "src.core.sandbox.analyzer"
  | .container => "src.core.sandbox.container"
  | .pipeline => "src.core.sandbox.pipeline"
  | .supervisor => "src.core.tasks"
  | .closers => "src.core.lifecycle"
  | .card => "src.services.scryfall"
  | .weather => "src.services.weather"
  | .observability => "src.utils.observability"
  | .bot => "src.interfaces.twitch.bot"

/-- One record. -/
structure Record where
  level : Level
  origin : Origin
  message : String
  /-- The sender of the line that is being handled. -/
  sender : Option String := none
  /-- The command that was called. -/
  command : Option String := none
  /-- The kind of the failure behind the record. -/
  failure : Option String := none
  deriving DecidableEq, Repr

/-- A value together with the records written on the way to it. -/
structure Journal (α : Type) where
  records : List Record
  value : α

namespace Journal

instance : Monad Journal where
  pure a := ⟨[], a⟩
  bind x f := ⟨x.records ++ (f x.value).records, (f x.value).value⟩

/-- Writes one record. -/
def write (record : Record) : Journal Unit := ⟨[record], ()⟩

end Journal

end ChatWarden.Log
