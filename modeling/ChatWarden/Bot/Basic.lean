import ChatWarden.Channel
import ChatWarden.Command.Builtin
import ChatWarden.Command.Dispatcher
import ChatWarden.Config.Identity
import ChatWarden.Supervision.Supervisor

/-!
# The bot

What the bot does about everything that reaches it from the chat: lines are handled by tasks of
their own, all else is only written down.

Results:
* `Bot.handler?` is the handler of a line; echoes of the bot's own lines and lines without a
  sender have none.
* `Bot.hear` runs the handler to its end, whatever becomes of it.
-/

namespace ChatWarden

/-- A line from the chat. -/
structure ChatLine where
  text : String
  sender : Option String
  /-- Whether the bot sent the line itself. -/
  isEcho : Bool := false
  deriving DecidableEq, Repr

/-- The bot: who it is, and what handles lines once that is there. -/
structure Bot where
  identity : Config.Identity
  dispatcher : Option (Dispatcher Builtin) := none

namespace Bot

/-- A record about the bot. -/
def record (level : Log.Level) (message : String) (failure : Option String := none) : Log.Record :=
  ⟨level, .bot, message, none, none, failure⟩

/-- A text that may be missing, as messages show it. -/
def shown (text : Option String) : String := text.getD "None"

/-- The connection is ready; `nick` is the name that it gave the bot. -/
def ready (bot : Bot) (nick : Option String) : Log.Record :=
  record .info ("Logged in as " ++ shown nick ++ ", joining #" ++ bot.identity.channel)

/-- A user joined a channel. -/
def joined (channel user : String) : Log.Record := record .info (user ++ " joined #" ++ channel)

/-- A user left. -/
def parted (user : String) : Log.Record := record .info (user ++ " left the channel")

/-- The chat sent a notice, which may have an identifier. -/
def noticed (message : String) (id : Option String) : Log.Record :=
  record .info ("Notice (" ++ shown id ++ "): " ++ message)

/-- The connection reported a fault. -/
def troubled (fault : Fault) : Log.Record :=
  record .error ("Twitch connection error: " ++ fault.shown) fault.name

/-- Sends a reply to the channel of the bot. -/
def send (bot : Bot) (reply : Reply) : Job Unit := Channel.send bot.identity.channel reply

/-- The handler of a line, with the name of its task. -/
def handler? (bot : Bot) (line : ChatLine) : Work (Option (String × Job Unit)) :=
  match line.sender with
  | none => pure none
  | some sender =>
    if line.isEcho then pure none
    else match bot.dispatcher with
      | none => do
        Work.note (record .warning "Message received before the dispatcher was attached")
        return none
      | some dispatcher =>
        pure (some ("message-" ++ sender, dispatcher.handle bot.send line.text sender))

/-- Handles a line to its end. A failure that escapes is written down; the answer tells whether
    one did. -/
def hear (bot : Bot) (line : ChatLine) : Work Bool := do
  match ← bot.handler? line with
  | none => return false
  | some (name, job) =>
    match ← job.attempt with
    | .ok () => return false
    | .error failure =>
      Work.note (Supervision.escaped name failure.kind)
      return true

end Bot

end ChatWarden
