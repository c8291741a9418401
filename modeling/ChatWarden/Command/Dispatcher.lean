import ChatWarden.Chat.Call
import ChatWarden.Chat.Subject
import ChatWarden.Command.Gate

/-!
# Handling chat lines

The way of a chat line to its reply. A call goes to the built-in command of its name, behind the
gate, or else to the custom command of its name; all other lines are checked for subjects. What
is not empty is said in the chat.

Results:
* `Dispatcher.resolve` finds the reply, `Dispatcher.handle` also says it.
* `Dispatcher.make` takes only a registry that is frozen.
-/

namespace ChatWarden

/-- What handles chat lines: the commands, how to run them, and the mark of calls. -/
structure Dispatcher (κ : Type) where
  registry : Registry κ
  execute : κ → (args sender : String) → Job Reply
  mark : String

namespace Dispatcher

variable {κ : Type} [IsCommand κ]

/-- What is said about a registry that is not frozen yet. -/
def notFrozen : String := "Command registry must be frozen before dispatching"

/-- The dispatcher for a registry, if that is frozen. -/
def make (registry : Registry κ) (execute : κ → (args sender : String) → Job Reply)
    (mark : String) : Except String (Dispatcher κ) :=
  if registry.isFrozen then .ok { registry, execute, mark } else .error notFrozen

/-- A record about a chat line. -/
def record (level : Log.Level) (message : String) : Log.Record :=
  ⟨level, .dispatcher, message, none, none, none⟩

/-- A record about the call of a command. -/
def callRecord (level : Log.Level) (sender name message : String) : Log.Record :=
  ⟨level, .dispatcher, message, some sender, some name, none⟩

/-- The reply to the call of a custom command. -/
def resolveCustom (name sender : String) : Job Reply := do
  match ← Job.request (.store (.findResponse name)) with
  | .error failure =>
    Job.note (callRecord .error sender name
      ("Error fetching command `" ++ name ++ "`: " ++ failure.message))
    return ""
  | .ok none =>
    Job.note (callRecord .debug sender name
      ("@" ++ sender ++ " triggered unknown command `" ++ name ++ "`"))
    return ""
  | .ok (some response) =>
    Job.note (callRecord .debug sender name ("@" ++ sender ++ " triggered custom command `" ++
      name ++ "`. Response: " ++ response))
    return response

/-- The reply to a call. -/
def resolveCall (dispatcher : Dispatcher κ) (call : Chat.Call) (sender : String) :
    Job Reply := do
  match dispatcher.registry.get? call.name with
  | none => resolveCustom call.name sender
  | some command =>
    let reply ← Gate.invoke (dispatcher.execute command) command call.args sender
    Job.note (callRecord .debug sender call.name ("@" ++ sender ++
      " triggered builtin command `" ++ call.name ++ "` with args `" ++ call.args ++
      "`. Response: " ++ reply.shown))
    return reply

/-- The reply to a line that is no call. -/
def resolveSubject (line sender : String) : Job Reply := do
  match Chat.Subject.mentioned? line with
  | none => return ""
  | some subject =>
    let answer := subject.answer line sender
    Job.note (record .debug ("@" ++ sender ++ " triggered the subject `" ++ subject.name ++
      "` with message `" ++ line ++ "`. Response: " ++ answer))
    return answer

/-- The reply to a chat line; the empty one stands for none. -/
def resolve (dispatcher : Dispatcher κ) (line sender : String) : Job Reply :=
  match Chat.Call.ofLine? dispatcher.mark line with
  | some call => dispatcher.resolveCall call sender
  | none => resolveSubject line sender

/-- Says a reply through `send`. A failure is written down, and nothing is tried again. -/
def say (send : Reply → Job Unit) (reply : Reply) : Job Unit :=
  tryCatch (send reply) fun failure => do
    Job.note (record .error ("Failed to send message: " ++ failure.shown))

/-- Handles a chat line. -/
def handle (dispatcher : Dispatcher κ) (send : Reply → Job Unit) (line sender : String) :
    Job Unit := do
  let reply ← dispatcher.resolve line sender
  if !reply.isEmpty then say send reply

end Dispatcher

end ChatWarden
