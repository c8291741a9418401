import ChatWarden.Json.Writer
import ChatWarden.Text.Quoted

/-!
# Log lines

A record as one line of JSON: the time, the level, the name of the logger and the message, then
the identifier of the chat line that is being handled, the sender, the command and the failure,
each only where there is one.

Results:
* `Line.text` writes the line.
-/

namespace ChatWarden.Log

/-- What a log line tells. -/
structure Line where
  /-- Date and time of day, as the clock of the log shows them. -/
  time : String
  /-- The name of the level. -/
  level : String
  logger : String
  message : String
  /-- The identifier of the chat line; the empty one stands for none. -/
  messageId : String := ""
  sender : Option Json := none
  command : Option Json := none
  failure : Option String := none

namespace Line

/-- A field that is written only if there is a value other than null. -/
def optionalField (name : String) (value : Option Json) : List (String × Json) :=
  match value with
  | none => []
  | some .null => []
  | some value => [(name, value)]

/-- The line as a JSON object. -/
def json (line : Line) : Json :=
  .obj ([("timestamp", .str line.time), ("level", .str line.level),
    ("logger", .str line.logger), ("message", .str line.message)] ++
    (if line.messageId.isEmpty then [] else [("message_id", .str line.messageId)]) ++
    optionalField "sender" line.sender ++ optionalField "command" line.command ++
    optionalField "exception" (line.failure.map .str))

/-- The line as text. -/
def text (line : Line) : String := line.json.text

/-- The failures that are named with the part of the bot that defines them. -/
def qualifiedFailures : List (String × String) :=
  [("DuplicateCommandError", "src.core.commands.registry."),
   ("RegistryFrozenError", "src.core.commands.registry.")] ++
  ["BotError", "UsageError", "ValidationError", "AuthorizationError", "SecurityGateRejection",
   "SandboxExecutionError", "InfrastructureUnavailable", "ExecutionTimeout",
   "ExternalServiceError", "StoreError"].map fun name => (name, "src.core.errors.")

/-- A failure as a line tells it: its kind, and its text behind a colon if there is one. A missing
    key is shown between quotes. -/
def failureText (kind text : String) : String :=
  let text := if kind == "KeyError" then Text.quoted text else text
  (qualifiedFailures.lookup kind).getD "" ++ kind ++ (if text.isEmpty then "" else ": " ++ text)

end Line

end ChatWarden.Log
