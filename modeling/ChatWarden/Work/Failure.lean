import ChatWarden.Store.Failure
import ChatWarden.Work.Fault

/-!
# Failures of commands

Why a command could not do its work, and what the chat is told about it.

Results:
* `Failure.reply` is the text for the chat; a failure of the store tells it nothing.
-/

namespace ChatWarden

/-- How a command has to be called. -/
inductive Usage where
  /-- A name and a response must follow the command. -/
  | nameAndResponse (sender command : String)
  /-- A name must follow the command. -/
  | name (sender : String)
  /-- A user must follow the command. -/
  | user (sender command : String)
  /-- A snippet must follow the command. -/
  | snippet
  deriving DecidableEq, Repr

/-- The way to call a command, as it is explained to the sender. -/
def Usage.text : Usage → String
  | .nameAndResponse sender command =>
    "@" ++ sender ++ " USAGE: " ++ command ++ " <name> <response>"
  | .name sender => "@" ++ sender ++ " USAGE: delcmd <name>"
  | .user sender command => "@" ++ sender ++ " USAGE: " ++ command ++ " <username>"
  | .snippet => "USAGE: node <code>"

/-- What is wrong with a name. -/
inductive NameProblem where
  /-- It is no command name. -/
  | notACommandName
  /-- It is the name of a built-in command; `action` was tried on it. -/
  | builtin (action : String)
  /-- It is no user name. -/
  | notAUserName
  deriving DecidableEq, Repr

/-- The problem, as it is explained to the sender. -/
def NameProblem.text : NameProblem → String
  | .notACommandName => "Command name can only contain letters and numbers."
  | .builtin action =>
    "The command you are trying to " ++ action ++ " already exists as a built-in command."
  | .notAUserName => "Username must be a valid Twitch username."

/-- What snippets need and cannot have. -/
inductive Outage where
  | analyzerMissing
  | analyzerBroken
  | containersDown
  | scriptUnwritable
  | containerBroken
  deriving DecidableEq, Repr

/-- The outage, as the chat is told. -/
def Outage.text : Outage → String
  | .analyzerMissing => "Security measures not found. Not continuing."
  | .analyzerBroken => "Security measures could not run. Not continuing."
  | .containersDown => "Docker is not running. Not continuing."
  | .scriptUnwritable => "Unable to create temporary JS file."
  | .containerBroken => "Error running Docker container."

/-- What took too long. -/
inductive Overrun where
  | analyzer
  | container
  deriving DecidableEq, Repr

/-- The overrun, as the chat is told. -/
def Overrun.text : Overrun → String
  | .analyzer => "Security checks timed out. Not continuing."
  | .container => "Execution timed out."

/-- The services that are asked over HTTP. -/
inductive Service where
  | weather
  | card
  deriving DecidableEq, Repr

/-- What the chat is told if a service gives no answer. -/
def Service.unavailable : Service → String
  | .weather => "Could not retrieve weather data."
  | .card => "Could not retrieve card data."

/-- Why a command could not do its work. -/
inductive Failure where
  /-- It was called in the wrong way. -/
  | usage (usage : Usage)
  /-- It was given a name that it cannot take. -/
  | invalidName (problem : NameProblem)
  /-- The sender may not call it. -/
  | unauthorized (sender : String)
  /-- The analyzer rejected the snippet with a line, which names a known danger or not. -/
  | rejected (line : String) (known : Bool)
  /-- The snippet failed in its container with a line. -/
  | snippetFailed (line : String)
  /-- Something it needs is not there. -/
  | unavailable (outage : Outage)
  /-- Something took too long. -/
  | timedOut (overrun : Overrun)
  /-- A service gave no answer. -/
  | lookupFailed (service : Service)
  /-- The store failed. -/
  | store (failure : Store.Failure)
  /-- Something went wrong that commands do not expect. -/
  | fault (fault : Fault)
  deriving DecidableEq, Repr

namespace Failure

/-- What a sender without permission is told. -/
def denial (sender : String) : String :=
  "@" ++ sender ++ " you are not authorized to run this command."

/-- What the chat is told; the empty text stands for nothing. -/
def reply : Failure → String
  | .usage form => form.text
  | .invalidName problem => problem.text
  | .unauthorized sender => denial sender
  | .rejected line _ => line
  | .snippetFailed line => line
  | .unavailable outage => outage.text
  | .timedOut overrun => overrun.text
  | .lookupFailed service => service.unavailable
  | .store _ => ""
  | .fault _ => ""

/-- The kind of a failure, as records name it. -/
def kind : Failure → String
  | .usage _ => "UsageError"
  | .invalidName _ => "ValidationError"
  | .unauthorized _ => "AuthorizationError"
  | .rejected _ _ => "SecurityGateRejection"
  | .snippetFailed _ => "SandboxExecutionError"
  | .unavailable _ => "InfrastructureUnavailable"
  | .timedOut _ => "ExecutionTimeout"
  | .lookupFailed _ => "ExternalServiceError"
  | .store _ => "StoreError"
  | .fault trouble => trouble.name

/-- A failure as messages show it. -/
def shown : Failure → String
  | .store trouble => trouble.message
  | .fault trouble => trouble.shown
  | failure => failure.reply

/-- Whether commands expect the failure and answer it themselves. -/
def isExpected : Failure → Bool
  | .fault _ => false
  | _ => true

end Failure

end ChatWarden
