import ChatWarden.Chat.Arguments
import ChatWarden.Chat.Name
import ChatWarden.Command.Reply
import ChatWarden.Work.Basic

/-!
# Granting and revoking trust

The privileged commands that add a user to the trusted ones and take a user from them.

Results:
* `TrustAdmin.execute` always replies, and names the user if the store did what it was asked for.
-/

namespace ChatWarden

/-- What is done to the trust in a user. -/
inductive TrustAdmin where
  | grant
  | revoke
  deriving DecidableEq, Repr

namespace TrustAdmin

/-- The name of the command that does it. -/
def commandName : TrustAdmin → String
  | .grant => "trust"
  | .revoke => "untrust"

/-- A record of the management of trust. -/
def record (level : Log.Level) (message : String) : Log.Record :=
  ⟨level, .trustAdmin, message, none, none, none⟩

/-- The user in the arguments, checked. -/
def userOf (action : TrustAdmin) (args sender : String) : Job String := do
  if !Chat.hasWords args 1 then throw (.usage (.user sender action.commandName))
  let user := Chat.firstWord args
  if !Chat.isUserName user then
    Job.note (record .error
      (sender ++ " tried to " ++ action.commandName ++ " an invalid username: " ++ user))
    throw (.invalidName .notAUserName)
  return user

/-- The work of a command up to its reply; it fails where the arguments or the store do. -/
def perform (action : TrustAdmin) (args sender : String) : Job Reply := do
  let user ← userOf action args sender
  match action with
  | .grant => Job.ofStore (← Job.request (.store (.trust user)))
  | .revoke => Job.ofStore (← Job.request (.store (.untrust user)))
  Job.note (record .info (sender ++ " " ++ action.commandName ++ "ed user: " ++ user))
  return user ++ " has been " ++ action.commandName ++ "ed."

/-- Runs a command: failures that it expects become replies. -/
def execute (action : TrustAdmin) (args sender : String) : Job Reply :=
  tryCatch (perform action args sender) fun failure => do
    match failure with
    | .usage form => return form.text
    | .invalidName problem => return problem.text
    | .store trouble =>
      Job.note (record .error
        (sender ++ " could not " ++ action.commandName ++ " a user: " ++ trouble.message))
      return failure.reply
    | _ => throw failure

end TrustAdmin

end ChatWarden
