import ChatWarden.Command.Registry
import ChatWarden.Command.Reply
import ChatWarden.Work.Basic

/-!
# The gate

The check in front of privileged commands. It asks the store at every call, so trust that is taken
away counts from the next call on, and it takes a failing store for a refusal.

Results:
* `Gate.invoke` runs a command or replies with the denial; between the look-up that succeeded and
  the command there is nothing but the log.
-/

namespace ChatWarden.Gate

open Log (Record)

variable {κ : Type} [IsCommand κ]

/-- Whether a sender may run a command. -/
def isAllowed (command : κ) (sender : String) : Work Bool :=
  if !IsCommand.requiresTrust command then pure true
  else do
    match ← Work.request (.store (.isTrusted sender)) with
    | .error failure =>
      Work.note ⟨.error, .gate, "Trust lookup failed for " ++ sender ++ ": " ++ failure.message,
        none, none, none⟩
      return false
    | .ok true => return true
    | .ok false =>
      let name := IsCommand.name command
      Work.note ⟨.warning, .gate, "User " ++ sender ++ " tried to run the `" ++ name ++
        "` command without permission. Consider adding them to the trusted users list.",
        some sender, some name, none⟩
      return false

/-- Fails unless a sender may run a command. -/
def authorize (command : κ) (sender : String) : Job Unit := do
  if ← isAllowed command sender then return ()
  else throw (.unauthorized sender)

/-- The denial for a sender who may not run a command. -/
def check (command : κ) (sender : String) : Work (Option String) := do
  return if ← isAllowed command sender then none else some (Failure.denial sender)

/-- Runs a command for a sender who may run it, and replies with the denial to any other. -/
def invoke (execute : (args sender : String) → Job Reply) (command : κ) (args sender : String) :
    Job Reply := do
  if ← isAllowed command sender then execute args sender
  else return Failure.denial sender

end ChatWarden.Gate
