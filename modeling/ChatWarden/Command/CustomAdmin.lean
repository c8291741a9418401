import ChatWarden.Chat.Arguments
import ChatWarden.Chat.Name
import ChatWarden.Command.Reply
import ChatWarden.Work.Basic

/-!
# Managing custom commands

The privileged commands that create, change and delete custom commands. Names are checked before
the store is asked: they hold ASCII letters and digits only and are no names of built-in commands.

Results:
* `CustomAdmin.execute` always replies; what it replies tells what became of the command.
-/

namespace ChatWarden

/-- What is done to a custom command. -/
inductive CustomAdmin where
  | create
  | update
  | delete
  deriving DecidableEq, Repr

namespace CustomAdmin

/-- The name of the command that does it. -/
def commandName : CustomAdmin → String
  | .create => "addcmd"
  | .update => "updcmd"
  | .delete => "delcmd"

/-- The word for it. -/
def verb : CustomAdmin → String
  | .create => "create"
  | .update => "update"
  | .delete => "delete"

/-- A record of the management of custom commands. -/
def record (level : Log.Level) (message : String) : Log.Record :=
  ⟨level, .customAdmin, message, none, none, none⟩

/-- Fails unless a name can be given to a custom command. -/
def checkName (isBuiltin : String → Bool) (action : CustomAdmin) (name sender : String) :
    Job Unit := do
  if !Chat.isCommandName name then
    Job.note (record .error
      (sender ++ " tried to " ++ action.verb ++ " an invalid command name: " ++ name))
    throw (.invalidName .notACommandName)
  if isBuiltin name then
    Job.note (record .error (sender ++ " tried to " ++ action.verb ++
      " a command that already exists as a built-in command: " ++ name))
    throw (.invalidName (.builtin action.verb))

/-- The name and the response in the arguments, both checked. -/
def nameAndResponse (isBuiltin : String → Bool) (action : CustomAdmin) (args sender : String) :
    Job (String × String) := do
  if !Chat.hasWords args 2 then throw (.usage (.nameAndResponse sender action.commandName))
  let (name, response) := Chat.nameAndText args
  checkName isBuiltin action name sender
  return (name, response)

/-- Writes down that a command was changed. -/
def noteDone (sender done name : String) : Job Unit :=
  Job.note (record .info (sender ++ " " ++ done ++ " command: " ++ name))

/-- The work of a command up to its reply; it fails where the arguments or the store do. -/
def perform (isBuiltin : String → Bool) (action : CustomAdmin) (args sender : String) :
    Job Reply := do
  match action with
  | .create =>
    let (name, response) ← nameAndResponse isBuiltin action args sender
    if ← Job.ofStore (← Job.request (.store (.createCommand name response))) then
      noteDone sender "created" name
      return "Command created!"
    else return "Command already exists."
  | .update =>
    let (name, response) ← nameAndResponse isBuiltin action args sender
    if ← Job.ofStore (← Job.request (.store (.updateCommand name response))) then
      noteDone sender "updated" name
      return "Command updated!"
    else return "Command not found."
  | .delete =>
    if !Chat.hasWords args 1 then throw (.usage (.name sender))
    let name := Chat.firstWord args
    checkName isBuiltin action name sender
    if ← Job.ofStore (← Job.request (.store (.deleteCommand name))) then
      noteDone sender "deleted" name
      return "Command deleted!"
    else return "Command not found."

/-- Runs a command: failures that it expects become replies. -/
def execute (isBuiltin : String → Bool) (action : CustomAdmin) (args sender : String) :
    Job Reply :=
  tryCatch (perform isBuiltin action args sender) fun failure => do
    match failure with
    | .usage form =>
      Job.note (record .debug
        (sender ++ " sent `" ++ action.commandName ++ " " ++ args ++ "` with bad arguments"))
      return form.text
    | .invalidName problem => return problem.text
    | .store trouble =>
      Job.note (record .error
        (sender ++ " could not " ++ action.verb ++ " a command: " ++ trouble.message))
      return failure.reply
    | _ => throw failure

end CustomAdmin

end ChatWarden
