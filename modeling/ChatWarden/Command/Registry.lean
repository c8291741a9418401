import ChatWarden.Log.Record
import ChatWarden.Text.Quoted

/-!
# The registry of commands

Commands by their names. The registry is filled and then frozen; after that it never changes, so
every reader sees the same commands.

Results:
* `Registry.register` refuses a frozen registry first and a taken name second, and a refused
  command changes nothing.
* `Registry.all` and `Registry.names` list the commands in the order of their names.
-/

namespace ChatWarden

open Log (Journal)

/-- What a registry needs to know of its commands. -/
class IsCommand (κ : Type) where
  name : κ → String
  /-- Whether only trusted users may call the command. -/
  requiresTrust : κ → Bool
  /-- What the command is called in descriptions. -/
  label : κ → String

/-- A command as descriptions show it. -/
def IsCommand.describe {κ : Type} [IsCommand κ] (command : κ) : String :=
  "<" ++ label command ++ " name=" ++ Text.quoted (name command) ++ " requires_trust=" ++
    (if requiresTrust command then "True" else "False") ++ ">"

/-- Commands, in the order in which they were registered. -/
structure Registry (κ : Type) where
  commands : List κ := []
  isFrozen : Bool := false
  deriving DecidableEq, Repr

/-- Why a command was not registered. -/
inductive Registry.Refusal where
  /-- The registry is frozen. -/
  | frozen (name : String)
  /-- The name is taken. -/
  | duplicate (name : String)
  deriving DecidableEq, Repr

/-- The message of a refusal. -/
def Registry.Refusal.message : Registry.Refusal → String
  | .frozen name => "Cannot register " ++ Text.quoted name ++ ": registry is frozen"
  | .duplicate name => "Command " ++ Text.quoted name ++ " is already registered"

namespace Registry

variable {κ : Type} [IsCommand κ]

/-- The command of a name. -/
def get? (registry : Registry κ) (name : String) : Option κ :=
  registry.commands.find? fun command => IsCommand.name command == name

/-- Whether a name is taken. -/
def contains (registry : Registry κ) (name : String) : Bool :=
  registry.commands.any fun command => IsCommand.name command == name

/-- The number of commands. -/
def size (registry : Registry κ) : Nat := registry.commands.length

/-- The commands in the order of their names. -/
def all (registry : Registry κ) : List κ :=
  registry.commands.mergeSort fun a b => decide (IsCommand.name a ≤ IsCommand.name b)

/-- The names of the commands in increasing order. -/
def names (registry : Registry κ) : List String := registry.all.map IsCommand.name

/-- The registry with one more command, if it takes it. -/
def register? (registry : Registry κ) (command : κ) : Except Refusal (Registry κ) :=
  let name := IsCommand.name command
  if registry.isFrozen then .error (.frozen name)
  else if registry.contains name then .error (.duplicate name)
  else .ok { registry with commands := registry.commands ++ [command] }

/-- `register?` with a record of its outcome; a refusal by a frozen registry leaves none. -/
def register (registry : Registry κ) (command : κ) :
    Journal (Except Refusal (Registry κ)) := do
  let name := IsCommand.name command
  let outcome := registry.register? command
  match outcome with
  | .ok _ =>
    Journal.write ⟨.debug, .registry, "Registered command: " ++ name, none, none, none⟩
  | .error (.duplicate _) =>
    Journal.write
      ⟨.error, .registry, "Duplicate command registration: " ++ name, none, none, none⟩
  | .error (.frozen _) => pure ()
  return outcome

/-- The registry closed to further commands. -/
def freeze (registry : Registry κ) : Journal (Registry κ) := do
  Journal.write ⟨.info, .registry,
    "Command registry frozen with " ++ toString registry.size ++ " commands", none, none, none⟩
  return { registry with isFrozen := true }

/-- Registers commands one after the other up to the first refusal. -/
def registerAll (registry : Registry κ) : List κ → Journal (Except Refusal (Registry κ))
  | [] => pure (.ok registry)
  | command :: rest => do
    match ← registry.register command with
    | .ok registry => registry.registerAll rest
    | .error refusal => return .error refusal

end Registry

end ChatWarden
