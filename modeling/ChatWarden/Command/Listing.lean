import ChatWarden.Command.Reply
import ChatWarden.Work.Basic

/-!
# Listing commands

The command that tells what everybody can call: the built-in commands that need no trust, then
the live custom commands, each group in the order of names.
-/

namespace ChatWarden.Listing

/-- Runs the command for the names of the open built-in commands. Without the store only these
    are listed. -/
def execute (openNames : List String) : Job Reply := do
  match ← Job.request (.store .listNames) with
  | .ok custom => return ", ".intercalate (openNames ++ custom)
  | .error failure =>
    Job.note ⟨.error, .listing, "Failed to retrieve commands: " ++ failure.message,
      none, none, none⟩
    return ", ".intercalate openNames

end ChatWarden.Listing
