import ChatWarden.Config.Identity
import ChatWarden.Text.Utf8
import ChatWarden.Work.Fault

/-!
# Loading the configuration file

A configuration file that cannot be read does not stop the bot: its identity is then the default
one. A path that cannot be one of a file stops it, and so does a file that is read and is no text.

Results:
* `Identity.load` yields the identity of the file at a path.
-/

namespace ChatWarden.Config

open Log (Journal)

/-- The identity of the bot in the configuration file at a path, of which `content` is what
    reading it gave. -/
def Identity.load (path : String) (content : Except Fault (List UInt8)) :
    Journal (Except Fault Identity) :=
  match content with
  | .error fault =>
    if fault.isFileTrouble then do
      Journal.write ⟨.warning, .config,
        "Could not read config file " ++ path ++ " (" ++ fault.shown ++ "), using defaults",
        none, none, none⟩
      return .ok {}
    else return .error fault
  | .ok bytes =>
    match Text.utf8Strict? bytes with
    | none => return .error .notText
    | some text => return .ok (← ofEntries (entries (Text.plainLineEnds text)))

end ChatWarden.Config
