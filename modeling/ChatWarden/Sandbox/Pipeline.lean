import ChatWarden.Chat.Arguments
import ChatWarden.Command.Reply
import ChatWarden.Sandbox.Container
import ChatWarden.Sandbox.Diagnostic

/-!
# Running snippets

The way of a snippet: it must not be empty, the analyzer must accept it, the container service
must answer, and then it is written to a script file of its own and run in a container. The file
is removed afterwards, whatever happened to the run.

Results:
* `Sandbox.run` yields what the snippet printed.
* `Sandbox.execute` is the command; failures that it expects become replies.
-/

namespace ChatWarden

/-- What running snippets needs. -/
structure Sandbox where
  analyzer : Sandbox.Analyzer
  container : Sandbox.Container

namespace Sandbox

/-- The script that prints the value of a snippet. -/
def script (snippet : String) : String := "console.log((() => (" ++ snippet ++ "))());"

/-- Writes a record about snippets. -/
def note (level : Log.Level) (message : String) : Job Unit :=
  Job.note ⟨level, .pipeline, message, none, none, none⟩

/-- Fails unless the analyzer accepts a snippet. -/
def inspect (sandbox : Sandbox) (snippet sender : String) : Job Unit := do
  let outcome ← sandbox.analyzer.analyze snippet
  if outcome.succeeded then return ()
  let line := diagnostic outcome.errors
  if isKnownDanger line then
    note .warning ("User " ++ sender ++ " triggered a security measure: `" ++ line ++
      "` with `" ++ snippet ++ "`")
  else
    note .error ("User " ++ sender ++ " triggered an analyzer exception: " ++ outcome.errors ++
      " with `" ++ snippet ++ "`")
  throw (.rejected line (isKnownDanger line))

/-- Fails unless the container service answers. -/
def ensureContainers (sender : String) : Job Unit := do
  if ← Container.ping then return ()
  note .error
    ("User " ++ sender ++ " tried to run the node command but Docker is not running.")
  throw (.unavailable .containersDown)

/-- Removes a script file; it does not matter if it is gone already. -/
def cleanUp (file : Script) : Job Unit := do
  match ← Job.request (.removeScript file) with
  | .ok () => return ()
  | .error fault =>
    if fault.family == .missingFile then return ()
    if !fault.isFileTrouble then throw (.fault fault)
    note .warning
      ("Failed to remove temporary JS file " ++ Script.shown ++ ": " ++ fault.shown)

/-- Fails as a fault while a script file is made makes it fail; a file that is there already is
    removed. -/
def unwritable {α : Type} (file? : Option Script) (fault : Fault) : Job α := do
  if !fault.isFileTrouble then throw (.fault fault)
  note .error ("Unable to write temporary JS file: " ++ fault.shown)
  match file? with
  | some file => cleanUp file
  | none => pure ()
  throw (.unavailable .scriptUnwritable)

/-- Writes the script of a snippet to a file of its own that everybody can read. -/
def materialize (snippet : String) : Job Script := do
  match ← Job.request .makeScript with
  | .error fault => unwritable none fault
  | .ok file =>
    match ← Job.request (.writeScript file (script snippet)) with
    | .error fault => unwritable (some file) fault
    | .ok () =>
      match ← Job.request (.shareScript file) with
      | .error fault => unwritable (some file) fault
      | .ok () => return file

/-- Runs a script file and yields what it printed. -/
def runScript (sandbox : Sandbox) (file : Script) (sender : String) : Job String := do
  let outcome ← sandbox.container.run file
  if outcome.succeeded then return outcome.output
  note .error ("Error while running JavaScript code from " ++ sender ++ ": " ++ outcome.errors)
  throw (.snippetFailed (diagnostic outcome.errors))

/-- Runs a snippet and yields what it printed. -/
def run (sandbox : Sandbox) (snippet sender : String) : Job String := do
  if !Chat.hasWords snippet 1 then throw (.usage .snippet)
  sandbox.inspect snippet sender
  ensureContainers sender
  let file ← materialize snippet
  (sandbox.runScript file sender).thenWith fun outcome => do
    cleanUp file
    ExceptT.mk (pure outcome)

/-- Runs the command. -/
def execute (sandbox : Sandbox) (args sender : String) : Job Reply :=
  tryCatch (do return ← sandbox.run args sender) fun failure => do
    match failure with
    | .usage form =>
      Job.note ⟨.debug, .node, sender ++ " sent node without code", none, none, none⟩
      return form.text
    | _ => if failure.isExpected then return failure.reply else throw failure

end Sandbox

end ChatWarden
