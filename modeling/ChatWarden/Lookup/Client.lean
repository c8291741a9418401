import ChatWarden.Work.Basic

/-!
# Asking a service

One request to a service and the check of its answer. A look-up sends its request once and never
again.

Results:
* `Client.get` yields an answer whose status is one of success, or the fault that stood in its
  way.
-/

namespace ChatWarden.Lookup

/-- The client that sends a request. -/
inductive Client where
  /-- The client that all look-ups share. -/
  | shared
  /-- A client made for one look-up, with its time limit in seconds. -/
  | own (timeout : Decimal.Number)

namespace Client

/-- Makes the client ready. -/
def prepare : Client → Work Unit
  | .shared => pure ()
  | .own timeout => Work.request (.openClient timeout)

/-- An answer, or the fault for which its status stands in its place. -/
def checked (answer : Except Fault Http.Response) : Except Fault Http.Response :=
  match answer with
  | .ok response =>
    match response.refusal with
    | none => .ok response
    | some fault => .error fault
  | .error fault => .error fault

/-- Sends a request. -/
def get (client : Client) (request : Http.Request) : Work (Except Fault Http.Response) := do
  client.prepare
  return checked (← Work.request (.fetch request))

end Client

/-- Writes down that a look-up failed, and fails. -/
def failed {α : Type} (service : Service) (origin : Log.Origin) (noun asked : String)
    (fault : Fault) : Job α := do
  Job.note ⟨.error, origin, "Failed to fetch " ++ noun ++ " `" ++ asked ++ "`: " ++ fault.shown,
    none, none, none⟩
  throw (.lookupFailed service)

/-- Runs a look-up as a command: that its service gave no answer becomes a reply. -/
def asCommand {α : Type} [Coe String α] (lookup : Job α) : Job α :=
  tryCatch lookup fun failure =>
    match failure with
    | .lookupFailed service => return service.unavailable
    | _ => throw failure

end ChatWarden.Lookup
