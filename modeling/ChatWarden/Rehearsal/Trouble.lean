import ChatWarden.Work.Fault

/-!
# Troubles by name

The faults that a rehearsal can call for by name, with the families they belong to. What such a
fault says for itself is the same for all of them.
-/

namespace ChatWarden.Rehearsal

/-- What a fault that was called for says for itself. -/
def faultText : String := "injected"

/-- Faults of HTTP clients that are no failed exchanges. -/
def strayHttpFaults : List String :=
  ["InvalidURL", "CookieConflict", "StreamError", "StreamConsumed", "StreamClosed",
   "ResponseNotRead", "RequestNotRead"]

/-- The faults whose text messages show. -/
def speakingFaults : List String := ["RuntimeError", "ValueError", "ConnectionError"]

/-- A fault of a family, with its text if messages show that. -/
def faultOf (name : String) (family : Fault.Family) : Fault :=
  ⟨name, family, if speakingFaults.contains name then some faultText else none⟩

/-- The fault of an exchange over HTTP. -/
def httpFault (name : String) : Fault :=
  if name == "RuntimeError" || strayHttpFaults.contains name then faultOf name .other
  else faultOf name .http

/-- The fault of the container service or the link to it. -/
def containerFault (name : String) : Fault :=
  match name with
  | "DockerException" | "APIError" | "ImageNotFound" => faultOf name .container
  | "RequestException" => faultOf name .link
  | "RequestsConnectionError" => ⟨"ConnectionError", .stalledLink, none⟩
  | "ReadTimeout" | "ConnectTimeout" => faultOf name .stalledLink
  | "OSError" => faultOf name .file
  | "ValueError" => faultOf name .value
  | _ => faultOf name .other

end ChatWarden.Rehearsal
