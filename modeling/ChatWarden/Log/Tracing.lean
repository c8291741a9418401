import ChatWarden.Log.Record

/-!
# Tracing

Requests over HTTP can be traced by a service. Tracing is set up when the bot starts, if there is
a token for the service; a failure to do so is written down and does not stop the bot.

Results:
* `Tracing.setUp` yields whether tracing is active, and the calls that were made for it.
-/

namespace ChatWarden.Log

/-- A call that sets up tracing. -/
inductive TracingCall where
  /-- Introduce the bot to the service. -/
  | configure (token serviceName : String)
  /-- Trace the requests of HTTP clients. -/
  | traceHttp
  deriving DecidableEq, Repr

namespace Tracing

/-- The name under which the bot introduces itself. -/
def serviceName : String := "streambot"

/-- Makes calls up to the first that fails, and yields those that were made and the message of
    the failure. -/
def make (failure? : TracingCall → Option String) :
    List TracingCall → List TracingCall × Option String
  | [] => ([], none)
  | call :: rest =>
    match failure? call with
    | some message => ([call], some message)
    | none =>
      let (made, failure) := make failure? rest
      (call :: made, failure)

/-- Sets up tracing with a token, where `failure?` tells the message of each call that fails. The
    empty token stands for none. -/
def setUp (token : String) (failure? : TracingCall → Option String) :
    Journal (Bool × List TracingCall) :=
  if token.isEmpty then pure (false, [])
  else
    match make failure? [.configure token serviceName, .traceHttp] with
    | (calls, none) => pure (true, calls)
    | (calls, some message) => do
      Journal.write ⟨.warning, .observability, "Failed to configure Logfire: " ++ message,
        none, none, none⟩
      return (false, calls)

end Tracing

end ChatWarden.Log
