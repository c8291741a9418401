import ChatWarden.Json.Value
import ChatWarden.Work.Fault

/-!
# Exchanges over HTTP

What the bot asks of a service on the web, and what it gets back. A client library builds the
address that is sent, looks at the status of the answer and reads its bytes; of an answer only
matters what these come to, and that may be anything.

All texts are Unicode texts, sequences of scalar values. What a service sends may be read as a text
with half a surrogate pair in it, which is none: the body of an answer then shows with a replacement
character in place of each half, and a document is a foreign one.
-/

namespace ChatWarden.Http

/-- A request for an address, with parameters that are put into its query and with headers. -/
structure Request where
  address : String
  parameters : List (String × String) := []
  headers : List (String × String) := []
  deriving DecidableEq, Repr

/-- The document in the body of an answer. -/
inductive Document where
  /-- A JSON value. -/
  | json (value : Json)
  /-- A value with a text that is no Unicode text, of which only matters what comes of showing it
      as a card. -/
  | foreign (shown : Except Fault Json)

/-- An answer. -/
structure Response where
  /-- The fault for which its status stands, if it is not one of success. -/
  refusal : Option Fault := none
  /-- What comes of reading the body as text. -/
  text : Except Fault String
  /-- What comes of reading the body as a document. -/
  document : Except Fault Document

end ChatWarden.Http
