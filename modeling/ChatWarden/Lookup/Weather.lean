import ChatWarden.Command.Reply
import ChatWarden.Lookup.Client
import ChatWarden.Text.Blank

/-!
# Weather

The command that asks a weather service for one line about a place. What the sender types names
the place in the path of the address; the format of the line is fixed.

Results:
* `Weather.fetch` yields the text of the service as it came; a text that cannot be read is a fault
  like any other.
-/

namespace ChatWarden.Lookup.Weather

/-- Where the service is. -/
def service : String := "https://wttr.in"

/-- The line that is asked for: the place, a sign for the sky and the temperature. -/
def lineFormat : String := "%l: %c 🌡️%t\\n"

/-- The part of the address that names a place, with plus signs for blanks. -/
def place (location : String) : List Char :=
  (Text.strip location.toList).map fun c => if c == ' ' then '+' else c

/-- The address for a place. -/
def address (location : String) : String :=
  service ++ "/" ++ .ofList (place location) ++ "?format=" ++ lineFormat ++ "&m"

/-- Asks for the weather at a place. -/
def fetch (client : Client) (location : String) : Job Reply := do
  match ← ExceptT.lift (client.get { address := address location }) with
  | .ok response =>
    match response.text with
    | .ok text => return text
    | .error fault => throw (.fault fault)
  | .error fault =>
    if fault.family == .http then failed .weather .weather "weather for" location fault
    else throw (.fault fault)

/-- Runs the command. -/
def execute (client : Client) (args : String) : Job Reply := asCommand (fetch client args)

end ChatWarden.Lookup.Weather
