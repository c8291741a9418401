import ChatWarden.Chat.Arguments
import ChatWarden.Command.Reply
import ChatWarden.Lookup.Client
import ChatWarden.Url.Address
import ChatWarden.Url.Query

/-!
# Cards

The command that asks a card service for a card by its rough name and shows the card on one line.
A line that is longer than a chat message gives way to the address of the card's page. The texts of
a card are Unicode texts; for documents with other texts see `Http.Document`.

Results:
* `Card.line` shows a card; it takes whatever the service sends and fails on values that no card
  has.
* `Card.withoutTracking?` takes the mark of the referrer out of an address.
-/

namespace ChatWarden.Lookup.Card

/-- Where the service finds cards by their names. -/
def service : String := "https://api.scryfall.com/cards/named"

/-- How the bot introduces itself to the service. -/
def headers : List (String × String) :=
  [("User-Agent", "streambot/1.0"), ("Accept", "application/json")]

/-- The request for a card by its rough name. -/
def request (name : String) : Http.Request where
  address := service
  parameters := [("fuzzy", .ofList (Text.strip name.toList))]
  headers := headers

/-- An address without the parameter that tells who referred to it. -/
def withoutTracking? (address : String) : Option String := do
  let parts ← Url.Address.ofText? address.toList
  let kept := (Url.filledPairs parts.query).filter fun pair => pair.1 != "utm_source".toList
  return .ofList { parts with query := Url.encodePairs kept }.text

/-- What is shown of a card so far, with more text behind it. A list takes the characters of the
    text as items; other values take no text. -/
def extend (shown : Json) (more : String) : Except Fault Json :=
  match shown with
  | .str s => .ok (.str (s ++ more))
  | .arr items => .ok (.arr (items ++ more.toList.map fun c => .str (String.singleton c)))
  | _ => .error .wrongKind

/-- What is shown so far, with a field behind it if the card has it. -/
def extendWith (card shown : Json) (field separator : String) : Except Fault Json :=
  match card.field? field with
  | some value => if value.isTruthy then extend shown (separator ++ value.display) else .ok shown
  | none => .ok shown

/-- A text of several lines on one line. -/
def oneLine (s : String) : String :=
  .ofList (s.toList.flatMap fun c => if c == '\n' then ['.', ' '] else [c])

/-- What is shown so far, with the rules text of the card behind it if it has one. -/
def extendWithRules (card shown : Json) : Except Fault Json :=
  match card.field? "oracle_text" with
  | some value =>
    if !value.isTruthy then .ok shown
    else match value with
      | .str s => extend shown (" | " ++ oneLine s)
      | _ => .error .noSuchPart
  | none => .ok shown

/-- One of the two strengths of a card; a dash stands for a missing one. -/
def strength (card : Json) (field : String) : Option String :=
  match card.field? field with
  | none => none
  | some .null => none
  | some value => some value.display

/-- What is shown so far, with the strengths of the card behind it if it has one of them. -/
def extendWithStrengths (card shown : Json) : Except Fault Json :=
  match strength card "power", strength card "toughness" with
  | none, none => .ok shown
  | power, toughness =>
    extend shown (" | " ++ power.getD "-" ++ "/" ++ toughness.getD "-")

/-- All that is shown of a card, whatever its length. -/
def fullLine (card : Json) : Except Fault Json := do
  let shown := (card.field? "name").getD (.str "")
  let shown ← extendWith card shown "mana_cost" " "
  let shown ← extendWith card shown "type_line" " | "
  let shown ← extendWithRules card shown
  let shown ← extendWithStrengths card shown
  extendWith card shown "loyalty" " | "

/-- The longest line that is shown of a card. -/
def maxLength : Nat := 500

/-- The length of what is shown. -/
def length : Json → Except Fault Nat
  | .str s => .ok s.length
  | .arr items => .ok items.length
  | .obj fields => .ok fields.length
  | _ => .error .wrongKind

/-- The address of a card's page without the mark of the referrer. -/
def pageAddress : Json → Except Fault Json
  | .str s =>
    match withoutTracking? s with
    | some address => .ok (.str address)
    | none => .error .unreadable
  | .arr _ => .error .wrongKind
  | .obj _ => .error .wrongKind
  | _ => .error .noSuchPart

/-- A card on one line: all that is shown of it, or the address of its page if that is too long
    and the card has one. -/
def line (card : Json) : Except Fault Json := do
  match card with
  | .obj _ =>
    let shown ← fullLine card
    if maxLength < (← length shown) then
      match card.field? "scryfall_uri" with
      | some address => if address.isTruthy then pageAddress address else return shown
      | none => return shown
    else return shown
  | _ => throw .noSuchPart

/-- A document on one line, if it is a card. -/
def lineOf : Http.Document → Except Fault Json
  | .json card => line card
  | .foreign shown => shown

/-- Asks for a card. -/
def fetch (client : Client) (name : String) : Job Reply := do
  let answer ← ExceptT.lift (client.get (request name))
  match answer.bind Http.Response.document with
  | .ok document => return .ofJson (← Job.ofFault (lineOf document))
  | .error fault =>
    if fault.family == .http || fault.family == .value then failed .card .card "card" name fault
    else throw (.fault fault)

/-- Runs the command. -/
def execute (client : Client) (args : String) : Job Reply :=
  if !Chat.hasWords args 1 then return "USAGE: card <name>"
  else asCommand (fetch client args)

end ChatWarden.Lookup.Card
