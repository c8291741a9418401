import ChatWarden.Command.Reply
import ChatWarden.Odds
import ChatWarden.Text.Digits
import ChatWarden.Work.Basic

/-!
# Asking for odds

The command that tells the chance to draw enough marked cards from a deck.

Results:
* `OddsQuery.ofArgs?` reads the four numbers; `OddsQuery.problem?` tells which of them make no
  sense, so all others describe a deck.
-/

namespace ChatWarden

/-- The four numbers of a question. -/
structure OddsQuery where
  deck : Int
  successes : Int
  draws : Int
  needed : Int
  deriving DecidableEq, Repr

namespace OddsQuery

/-- The largest deck that is answered for. -/
def maxDeck : Int := 10000

/-- How the command is called. -/
def usage : String :=
  "USAGE: odds <Deck Size> <Number of Successes> <Number of Draws> <Successes Needed>"

/-- The question that the first four words ask, if each of them is a whole number. -/
def ofWords? : List (List Char) → Option OddsQuery
  | deck :: successes :: draws :: needed :: _ => do
    let deck ← Text.readInt? deck
    let successes ← Text.readInt? successes
    let draws ← Text.readInt? draws
    let needed ← Text.readInt? needed
    return { deck, successes, draws, needed }
  | _ => none

/-- What is wrong with a question. -/
inductive Problem where
  | negative
  | deckTooLarge
  | moreThanDeck
  deriving DecidableEq, Repr

/-- The first thing that is wrong with a question, if something is. -/
def problem? (q : OddsQuery) : Option Problem :=
  if q.deck < 0 || q.successes < 0 || q.draws < 0 || q.needed < 0 then some .negative
  else if maxDeck < q.deck then some .deckTooLarge
  else if q.deck < q.successes || q.deck < q.draws then some .moreThanDeck
  else none

/-- The answer to a question. -/
def answer (q : OddsQuery) : String :=
  "Odds of drawing " ++ toString q.needed ++ " or more of " ++ toString q.successes ++
  " cards from " ++ toString q.draws ++ " draws in a " ++ toString q.deck ++ " card deck: " ++
  Odds.percentText q.deck q.successes q.draws q.needed ++ "%"

/-- A record of a question that was not answered. -/
def record (message : String) : Log.Record := ⟨.debug, .odds, message, none, none, none⟩

/-- Runs the command. -/
def execute (args sender : String) : Job Reply := do
  let words := Text.words args.toList
  if words.length < 4 then return usage
  match ofWords? words with
  | none =>
    Job.note (record (sender ++ " sent non-numeric odds arguments: " ++ args))
    return usage
  | some q =>
    match q.problem? with
    | some .negative => return usage
    | some .deckTooLarge =>
      Job.note (record (sender ++ " asked for odds on a " ++ toString q.deck ++ " card deck"))
      return "Error: Deck size can be at most " ++ toString maxDeck ++ " cards."
    | some .moreThanDeck => return "Error: More successes or draws than cards in deck."
    | none => return q.answer

end OddsQuery

end ChatWarden
