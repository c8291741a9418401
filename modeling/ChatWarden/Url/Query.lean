import ChatWarden.Url.Percent
import ChatWarden.Text.Split

/-!
# Query strings

Lists of named values in the form of web forms: pairs behind ampersands, a name and its value
around an equals sign, blanks as plus signs.

Results:
* `pairs` reads every pair, also those with an empty value; `filledPairs` leaves these out.
* `encodePairs` writes a list of pairs.
-/

namespace ChatWarden.Url

/-- A name and its value. -/
abbrev Pair := List Char × List Char

/-- A name or a value as read from a query: a plus sign is a blank, then escapes are read. -/
def decodePart (cs : List Char) : List Char :=
  decode (cs.map fun c => if c == '+' then ' ' else c)

/-- One pair: what stands before and behind the first equals sign. -/
def splitPair (cs : List Char) : Pair := (Text.cutAt? '=' cs).getD (cs, [])

/-- The pairs of a query in order; empty parts between ampersands are no pairs. -/
def pairs (query : List Char) : List Pair :=
  ((Text.splitAt '&' query).filter (!·.isEmpty)).map fun part =>
    let (name, value) := splitPair part
    (decodePart name, decodePart value)

/-- The pairs of a query whose value is not empty. -/
def filledPairs (query : List Char) : List Pair :=
  ((Text.splitAt '&' query).filter fun part => !(splitPair part).2.isEmpty).map fun part =>
    let (name, value) := splitPair part
    (decodePart name, decodePart value)

/-- The characters that a query shows as they are: ASCII letters, digits and four marks. -/
def isFormSafe (c : Char) : Bool :=
  c.isAlphanum || c == '_' || c == '.' || c == '-' || c == '~'

/-- A name or a value as written in a query. -/
def encodePart (cs : List Char) : List Char :=
  cs.flatMap fun c => if c == ' ' then ['+'] else if isFormSafe c then [c] else escapeChar c

/-- One written pair. -/
def encodePair (pair : Pair) : List Char := encodePart pair.1 ++ '=' :: encodePart pair.2

/-- The query of a list of pairs. -/
def encodePairs (list : List Pair) : List Char := Text.joinWith ['&'] (list.map encodePair)

end ChatWarden.Url
