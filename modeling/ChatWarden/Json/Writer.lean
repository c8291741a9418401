import ChatWarden.Json.Value
import ChatWarden.Decimal.Shortest

/-!
# Writing JSON

JSON text on one line: a comma and a blank between items, a colon and a blank between a name and
its value. Strings escape the quote, the backslash and the control characters; every other
character stands for itself.

Results:
* `Json.text` writes a value; what it writes never holds a line end.
-/

namespace ChatWarden.Json

open Decimal (Binary64)

/-- One character of a string. -/
def escaped (c : Char) : List Char :=
  if c == '"' then ['\\', '"']
  else if c == '\\' then ['\\', '\\']
  else if c == '\n' then ['\\', 'n']
  else if c == '\r' then ['\\', 'r']
  else if c == '\t' then ['\\', 't']
  else if c == '\x08' then ['\\', 'b']
  else if c == '\x0c' then ['\\', 'f']
  else if c.toNat < 0x20 then
    ['\\', 'u', '0', '0', Nat.digitChar (c.toNat / 16), Nat.digitChar (c.toNat % 16)]
  else [c]

/-- A string between quotes. -/
def quote (cs : List Char) : List Char := '"' :: cs.flatMap escaped ++ ['"']

/-- A number with a fraction or an exponent. -/
def floatText : Binary64 → List Char
  | .nan => "NaN".toList
  | .infinite negative => if negative then "-Infinity".toList else "Infinity".toList
  | x => x.text.toList

mutual

/-- The characters of a value. -/
def chars : Json → List Char
  | .null => "null".toList
  | .bool b => if b then "true".toList else "false".toList
  | .int n => (toString n).toList
  | .float x => floatText x
  | .str s => quote s.toList
  | .arr items => '[' :: itemChars items ++ [']']
  | .obj fields => '\x7b' :: fieldChars fields ++ ['\x7d']

/-- The characters of the items of an array. -/
def itemChars : List Json → List Char
  | [] => []
  | [item] => chars item
  | item :: rest => chars item ++ ',' :: ' ' :: itemChars rest

/-- The characters of the fields of an object. -/
def fieldChars : List (String × Json) → List Char
  | [] => []
  | [(name, value)] => quote name.toList ++ ':' :: ' ' :: chars value
  | (name, value) :: rest =>
    quote name.toList ++ ':' :: ' ' :: (chars value ++ ',' :: ' ' :: fieldChars rest)

end

/-- The text of a value. -/
def text (value : Json) : String := .ofList (chars value)

end ChatWarden.Json
