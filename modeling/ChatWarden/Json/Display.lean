import ChatWarden.Decimal.Shortest
import ChatWarden.Json.Value
import ChatWarden.Text.Quoted

/-!
# Showing values in messages

The form in which messages show a value that may be of any kind: a text stands for itself, and
everything inside a list or a mapping is shown with its limits.

Results:
* `Json.inspect` shows a value with its limits, `Json.display` as part of a sentence.
-/

namespace ChatWarden.Json

mutual

/-- A value with its limits: texts between quotes, lists between brackets, mappings between
    braces. -/
def inspect : Json → String
  | .null => "None"
  | .bool b => if b then "True" else "False"
  | .int n => toString n
  | .float x => x.text
  | .str s => Text.quoted s
  | .arr items => "[" ++ inspectItems items ++ "]"
  | .obj fields => "\x7b" ++ inspectFields fields ++ "\x7d"

/-- The items of a list behind commas. -/
def inspectItems : List Json → String
  | [] => ""
  | [item] => inspect item
  | item :: rest => inspect item ++ ", " ++ inspectItems rest

/-- The fields of a mapping behind commas. -/
def inspectFields : List (String × Json) → String
  | [] => ""
  | [(name, value)] => Text.quoted name ++ ": " ++ inspect value
  | (name, value) :: rest =>
    Text.quoted name ++ ": " ++ inspect value ++ ", " ++ inspectFields rest

end

/-- A value as part of a sentence: a text as it is, any other value with its limits. -/
def display : Json → String
  | .str s => s
  | value => inspect value

end ChatWarden.Json
