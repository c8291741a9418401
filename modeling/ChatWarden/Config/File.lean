import ChatWarden.NameMap
import ChatWarden.Text.Blank
import ChatWarden.Text.Lines
import ChatWarden.Text.Split

/-!
# Configuration files

Files of lines `key = value`. A number sign starts a comment, a value may stand between double
quotes, and lines without an equals sign say nothing.

Results:
* `entries` lists the keys in the order in which they first come up, each with its last value.
-/

namespace ChatWarden.Config

/-- A key and its value. -/
abbrev Entry := List Char × List Char

/-- A line up to its comment. -/
def beforeComment (line : List Char) : List Char := line.takeWhile (· != '#')

/-- A value without the double quotes around it, if it has both. -/
def unquoted (value : List Char) : List Char :=
  match value with
  | '"' :: rest => if rest.getLast? == some '"' then rest.dropLast else value
  | _ => value

/-- The entry of a line, if it has one. -/
def entryOfLine? (line : List Char) : Option Entry :=
  (Text.cutAt? '=' (Text.strip (beforeComment line))).map fun (key, value) =>
    (Text.strip key, unquoted (Text.strip value))

/-- The entries of a file. -/
def entries (text : List Char) : List Entry :=
  NameMap.ofPairs ((Text.lines text).filterMap entryOfLine?)

end ChatWarden.Config
