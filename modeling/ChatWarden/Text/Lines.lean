/-!
# Lines

Two ways to cut a text into lines. `lines` breaks at every Unicode line boundary; `fileLines`
knows only the three line ends of text files. Both take a carriage return with its line feed as
one end, and neither adds an empty line behind a final end.
-/

namespace ChatWarden.Text

/-- The characters that end a line; a carriage return and a line feed together end one line. -/
def isLineEnd (c : Char) : Bool :=
  let n := c.toNat
  (10 ≤ n && n ≤ 13) || (28 ≤ n && n ≤ 30) || n == 0x85 || n == 0x2028 || n == 0x2029

/-- The line ends of text files. -/
def isFileLineEnd (c : Char) : Bool := c == '\n' || c == '\r'

/-- Cuts a text at the ends that `ends` names. `current` holds, reversed, the characters of the
    line that is being read. -/
def cutLines (ends : Char → Bool) : (current : List Char) → List Char → List (List Char)
  | [], [] => []
  | current@(_ :: _), [] => [current.reverse]
  | current, '\r' :: '\n' :: rest =>
    if ends '\r' then current.reverse :: cutLines ends [] rest
    else cutLines ends ('\n' :: '\r' :: current) rest
  | current, c :: rest =>
    if ends c then current.reverse :: cutLines ends [] rest
    else cutLines ends (c :: current) rest

/-- The lines of a text, without their ends. -/
def lines (cs : List Char) : List (List Char) := cutLines isLineEnd [] cs

/-- The lines of a text file, without their ends. -/
def fileLines (cs : List Char) : List (List Char) := cutLines isFileLineEnd [] cs

/-- A text with every file line end written as a line feed. -/
def plainLineEnds : List Char → List Char
  | [] => []
  | '\r' :: '\n' :: rest => '\n' :: plainLineEnds rest
  | c :: rest => (if c == '\r' then '\n' else c) :: plainLineEnds rest

end ChatWarden.Text
