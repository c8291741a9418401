import ChatWarden.Text.Blank
import ChatWarden.Text.Pattern

/-!
# Fitting a text into one chat message

A chat message is one line of bounded length. Line breaks are flattened together with the blanks
around them, and what is too long is cut and marked.

Results:
* `flatten` replaces line breaks and the blanks around them by one blank.
* `fitTo` yields the message for a limit, `fit` for that of the chat.
-/

namespace ChatWarden.Chat

/-- The longest chat message, in characters. -/
def maxMessage : Nat := 500

/-- What marks a text that was cut. -/
def ellipsis : List Char := ['.', '.', '.']

/-- A carriage return or a line feed. -/
def isBreak (c : Char) : Bool := c == '\r' || c == '\n'

/-- Blanks, at least one break, and blanks. -/
def brokenBlanks : Text.Pattern where
  pieces := [⟨Text.isBlank, 0⟩, ⟨isBreak, 1⟩, ⟨Text.isBlank, 0⟩]
  solid := ⟨⟨isBreak, 1⟩, by simp, Nat.one_pos⟩

/-- A text on one line: breaks and the blanks around them become one blank. -/
def flatten (cs : List Char) : List Char := brokenBlanks.replace [' '] cs

/-- The first `n` characters; a negative `n` leaves out that many at the end. -/
def takeSigned (n : Int) (cs : List Char) : List Char :=
  if 0 ≤ n then cs.take n.toNat else cs.take (cs.length - n.natAbs)

/-- A text as one message of at most `limit` characters, for a limit that has room for the
    mark. -/
def fitChars (limit : Int) (cs : List Char) : List Char :=
  let flat := Text.strip (flatten cs)
  if limit < flat.length then
    Text.stripEnd (takeSigned (limit - ellipsis.length) flat) ++ ellipsis
  else flat

/-- A text as one message of at most `limit` characters. The empty text stays as it is. -/
def fitTo (limit : Int) (text : String) : String :=
  if text.isEmpty then text else .ofList (fitChars limit text.toList)

/-- A text as one chat message. -/
def fit (text : String) : String := fitTo maxMessage text

end ChatWarden.Chat
