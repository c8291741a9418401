/-!
# Names of commands and users

Which texts may name a custom command, and which ones are names of chat users.
-/

namespace ChatWarden.Chat

/-- Whether a text may name a custom command: ASCII letters and digits, at least one. -/
def isCommandName (name : String) : Bool :=
  !name.isEmpty && name.toList.all (·.isAlphanum)

/-- The characters of a user name behind its first letter. -/
def isUserChar (c : Char) : Bool := c.isLower || c.isDigit || c == '_'

/-- Whether a text is a user name: a small ASCII letter, then two to twenty-four small letters,
    digits and underscores. -/
def isUserName (name : String) : Bool :=
  match name.toList with
  | [] => false
  | first :: rest => first.isLower && 2 ≤ rest.length && rest.length ≤ 24 && rest.all isUserChar

end ChatWarden.Chat
