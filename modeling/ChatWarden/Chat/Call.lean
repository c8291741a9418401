import ChatWarden.Text.Blank

/-!
# Command calls

A chat line calls a command if it starts with the mark of commands and a name follows at once.
Everything behind the blanks after the name belongs to the arguments, as it was typed.

Results:
* `Call.ofLine?` finds the call in a line.
-/

namespace ChatWarden.Chat

/-- A command named in a chat line, with its arguments as typed. -/
structure Call where
  name : String
  args : String
  deriving DecidableEq, Repr

/-- The text behind a mark, if the text starts with it. -/
def behind? : (mark text : List Char) → Option (List Char)
  | [], text => some text
  | _ :: _, [] => none
  | m :: mark, c :: text => if m == c then behind? mark text else none

/-- The call in a line, if the line holds one. An empty mark makes no line a call. -/
def Call.ofLine? (mark line : String) : Option Call :=
  if mark.isEmpty then none
  else match behind? mark.toList line.toList with
    | none => none
    | some body =>
      match body with
      | [] => none
      | c :: _ =>
        if Text.isBlank c then none
        else (Text.headWord? body).map fun (name, args) => ⟨.ofList name, .ofList args⟩

end ChatWarden.Chat
