import ChatWarden.Text.Blank

/-!
# Arguments of commands

What commands ask about the text behind their name: how many words it holds, its first word, and
the text that follows that word.

Results:
* `nameAndText` and `firstWord` agree on the first word.
-/

namespace ChatWarden.Chat

/-- Whether the arguments hold at least `n` words. Every text does for an `n` below one. -/
def hasWords (args : String) (n : Int) : Bool := n ≤ (Text.words args.toList).length

/-- The first word, or nothing but the empty text if there is none. -/
def firstWord (args : String) : String := .ofList ((Text.words args.toList).headD [])

/-- The first word and the text behind it, which keeps its inner blanks and loses those at its
    ends. -/
def nameAndText (args : String) : String × String :=
  match Text.headWord? (Text.strip args.toList) with
  | none => ("", "")
  | some (name, text) => (.ofList name, .ofList (Text.strip text))

end ChatWarden.Chat
