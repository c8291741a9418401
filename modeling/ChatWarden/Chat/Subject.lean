import ChatWarden.Text.Blank
import ChatWarden.Text.Lower
import ChatWarden.Text.Split

/-!
# Subjects of ordinary lines

Topics that are answered although nobody called a command. A line is checked for a topic as a
whole; the answer then depends on how the first word that names the topic is spelt.

Results:
* `Subject.mentioned?` finds the topic of a line.
* `Subject.answer` corrects the spelling of its first mention.
-/

namespace ChatWarden.Chat

/-- A topic of ordinary chat lines. -/
inductive Subject where
  | ocaml
  deriving DecidableEq, Repr

namespace Subject

/-- The name of a topic in lower case. -/
def name : Subject → String
  | .ocaml => "ocaml"

/-- The only right spelling of a topic. -/
def spelling : Subject → String
  | .ocaml => "OCaml"

/-- All topics. -/
def all : List Subject := [.ocaml]

/-- The first topic whose name occurs in a line, whatever the case of its letters. -/
def mentioned? (line : String) : Option Subject :=
  all.find? fun subject => Text.occursIn subject.name.toList (Text.lower line.toList)

/-- Whether a character is ASCII punctuation. -/
def isPunctuation (c : Char) : Bool := 0x20 < c.toNat && c.toNat < 0x7F && !c.isAlphanum

/-- The words of a line without the punctuation around them. -/
def bareWords (line : String) : List (List Char) :=
  (Text.words line.toList).map (Text.trimSet isPunctuation)

/-- The first word that names the topic, as typed. -/
def firstMention? (subject : Subject) (line : String) : Option (List Char) :=
  (bareWords line).find? fun word => Text.lower word == subject.name.toList

/-- The answer to a line: a correction if the first mention is misspelt, else nothing. -/
def answer (subject : Subject) (line sender : String) : String :=
  match firstMention? subject line with
  | none => ""
  | some word =>
    if String.ofList word == subject.spelling then ""
    else "@" ++ sender ++ " Não é " ++ .ofList word ++ ", é " ++ subject.spelling ++ "."

end Subject

end ChatWarden.Chat
