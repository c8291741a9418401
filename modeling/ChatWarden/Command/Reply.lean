import ChatWarden.Json.Display

/-!
# Replies

What a command replies. Nearly always this is a text; a service may also lead to a value of
another kind, which cannot be sent.
-/

namespace ChatWarden

/-- The reply of a command. -/
inductive Reply where
  | text (text : String)
  /-- A value that is no text. -/
  | other (value : Json)

namespace Reply

instance : Coe String Reply := ⟨.text⟩

/-- The reply of a value: a text if the value is one. -/
def ofJson : Json → Reply
  | .str s => .text s
  | value => .other value

/-- The value of a reply. -/
def toJson : Reply → Json
  | .text s => .str s
  | .other value => value

/-- Whether there is nothing to send. -/
def isEmpty (reply : Reply) : Bool := !reply.toJson.isTruthy

/-- A reply as messages show it. -/
def shown (reply : Reply) : String := reply.toJson.display

end Reply

end ChatWarden
