import ChatWarden.Decimal.Shortest

/-!
# Numbers as they were given

A number that was given as a whole number or as a floating-point number, and is shown as it was
given.
-/

namespace ChatWarden.Decimal

/-- A number as it was given. -/
inductive Number where
  | whole (value : Int)
  | float (value : Binary64)
  deriving DecidableEq, Repr

namespace Number

/-- A number as text. -/
def text : Number → String
  | .whole n => toString n
  | .float x => x.text

/-- A number with a fixed number of places. -/
def fixed (places : Nat) : Number → String
  | .whole n => (Binary64.ofInt n).fixed places
  | .float x => x.fixed places

end Number

end ChatWarden.Decimal
