/-!
# Issues with configuration values

What can be wrong with a value of the configuration, and where.
-/

namespace ChatWarden.Config

/-- One step on the way to a value: the name of a field or the place in a list. -/
inductive Place where
  | field (name : String)
  | item (index : Nat)
  deriving DecidableEq, Repr

/-- What is wrong with a value. -/
inductive Complaint where
  /-- It is no text. -/
  | notText
  /-- It is no list. -/
  | notList
  /-- It is no number. -/
  | notNumber
  /-- It is no whole number. -/
  | notWhole
  /-- It is written with too many digits. -/
  | tooLong
  deriving DecidableEq, Repr

/-- The name of a complaint. -/
def Complaint.name : Complaint → String
  | .notText => "string_type"
  | .notList => "list_type"
  | .notNumber => "float_parsing"
  | .notWhole => "int_parsing"
  | .tooLong => "int_parsing_size"

/-- A complaint about the value at a place. -/
structure Issue where
  place : List Place
  complaint : Complaint
  deriving DecidableEq, Repr

end ChatWarden.Config
