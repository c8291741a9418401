import ChatWarden.Decimal.Binary64
import ChatWarden.Json.Reader
import ChatWarden.Text.Digits

/-!
# Numbers in settings

How settings read numbers from texts: floating-point numbers with an optional point and exponent,
and whole numbers that may carry leading zeros, single underscores between digits and a fraction
of zeros.

Results:
* `readFloat?` and `readWhole?` read a whole text, trimmed at its ends.
-/

namespace ChatWarden.Config

open Decimal (Binary64)

/-- A text without the blanks at its ends. -/
def trimmed (cs : List Char) : List Char := Text.trimSet Text.isNumberBlank cs

/-- Whether two underscores stand side by side. -/
def hasDoubleMark : List Char → Bool
  | '_' :: '_' :: _ => true
  | _ :: rest => hasDoubleMark rest
  | [] => false

/-- A text without its underscores, if it has some and each of them stands alone inside. -/
def withoutMarks? (cs : List Char) : Option (List Char) :=
  if cs.head? == some '_' || cs.getLast? == some '_' || !cs.contains '_' || hasDoubleMark cs then
    none
  else some (cs.filter (· != '_'))

/-- The names of the numbers that are not finite, in lower case. -/
def specialFloat? (negative : Bool) (cs : List Char) : Option Binary64 :=
  match String.ofList (cs.map Char.toLower) with
  | "inf" | "infinity" => some (.infinite negative)
  | "nan" => some .nan
  | _ => none

/-- A floating-point number without blanks: digits with an optional point among or beside them
    and an optional exponent, or the name of a number that is not finite. -/
def plainFloat? (cs : List Char) : Option Binary64 :=
  let (negative, unsigned) := Text.takeSign cs
  match specialFloat? negative unsigned with
  | some x => some x
  | none =>
    let (whole, rest) := Json.takeDigits unsigned
    let (places, rest) := match rest with
      | '.' :: rest => Json.takeDigits rest
      | _ => ([], rest)
    let (exponent, rest) := Json.takeExponent rest
    if (whole.isEmpty && places.isEmpty) || !rest.isEmpty then none
    else some (Binary64.ofDecimal negative (Json.digitsValue (whole ++ places))
      (exponent.getD 0 - places.length))

/-- The floating-point number that a text holds. -/
def readFloat? (cs : List Char) : Option Binary64 :=
  (plainFloat? (trimmed cs)).or ((withoutMarks? cs).bind plainFloat?)

/-- A whole number in its plainest form: an optional minus sign, then a zero alone or digits that
    start with another one. -/
def plainWhole? (cs : List Char) : Option Int :=
  let (negative, unsigned) := match cs with
    | '-' :: rest => (true, rest)
    | _ => (false, cs)
  match Json.takeWhole? unsigned with
  | some (digits, []) =>
    let value : Int := Json.digitsValue digits
    some (if negative then -value else value)
  | _ => none

/-- What is left of digits behind leading zeros, which underscores may stand between. The last
    zero stays in front of a point and at the end. `last` is the character before. -/
def behindZeros? (last : Char) : List Char → Option (List Char)
  | [] => some [last]
  | c :: rest =>
    if c == '0' || c == '_' then behindZeros? c rest
    else if c.isDigit then some (c :: rest)
    else if c == '.' then some (last :: c :: rest)
    else none

/-- A text without leading zeros, if it starts like a number. -/
def withoutLeadingZeros? (cs : List Char) : Option (List Char) :=
  match cs with
  | '0' :: rest => behindZeros? '0' rest
  | c :: _ => if c.isDigit || c == '-' then some cs else none
  | [] => none

/-- A text without a fraction of zeros. -/
def withoutZeroPlaces (cs : List Char) : List Char :=
  let whole := cs.takeWhile (· != '.')
  match cs.drop whole.length with
  | _ :: places => if places.all (· == '0') then whole else cs
  | [] => cs

/-- A text without a plus sign in front; a minus sign may not follow it. -/
def withoutPlus? (cs : List Char) : Option (List Char) :=
  match cs with
  | '+' :: '-' :: _ => none
  | '+' :: rest => some rest
  | _ => some cs

/-- The whole number that a text holds. -/
def readWhole? (cs : List Char) : Option Int :=
  match plainWhole? cs with
  | some value => some value
  | none => do
    let cleaned := withoutZeroPlaces (← withoutLeadingZeros? (← withoutPlus? (trimmed cs)))
    plainWhole? ((withoutMarks? cleaned).getD cleaned)

end ChatWarden.Config
