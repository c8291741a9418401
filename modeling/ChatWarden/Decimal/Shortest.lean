import ChatWarden.Decimal.Binary64

/-!
# The shortest decimal that reads back

A floating-point number is shown by the fewest digits that read back as the same number, and among
those by the digits nearest to it. Numbers from `10 ^ (-4)` up to `10 ^ 16` are written
positionally, the others with an exponent of at least two digits.

Results:
* `shortestDigits` finds the digits and the place of the point.
* `Binary64.text` writes the number.
-/

namespace ChatWarden.Decimal

/-- The position of the first digit of a positive quotient: the greatest `p` with
    `10 ^ p ≤ num / den`. `guess` is at most one too high or a few too low. -/
def leadingPower (num den : Nat) : Int :=
  let atLeast (p : Int) : Bool :=
    if p < 0 then den ≤ num * tenTo p.natAbs else den * tenTo p.natAbs ≤ num
  let guess : Int := ((digitsOf num).length : Int) - ((digitsOf den).length : Int)
  if atLeast guess then guess else guess - 1

/-- `num / den` in units of `10 ^ unit`, rounded down. -/
def unitsBelow (num den : Nat) (unit : Int) : Nat :=
  if unit < 0 then num * tenTo unit.natAbs / den else num / (den * tenTo unit.natAbs)

/-- `num / den` in units of `10 ^ unit`, rounded to nearest. -/
def unitsNearest (num den : Nat) (unit : Int) : Nat :=
  if unit < 0 then roundDiv (num * tenTo unit.natAbs) den
  else roundDiv num (den * tenTo unit.natAbs)

/-- The digits, if the grid of `count` significant digits has a point that reads back: of the two
    points around the value the nearer one is tried first. -/
def digitsOnGrid? (mantissa : Nat) (exponent : Int) (count : Nat) : Option (Nat × Int) :=
  let (num, den) := Binary64.quotient mantissa exponent
  let unit := leadingPower num den + 1 - count
  let low := unitsBelow num den unit
  let near := unitsNearest num den unit
  let far := if near == low then low + 1 else low
  let readsBack (digits : Nat) : Bool :=
    Binary64.ofDecimal false digits unit == .finite false mantissa exponent
  if readsBack near then some (near, unit)
  else if readsBack far then some (far, unit)
  else none

/-- The fewest digits that read back as a positive finite number, with the power of ten of the
    last one. Seventeen digits always read back. -/
def shortestDigits (mantissa : Nat) (exponent : Int) : Nat × Int :=
  ((List.range 17).findSome? fun count => digitsOnGrid? mantissa exponent (count + 1)).getD (0, 0)

/-- An exponent with its sign and at least two digits. -/
def exponentText (power : Int) : List Char :=
  'e' :: (if power < 0 then '-' else '+') :: zeroPadded 2 (digitsOf power.natAbs)

/-- Digits without trailing zeros. -/
def withoutTrailingZeros (digits : List Char) : List Char :=
  (digits.reverse.dropWhile (· == '0')).reverse

/-- Digits whose first one stands at `10 ^ power`, positionally. -/
def positional (digits : List Char) (power : Int) : List Char :=
  if power < 0 then
    '0' :: '.' :: (List.replicate (power.natAbs - 1) '0' ++ digits)
  else
    let whole := power.natAbs + 1
    let left := digits.take whole
    let right := digits.drop whole
    left ++ List.replicate (whole - left.length) '0' ++
      '.' :: (if right.isEmpty then ['0'] else right)

/-- Digits whose first one stands at `10 ^ power`, with an exponent. -/
def scientific (digits : List Char) (power : Int) : List Char :=
  match digits with
  | [] => []
  | [d] => d :: exponentText power
  | d :: rest => d :: '.' :: rest ++ exponentText power

/-- The digits of a positive finite number in the notation for its size. -/
def shortestText (mantissa : Nat) (exponent : Int) : List Char :=
  if mantissa == 0 then "0.0".toList
  else
    let (value, unit) := shortestDigits mantissa exponent
    let digits := digitsOf value
    let power := unit + digits.length - 1
    let digits := withoutTrailingZeros digits
    if -4 ≤ power && power < 16 then positional digits power else scientific digits power

/-- A floating-point number as text. -/
def Binary64.text : Binary64 → String
  | .nan => "nan"
  | .infinite negative => if negative then "-inf" else "inf"
  | .finite negative mantissa exponent =>
    .ofList ((if negative then ['-'] else []) ++ shortestText mantissa exponent)

/-- A floating-point number with a fixed number of places. -/
def Binary64.fixed (places : Nat) : Binary64 → String
  | .nan => "nan"
  | .infinite negative => if negative then "-inf" else "inf"
  | .finite negative mantissa exponent =>
    let (num, den) := quotient mantissa exponent
    .ofList ((if negative then ['-'] else []) ++ fixedPlaces places num den)

end ChatWarden.Decimal
