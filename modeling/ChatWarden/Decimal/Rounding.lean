/-!
# Rounding quotients

Quotients of natural numbers rounded to a neighbouring whole number, and decimal notation with a
fixed number of places.

Results:
* `roundDiv` rounds to the nearest whole number and sends a half to the even neighbour.
* `fixedPlaces` writes a quotient with exactly the wanted number of places.
-/

namespace ChatWarden.Decimal

/-- A power of two. -/
def twoTo (n : Nat) : Nat := Nat.pow 2 n

/-- A power of ten. -/
def tenTo (n : Nat) : Nat := Nat.pow 10 n

/-- The whole number nearest to `num / den`; a half goes to the even neighbour. -/
def roundDiv (num den : Nat) : Nat :=
  let q := num / den
  let twice := 2 * (num % den)
  if twice < den then q
  else if den < twice then q + 1
  else if q % 2 == 0 then q else q + 1

/-- The decimal digits of a number. -/
def digitsOf (n : Nat) : List Char := Nat.toDigits 10 n

/-- Digits filled with leading zeros up to a width. -/
def zeroPadded (width : Nat) (digits : List Char) : List Char :=
  List.replicate (width - digits.length) '0' ++ digits

/-- A number of units of `10 ^ (-places)` in positional notation. -/
def withPoint (places units : Nat) : List Char :=
  if places == 0 then digitsOf units
  else
    let digits := zeroPadded (places + 1) (digitsOf units)
    digits.take (digits.length - places) ++ '.' :: digits.drop (digits.length - places)

/-- The quotient `num / den` with a fixed number of places. -/
def fixedPlaces (places num den : Nat) : List Char :=
  withPoint places (roundDiv (num * tenTo places) den)

end ChatWarden.Decimal
