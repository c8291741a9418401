import ChatWarden.Decimal.Rounding

/-!
# Binary floating point of 64 bits, exactly

Floating-point numbers as exact values `mantissa · 2 ^ exponent`, and their reading from decimal
digits. All arithmetic is on natural numbers, so every step can be reasoned about.

Results:
* `ofQuotient` is the floating-point number nearest to a quotient, a half going to the even
  mantissa, and infinity beyond the range.
* `ofDecimal` reads digits with a decimal exponent by that rule.
-/

namespace ChatWarden.Decimal

/-- A floating-point number. A finite one has a mantissa below `2 ^ 53`, which is at least
    `2 ^ 52` unless the exponent is the least one, `-1074`. -/
inductive Binary64 where
  | nan
  | infinite (negative : Bool)
  | finite (negative : Bool) (mantissa : Nat) (exponent : Int)
  deriving BEq, DecidableEq, Repr, Inhabited

namespace Binary64

/-- Zero without a sign. -/
def zero : Binary64 := .finite false 0 (-1074)

/-- The least exponent of a finite number. -/
def minExponent : Int := -1074

/-- The greatest exponent of a finite number. -/
def maxExponent : Int := 971

/-- `num / den` in units of `2 ^ exponent`, rounded. -/
def scaledDown (num den : Nat) (exponent : Int) : Nat :=
  if exponent < 0 then roundDiv (num * twoTo exponent.natAbs) den
  else roundDiv num (den * twoTo exponent.natAbs)

/-- Whether `num / den` is at least `2 ^ e`. -/
def reaches (num den : Nat) (e : Int) : Bool :=
  if e < 0 then den ≤ num * twoTo e.natAbs else den * twoTo e.natAbs ≤ num

/-- The floating-point number nearest to `num / den`. -/
def ofQuotient (negative : Bool) (num den : Nat) : Binary64 :=
  if num == 0 || den == 0 then .finite negative 0 minExponent
  else
    let guess : Int := (num.log2 : Int) - (den.log2 : Int)
    let top := if reaches num den guess then guess else guess - 1
    let exponent := max (top - 52) minExponent
    let mantissa := scaledDown num den exponent
    let (mantissa, exponent) :=
      if mantissa == twoTo 53 then (twoTo 52, exponent + 1) else (mantissa, exponent)
    if maxExponent < exponent then .infinite negative
    else .finite negative mantissa exponent

/-- The floating-point number nearest to `digits · 10 ^ exponent`. Values far outside the range
    are decided by their magnitude alone. -/
def ofDecimal (negative : Bool) (digits : Nat) (exponent : Int) : Binary64 :=
  let magnitude : Int := (digitsOf digits).length + exponent
  if digits == 0 then .finite negative 0 minExponent
  else if 310 < magnitude then .infinite negative
  else if magnitude < -330 then .finite negative 0 minExponent
  else if exponent < 0 then ofQuotient negative digits (tenTo exponent.natAbs)
  else ofQuotient negative (digits * tenTo exponent.natAbs) 1

/-- The floating-point number nearest to a whole number. -/
def ofInt (n : Int) : Binary64 := ofQuotient (n < 0) n.natAbs 1

/-- The absolute value of a finite number as a quotient. -/
def quotient (mantissa : Nat) (exponent : Int) : Nat × Nat :=
  if exponent < 0 then (mantissa, twoTo exponent.natAbs) else (mantissa * twoTo exponent.natAbs, 1)

/-- Whether the number is zero, of either sign. -/
def isZero : Binary64 → Bool
  | .finite _ mantissa _ => mantissa == 0
  | _ => false

/-- The whole number that is left when the places are cut off; nothing for infinities and for
    what is not a number. -/
def truncated? : Binary64 → Option Int
  | .finite negative mantissa exponent =>
    let (num, den) := quotient mantissa exponent
    let whole : Int := (num / den : Nat)
    some (if negative then -whole else whole)
  | _ => none

/-- The greatest whole number up to a number, for a finite one. -/
def floor? : Binary64 → Option Int
  | .finite negative mantissa exponent =>
    let (num, den) := quotient mantissa exponent
    some (if negative then (-(num : Int)).fdiv den else (num / den : Nat))
  | _ => none

end Binary64

end ChatWarden.Decimal
