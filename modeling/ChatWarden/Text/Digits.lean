import ChatWarden.Text.Blank

/-!
# Reading whole numbers

Whole numbers as people type them: an optional sign, decimal digits of any script, and single
underscores between digits.

Results:
* `readInt?` reads the number that a text holds, or nothing.
-/

namespace ChatWarden.Text

/-- The zeros of the scripts that write decimal digits; the other nine digits follow each. -/
def digitZeros : List Nat := [
    0x30, 0x660, 0x6F0, 0x7C0, 0x966, 0x9E6, 0xA66, 0xAE6, 0xB66, 0xBE6,
    0xC66, 0xCE6, 0xD66, 0xDE6, 0xE50, 0xED0, 0xF20, 0x1040, 0x1090, 0x17E0,
    0x1810, 0x1946, 0x19D0, 0x1A80, 0x1A90, 0x1B50, 0x1BB0, 0x1C40, 0x1C50, 0xA620,
    0xA8D0, 0xA900, 0xA9D0, 0xA9F0, 0xAA50, 0xABF0, 0xFF10, 0x104A0, 0x10D30, 0x11066,
    0x110F0, 0x11136, 0x111D0, 0x112F0, 0x11450, 0x114D0, 0x11650, 0x116C0, 0x11730, 0x118E0,
    0x11950, 0x11C50, 0x11D50, 0x11DA0, 0x16A60, 0x16AC0, 0x16B50, 0x1D7CE, 0x1D7D8, 0x1D7E2,
    0x1D7EC, 0x1D7F6, 0x1E140, 0x1E2F0, 0x1E950, 0x1FBF0]

/-- The value of a decimal digit of any script. -/
def digitValue? (c : Char) : Option Nat :=
  if c.isDigit then some (c.toNat - 48)
  else if c.toNat < 0x80 then none
  else digitZeros.findSome? fun start =>
    if start ≤ c.toNat && c.toNat < start + 10 then some (c.toNat - start) else none

/-- More digits than this are refused. -/
def maxIntDigits : Nat := 4300

/-- The value of decimal digits, the most significant first. -/
def ofDigits (digits : List Nat) : Nat := digits.foldl (fun value d => value * 10 + d) 0

/-- The digits of a text in which single underscores may stand between digits.
    `afterDigit` tells whether a digit stands right before. -/
def digitsWithMarks? : (afterDigit : Bool) → List Char → Option (List Nat)
  | true, [] => some []
  | false, [] => none
  | true, '_' :: rest => digitsWithMarks? false rest
  | _, c :: rest => do
    let d ← digitValue? c
    let ds ← digitsWithMarks? true rest
    return d :: ds

/-- A sign, if one stands at the front, and the rest. -/
def takeSign : List Char → Bool × List Char
  | '-' :: rest => (true, rest)
  | '+' :: rest => (false, rest)
  | cs => (false, cs)

/-- The blanks that may stand around a number. The four information separators are none of them. -/
def isNumberBlank (c : Char) : Bool := isBlank c && !(28 ≤ c.toNat && c.toNat ≤ 31)

/-- The whole number that a text holds between blanks. -/
def readInt? (cs : List Char) : Option Int := do
  let (negative, rest) := takeSign (trimSet isNumberBlank cs)
  let digits ← digitsWithMarks? false rest
  if digits.length ≤ maxIntDigits then
    let value : Int := ofDigits digits
    return if negative then -value else value
  else none

end ChatWarden.Text
