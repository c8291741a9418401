import ChatWarden.Text.Blank
import ChatWarden.Text.Utf8

/-!
# Percent-encoding

Characters written as the hexadecimal values of their bytes behind percent signs, and their
reading. A percent sign without two hexadecimal digits stands for itself.

Results:
* `encodeOutside` keeps the characters of a safe set and encodes every other one.
* `decode` reads the escapes of each stretch of ASCII text as UTF-8 and keeps all else.
-/

namespace ChatWarden.Url

/-- A hexadecimal digit in upper case. -/
def hexDigit (n : Nat) : Char := if n < 10 then Char.ofNat (48 + n) else Char.ofNat (55 + n)

/-- The value of a hexadecimal digit of either case. -/
def hexDigitValue? (c : Char) : Option Nat :=
  if '0' ≤ c && c ≤ '9' then some (c.toNat - 48)
  else if 'A' ≤ c && c ≤ 'F' then some (c.toNat - 55)
  else if 'a' ≤ c && c ≤ 'f' then some (c.toNat - 87)
  else none

/-- The escape of one byte. -/
def escapeByte (b : UInt8) : List Char :=
  ['%', hexDigit (b.toNat / 16), hexDigit (b.toNat % 16)]

/-- The escapes of the bytes of one character. -/
def escapeChar (c : Char) : List Char :=
  (Text.utf8Bytes (String.singleton c)).flatMap escapeByte

/-- A text with every character outside a safe set escaped. -/
def encodeOutside (safe : Char → Bool) (cs : List Char) : List Char :=
  cs.flatMap fun c => if safe c then [c] else escapeChar c

/-- Visible ASCII characters. -/
def isVisible (c : Char) : Bool := 0x20 < c.toNat && c.toNat < 0x7F

/-- Whether a character belongs to ASCII. -/
def isAscii (c : Char) : Bool := c.toNat < 0x80

/-- The bytes of a stretch of ASCII text with its escapes read. -/
def decodeBytes : List Char → List UInt8
  | '%' :: a :: b :: rest =>
    match hexDigitValue? a, hexDigitValue? b with
    | some high, some low => UInt8.ofNat (high * 16 + low) :: decodeBytes rest
    | _, _ => UInt8.ofNat '%'.toNat :: decodeBytes (a :: b :: rest)
  | c :: rest => UInt8.ofNat c.toNat :: decodeBytes rest
  | [] => []

/-- A text with its escapes read. Bytes that are not UTF-8 show as replacement characters. -/
def decode : List Char → List Char
  | [] => []
  | c :: rest =>
    if isAscii c then
      Text.utf8Lossy (decodeBytes (c :: rest.takeWhile isAscii)) ++
        decode (rest.dropWhile isAscii)
    else c :: decode rest
termination_by cs => cs.length
decreasing_by
  · have := Text.length_dropWhile_le isAscii rest
    simp only [List.length_cons]; omega
  · simp

end ChatWarden.Url
