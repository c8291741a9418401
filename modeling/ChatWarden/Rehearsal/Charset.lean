import ChatWarden.Rehearsal.CodePage
import ChatWarden.Text.Utf8
import ChatWarden.Work.Fault

/-!
# Character sets

Reading bytes as text in the character sets that answers of services come in during a rehearsal.

Results:
* `Charset.ofName?` knows the sets by their usual names, `Charset.misnomer?` the names of other
  ways to write bytes.
* `Charset.items` gives a character for each well-formed part and a mark for each other one.
-/

namespace ChatWarden.Rehearsal

open Text (utf8Items replacement)

/-- A character set. In the sets of wide units, the order of the bytes may be fixed, or be told
    by a mark in front of the text. -/
inductive Charset where
  | utf8
  | utf8Marked
  | utf16
  | utf16Low
  | utf16High
  | utf32
  | utf32Low
  | utf32High
  | paged (page : CodePage)
  deriving DecidableEq, Repr

namespace Charset

/-- The name of a set as it is looked up: small letters, digits and points, with one low line for
    all that stands between two of them. `gap` tells whether something stands there that was left
    out. -/
def plainName (gap : Bool) : List Char → List Char
  | [] => []
  | c :: rest =>
    if c.isAlphanum || c == '.' then
      if gap then '_' :: c.toLower :: plainName false rest else c.toLower :: plainName false rest
    else plainName true rest

/-- A name as it is looked up. -/
def lookedUp (name : List Char) : String :=
  .ofList (plainName false (name.dropWhile fun c => !(c.isAlphanum || c == '.')))

/-- The fault of reading bytes as text under a name that stands for no set of characters. -/
def misnomer? (name : List Char) : Option Fault :=
  match lookedUp name with
  | "base64_codec" | "base64" | "base_64" | "bz2_codec" | "bz2" | "hex_codec" | "hex"
  | "quopri_codec" | "quopri" | "quoted_printable" | "quotedprintable" | "uu_codec" | "uu"
  | "zlib_codec" | "zip" | "zlib" => some ⟨"AssertionError", .other, none⟩
  | "rot_13" | "rot13" => some .wrongKind
  | "idna" | "undefined" => some ⟨"UnicodeError", .value, none⟩
  | _ => none

/-- The set of a name. -/
def ofName? (name : List Char) : Option Charset :=
  match lookedUp name with
  | "utf_8" | "utf8" | "u8" | "utf" | "cp65001" | "utf8_ucs2" | "utf8_ucs4" => some .utf8
  | "utf_8_sig" => some .utf8Marked
  | "utf_16" | "utf16" | "u16" => some .utf16
  | "utf_16_le" | "utf_16le" | "unicodelittleunmarked" => some .utf16Low
  | "utf_16_be" | "utf_16be" | "unicodebigunmarked" => some .utf16High
  | "utf_32" | "utf32" | "u32" => some .utf32
  | "utf_32_le" | "utf_32le" => some .utf32Low
  | "utf_32_be" | "utf_32be" => some .utf32High
  | plain => (CodePage.ofName? plain).map .paged

/-- The characters of units of sixteen bits; half a pair is ill-formed. -/
def unitItems : List Nat → List (Option Char)
  | [] => []
  | [unit] => [if 0xD800 ≤ unit && unit < 0xE000 then none else some (Char.ofNat unit)]
  | high :: low :: more =>
    if 0xD800 ≤ high && high < 0xDC00 then
      if 0xDC00 ≤ low && low < 0xE000 then
        some (Char.ofNat (0x10000 + (high - 0xD800) * 1024 + (low - 0xDC00))) :: unitItems more
      else none :: unitItems (low :: more)
    else if 0xDC00 ≤ high && high < 0xE000 then none :: unitItems (low :: more)
    else some (Char.ofNat high) :: unitItems (low :: more)

/-- Sixteen-bit units of bytes with the low or the high byte first; a byte that is left over is
    one ill-formed part. -/
def pairUnits (lowFirst : Bool) : List UInt8 → List Nat × Bool
  | [] => ([], false)
  | [_] => ([], true)
  | a :: b :: rest =>
    let (units, leftOver) := pairUnits lowFirst rest
    let unit := if lowFirst then a.toNat + 256 * b.toNat else 256 * a.toNat + b.toNat
    (unit :: units, leftOver)

/-- Bytes as a text of sixteen-bit units. Half a pair and a left-over byte at the end are one
    ill-formed part. -/
def wideItems (lowFirst : Bool) (bytes : List UInt8) : List (Option Char) :=
  let (units, leftOver) := pairUnits lowFirst bytes
  let endsOpen := (units.getLast?.getD 0) / 0x400 == 0x36
  unitItems units ++ (if leftOver && !endsOpen then [none] else [])

/-- Bytes as a text of units of thirty-two bits. -/
def widestItems (lowFirst : Bool) : List UInt8 → List (Option Char)
  | a :: b :: c :: d :: rest =>
    let low := a.toNat + 256 * b.toNat
    let high := c.toNat + 256 * d.toNat
    let n := if lowFirst then low + 65536 * high
      else d.toNat + 256 * c.toNat + 65536 * (b.toNat + 256 * a.toNat)
    (if n < 0x110000 && !(0xD800 ≤ n && n < 0xE000) then some (Char.ofNat n) else none) ::
      widestItems lowFirst rest
  | [] => []
  | _ => [none]

/-- The characters and ill-formed parts of bytes in a set. Where the order of the bytes stays open,
    the low one comes first. -/
def items (charset : Charset) (bytes : List UInt8) : List (Option Char) :=
  match charset with
  | .utf8 => utf8Items bytes
  | .utf8Marked =>
    match bytes with
    | 0xEF :: 0xBB :: 0xBF :: rest => utf8Items rest
    | _ => utf8Items bytes
  | .utf16 =>
    match bytes with
    | 0xFF :: 0xFE :: rest => wideItems true rest
    | 0xFE :: 0xFF :: rest => wideItems false rest
    | _ => wideItems true bytes
  | .utf16Low => wideItems true bytes
  | .utf16High => wideItems false bytes
  | .utf32 =>
    match bytes with
    | 0xFF :: 0xFE :: 0 :: 0 :: rest => widestItems true rest
    | 0 :: 0 :: 0xFE :: 0xFF :: rest => widestItems false rest
    | _ => widestItems true bytes
  | .utf32Low => widestItems true bytes
  | .utf32High => widestItems false bytes
  | .paged page => bytes.map page.char?

/-- Whether the order of the bytes in a text stays open: the set leaves it to a mark in front, and
    there is at least one unit but no mark. -/
def isOrderOpen (charset : Charset) (bytes : List UInt8) : Bool :=
  match charset, bytes with
  | .utf16, 0xFF :: 0xFE :: _ => false
  | .utf16, 0xFE :: 0xFF :: _ => false
  | .utf16, _ :: _ :: _ => true
  | .utf32, 0xFF :: 0xFE :: 0 :: 0 :: _ => false
  | .utf32, 0 :: 0 :: 0xFE :: 0xFF :: _ => false
  | .utf32, _ :: _ :: _ :: _ :: _ => true
  | _, _ => false

/-- The text of bytes with a replacement character for each ill-formed part. -/
def lossy (charset : Charset) (bytes : List UInt8) : List Char :=
  (items charset bytes).map (·.getD replacement)

/-- The text of bytes, if they are well formed throughout. -/
def strict? (charset : Charset) (bytes : List UInt8) : Option (List Char) :=
  (items charset bytes).mapM id

end Charset

end ChatWarden.Rehearsal
