import ChatWarden.Json.Value
import ChatWarden.NameMap
import ChatWarden.Text.Digits

/-!
# Reading JSON

A reader for JSON documents. Beyond the standard it accepts the three names of the numbers that
are not finite, and a name that comes twice in an object keeps its last value. Half a surrogate pair
is no character, so a document in which one stands alone has no value.

Results:
* `Json.read` gives the value of a whole text, or the first reason for which it has none.
* `Json.readWith` does so within limits.
-/

namespace ChatWarden.Json

open Decimal (Binary64)
open Text (ofDigits)

/-- Why a text has no value. -/
inductive ReadError where
  /-- The text breaks the grammar, or holds half a surrogate pair. -/
  | malformed
  /-- A whole number has more digits than are read. -/
  | tooManyDigits (count : Nat)
  /-- Arrays and objects stand too deep inside each other. -/
  | tooDeep
  deriving DecidableEq, Repr

/-- How far a reader goes. -/
structure Reach where
  /-- Arrays and objects that stand deeper inside each other are refused. -/
  depth : Nat
  /-- What is read for half a surrogate pair, if it is to be read. -/
  half? : Option Char := none

/-- The blanks between the parts of a document. -/
def isSpace (c : Char) : Bool := c == ' ' || c == '\t' || c == '\n' || c == '\r'

/-- A text without its leading blanks. -/
def skipSpace (cs : List Char) : List Char := cs.dropWhile isSpace

/-- The value of a hexadecimal digit. -/
def hexValue? (c : Char) : Option Nat :=
  if c.isDigit then some (c.toNat - 48)
  else if 'a' ≤ c && c ≤ 'f' then some (c.toNat - 87)
  else if 'A' ≤ c && c ≤ 'F' then some (c.toNat - 55)
  else none

/-- The value of four hexadecimal digits. -/
def fourHex? (a b c d : Char) : Option Nat := do
  return (← hexValue? a) * 4096 + (← hexValue? b) * 256 + (← hexValue? c) * 16 + (← hexValue? d)

/-- The character that a backslash and a letter stand for. -/
def shortEscape? (c : Char) : Option Char :=
  match c with
  | '"' => some '"'
  | '\\' => some '\\'
  | '/' => some '/'
  | 'b' => some '\x08'
  | 'f' => some '\x0c'
  | 'n' => some '\n'
  | 'r' => some '\r'
  | 't' => some '\t'
  | _ => none

/-- Whether a code unit opens a surrogate pair. -/
def isHighUnit (n : Nat) : Bool := 0xD800 ≤ n && n < 0xDC00

/-- Whether a code unit closes a surrogate pair. -/
def isLowUnit (n : Nat) : Bool := 0xDC00 ≤ n && n < 0xE000

/-- The character of a code unit that stands alone. -/
def unitChar? (half? : Option Char) (n : Nat) : Option Char :=
  if 0xD800 ≤ n && n < 0xE000 then half? else some (Char.ofNat n)

/-- The characters up to the closing quote, decoded and appended to the reversed text `read`, and
    the rest behind the quote. -/
def readString (half? : Option Char) :
    (read : List Char) → List Char → Option (List Char × List Char)
  | _, [] => none
  | read, '"' :: rest => some (read.reverse, rest)
  | read, '\\' :: 'u' :: a :: b :: c :: d :: '\\' :: 'u' :: a' :: b' :: c' :: d' :: rest =>
    match fourHex? a b c d with
    | none => none
    | some high =>
      match fourHex? a' b' c' d' with
      | some low =>
        if isHighUnit high && isLowUnit low then
          readString half?
            (Char.ofNat (0x10000 + (high - 0xD800) * 1024 + (low - 0xDC00)) :: read) rest
        else match unitChar? half? high with
          | none => none
          | some c => readString half? (c :: read) ('\\' :: 'u' :: a' :: b' :: c' :: d' :: rest)
      | none => none
  | read, '\\' :: 'u' :: a :: b :: c :: d :: rest =>
    match (fourHex? a b c d).bind (unitChar? half?) with
    | none => none
    | some c => readString half? (c :: read) rest
  | read, '\\' :: c :: rest =>
    match shortEscape? c with
    | none => none
    | some c => readString half? (c :: read) rest
  | read, c :: rest => if c.toNat < 0x20 then none else readString half? (c :: read) rest
termination_by _ cs => cs.length

/-- The digits at the front of a text, and the rest. -/
def takeDigits (cs : List Char) : List Char × List Char :=
  (cs.takeWhile Char.isDigit, cs.dropWhile Char.isDigit)

/-- The value of ASCII digits. -/
def digitsValue (digits : List Char) : Nat := ofDigits (digits.map fun c => c.toNat - 48)

/-- The whole part of a number: a lone zero, or digits that start with another one. -/
def takeWhole? : List Char → Option (List Char × List Char)
  | '0' :: rest => some (['0'], rest)
  | cs =>
    match takeDigits cs with
    | ([], _) => none
    | taken => some taken

/-- The fraction of a number, if one follows: its digits and the rest. -/
def takeFraction : List Char → Option (List Char) × List Char
  | '.' :: rest =>
    match takeDigits rest with
    | ([], _) => (none, '.' :: rest)
    | (digits, rest) => (some digits, rest)
  | cs => (none, cs)

/-- The exponent of a number, if one follows: its value and the rest. -/
def takeExponent (cs : List Char) : Option Int × List Char :=
  match cs with
  | c :: rest =>
    if c == 'e' || c == 'E' then
      let (negative, digits) := Text.takeSign rest
      match takeDigits digits with
      | ([], _) => (none, cs)
      | (digits, rest) =>
        let value : Int := digitsValue digits
        (some (if negative then -value else value), rest)
    else (none, cs)
  | [] => (none, [])

/-- A number at the front of a text: a whole one unless it has a fraction or an exponent. -/
def readNumber (cs : List Char) : Except ReadError (Json × List Char) :=
  let (negative, unsigned) := match cs with
    | '-' :: rest => (true, rest)
    | _ => (false, cs)
  match takeWhole? unsigned with
  | none => .error .malformed
  | some (whole, rest) =>
    let (fraction, rest) := takeFraction rest
    let (exponent, rest) := takeExponent rest
    if fraction.isNone && exponent.isNone then
      if whole.length ≤ Text.maxIntDigits then
        let value : Int := digitsValue whole
        .ok (.int (if negative then -value else value), rest)
      else .error (.tooManyDigits whole.length)
    else
      let places := fraction.getD []
      let value := Binary64.ofDecimal negative (digitsValue (whole ++ places))
        (exponent.getD 0 - places.length)
      .ok (.float value, rest)

/-- A literal at the front of a text. -/
def readLiteral (literal : String) (value : Json) (cs : List Char) :
    Except ReadError (Json × List Char) :=
  if literal.toList.isPrefixOf cs then .ok (value, cs.drop literal.length) else .error .malformed

mutual

/-- A value at the front of a text, inside `depth` arrays and objects. Every call behind a read
    character spends at most two units of `fuel`; twice the length of the text is enough. -/
def readValue (reach : Reach) (fuel depth : Nat) (cs : List Char) :
    Except ReadError (Json × List Char) :=
  match fuel with
  | 0 => .error .malformed
  | fuel + 1 =>
    match cs with
    | '"' :: rest =>
      match readString reach.half? [] rest with
      | some (s, rest) => .ok (.str (.ofList s), rest)
      | none => .error .malformed
    | '\x7b' :: rest =>
      if reach.depth ≤ depth then .error .tooDeep
      else match skipSpace rest with
        | '\x7d' :: rest => .ok (.obj [], rest)
        | rest => readFields reach fuel (depth + 1) [] rest
    | '[' :: rest =>
      if reach.depth ≤ depth then .error .tooDeep
      else match skipSpace rest with
        | ']' :: rest => .ok (.arr [], rest)
        | rest => readItems reach fuel (depth + 1) [] rest
    | 'n' :: _ => readLiteral "null" .null cs
    | 't' :: _ => readLiteral "true" (.bool true) cs
    | 'f' :: _ => readLiteral "false" (.bool false) cs
    | 'N' :: _ => readLiteral "NaN" (.float .nan) cs
    | 'I' :: _ => readLiteral "Infinity" (.float (.infinite false)) cs
    | '-' :: 'I' :: _ => readLiteral "-Infinity" (.float (.infinite true)) cs
    | cs => readNumber cs

/-- The items of an array up to its end, behind those already `read`, in reverse. -/
def readItems (reach : Reach) (fuel depth : Nat) (read : List Json) (cs : List Char) :
    Except ReadError (Json × List Char) :=
  match fuel with
  | 0 => .error .malformed
  | fuel + 1 =>
    match readValue reach fuel depth cs with
    | .error e => .error e
    | .ok (value, rest) =>
      match skipSpace rest with
      | ']' :: rest => .ok (.arr (value :: read).reverse, rest)
      | ',' :: rest => readItems reach fuel depth (value :: read) (skipSpace rest)
      | _ => .error .malformed

/-- The fields of an object up to its end, added to those already `read`. -/
def readFields (reach : Reach) (fuel depth : Nat) (read : List (String × Json)) (cs : List Char) :
    Except ReadError (Json × List Char) :=
  match fuel with
  | 0 => .error .malformed
  | fuel + 1 =>
    match cs with
    | '"' :: rest =>
      match readString reach.half? [] rest with
      | none => .error .malformed
      | some (name, rest) =>
        match skipSpace rest with
        | ':' :: rest =>
          match readValue reach fuel depth (skipSpace rest) with
          | .error e => .error e
          | .ok (value, rest) =>
            let read := NameMap.set (.ofList name) value read
            match skipSpace rest with
            | '\x7d' :: rest => .ok (.obj read, rest)
            | ',' :: rest => readFields reach fuel depth read (skipSpace rest)
            | _ => .error .malformed
        | _ => .error .malformed
    | _ => .error .malformed

end

/-- The value of a whole text, within limits. -/
def readWith (reach : Reach) (cs : List Char) : Except ReadError Json :=
  match readValue reach (2 * cs.length + 2) 0 (skipSpace cs) with
  | .error e => .error e
  | .ok (value, rest) => if (skipSpace rest).isEmpty then .ok value else .error .malformed

/-- The value of a whole text. No text is long enough to reach the limit. -/
def read (cs : List Char) : Except ReadError Json := readWith { depth := cs.length } cs

end ChatWarden.Json
