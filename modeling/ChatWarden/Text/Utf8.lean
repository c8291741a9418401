/-!
# UTF-8

Reading bytes as UTF-8. `utf8Items` walks over the bytes once and yields a character for every
well-formed sequence and a mark for every maximal ill-formed part; the lossy and the strict reading
are both views of that list.

Results:
* `utf8Lossy` shows each ill-formed part as one replacement character and never fails.
* `utf8Strict?` fails exactly when some part is ill-formed.
-/

namespace ChatWarden.Text

/-- The character that stands for an ill-formed part. -/
def replacement : Char := '\uFFFD'

/-- Whether a byte lies between two bounds. -/
def within (low high : Nat) (b : UInt8) : Bool := low ≤ b.toNat && b.toNat ≤ high

/-- The range that the byte behind a leading byte must lie in, and how many more bytes of the
    general continuation range follow it. Nothing for a byte that cannot lead. -/
def continuation? (lead : UInt8) : Option (Nat × Nat × Nat) :=
  let n := lead.toNat
  if n < 0xC2 then none
  else if n < 0xE0 then some (0x80, 0xBF, 0)
  else if n == 0xE0 then some (0xA0, 0xBF, 1)
  else if n == 0xED then some (0x80, 0x9F, 1)
  else if n < 0xF0 then some (0x80, 0xBF, 1)
  else if n == 0xF0 then some (0x90, 0xBF, 2)
  else if n < 0xF4 then some (0x80, 0xBF, 2)
  else if n == 0xF4 then some (0x80, 0x8F, 2)
  else none

/-- The payload bits of a leading byte that announces `more` general continuation bytes. -/
def leadBits (lead : UInt8) (more : Nat) : Nat := lead.toNat % Nat.pow 2 (5 - more)

/-- Where the reader stands: between characters, or inside a sequence with the value read so far,
    the range of the next byte and how many general continuation bytes follow it. -/
inductive Utf8State where
  | between
  | inside (value low high more : Nat)

/-- The reader's start on one byte that stands between characters. -/
def utf8Start (b : UInt8) : List (Option Char) × Utf8State :=
  if b.toNat < 0x80 then ([some (Char.ofNat b.toNat)], .between)
  else match continuation? b with
    | none => ([none], .between)
    | some (low, high, more) => ([], .inside (leadBits b more) low high more)

/-- One step of the reader: the items that the byte completes, and the next state. A byte outside
    the expected range ends the sequence as one ill-formed part and is read again as a start. -/
def utf8Step (state : Utf8State) (b : UInt8) : List (Option Char) × Utf8State :=
  match state with
  | .between => utf8Start b
  | .inside value low high more =>
    if within low high b then
      let value := value * 64 + b.toNat % 64
      match more with
      | 0 => ([some (Char.ofNat value)], .between)
      | more + 1 => ([], .inside value 0x80 0xBF more)
    else
      let (items, next) := utf8Start b
      (none :: items, next)

/-- The items of the bytes read from a state. A sequence cut off by the end is ill-formed. -/
def utf8ItemsFrom : Utf8State → List UInt8 → List (Option Char)
  | .between, [] => []
  | .inside .., [] => [none]
  | state, b :: rest =>
    let (items, next) := utf8Step state b
    items ++ utf8ItemsFrom next rest

/-- The characters and ill-formed parts of the bytes, in order. -/
def utf8Items (bytes : List UInt8) : List (Option Char) := utf8ItemsFrom .between bytes

/-- The text of the bytes with one replacement character for each ill-formed part. -/
def utf8Lossy (bytes : List UInt8) : List Char := (utf8Items bytes).map (·.getD replacement)

/-- The text of the bytes, if they are well formed throughout. -/
def utf8Strict? (bytes : List UInt8) : Option (List Char) := (utf8Items bytes).mapM id

/-- The bytes of a text. -/
def utf8Bytes (s : String) : List UInt8 := s.toUTF8.toList

end ChatWarden.Text
