import ChatWarden.Json.Display
import ChatWarden.Text.Digits

/-!
# Message templates

Templates whose fields start at a percent sign: flags, a width, a precision and the kind of the
field. Fields take the values in order, or by name from a mapping.

Results:
* `Template.fill` writes a template with its values, or tells why they do not fit.
-/

namespace ChatWarden.Log.Template

open Decimal (Binary64)

/-- Why values do not fit a template. -/
inductive Misfit where
  /-- A value is missing, left over or of the wrong kind. -/
  | wrongValue
  /-- The template itself, or a number that is none, cannot be written. -/
  | badTemplate
  /-- A named value is missing. -/
  | missingName (name : String)
  /-- A number is outside the range of its field. -/
  | outOfRange
  deriving DecidableEq, Repr

/-- The values that are still to be written. -/
inductive Source where
  /-- Values to be taken in order. -/
  | list (values : List Json)
  /-- One value that may be taken once. -/
  | single (value : Json)
  /-- A value that was taken. -/
  | spent
  deriving Inhabited

/-- The next value. -/
def Source.next : Source → Except Misfit (Json × Source)
  | .list (value :: rest) => .ok (value, .list rest)
  | .single value => .ok (value, .spent)
  | _ => .error .wrongValue

/-- How a field is written. -/
structure Field where
  left : Bool := false
  sign : Bool := false
  blank : Bool := false
  alternate : Bool := false
  zeros : Bool := false
  width : Nat := 0
  precision : Option Nat := none

/-- A text in its field: the fill goes in front, or behind if the field is aligned to the left. -/
def Field.pad (field : Field) (cs : List Char) : List Char :=
  let fill := List.replicate (field.width - cs.length) ' '
  if field.left then cs ++ fill else fill ++ cs

/-- A number in its field: a sign if there is one, a mark of its base, then its digits. Zeros
    fill the room between the mark and the digits. -/
def Field.padNumber (field : Field) (negative : Bool) (mark digits : List Char) : List Char :=
  let sign := if negative then ['-'] else if field.sign then ['+'] else if field.blank then [' ']
    else []
  if field.zeros && !field.left then
    let room := field.width - sign.length - mark.length - digits.length
    sign ++ mark ++ List.replicate room '0' ++ digits
  else field.pad (sign ++ mark ++ digits)

/-- A text in its field, cut to the precision. -/
def Field.text (field : Field) (s : String) : List Char :=
  match field.precision with
  | none => field.pad s.toList
  | some n => field.pad (s.toList.take n)

/-- A whole number in its field, in a base that a mark may name. -/
def Field.whole (field : Field) (base : Nat) (mark : List Char) (upper : Bool) (n : Int) :
    List Char :=
  let digits := Decimal.zeroPadded (field.precision.getD 0) (Nat.toDigits base n.natAbs)
  let digits := if upper then digits.map Char.toUpper else digits
  field.padNumber (n < 0) (if field.alternate then mark else []) digits

/-- The whole number of a value that counts as a number. -/
def wholeOf : Json → Except Misfit Int
  | .int n => .ok n
  | .bool b => .ok (if b then 1 else 0)
  | .float x =>
    match x, x.truncated? with
    | _, some n => .ok n
    | .nan, _ => .error .badTemplate
    | _, _ => .error .outOfRange
  | _ => .error .wrongValue

/-- The whole number of a value that is one. -/
def exactWholeOf : Json → Except Misfit Int
  | .int n => .ok n
  | .bool b => .ok (if b then 1 else 0)
  | _ => .error .wrongValue

/-- The floating-point number of a value that counts as a number. -/
def floatOf : Json → Except Misfit Binary64
  | .float x => .ok x
  | value => do
    match Binary64.ofInt (← exactWholeOf value) with
    | .infinite _ => .error .outOfRange
    | x => .ok x

/-- The `count` significant digits of a positive quotient and the power of ten of the first. -/
def significant (num den count : Nat) : List Char × Int :=
  let power := Decimal.leadingPower num den
  let digits := Decimal.digitsOf (Decimal.unitsNearest num den (power + 1 - count))
  if count < digits.length then (digits.take count, power + 1) else (digits, power)

/-- The digits of a finite number with an exponent and a number of places. -/
def withExponent (alternate : Bool) (places mantissa : Nat) (exponent : Int) : List Char :=
  let (num, den) := Binary64.quotient mantissa exponent
  let (digits, power) := if mantissa == 0 then (List.replicate (places + 1) '0', 0)
    else significant num den (places + 1)
  let point := if places == 0 then (if alternate then ['.'] else []) else '.' :: digits.drop 1
  digits.take 1 ++ point ++ Decimal.exponentText power

/-- The digits of a finite number with a number of places and no exponent. -/
def withPlaces (alternate : Bool) (places mantissa : Nat) (exponent : Int) : List Char :=
  let (num, den) := Binary64.quotient mantissa exponent
  Decimal.fixedPlaces places num den ++ (if places == 0 && alternate then ['.'] else [])

/-- Digits with a point among them, without zeros at the end and without a point there. -/
def trimPlaces (digits : List Char) : List Char :=
  if digits.contains '.' then
    ((digits.reverse.dropWhile (· == '0')).dropWhile (· == '.')).reverse
  else digits

/-- The digits of a finite number with a number of significant digits, in the notation for its
    size. Zeros at the end are left out unless the field asks for them. -/
def general (alternate : Bool) (precision mantissa : Nat) (exponent : Int) : List Char :=
  let count := if precision == 0 then 1 else precision
  let (num, den) := Binary64.quotient mantissa exponent
  let (digits, power) := if mantissa == 0 then (List.replicate count '0', 0)
    else significant num den count
  let trim := if alternate then id else trimPlaces
  if -4 ≤ power && power < count then
    let all := if power < 0 then List.replicate power.natAbs '0' ++ digits else digits
    let split := if power < 0 then 1 else power.natAbs + 1
    let rest := all.drop split
    trim (all.take split ++ (if rest.isEmpty && !alternate then [] else '.' :: rest))
  else
    let rest := digits.drop 1
    trim (digits.take 1 ++ (if rest.isEmpty && !alternate then [] else '.' :: rest)) ++
      Decimal.exponentText power

/-- A floating-point number in its field. -/
def Field.float (field : Field) (upper : Bool)
    (digits : (mantissa : Nat) → (exponent : Int) → List Char) (x : Binary64) : List Char :=
  let shape (cs : List Char) := if upper then cs.map Char.toUpper else cs
  match x with
  | .nan => field.padNumber false [] (shape "nan".toList)
  | .infinite negative => field.padNumber negative [] (shape "inf".toList)
  | .finite negative mantissa exponent =>
    field.padNumber negative [] (shape (digits mantissa exponent))

/-- One character in its field: a text of one character, or the number of a character. -/
def Field.character (field : Field) : Json → Except Misfit (List Char)
  | .str s =>
    match s.toList with
    | [c] => .ok (field.pad [c])
    | _ => .error .wrongValue
  | value => do
    let n ← exactWholeOf value
    if n < 0 || 0x110000 ≤ n then .error .outOfRange else .ok (field.pad [Char.ofNat n.toNat])

/-- A value in a field of a kind. -/
def Field.write (field : Field) (kind : Char) (value : Json) : Except Misfit (List Char) :=
  let precision := field.precision.getD 6
  match kind with
  | 's' => .ok (field.text value.display)
  | 'r' => .ok (field.text value.inspect)
  | 'a' => .ok (field.text (Text.asciiOnly value.inspect))
  | 'd' | 'i' | 'u' => do return field.whole 10 [] false (← wholeOf value)
  | 'o' => do return field.whole 8 ['0', 'o'] false (← exactWholeOf value)
  | 'x' => do return field.whole 16 ['0', 'x'] false (← exactWholeOf value)
  | 'X' => do return field.whole 16 ['0', 'X'] true (← exactWholeOf value)
  | 'c' => field.character value
  | 'e' | 'E' => do
    return field.float (kind == 'E') (withExponent field.alternate precision) (← floatOf value)
  | 'f' | 'F' => do
    return field.float (kind == 'F') (withPlaces field.alternate precision) (← floatOf value)
  | 'g' | 'G' => do
    return field.float (kind == 'G') (general field.alternate precision) (← floatOf value)
  | _ => .error .badTemplate

/-- The name between brackets at the front of a field, and the rest; brackets may be nested. -/
def takeName? : (depth : Nat) → List Char → Option (List Char × List Char)
  | _, [] => none
  | depth, c :: rest =>
    if c == ')' then
      match depth with
      | 0 => some ([], rest)
      | depth + 1 => (takeName? depth rest).map fun (name, rest) => (c :: name, rest)
    else
      let deeper := if c == '(' then depth + 1 else depth
      (takeName? deeper rest).map fun (name, rest) => (c :: name, rest)

/-- The field with one flag set, if the character is a flag. -/
def Field.flag? (field : Field) (c : Char) : Option Field :=
  match c with
  | '-' => some { field with left := true }
  | '+' => some { field with sign := true }
  | ' ' => some { field with blank := true }
  | '#' => some { field with alternate := true }
  | '0' => some { field with zeros := true }
  | _ => none

/-- The flags at the front of a field. -/
def takeFlags (field : Field) : List Char → Field × List Char
  | [] => (field, [])
  | c :: rest =>
    match field.flag? c with
    | some field => takeFlags field rest
    | none => (field, c :: rest)

/-- The bound of widths. -/
def widthBound : Int := 0x8000000000000000

/-- The bound of precisions. -/
def precisionBound : Int := 0x80000000

/-- A number at the front of a field: digits, or an asterisk for the next value. It lies below a
    bound, and not below the negative bound. -/
def takeNumber (bound : Int) (source : Source) (cs : List Char) :
    Except Misfit (Option Int × Source × List Char) :=
  match cs with
  | '*' :: rest => do
    let (value, source) ← source.next
    let n ← exactWholeOf value
    if n < -bound || bound ≤ n then throw .outOfRange
    return (some n, source, rest)
  | _ =>
    let digits := cs.takeWhile Char.isDigit
    let value : Int := Text.ofDigits (digits.map fun c => c.toNat - 48)
    if bound ≤ value then .error .badTemplate
    else .ok (if digits.isEmpty then none else some value, source, cs.drop digits.length)

/-- The values that a field draws on: those of the template, or one of the mapping by its name. -/
def sourceFor (mapping : Option Json) (source : Source) (cs : List Char) :
    Except Misfit (Source × List Char) :=
  match cs with
  | '(' :: rest =>
    match mapping with
    | none => .error .wrongValue
    | some mapping =>
      match takeName? 0 rest with
      | none => .error .badTemplate
      | some (name, rest) =>
        match mapping.field? (.ofList name) with
        | none => .error (.missingName (.ofList name))
        | some value => .ok (.single value, rest)
  | _ => .ok (source, cs)

/-- One field behind its percent sign: what it writes, the values left over, and the rest of the
    template. -/
def writeField (mapping : Option Json) (source : Source) (cs : List Char) :
    Except Misfit (List Char × Source × List Char) := do
  let (source, cs) ← sourceFor mapping source cs
  let (field, cs) := takeFlags {} cs
  let (width, source, cs) ← takeNumber widthBound source cs
  let width := width.getD 0
  let field := { field with width := width.natAbs, left := field.left || width < 0 }
  let (field, source, cs) ← match cs with
    | '.' :: rest => do
      let (precision, source, rest) ← takeNumber precisionBound source rest
      pure ({ field with precision := some (precision.getD 0).toNat }, source, rest)
    | _ => pure (field, source, cs)
  let cs := match cs with
    | 'h' :: rest | 'l' :: rest | 'L' :: rest => rest
    | _ => cs
  match cs with
  | [] => .error .badTemplate
  | kind :: rest =>
    let (value, source) ← source.next
    return (← field.write kind value, source, rest)

/-- Writes a template from its front. Each field takes at least one character off it, so its
    length is `fuel` enough. -/
def fillFrom (mapping : Option Json) : (fuel : Nat) → Source → List Char →
    Except Misfit (List Char × Source)
  | 0, source, _ => .ok ([], source)
  | fuel + 1, source, cs =>
    match cs with
    | [] => .ok ([], source)
    | '%' :: '%' :: rest => do
      let (more, source) ← fillFrom mapping fuel source rest
      return ('%' :: more, source)
    | '%' :: rest => do
      let (written, source, rest) ← writeField mapping source rest
      let (more, source) ← fillFrom mapping fuel source rest
      return (written ++ more, source)
    | c :: rest => do
      let (more, source) ← fillFrom mapping fuel source rest
      return (c :: more, source)

/-- A template with its values. Without values it stands for itself; a mapping that is the only
    value gives the values by name, and then none needs to be used. -/
def fill (template : String) (values : List Json) : Except Misfit String := do
  let cs := template.toList
  match values with
  | [] => return template
  | [.obj (first :: rest)] =>
    let mapping := Json.obj (first :: rest)
    let (written, _) ← fillFrom (some mapping) (cs.length + 1) (.single mapping) cs
    return .ofList written
  | values =>
    match ← fillFrom none (cs.length + 1) (.list values) cs with
    | (written, .list []) => return .ofList written
    | _ => .error .wrongValue

end ChatWarden.Log.Template
