import ChatWarden.Json.Reader
import ChatWarden.Lookup.Card
import ChatWarden.Rehearsal.Charset

/-!
# Answers of the web in a rehearsal

What a client makes of an answer that a rehearsal gives by its status, its headers and the bytes of
its body: the body is read as text in the character set that its header names, and as a document in
the one that shows in its first bytes.

Results:
* `WebScript.answer` is what a request is answered with.
-/

namespace ChatWarden.Rehearsal

/-- What a service answers, and how deep the arrays and objects of its body may stand inside each
    other before the client that reads them gives up. -/
structure WebScript where
  status : Int := 200
  body : List UInt8 := []
  headers : List (String × String) := []
  depth : Nat := 970
  deriving DecidableEq, Repr

namespace WebScript

/-- The value of a header, whatever the case of its name; those of repeated headers stand behind
    each other. -/
def header? (script : WebScript) (name : String) : Option String :=
  match script.headers.filter fun header => header.1.toList.map Char.toLower == name.toList with
  | [] => none
  | found => some (", ".intercalate (found.map (·.2)))

/-- The value of a parameter of a header, without quotes around it. -/
def parameter? (name : String) (value : List Char) : Option (List Char) :=
  (Text.splitAt ';' value).findSome? fun part =>
    match Text.cutAt? '=' part with
    | none => none
    | some (key, value) =>
      if (Text.strip key).map Char.toLower == name.toList then
        some (Text.trimSet (· == '"') (Text.strip value))
      else none

/-- The name of the character set that the header tells. -/
def charsetName? (script : WebScript) : Option (List Char) := do
  parameter? "charset" (← script.header? "content-type").toList

/-- Whether the header says that the body is packed, which it never is. -/
def isPacked (script : WebScript) : Bool :=
  ((script.header? "content-encoding").map fun value =>
    (Text.splitAt ',' value.toList).any fun name =>
      ["gzip".toList, "deflate".toList].contains ((Text.strip name).map Char.toLower)).getD false

/-- The body as text. -/
def text (script : WebScript) : Except Fault String :=
  if script.body.isEmpty then .ok ""
  else match script.charsetName?.bind Charset.misnomer? with
    | some fault => .error fault
    | none =>
      let charset := (script.charsetName?.bind Charset.ofName?).getD .utf8
      if charset.isOrderOpen script.body then .error ⟨"UnicodeError", .value, none⟩
      else .ok (.ofList (charset.lossy script.body))

/-- The character set of a document, which shows in a mark or in the zeros among its first
    bytes. -/
def documentCharset : List UInt8 → Charset
  | 0 :: 0 :: 0xFE :: 0xFF :: _ => .utf32
  | 0xFF :: 0xFE :: 0 :: 0 :: _ => .utf32
  | 0xFE :: 0xFF :: _ => .utf16
  | 0xFF :: 0xFE :: _ => .utf16
  | 0xEF :: 0xBB :: 0xBF :: _ => .utf8Marked
  | a :: b :: c :: d :: _ =>
    if a == 0 then (if b == 0 then .utf32High else .utf16High)
    else if b == 0 then (if c == 0 && d == 0 then .utf32Low else .utf16Low)
    else .utf8
  | [a, b] => if a == 0 then .utf16High else if b == 0 then .utf16Low else .utf8
  | _ => .utf8

/-- The fault of a text that is no document. -/
def documentFault : Json.ReadError → Fault
  | .malformed => ⟨"JSONDecodeError", .value, none⟩
  | .tooManyDigits count => ⟨"ValueError", .value, some
      ("Exceeds the limit (4300 digits) for integer string conversion: value has " ++
        toString count ++ " digits; use sys.set_int_max_str_digits() to increase the limit")⟩
  | .tooDeep => ⟨"RecursionError", .other, none⟩

/-- What is shown of a card with half a surrogate pair in it, which is read as a mark: nothing if
    the mark would have to be written into an address. -/
def shownMarked (card : Json) : Except Fault Json := do
  match ← Lookup.Card.line card with
  | .str shown =>
    let marked := String.ofList (Url.escapeChar Text.replacement)
    if shown.startsWith "http" && (shown.splitOn marked).length != 1 then
      throw ⟨"UnicodeEncodeError", .value, none⟩
    else return .str shown
  | shown => return shown

/-- The body as a document. -/
def document (script : WebScript) : Except Fault Http.Document :=
  match (documentCharset script.body).strict? script.body with
  | none => .error ⟨"UnicodeDecodeError", .value, none⟩
  | some cs =>
    match Json.readWith { depth := script.depth } cs with
    | .ok value => .ok (.json value)
    | .error _ =>
      match Json.readWith { depth := script.depth, half? := some Text.replacement } cs with
      | .ok value => .ok (.foreign (shownMarked value))
      | .error trouble => .error (documentFault trouble)

/-- What a request is answered with. -/
def answer (script : WebScript) : Except Fault Http.Response :=
  if script.isPacked && !script.body.isEmpty then .error ⟨"DecodingError", .http, none⟩
  else .ok {
    refusal := if 200 ≤ script.status && script.status ≤ 299 then none else some .badStatus
    text := script.text
    document := script.document }

end WebScript

end ChatWarden.Rehearsal
