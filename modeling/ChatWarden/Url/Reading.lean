import ChatWarden.Text.Split
import ChatWarden.Url.Percent

/-!
# How clients read addresses

A client for requests over HTTP cuts the text of an address into its parts and writes each part in
characters that may be sent. Which characters it escapes, and how long an address may be, is its own
affair; what all clients have in common are the laws that are stated here.

Results:
* `Spelling.target` is what stands behind a host, cut into its parts.
* `Reading.IsLawful` tells what can be relied on.
-/

namespace ChatWarden.Url

/-- What is requested for a secure address, in parts. -/
structure Target where
  host : List Char
  path : List Char
  query : Option (List Char)
  fragment : Option (List Char)
  deriving DecidableEq, Repr

/-- The text of a secure address: a host, and what stands behind it. -/
def secureAddress (host rest : List Char) : List Char := "https://".toList ++ host ++ rest

/-- The control characters of ASCII, which stand in no address. -/
def isControl (c : Char) : Bool := c.toNat < 0x20 || c.toNat == 0x7F

/-- A host that stands in its address as it is: small letters and points. -/
def IsPlainHost (host : List Char) : Prop :=
  host ≠ [] ∧ ∀ c ∈ host, c.isLower = true ∨ c = '.'

/-- A segment of a path that stands for a move in the path. -/
def IsDots (segment : List Char) : Prop := segment = ['.'] ∨ segment = ['.', '.']

instance : DecidablePred IsDots := fun segment =>
  inferInstanceAs (Decidable (segment = ['.'] ∨ segment = ['.', '.']))

/-- How a client writes the parts of an address. -/
structure Spelling where
  /-- A path with its dot segments carried out. -/
  resolved : List Char → List Char
  /-- A path with escapes for what may not be sent in it. -/
  escapedPath : List Char → List Char
  /-- A query with escapes for what may not be sent in it. -/
  escapedQuery : List Char → List Char
  /-- A fragment with escapes for what may not stand in it. -/
  escapedFragment : List Char → List Char

/-- The target of what stands behind a host: behind the first hash sign stands the fragment, and in
    front of it the first question mark ends the path. -/
def Spelling.target (spelling : Spelling) (host rest : List Char) : Target :=
  let (rest, fragment) := match Text.cutAt? '#' rest with
    | some (rest, fragment) => (rest, some fragment)
    | none => (rest, none)
  let (path, query) := match Text.cutAt? '?' rest with
    | some (path, query) => (path, some query)
    | none => (rest, none)
  { host
    path := spelling.escapedPath (spelling.resolved path)
    query := query.map spelling.escapedQuery
    fragment := fragment.map spelling.escapedFragment }

/-- How a client reads addresses. -/
structure Reading extends Spelling where
  /-- Longer addresses are refused. -/
  limit : Nat
  /-- What is requested for an address, if the client takes it. -/
  target? : (address : List Char) → Option Target

/-- What can be relied on in every client. -/
structure Reading.IsLawful (reading : Reading) : Prop where
  /-- An address that is too long is refused. -/
  refuses {address : List Char} : reading.limit < address.length → reading.target? address = none
  /-- No other address is, if it holds no control characters. -/
  takes {host rest : List Char} : IsPlainHost host → (∀ c ∈ rest, isControl c = false) →
    (secureAddress host ('/' :: rest)).length ≤ reading.limit →
      (reading.target? (secureAddress host ('/' :: rest))).isSome = true
  /-- An address is cut into its parts at the first hash sign and the first question mark. -/
  cuts {host rest : List Char} {target : Target} : IsPlainHost host →
    reading.target? (secureAddress host ('/' :: rest)) = some target →
      target = reading.target host ('/' :: rest)
  /-- A path without dot segments stays as it is. -/
  resolved_of_plain {path : List Char} :
    (∀ segment ∈ Text.splitAt '/' path, ¬IsDots segment) → reading.resolved path = path
  /-- No dot segments are left in a path. -/
  plain_of_resolved {path : List Char} :
    ∀ segment ∈ Text.splitAt '/' (reading.resolved path), ¬IsDots segment
  /-- Nothing new comes into a path. -/
  mem_of_resolved {path : List Char} {c : Char} : c ∈ reading.resolved path → c = '/' ∨ c ∈ path
  /-- The escapes of a path without percent signs stand for that path. -/
  decode_escapedPath {path : List Char} :
    '%' ∉ path → decode (reading.escapedPath path) = path

end ChatWarden.Url
