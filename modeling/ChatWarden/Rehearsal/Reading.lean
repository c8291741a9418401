import ChatWarden.Http.Response
import ChatWarden.Url.Query
import ChatWarden.Url.Reading

/-!
# The client of a rehearsal

How the client that sends requests in a rehearsal reads their addresses, and what it sends for them.

Results:
* `reading` is the way in which it reads addresses.
* `sent?` is what goes out for a request, if its address is taken.
-/

namespace ChatWarden.Rehearsal

open Url (Target isControl isVisible encodeOutside)

/-- Characters that a query keeps. -/
def querySafe (c : Char) : Bool :=
  isVisible c && c != '"' && c != '#' && c != '<' && c != '>'

/-- Characters that a path keeps. -/
def pathSafe (c : Char) : Bool :=
  querySafe c && c != '?' && c != '\x60' && c != '\x7b' && c != '\x7d'

/-- Characters that a fragment keeps. -/
def fragmentSafe (c : Char) : Bool :=
  isVisible c && c != '"' && c != '<' && c != '>' && c != '\x60'

/-- The segments of a path with the dot segments carried out, behind those already `kept`, in
    reverse: a single dot is dropped, two dots take the last segment with them unless only the
    empty one in front is left. -/
def resolveDots : (kept : List (List Char)) → List (List Char) → List (List Char)
  | kept, [] => kept.reverse
  | kept, segment :: rest =>
    if segment == ['.'] then resolveDots kept rest
    else if segment == ['.', '.'] then
      if kept == [[]] then resolveDots kept rest else resolveDots (kept.drop 1) rest
    else resolveDots (segment :: kept) rest

/-- How the client writes the parts of an address. -/
def spelling : Url.Spelling where
  resolved path := Text.joinWith ['/'] (resolveDots [] (Text.splitAt '/' path))
  escapedPath := encodeOutside pathSafe
  escapedQuery := encodeOutside querySafe
  escapedFragment := encodeOutside fragmentSafe

/-- Longer addresses, and longer queries of parameters, are refused. -/
def maxAddress : Nat := 65536

/-- Whether a character ends the host of an address. -/
def isPart (c : Char) : Bool := c == '/' || c == '?' || c == '#'

/-- The target of an address, if it is a secure one. -/
def secureTarget? (address : List Char) : Option Target :=
  if "https://".toList.isPrefixOf address then
    let behind := address.drop "https://".length
    some (spelling.target (behind.takeWhile (!isPart ·)) (behind.dropWhile (!isPart ·)))
  else none

/-- How the client reads addresses. -/
def reading : Url.Reading where
  toSpelling := spelling
  limit := maxAddress
  target? address :=
    if maxAddress < address.length || address.any isControl then none else secureTarget? address

/-- The text of a target. -/
def textOf (target : Target) : List Char :=
  Url.secureAddress target.host target.path ++
    (target.query.map ('?' :: ·)).getD [] ++ (target.fragment.map ('#' :: ·)).getD []

/-- The target of a request, if its address is taken; its parameters take the place of a query. -/
def requested? (request : Http.Request) : Option Target := do
  let target ← reading.target? request.address.toList
  if request.parameters.isEmpty then return target
  let query := Url.encodePairs (request.parameters.map fun (name, value) =>
    (name.toList, value.toList))
  if maxAddress < query.length then none
  else return { target with query := some query }

/-- What is sent for a request, if its address is taken. -/
def sent? (request : Http.Request) : Option Http.Request :=
  (requested? request).map fun target =>
    { address := .ofList (textOf target), headers := request.headers }

end ChatWarden.Rehearsal
