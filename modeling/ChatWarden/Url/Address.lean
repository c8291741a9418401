import ChatWarden.Url.Host

/-!
# Addresses

The five parts of a web address, how a text is cut into them and how they are put together again.

Results:
* `Address.ofText?` cuts a text; it refuses broken brackets and hosts that could pass for
  another address.
* `Address.text` puts the parts together.
-/

namespace ChatWarden.Url

/-- The parts of a web address. Each is empty if the address does not have it. -/
structure Address where
  scheme : List Char
  host : List Char
  path : List Char
  query : List Char
  fragment : List Char
  deriving DecidableEq, Repr

namespace Address

/-- The characters of a scheme. -/
def isSchemeChar (c : Char) : Bool := c.isAlphanum || c == '+' || c == '-' || c == '.'

/-- Schemes whose addresses name a host even when it is empty. -/
def hostSchemes : List String :=
  ["ftp", "http", "gopher", "nntp", "telnet", "imap", "wais", "file", "mms", "https", "shttp",
   "snews", "prospero", "rtsp", "rtsps", "rtspu", "rsync", "svn", "svn+ssh", "sftp", "nfs",
   "git", "git+ssh", "ws", "wss"]

/-- Characters that turn into a separator of addresses when they are normalized. -/
def deceptive : List Nat := [
    0x2047, 0x2048, 0x2049, 0x2100, 0x2101, 0x2105, 0x2106, 0x2A74, 0xFE13, 0xFE16,
    0xFE55, 0xFE56, 0xFE5F, 0xFE6B, 0xFF03, 0xFF0F, 0xFF1A, 0xFF1F, 0xFF20]

/-- A text as it is before it is cut: without control characters and blanks in front, and
    without tabs and line ends. -/
def cleaned (cs : List Char) : List Char :=
  (cs.dropWhile fun c => c.toNat ≤ 0x20).filter fun c => c != '\t' && c != '\r' && c != '\n'

/-- The scheme before the first colon, in lower case, and the rest. -/
def takeScheme (cs : List Char) : List Char × List Char :=
  match Text.cutAt? ':' cs with
  | some (scheme@(first :: _), rest) =>
    if first.isAlpha && scheme.all isSchemeChar then (scheme.map Char.toLower, rest) else ([], cs)
  | _ => ([], cs)

/-- Whether a character ends the host. -/
def endsHost (c : Char) : Bool := c == '/' || c == '?' || c == '#'

/-- The host behind two slashes and the rest. -/
def takeHost (cs : List Char) : List Char × List Char :=
  match cs with
  | '/' :: '/' :: rest => (rest.takeWhile (!endsHost ·), rest.dropWhile (!endsHost ·))
  | _ => ([], cs)

/-- Whether the brackets of a host are in order. -/
def bracketsOk (host : List Char) : Bool :=
  match host.contains '[', host.contains ']' with
  | false, false => true
  | true, true =>
    let behind := ((Text.cutAt? '[' host).getD ([], [])).2
    isBracketedHost (behind.takeWhile (· != ']'))
  | _, _ => false

/-- Cuts a text into the parts of an address. -/
def ofText? (cs : List Char) : Option Address :=
  let (scheme, rest) := takeScheme (cleaned cs)
  let (host, rest) := takeHost rest
  let (rest, fragment) := (Text.cutAt? '#' rest).getD (rest, [])
  let (path, query) := (Text.cutAt? '?' rest).getD (rest, [])
  if bracketsOk host && !(host.any fun c => deceptive.contains c.toNat) then
    some ⟨scheme, host, path, query, fragment⟩
  else none

/-- The text of an address. Empty parts and their marks are left out. -/
def text (a : Address) : List Char :=
  let doubled := "//".toList.isPrefixOf a.path
  let hosted := !a.host.isEmpty || doubled ||
    (!a.scheme.isEmpty && hostSchemes.contains (String.ofList a.scheme))
  let rest := if hosted then
      let path := if a.path.isEmpty || a.path.head? == some '/' then a.path else '/' :: a.path
      '/' :: '/' :: a.host ++ path
    else a.path
  let rest := if a.scheme.isEmpty then rest else a.scheme ++ ':' :: rest
  let rest := if a.query.isEmpty then rest else rest ++ '?' :: a.query
  if a.fragment.isEmpty then rest else rest ++ '#' :: a.fragment

end Address

end ChatWarden.Url
