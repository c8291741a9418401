import ChatWarden.Url.Percent
import ChatWarden.Text.Split

/-!
# Hosts between brackets

An address may name its host by a number between square brackets: an IP address of version 6,
or a form for later versions that starts with the letter v.

Results:
* `isBracketedHost` decides which texts may stand between the brackets.
-/

namespace ChatWarden.Url

/-- Whether a text is one of the four numbers of an address of version 4: up to three decimal
    digits without leading zeros, at most 255. -/
def isOctet (cs : List Char) : Bool :=
  !cs.isEmpty && cs.all (·.isDigit) && cs.length ≤ 3 && (cs == ['0'] || cs.head? != some '0') &&
  cs.foldl (fun n c => n * 10 + (c.toNat - 48)) 0 ≤ 255

/-- Whether a text is an address of version 4. -/
def isVersion4 (cs : List Char) : Bool :=
  let octets := Text.splitAt '.' cs
  octets.length == 4 && octets.all isOctet

/-- Whether a text is one of the numbers of an address of version 6. -/
def isHextet (cs : List Char) : Bool :=
  !cs.isEmpty && cs.all (fun c => (hexDigitValue? c).isSome) && cs.length ≤ 4

/-- The parts between colons, with a final address of version 4 counted as two numbers. -/
def version6Parts? (cs : List Char) : Option (List (List Char)) :=
  let parts := Text.splitAt ':' cs
  let last := parts.getLastD []
  if parts.length < 3 then none
  else if last.contains '.' then
    if isVersion4 last then some (parts.dropLast ++ [['0'], ['0']]) else none
  else some parts

/-- Whether the numbers before and behind one gap are in order: a gap at an end takes the empty
    part there with it, and it stands for at least one number. -/
def areAroundGap (before behind : List (List Char)) : Bool :=
  let high := if before.head? == some [] then before.drop 1 else before
  let low := if behind.getLast? == some [] then behind.dropLast else behind
  (high.isEmpty || high.length == before.length) &&
  (low.isEmpty || low.length == behind.length) &&
  high.length + low.length < 8 && high.all isHextet && low.all isHextet

/-- Whether a text is an address of version 6, without a zone. -/
def isVersion6 (cs : List Char) : Bool :=
  match version6Parts? cs with
  | none => false
  | some parts =>
    let inner := (parts.drop 1).dropLast
    let before := parts.take (1 + (inner.takeWhile (!·.isEmpty)).length)
    match inner.filter (·.isEmpty) with
    | [] => parts.length == 8 && parts.all isHextet
    | [_] => parts.length ≤ 9 && areAroundGap before (parts.drop (before.length + 1))
    | _ => false

/-- Whether a zone, if one follows a percent sign, is not empty and holds no second sign. -/
def isZoned (cs : List Char) : Bool :=
  match Text.cutAt? '%' cs with
  | none => isVersion6 cs
  | some (address, zone) => !zone.isEmpty && !zone.contains '%' && isVersion6 address

/-- Whether a text names a host of a later version: the letter v, a hexadecimal number, a point
    and more. -/
def isLaterVersion (cs : List Char) : Bool :=
  match cs with
  | 'v' :: rest =>
    let number := rest.takeWhile fun c => (hexDigitValue? c).isSome
    match rest.drop number.length with
    | '.' :: _ :: _ => !number.isEmpty
    | _ => false
  | _ => false

/-- Whether a text may stand between the brackets of a host. -/
def isBracketedHost (cs : List Char) : Bool :=
  if cs.head? == some 'v' then isLaterVersion cs
  else !cs.contains '/' && isZoned cs

end ChatWarden.Url
