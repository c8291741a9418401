import ChatWarden.Text.CaseTable

/-!
# Lowercase and uppercase

Case mapping of whole texts by the full rules: a character may have several counterparts, and a
capital sigma at the end of a word has a lowercase form of its own.

Results:
* `lower` writes each character by its own counterpart, and looks at the neighbours only for the
  capital sigma.
-/

namespace ChatWarden.Text

/-- Whether the first character that a search does not step over is a letter with case. -/
def meetsCased (cs : List Char) : Bool :=
  match cs.dropWhile (fun c => inRanges ignorableRanges c.toNat) with
  | [] => false
  | c :: _ => inRanges casedRanges c.toNat

/-- The lowercase form of one character that is not the capital sigma. -/
def lowerChar (c : Char) : List Char :=
  let n := c.toNat
  if n < 0x80 then [if 0x41 ≤ n && n ≤ 0x5A then Char.ofNat (n + 0x20) else c]
  else if n == 0x130 then ['i', '\u0307']
  else [((counterpartIn? lowerRuns n).map Char.ofNat).getD c]

/-- The lowercase form of one character between the reversed text before it and the text after
    it. A capital sigma with a letter before it and none after it is a final one. -/
def lowerAt (before : List Char) (c : Char) (after : List Char) : List Char :=
  if c == 'Σ' then
    [if meetsCased before && !meetsCased after then 'ς' else 'σ']
  else lowerChar c

/-- The lowercase form of a text that stands behind the reversed text `before`. -/
def lowerFrom : (before : List Char) → List Char → List Char
  | _, [] => []
  | before, c :: rest => lowerAt before c rest ++ lowerFrom (c :: before) rest

/-- The lowercase form of a text. -/
def lower (cs : List Char) : List Char := lowerFrom [] cs

/-- `lower` on strings. -/
def lowered (s : String) : String := .ofList (lower s.toList)

/-- The uppercase form of one character. -/
def upperChar (c : Char) : List Char :=
  let n := c.toNat
  if n < 0x80 then [if 0x61 ≤ n && n ≤ 0x7A then Char.ofNat (n - 0x20) else c]
  else match upperExpansions.lookup n with
    | some expansion => expansion.map Char.ofNat
    | none => [((counterpartIn? upperRuns n).map Char.ofNat).getD c]

/-- The uppercase form of a string. -/
def uppered (s : String) : String := .ofList (s.toList.flatMap upperChar)

end ChatWarden.Text
