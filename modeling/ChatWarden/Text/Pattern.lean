/-!
# Patterns

A pattern is a row of pieces, each of which stands for a run of characters of one kind. At a place
of a text every piece takes as many characters as it can, and gives back one after the other as
long as the pieces behind it do not match what is left. A text is searched from left to right, and
what was matched is not searched again.

Results:
* `Pattern.match?` is the length of the match at the front of a text.
* `Pattern.pos_of_match?`: a match holds a character.
* `Pattern.replace_append` and `Pattern.replace_cons`: a match is replaced as a whole, and where
  there is none the search goes on behind the next character.
-/

namespace ChatWarden.Text

/-- A run of at least so many characters of one kind. -/
structure Piece where
  isKind : Char → Bool
  least : Nat

/-- A row of pieces, not all of which may be empty. -/
structure Pattern where
  pieces : List Piece
  solid : ∃ piece ∈ pieces, 0 < piece.least

/-- The longest run of a kind behind which `behind?` has a match: the length of both. -/
def longest? (isKind : Char → Bool) (behind? : List Char → Option Nat) :
    (least : Nat) → List Char → Option Nat
  | 0, [] => behind? []
  | _ + 1, [] => none
  | least, c :: rest =>
    let longer := if isKind c then longest? isKind behind? (least - 1) rest else none
    match longer with
    | some length => some (length + 1)
    | none => if least = 0 then behind? (c :: rest) else none

/-- The length of the match of pieces at the front of a text. -/
def matchPieces? : List Piece → List Char → Option Nat
  | [], _ => some 0
  | piece :: pieces, cs => longest? piece.isKind (matchPieces? pieces) piece.least cs

section Longest

variable {isKind : Char → Bool} {behind? : List Char → Option Nat} {c : Char} {rest : List Char}
  {least length : Nat}

/-- A run takes another character if it can, and something matches behind it then. -/
theorem longest?_of_longer (hc : isKind c = true)
    (h : longest? isKind behind? (least - 1) rest = some length) :
    longest? isKind behind? least (c :: rest) = some (length + 1) := by
  rw [longest?, if_pos hc, h]

/-- Otherwise it ends before the character, if it is long enough. -/
theorem longest?_of_back (h : isKind c = true → longest? isKind behind? (least - 1) rest = none) :
    longest? isKind behind? least (c :: rest) =
      if least = 0 then behind? (c :: rest) else none := by
  rw [longest?]
  by_cases hc : isKind c = true
  · rw [if_pos hc, h hc]
  · rw [if_neg hc]

/-- A match of a run and of what has to stand behind it is at least as long as both need. -/
theorem le_of_longest? {low : Nat}
    (hbehind : ∀ cs length, behind? cs = some length → low ≤ length) (cs : List Char) :
    ∀ {least length : Nat}, longest? isKind behind? least cs = some length →
      least + low ≤ length := by
  induction cs with
  | nil =>
    intro least length h
    cases least with
    | zero => simpa using hbehind [] length h
    | succ least => cases h
  | cons c rest ih =>
    intro least length h
    rw [longest?] at h
    split at h
    · next further hlonger =>
      obtain rfl := Option.some.inj h
      split at hlonger
      · have hle : least - 1 + low ≤ further := ih hlonger
        omega
      · cases hlonger
    · split at h
      · next hzero =>
        subst hzero
        simpa using hbehind _ length h
      · cases h

end Longest

/-- A match of pieces is at least as long as each of them needs. -/
theorem least_le_of_matchPieces? {pieces : List Piece} {piece : Piece} (hpiece : piece ∈ pieces) :
    ∀ {cs : List Char} {length : Nat}, matchPieces? pieces cs = some length →
      piece.least ≤ length := by
  induction pieces with
  | nil => cases hpiece
  | cons first pieces ih =>
    intro cs length h
    cases hpiece with
    | head => exact le_of_longest? (fun _ _ _ => Nat.zero_le _) cs h
    | tail _ hmem =>
      have hle : first.least + piece.least ≤ length := le_of_longest? (fun _ _ => ih hmem) cs h
      omega

namespace Pattern

variable (pattern : Pattern) (replacement : List Char)

/-- The length of the match at the front of a text, if there is one. -/
def match? (cs : List Char) : Option Nat := matchPieces? pattern.pieces cs

/-- A text behind a match, `taken` of whose characters are still to come, with every further match
    replaced. -/
def replaceFrom : (taken : Nat) → List Char → List Char
  | _, [] => []
  | taken + 1, _ :: rest => replaceFrom taken rest
  | 0, c :: rest =>
    match pattern.match? (c :: rest) with
    | some length => replacement ++ replaceFrom (length - 1) rest
    | none => c :: replaceFrom 0 rest

/-- A text with every match replaced. -/
def replace (cs : List Char) : List Char := pattern.replaceFrom replacement 0 cs

variable {pattern replacement} {cs front rest : List Char} {c : Char}

theorem pos_of_match? {length : Nat} (h : pattern.match? cs = some length) : 0 < length := by
  obtain ⟨piece, hpiece, hpos⟩ := pattern.solid
  exact Nat.lt_of_lt_of_le hpos (least_le_of_matchPieces? hpiece h)

theorem replaceFrom_append (front rest : List Char) :
    pattern.replaceFrom replacement front.length (front ++ rest) =
      pattern.replace replacement rest := by
  induction front with
  | nil => rfl
  | cons c front ih =>
    rw [List.length_cons, List.cons_append, replaceFrom]
    exact ih

/-- A match is replaced, and the search goes on behind it. -/
theorem replace_append (h : pattern.match? (front ++ rest) = some front.length) :
    pattern.replace replacement (front ++ rest) =
      replacement ++ pattern.replace replacement rest := by
  cases front with
  | nil => exact absurd (pos_of_match? h) (Nat.lt_irrefl 0)
  | cons c front =>
    rw [List.cons_append] at h ⊢
    rw [replace, replaceFrom, h]
    exact congrArg (replacement ++ ·) (replaceFrom_append front rest)

/-- Where there is no match the next character stays. -/
theorem replace_cons (h : pattern.match? (c :: cs) = none) :
    pattern.replace replacement (c :: cs) = c :: pattern.replace replacement cs := by
  rw [replace, replaceFrom, h]
  rfl

end Pattern

end ChatWarden.Text
