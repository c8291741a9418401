import ChatWarden.Json.Reader
import ChatWarden.Json.Writer
import Mathlib.Tactic.SplitIfs

/-!
# What JSON text is made of

A character of a string is written in one of three ways, each of which holds none of the control
characters. Nor do numbers and the marks between values, so whatever is written stays on its line.

Results:
* `escape_escaped`: how a character of a string is written.
* `inLine_chars`: what is written holds no control character.
-/

namespace ChatWarden

namespace Json

open Decimal (Binary64 digitsOf)

/-- The text has no control character, and so no line end. -/
def InLine (cs : List Char) : Prop := ∀ c ∈ cs, 0x20 ≤ c.toNat

theorem inLine_of_all {cs : List Char} (h : cs.all (0x20 ≤ ·.toNat) = true) : InLine cs :=
  fun c hc => of_decide_eq_true (List.all_eq_true.mp h c hc)

theorem inLine_append {front back : List Char} :
    InLine (front ++ back) ↔ InLine front ∧ InLine back := List.forall_mem_append

theorem inLine_cons {c : Char} {cs : List Char} : InLine (c :: cs) ↔ 0x20 ≤ c.toNat ∧ InLine cs :=
  List.forall_mem_cons

theorem inLine_nil : InLine [] := List.forall_mem_nil _

theorem InLine.sublist {part whole : List Char} (h : InLine whole) (hpart : part.Sublist whole) :
    InLine part := fun c hc => h c (hpart.subset hc)

/-- The two marks around a value. -/
theorem inLine_enclosed {opening closing : Char} {cs : List Char} (hopening : 0x20 ≤ opening.toNat)
    (hclosing : 0x20 ≤ closing.toNat) (h : InLine cs) : InLine (opening :: cs ++ [closing]) :=
  inLine_append.mpr ⟨inLine_cons.mpr ⟨hopening, h⟩, inLine_cons.mpr ⟨hclosing, inLine_nil⟩⟩

/-! ## Strings -/

/-- The ways in which a character of a string is written. -/
inductive Escape (c : Char) : List Char → Prop where
  /-- By a backslash and a letter. -/
  | short (letter : Char) : shortEscape? letter = some c → Escape c ['\\', letter]
  /-- By its number, which two hexadecimal digits are enough for. -/
  | unit (high low : Char) : c.toNat < 0x20 → fourHex? '0' '0' high low = some c.toNat →
      Escape c ['\\', 'u', '0', '0', high, low]
  /-- As it is. -/
  | plain : c ≠ '"' → c ≠ '\\' → 0x20 ≤ c.toNat → Escape c [c]

theorem fourHex?_control : ∀ n < 0x20,
    fourHex? '0' '0' (Nat.digitChar (n / 16)) (Nat.digitChar (n % 16)) = some n := by
  decide

theorem escape_escaped (c : Char) : Escape c (escaped c) := by
  unfold escaped
  simp only [beq_iff_eq]
  split_ifs with hquote hback hfeed hreturn htab hbackspace hform hcontrol
  · exact .short _ (by rw [hquote]; rfl)
  · exact .short _ (by rw [hback]; rfl)
  · exact .short _ (hfeed ▸ rfl)
  · exact .short _ (hreturn ▸ rfl)
  · exact .short _ (htab ▸ rfl)
  · exact .short _ (hbackspace ▸ rfl)
  · exact .short _ (hform ▸ rfl)
  · exact .unit _ _ hcontrol (fourHex?_control _ hcontrol)
  · exact .plain hquote hback (Nat.le_of_not_lt hcontrol)

theorem le_of_shortEscape? {letter c : Char} (h : shortEscape? letter = some c) :
    0x20 ≤ letter.toNat := by
  unfold shortEscape? at h
  split at h <;> first | decide | cases h

theorem le_of_isDigit {digit : Char} (h : digit.isDigit = true) : 0x20 ≤ digit.toNat := by
  rw [Char.isDigit, Bool.and_eq_true, decide_eq_true_iff] at h
  exact Nat.le_trans (show 0x20 ≤ '0'.toNat by decide) h.1

theorem le_of_hexValue? {digit : Char} {value : Nat} (h : hexValue? digit = some value) :
    0x20 ≤ digit.toNat := by
  unfold hexValue? at h
  simp only [Bool.and_eq_true, decide_eq_true_iff] at h
  split_ifs at h with hdigit hlower hupper
  · exact le_of_isDigit hdigit
  · exact Nat.le_trans (show 0x20 ≤ 'a'.toNat by decide) hlower.1
  · exact Nat.le_trans (show 0x20 ≤ 'A'.toNat by decide) hupper.1

theorem Escape.inLine {c : Char} {written : List Char} (h : Escape c written) :
    InLine written := by
  cases h with
  | short letter hletter =>
    exact inLine_cons.mpr ⟨by decide, inLine_cons.mpr ⟨le_of_shortEscape? hletter, inLine_nil⟩⟩
  | unit high low _ hvalue =>
    simp only [fourHex?, Option.bind_eq_bind, Option.bind_eq_some_iff] at hvalue
    obtain ⟨_, -, _, -, _, hhigh, _, hlow, -⟩ := hvalue
    intro d hd
    simp only [List.mem_cons, List.not_mem_nil, or_false] at hd
    rcases hd with rfl | rfl | rfl | rfl | rfl | rfl
    iterate 4 decide
    · exact le_of_hexValue? hhigh
    · exact le_of_hexValue? hlow
  | plain _ _ hplain => exact inLine_cons.mpr ⟨hplain, inLine_nil⟩

theorem inLine_quote (cs : List Char) : InLine (quote cs) := by
  refine inLine_enclosed (by decide) (by decide) fun c hc => ?_
  obtain ⟨d, -, hc⟩ := List.mem_flatMap.mp hc
  exact (escape_escaped d).inLine c hc

/-! ## Numbers -/

theorem inLine_digitsOf (n : Nat) : InLine (digitsOf n) := fun _ hc =>
  le_of_isDigit (Nat.isDigit_of_mem_toDigits (by decide) (by decide) hc)

theorem inLine_toString (n : Int) : InLine (toString n).toList := by
  have hnat (m : Nat) : InLine (toString m).toList := by
    rw [show toString m = m.repr from rfl, Nat.toList_repr]
    exact inLine_digitsOf m
  cases n with
  | ofNat m => exact hnat m
  | negSucc m =>
    rw [show toString (Int.negSucc m) = "-" ++ toString (m + 1) from rfl, String.toList_append]
    exact inLine_cons.mpr ⟨by decide, hnat (m + 1)⟩

theorem inLine_zeros (count : Nat) : InLine (List.replicate count '0') := fun c hc => by
  rw [List.eq_of_mem_replicate hc]
  decide

theorem inLine_positional {digits : List Char} (h : InLine digits) (power : Int) :
    InLine (Decimal.positional digits power) := by
  unfold Decimal.positional
  split
  · exact inLine_cons.mpr ⟨by decide, inLine_cons.mpr ⟨by decide,
      inLine_append.mpr ⟨inLine_zeros _, h⟩⟩⟩
  · refine inLine_append.mpr ⟨inLine_append.mpr ⟨h.sublist (List.take_sublist ..),
      inLine_zeros _⟩, inLine_cons.mpr ⟨by decide, ?_⟩⟩
    split
    · exact inLine_cons.mpr ⟨by decide, inLine_nil⟩
    · exact h.sublist (List.drop_sublist ..)

theorem inLine_exponentText (power : Int) : InLine (Decimal.exponentText power) := by
  refine inLine_cons.mpr ⟨by decide, inLine_cons.mpr ⟨?_, inLine_append.mpr
    ⟨inLine_zeros _, inLine_digitsOf _⟩⟩⟩
  split <;> decide

theorem inLine_scientific {digits : List Char} (h : InLine digits) (power : Int) :
    InLine (Decimal.scientific digits power) := by
  match digits with
  | [] => exact inLine_nil
  | [d] => exact inLine_cons.mpr ⟨(inLine_cons.mp h).1, inLine_exponentText power⟩
  | d :: next :: rest =>
    obtain ⟨hd, hrest⟩ := inLine_cons.mp h
    exact inLine_cons.mpr ⟨hd, inLine_cons.mpr ⟨by decide,
      inLine_append.mpr ⟨hrest, inLine_exponentText power⟩⟩⟩

theorem inLine_shortestText (mantissa : Nat) (exponent : Int) :
    InLine (Decimal.shortestText mantissa exponent) := by
  unfold Decimal.shortestText
  split
  · exact inLine_of_all rfl
  · have hdigits (n : Nat) : InLine (Decimal.withoutTrailingZeros (digitsOf n)) := by
      refine (inLine_digitsOf n).sublist ?_
      rw [Decimal.withoutTrailingZeros, ← List.reverse_sublist, List.reverse_reverse]
      exact List.dropWhile_sublist _
    dsimp only
    split
    · exact inLine_positional (hdigits _) _
    · exact inLine_scientific (hdigits _) _

theorem inLine_floatText : ∀ x : Binary64, InLine (floatText x)
  | .nan => inLine_of_all rfl
  | .infinite true => inLine_of_all rfl
  | .infinite false => inLine_of_all rfl
  | .finite negative mantissa exponent => by
    rw [floatText, Binary64.text, String.toList_ofList, inLine_append]
    · refine ⟨?_, inLine_shortestText mantissa exponent⟩
      split
      · exact inLine_cons.mpr ⟨by decide, inLine_nil⟩
      · exact inLine_nil
    · rintro ⟨⟩
    · rintro _ ⟨⟩

/-! ## Values -/

/-- A mark between two values, with the blank behind it. -/
theorem inLine_mark {mark : Char} {cs : List Char} (hmark : 0x20 ≤ mark.toNat) (h : InLine cs) :
    InLine (mark :: ' ' :: cs) := inLine_cons.mpr ⟨hmark, inLine_cons.mpr ⟨by decide, h⟩⟩

mutual

/-- What is written holds no control character, so it stays on its line. -/
theorem inLine_chars : ∀ value : Json, InLine (chars value)
  | .null => inLine_of_all rfl
  | .bool true => inLine_of_all rfl
  | .bool false => inLine_of_all rfl
  | .int n => inLine_toString n
  | .float x => inLine_floatText x
  | .str s => inLine_quote s.toList
  | .arr items => inLine_enclosed (by decide) (by decide) (inLine_itemChars items)
  | .obj fields => inLine_enclosed (by decide) (by decide) (inLine_fieldChars fields)

theorem inLine_itemChars : ∀ items : List Json, InLine (itemChars items)
  | [] => inLine_nil
  | [item] => inLine_chars item
  | item :: next :: rest => inLine_append.mpr
      ⟨inLine_chars item, inLine_mark (by decide) (inLine_itemChars (next :: rest))⟩

theorem inLine_fieldChars : ∀ fields : List (String × Json), InLine (fieldChars fields)
  | [] => inLine_nil
  | [(name, value)] => inLine_append.mpr
      ⟨inLine_quote name.toList, inLine_mark (by decide) (inLine_chars value)⟩
  | (name, value) :: next :: rest => inLine_append.mpr
      ⟨inLine_quote name.toList, inLine_mark (by decide) (inLine_append.mpr
        ⟨inLine_chars value, inLine_mark (by decide) (inLine_fieldChars (next :: rest))⟩)⟩

end

end Json

end ChatWarden
