import ChatWarden.Proofs.Text.Utf8
import Mathlib.Data.List.Basic

/-!
# Bytes that are a text

The strict reading of bytes yields characters only if the bytes are just what these characters are
written as: no overlong form, no surrogate and nothing cut short passes. With the reading of what
was written this tells which bytes are a text.

Results:
* `lead_of_continuation?`: what a lead byte announces.
* `utf8ItemsFrom_eq_some_cons_iff`: a character is read just from its own bytes.
* `utf8Strict?_eq_some_iff`: the bytes that are a text, and which one.
-/

namespace ChatWarden.Text

variable {b : UInt8} {bytes : List UInt8} {c : Char} {cs : List Char}
  {value low high more n : Nat} {items : List (Option Char)}

/-! ## The bytes of a sequence -/

/-- What a lead byte announces: how many bytes follow the next one, and its range. -/
theorem lead_of_continuation? (h : continuation? b = some (low, high, more)) :
    (more = 0 ∧ 0xC2 ≤ b.toNat ∧ b.toNat < 0xE0 ∧ low = 0x80 ∧ high = 0xBF) ∨
    (more = 1 ∧ 0xE0 ≤ b.toNat ∧ b.toNat < 0xF0 ∧ 0x80 ≤ low ∧ high ≤ 0xBF ∧
      (b.toNat = 0xE0 → 0xA0 ≤ low) ∧ (b.toNat = 0xED → high ≤ 0x9F)) ∨
    (more = 2 ∧ 0xF0 ≤ b.toNat ∧ b.toNat < 0xF5 ∧ 0x80 ≤ low ∧ high ≤ 0xBF ∧
      (b.toNat = 0xF0 → 0x90 ≤ low) ∧ (b.toNat = 0xF4 → high ≤ 0x8F)) := by
  simp only [continuation?, beq_iff_eq] at h
  split_ifs at h <;> cases h <;> omega

/-- Inside a sequence, a byte that is not in the range is an ill-formed part. -/
theorem within_of_inside (h : utf8ItemsFrom (.inside value low high more) bytes = some c :: items) :
    ∃ b rest, bytes = b :: rest ∧ within low high b = true := by
  cases bytes with
  | nil => cases h
  | cons b rest =>
    refine ⟨b, rest, rfl, ?_⟩
    by_contra hb
    rw [utf8ItemsFrom_cons, utf8Step, if_neg hb] at h
    cases h

theorem within_iff : within low high b = true ↔ low ≤ b.toNat ∧ b.toNat ≤ high := by
  rw [within, Bool.and_eq_true, decide_eq_true_iff, decide_eq_true_iff]

/-- The last byte of a character. -/
theorem exists_last (h : utf8ItemsFrom (.inside value low high 0) bytes = some c :: items) :
    ∃ b rest, bytes = b :: rest ∧ (low ≤ b.toNat ∧ b.toNat ≤ high) ∧
      Char.ofNat (value * 64 + b.toNat % 64) = c ∧ utf8ItemsFrom .between rest = items := by
  obtain ⟨b, rest, rfl, hb⟩ := within_of_inside h
  rw [utf8ItemsFrom_last hb, List.cons.injEq, Option.some.injEq] at h
  exact ⟨b, rest, rfl, within_iff.mp hb, h⟩

/-- A byte of a character that is neither the first nor the last. -/
theorem exists_inner
    (h : utf8ItemsFrom (.inside value low high (more + 1)) bytes = some c :: items) :
    ∃ b rest, bytes = b :: rest ∧ (low ≤ b.toNat ∧ b.toNat ≤ high) ∧
      utf8ItemsFrom (.inside (value * 64 + b.toNat % 64) 0x80 0xBF more) rest =
        some c :: items := by
  obtain ⟨b, rest, rfl, hb⟩ := within_of_inside h
  rw [utf8ItemsFrom_inner hb] at h
  exact ⟨b, rest, rfl, within_iff.mp hb, h⟩

/-! ## Characters from their bytes -/

theorem toNat_ofNat (h : n < 0xD800 ∨ 0xDFFF < n ∧ n < 0x110000) : (Char.ofNat n).toNat = n := by
  have hvalid : n.isValidChar := h
  rw [Char.ofNat, dif_pos hvalid]
  rfl

theorem ofNat_eq (h : n = b.toNat) : UInt8.ofNat n = b := by rw [h, UInt8.ofNat_toNat]

theorem tailByte_eq (h : n % 64 + 128 = b.toNat) : tailByte n = b := ofNat_eq h

variable {b₁ b₂ b₃ : UInt8} {rest : List UInt8}

theorem utf8EncodeChar_one (h : b.toNat < 0x80) :
    String.utf8EncodeChar (Char.ofNat b.toNat) = [b] := by
  rw [utf8EncodeChar_eq, toNat_ofNat (by omega), if_pos (by omega), ofNat_eq rfl]

theorem utf8EncodeChar_two (hlow : 0xC2 ≤ b.toNat) (hhigh : b.toNat < 0xE0)
    (h₁ : 0x80 ≤ b₁.toNat ∧ b₁.toNat ≤ 0xBF) :
    String.utf8EncodeChar (Char.ofNat (leadBits b 0 * 64 + b₁.toNat % 64)) = [b, b₁] := by
  have hlead : leadBits b 0 = b.toNat % 32 := rfl
  rw [utf8EncodeChar_eq, toNat_ofNat (by omega), if_neg (by omega), if_pos (by omega),
    ofNat_eq (b := b) (by omega), tailByte_eq (b := b₁) (by omega)]

theorem utf8EncodeChar_three (hlow : 0xE0 ≤ b.toNat) (hhigh : b.toNat < 0xF0)
    (h₁ : 0x80 ≤ b₁.toNat ∧ b₁.toNat ≤ 0xBF) (hlong : b.toNat = 0xE0 → 0xA0 ≤ b₁.toNat)
    (hsurrogate : b.toNat = 0xED → b₁.toNat ≤ 0x9F) (h₂ : 0x80 ≤ b₂.toNat ∧ b₂.toNat ≤ 0xBF) :
    String.utf8EncodeChar
      (Char.ofNat ((leadBits b 1 * 64 + b₁.toNat % 64) * 64 + b₂.toNat % 64)) = [b, b₁, b₂] := by
  have hlead : leadBits b 1 = b.toNat % 16 := rfl
  rw [utf8EncodeChar_eq, toNat_ofNat (by omega), if_neg (by omega), if_neg (by omega),
    if_pos (by omega), ofNat_eq (b := b) (by omega), tailByte_eq (b := b₁) (by omega),
    tailByte_eq (b := b₂) (by omega)]

theorem utf8EncodeChar_four (hlow : 0xF0 ≤ b.toNat) (hhigh : b.toNat < 0xF5)
    (h₁ : 0x80 ≤ b₁.toNat ∧ b₁.toNat ≤ 0xBF) (hlong : b.toNat = 0xF0 → 0x90 ≤ b₁.toNat)
    (hlast : b.toNat = 0xF4 → b₁.toNat ≤ 0x8F) (h₂ : 0x80 ≤ b₂.toNat ∧ b₂.toNat ≤ 0xBF)
    (h₃ : 0x80 ≤ b₃.toNat ∧ b₃.toNat ≤ 0xBF) :
    String.utf8EncodeChar (Char.ofNat
      (((leadBits b 2 * 64 + b₁.toNat % 64) * 64 + b₂.toNat % 64) * 64 + b₃.toNat % 64)) =
        [b, b₁, b₂, b₃] := by
  have hlead : leadBits b 2 = b.toNat % 8 := rfl
  rw [utf8EncodeChar_eq, toNat_ofNat (by omega), if_neg (by omega), if_neg (by omega),
    if_neg (by omega), ofNat_eq (b := b) (by omega), tailByte_eq (b := b₁) (by omega),
    tailByte_eq (b := b₂) (by omega), tailByte_eq (b := b₃) (by omega)]

/-- A character is read just from its own bytes. -/
theorem utf8ItemsFrom_eq_some_cons_iff : utf8ItemsFrom .between bytes = some c :: items ↔
    ∃ rest, bytes = String.utf8EncodeChar c ++ rest ∧ utf8ItemsFrom .between rest = items := by
  constructor
  · intro h
    cases bytes with
    | nil => cases h
    | cons b rest =>
      by_cases hascii : b.toNat < 0x80
      · rw [utf8ItemsFrom_ascii hascii, List.cons.injEq, Option.some.injEq] at h
        refine ⟨rest, ?_, h.2⟩
        rw [← h.1, utf8EncodeChar_one hascii]
        rfl
      cases hlead : continuation? b with
      | none =>
        rw [utf8ItemsFrom_cons, utf8Step, utf8Start, if_neg hascii, hlead] at h
        cases h
      | some range =>
        obtain ⟨low, high, more⟩ := range
        rw [utf8ItemsFrom_lead hlead] at h
        rcases lead_of_continuation? hlead with ⟨rfl, hmin, hmax, rfl, rfl⟩ |
          ⟨rfl, hmin, hmax, hlow, hhigh, hlong, hsurrogate⟩ |
          ⟨rfl, hmin, hmax, hlow, hhigh, hlong, hlast⟩
        · obtain ⟨b₁, rest, rfl, h₁, rfl, hrest⟩ := exists_last h
          refine ⟨rest, ?_, hrest⟩
          rw [utf8EncodeChar_two hmin hmax h₁]
          rfl
        · obtain ⟨b₁, rest, rfl, h₁, h⟩ := exists_inner h
          obtain ⟨b₂, rest, rfl, h₂, rfl, hrest⟩ := exists_last h
          refine ⟨rest, ?_, hrest⟩
          rw [utf8EncodeChar_three hmin hmax (by omega) (by omega) (by omega) h₂]
          rfl
        · obtain ⟨b₁, rest, rfl, h₁, h⟩ := exists_inner h
          obtain ⟨b₂, rest, rfl, h₂, h⟩ := exists_inner h
          obtain ⟨b₃, rest, rfl, h₃, rfl, hrest⟩ := exists_last h
          refine ⟨rest, ?_, hrest⟩
          rw [utf8EncodeChar_four hmin hmax (by omega) (by omega) (by omega) h₂ h₃]
          rfl
  · rintro ⟨rest, rfl, rfl⟩
    exact utf8ItemsFrom_char c rest

/-! ## Texts -/

theorem mapM_id_eq_some_iff : items.mapM id = some cs ↔ items = cs.map some := by
  induction items generalizing cs with
  | nil =>
    rw [List.mapM_nil, eq_comm (b := cs.map some), List.map_eq_nil_iff]
    exact Option.some_inj.trans eq_comm
  | cons item items ih =>
    rw [List.mapM_cons]
    cases item with
    | none =>
      constructor
      · intro h
        cases h
      · intro h
        cases cs <;> cases h
    | some c =>
      show (items.mapM id).bind (fun rest => some (c :: rest)) = some cs ↔ _
      rw [Option.bind_eq_some_iff]
      constructor
      · rintro ⟨rest, hrest, hcs⟩
        rw [← Option.some.inj hcs, ih.mp hrest, List.map_cons]
      · intro h
        obtain ⟨d, rest, rfl, hd, hrest⟩ := List.map_eq_cons_iff.mp h.symm
        exact ⟨rest, ih.mpr hrest.symm, by rw [← Option.some.inj hd]⟩

/-- The bytes that are a text, and which one. -/
theorem utf8Strict?_eq_some_iff : utf8Strict? bytes = some cs ↔
    bytes = cs.flatMap String.utf8EncodeChar := by
  rw [utf8Strict?, mapM_id_eq_some_iff]
  constructor
  · unfold utf8Items
    intro h
    induction cs generalizing bytes with
    | nil => exact utf8Items_eq_nil_iff.mp h
    | cons c rest ih =>
      obtain ⟨others, rfl, hothers⟩ := utf8ItemsFrom_eq_some_cons_iff.mp h
      rw [List.flatMap_cons, ih hothers]
  · rintro rfl
    exact utf8Items_flatMap cs

theorem utf8Strict?_utf8Bytes (text : String) : utf8Strict? (utf8Bytes text) = some text.toList :=
  utf8Strict?_eq_some_iff.mpr (utf8Bytes_eq text)

/-- Bytes that are no text are not read. -/
theorem utf8Strict?_eq_none_iff : utf8Strict? bytes = none ↔ ∀ text, bytes ≠ utf8Bytes text := by
  constructor
  · rintro h text rfl
    rw [utf8Strict?_utf8Bytes] at h
    cases h
  · intro h
    rw [Option.eq_none_iff_forall_ne_some]
    intro cs hcs
    apply h (String.ofList cs)
    rw [utf8Bytes_eq, String.toList_ofList]
    exact utf8Strict?_eq_some_iff.mp hcs

end ChatWarden.Text
