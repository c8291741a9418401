import ChatWarden.Text.Utf8

/-!
# Reading what was written as UTF-8

The bytes of a text are read back as that text. The reader is led through the bytes of one
character by the lead byte, which tells the range of the next one; a character in the range of its
length puts that byte into it.

Results:
* `utf8Bytes_eq`: the bytes of a text are those of its characters.
* `utf8ItemsFrom_char`: between characters, the bytes of a character are read as that character.
* `utf8Lossy_flatMap`: the bytes of any characters are read as these characters.
-/

namespace ChatWarden.Text

variable {b : UInt8} {rest : List UInt8} {value low high more n : Nat}

/-! ## The bytes of a text -/

theorem toList_loop_eq (bytes : ByteArray) (i : Nat) (taken : List UInt8) :
    ByteArray.toList.loop bytes i taken = taken.reverse ++ bytes.data.toList.drop i := by
  fun_induction ByteArray.toList.loop bytes i taken with
  | case1 i taken hlt ih =>
    have hlen : i < bytes.data.toList.length := by simpa using hlt
    have hget : bytes.get! i = bytes.data.toList[i] := getElem!_pos bytes.data i hlt
    rw [ih, List.drop_eq_getElem_cons hlen, hget, List.reverse_cons, List.append_assoc,
      List.singleton_append]
  | case2 i taken hge =>
    have hlen : bytes.data.toList.length ≤ i := by simpa using hge
    rw [List.drop_eq_nil_of_le hlen, List.append_nil]

theorem utf8Bytes_eq (s : String) : utf8Bytes s = s.toList.flatMap String.utf8EncodeChar := by
  have hbytes : s.toUTF8 = (s.toList.flatMap String.utf8EncodeChar).toByteArray :=
    String.utf8Encode_toList.symm
  rw [utf8Bytes, hbytes, ByteArray.toList, toList_loop_eq, List.toList_data_toByteArray]
  rfl

/-! ## Steps of the reader -/

theorem utf8ItemsFrom_cons (state : Utf8State) (b : UInt8) (rest : List UInt8) :
    utf8ItemsFrom state (b :: rest) =
      (utf8Step state b).1 ++ utf8ItemsFrom (utf8Step state b).2 rest := by
  cases state <;> rfl

theorem utf8ItemsFrom_ascii (h : b.toNat < 0x80) :
    utf8ItemsFrom .between (b :: rest) =
      some (Char.ofNat b.toNat) :: utf8ItemsFrom .between rest := by
  rw [utf8ItemsFrom_cons, utf8Step, utf8Start, if_pos h]
  rfl

theorem utf8ItemsFrom_lead (h : continuation? b = some (low, high, more)) :
    utf8ItemsFrom .between (b :: rest) =
      utf8ItemsFrom (.inside (leadBits b more) low high more) rest := by
  have hb : ¬b.toNat < 0x80 := by
    intro hsmall
    rw [continuation?, if_pos (by omega)] at h
    cases h
  rw [utf8ItemsFrom_cons, utf8Step, utf8Start, if_neg hb, h]
  rfl

theorem utf8ItemsFrom_last (h : within low high b = true) :
    utf8ItemsFrom (.inside value low high 0) (b :: rest) =
      some (Char.ofNat (value * 64 + b.toNat % 64)) :: utf8ItemsFrom .between rest := by
  rw [utf8ItemsFrom_cons, utf8Step, if_pos h]
  rfl

theorem utf8ItemsFrom_inner (h : within low high b = true) :
    utf8ItemsFrom (.inside value low high (more + 1)) (b :: rest) =
      utf8ItemsFrom (.inside (value * 64 + b.toNat % 64) 0x80 0xBF more) rest := by
  rw [utf8ItemsFrom_cons, utf8Step, if_pos h]
  rfl

/-! ## Characters -/

/-- A byte that follows a lead byte, with its six bits of payload. -/
def tailByte (n : Nat) : UInt8 := UInt8.ofNat (n % 64 + 128)

theorem toNat_tailByte (n : Nat) : (tailByte n).toNat = n % 64 + 128 := by
  rw [tailByte, UInt8.toNat_ofNat_of_lt' (by change _ < 256; omega)]

theorem within_tailByte : within low high (tailByte n) = true ↔
    low ≤ n % 64 + 128 ∧ n % 64 + 128 ≤ high := by
  rw [within, toNat_tailByte, Bool.and_eq_true, decide_eq_true_iff, decide_eq_true_iff]

/-! The lead byte of a character, in two, three or four bytes, tells the range of the next byte and
    holds the first bits of the character. -/

theorem continuation?_of_two : ∀ n < 32, 2 ≤ n →
    continuation? (UInt8.ofNat (n + 192)) = some (0x80, 0xBF, 0) ∧
      leadBits (UInt8.ofNat (n + 192)) 0 = n := by decide

theorem continuation?_of_three : ∀ n < 16,
    continuation? (UInt8.ofNat (n + 224)) =
      some (if n = 0 then 0xA0 else 0x80, if n = 13 then 0x9F else 0xBF, 1) ∧
      leadBits (UInt8.ofNat (n + 224)) 1 = n := by decide

theorem continuation?_of_four : ∀ n < 5,
    continuation? (UInt8.ofNat (n + 240)) =
      some (if n = 0 then 0x90 else 0x80, if n = 4 then 0x8F else 0xBF, 2) ∧
      leadBits (UInt8.ofNat (n + 240)) 2 = n := by decide

theorem utf8ItemsFrom_two (hlow : 0x80 ≤ n) (hhigh : n < 0x800) :
    utf8ItemsFrom .between (UInt8.ofNat (n / 64 % 32 + 192) :: tailByte n :: rest) =
      some (Char.ofNat n) :: utf8ItemsFrom .between rest := by
  obtain ⟨hlead, hbits⟩ := continuation?_of_two (n / 64 % 32) (by omega) (by omega)
  have hlast : within 0x80 0xBF (tailByte n) = true := within_tailByte.mpr (by omega)
  have hvalue : n / 64 % 32 * 64 + (tailByte n).toNat % 64 = n := by
    rw [toNat_tailByte]
    omega
  rw [utf8ItemsFrom_lead hlead, hbits, utf8ItemsFrom_last hlast, hvalue]

/-- No surrogate is a character, so the lead byte that they share has a range of its own. -/
theorem utf8ItemsFrom_three (hlow : 0x800 ≤ n) (hhigh : n < 0x10000)
    (hvalid : n < 0xD800 ∨ 0xDFFF < n) :
    utf8ItemsFrom .between
        (UInt8.ofNat (n / 4096 % 16 + 224) :: tailByte (n / 64) :: tailByte n :: rest) =
      some (Char.ofNat n) :: utf8ItemsFrom .between rest := by
  obtain ⟨hlead, hbits⟩ := continuation?_of_three (n / 4096 % 16) (by omega)
  have hnext : within (if n / 4096 % 16 = 0 then 0xA0 else 0x80)
      (if n / 4096 % 16 = 13 then 0x9F else 0xBF) (tailByte (n / 64)) = true := by
    refine within_tailByte.mpr ⟨?_, ?_⟩
    · split <;> omega
    · split <;> omega
  have hlast : within 0x80 0xBF (tailByte n) = true := within_tailByte.mpr (by omega)
  have hvalue : (n / 4096 % 16 * 64 + (tailByte (n / 64)).toNat % 64) * 64 +
      (tailByte n).toNat % 64 = n := by
    rw [toNat_tailByte, toNat_tailByte]
    omega
  rw [utf8ItemsFrom_lead hlead, hbits, utf8ItemsFrom_inner hnext, utf8ItemsFrom_last hlast, hvalue]

theorem utf8ItemsFrom_four (hlow : 0x10000 ≤ n) (hhigh : n < 0x110000) :
    utf8ItemsFrom .between
        (UInt8.ofNat (n / 262144 % 8 + 240) :: tailByte (n / 4096) :: tailByte (n / 64) ::
          tailByte n :: rest) =
      some (Char.ofNat n) :: utf8ItemsFrom .between rest := by
  obtain ⟨hlead, hbits⟩ := continuation?_of_four (n / 262144 % 8) (by omega)
  have hnext : within (if n / 262144 % 8 = 0 then 0x90 else 0x80)
      (if n / 262144 % 8 = 4 then 0x8F else 0xBF) (tailByte (n / 4096)) = true := by
    refine within_tailByte.mpr ⟨?_, ?_⟩
    · split <;> omega
    · split <;> omega
  have hinner : within 0x80 0xBF (tailByte (n / 64)) = true := within_tailByte.mpr (by omega)
  have hlast : within 0x80 0xBF (tailByte n) = true := within_tailByte.mpr (by omega)
  have hvalue : ((n / 262144 % 8 * 64 + (tailByte (n / 4096)).toNat % 64) * 64 +
      (tailByte (n / 64)).toNat % 64) * 64 + (tailByte n).toNat % 64 = n := by
    rw [toNat_tailByte, toNat_tailByte, toNat_tailByte]
    omega
  rw [utf8ItemsFrom_lead hlead, hbits, utf8ItemsFrom_inner hnext, utf8ItemsFrom_inner hinner,
    utf8ItemsFrom_last hlast, hvalue]

/-- The bytes of a character. -/
theorem utf8EncodeChar_eq (c : Char) : String.utf8EncodeChar c =
    if c.toNat ≤ 127 then [UInt8.ofNat c.toNat]
    else if c.toNat ≤ 2047 then [UInt8.ofNat (c.toNat / 64 % 32 + 192), tailByte c.toNat]
    else if c.toNat ≤ 65535 then
      [UInt8.ofNat (c.toNat / 4096 % 16 + 224), tailByte (c.toNat / 64), tailByte c.toNat]
    else [UInt8.ofNat (c.toNat / 262144 % 8 + 240), tailByte (c.toNat / 4096),
      tailByte (c.toNat / 64), tailByte c.toNat] := rfl

/-- Between characters, the bytes of a character are read as that character. -/
theorem utf8ItemsFrom_char (c : Char) (rest : List UInt8) :
    utf8ItemsFrom .between (String.utf8EncodeChar c ++ rest) =
      some c :: utf8ItemsFrom .between rest := by
  have hvalid : c.toNat < 0xD800 ∨ 0xDFFF < c.toNat ∧ c.toNat < 0x110000 := c.valid
  have hchar : some c = some (Char.ofNat c.toNat) := by rw [Char.ofNat_toNat]
  rw [hchar, utf8EncodeChar_eq]
  split
  · have hb : (UInt8.ofNat c.toNat).toNat = c.toNat :=
      UInt8.toNat_ofNat_of_lt' (by change _ < 256; omega)
    rw [List.singleton_append, utf8ItemsFrom_ascii (by omega), hb]
  split
  · exact utf8ItemsFrom_two (by omega) (by omega)
  split
  · exact utf8ItemsFrom_three (by omega) (by omega) (by omega)
  · exact utf8ItemsFrom_four (by omega) (by omega)

/-! ## Texts -/

theorem utf8Items_flatMap (cs : List Char) :
    utf8Items (cs.flatMap String.utf8EncodeChar) = cs.map some := by
  unfold utf8Items
  induction cs with
  | nil => rfl
  | cons c rest ih => rw [List.flatMap_cons, utf8ItemsFrom_char, ih, List.map_cons]

/-- The bytes of characters are read as these characters. -/
theorem utf8Lossy_flatMap (cs : List Char) :
    utf8Lossy (cs.flatMap String.utf8EncodeChar) = cs := by
  rw [utf8Lossy, utf8Items_flatMap, List.map_map]
  exact List.map_id cs

/-! ## Nothing -/

/-- Inside a sequence there is always something to come, if only an ill-formed part. -/
theorem utf8ItemsFrom_inside_ne_nil (value low high more : Nat) (bytes : List UInt8) :
    utf8ItemsFrom (.inside value low high more) bytes ≠ [] := by
  induction bytes generalizing value low high more with
  | nil => exact List.cons_ne_nil _ _
  | cons b rest ih =>
    by_cases hb : within low high b = true
    · cases more with
      | zero =>
        rw [utf8ItemsFrom_last hb]
        exact List.cons_ne_nil _ _
      | succ more =>
        rw [utf8ItemsFrom_inner hb]
        exact ih _ _ _ _
    · rw [utf8ItemsFrom_cons, utf8Step, if_neg hb]
      exact List.cons_ne_nil _ _

/-- Only no bytes at all are read as nothing. -/
theorem utf8Items_eq_nil_iff {bytes : List UInt8} : utf8Items bytes = [] ↔ bytes = [] := by
  constructor
  · intro h
    cases bytes with
    | nil => rfl
    | cons b rest =>
      rw [utf8Items, utf8ItemsFrom_cons, utf8Step, utf8Start] at h
      split at h
      · cases h
      · split at h
        · cases h
        · exact absurd h (utf8ItemsFrom_inside_ne_nil _ _ _ _ _)
  · rintro rfl
    rfl

theorem utf8Lossy_eq_nil_iff {bytes : List UInt8} : utf8Lossy bytes = [] ↔ bytes = [] := by
  rw [utf8Lossy, List.map_eq_nil_iff, utf8Items_eq_nil_iff]

end ChatWarden.Text
