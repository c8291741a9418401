import ChatWarden.Proofs.Text.Utf8
import ChatWarden.Url.Percent
import Mathlib.Data.List.TakeWhile

/-!
# Reading escapes back

Escaping keeps some ASCII characters and writes the bytes of every other one in ASCII. So an
escaped text is one stretch of ASCII characters, which is read as the bytes of the text; only a
percent sign that was kept could be taken for an escape.

Results:
* `decodeBytes_escapeByte`: an escape is read as its byte.
* `isAscii_of_mem_encodeOutside`: an escaped text is ASCII.
* `decode_encodeOutside`: a text is read back, if no percent sign in it was kept.
* `decode_eq_nil_iff`: only the empty text is read as the empty text.
-/

namespace ChatWarden.Url

variable {c : Char} {cs rest : List Char} {safe : Char → Bool}

/-! ## Escapes -/

theorem escapeChar_eq (c : Char) : escapeChar c = (String.utf8EncodeChar c).flatMap escapeByte := by
  rw [escapeChar, Text.utf8Bytes_eq, String.toList_singleton, List.flatMap_singleton]

theorem hexDigitValue?_hexDigit : ∀ n < 16, hexDigitValue? (hexDigit n) = some n := by decide

theorem isAscii_hexDigit : ∀ n < 16, isAscii (hexDigit n) = true := by decide

theorem decodeBytes_escapeByte (b : UInt8) (rest : List Char) :
    decodeBytes (escapeByte b ++ rest) = b :: decodeBytes rest := by
  have hb : b.toNat < 256 := b.toNat_lt
  have hhigh := hexDigitValue?_hexDigit (b.toNat / 16) (by omega)
  have hlow := hexDigitValue?_hexDigit (b.toNat % 16) (by omega)
  have hvalue : b.toNat / 16 * 16 + b.toNat % 16 = b.toNat := by omega
  change decodeBytes ('%' :: hexDigit (b.toNat / 16) :: hexDigit (b.toNat % 16) :: rest) = _
  rw [decodeBytes, hhigh, hlow]
  dsimp only
  rw [hvalue, UInt8.ofNat_toNat]

theorem decodeBytes_escapes (bytes : List UInt8) (rest : List Char) :
    decodeBytes (bytes.flatMap escapeByte ++ rest) = bytes ++ decodeBytes rest := by
  induction bytes with
  | nil => rfl
  | cons b more ih =>
    rw [List.flatMap_cons, List.append_assoc, decodeBytes_escapeByte, ih, List.cons_append]

theorem decodeBytes_cons (h : c ≠ '%') (rest : List Char) :
    decodeBytes (c :: rest) = UInt8.ofNat c.toNat :: decodeBytes rest := by
  rw [decodeBytes]
  rintro a b more hc
  exact absurd hc h

/-! ## Escaped texts -/

theorem isAscii_of_mem_escapeByte {b : UInt8} (hc : c ∈ escapeByte b) : isAscii c = true := by
  have hb : b.toNat < 256 := b.toNat_lt
  simp only [escapeByte, List.mem_cons, List.not_mem_nil, or_false] at hc
  rcases hc with rfl | rfl | rfl
  · decide
  · exact isAscii_hexDigit _ (by omega)
  · exact isAscii_hexDigit _ (by omega)

theorem isAscii_of_mem_escapeChar {d : Char} (hc : c ∈ escapeChar d) : isAscii c = true := by
  obtain ⟨b, -, hb⟩ := List.mem_flatMap.mp hc
  exact isAscii_of_mem_escapeByte hb

/-- A set of safe characters that are all ASCII makes every escaped text ASCII. -/
theorem isAscii_of_mem_encodeOutside (hsafe : ∀ d, safe d = true → isAscii d = true)
    (hc : c ∈ encodeOutside safe cs) : isAscii c = true := by
  obtain ⟨d, -, hd⟩ := List.mem_flatMap.mp hc
  split at hd
  · next hkept =>
    rw [List.mem_singleton.mp hd]
    exact hsafe d hkept
  · exact isAscii_of_mem_escapeChar hd

theorem utf8EncodeChar_of_isAscii (h : isAscii c = true) :
    String.utf8EncodeChar c = [UInt8.ofNat c.toNat] := by
  have hc : c.toNat ≤ 127 := by
    have hlt : c.toNat < 0x80 := of_decide_eq_true h
    omega
  exact if_pos hc

/-- An escaped text is read as the bytes of the text, if no percent sign was kept. -/
theorem decodeBytes_encodeOutside (hsafe : ∀ d, safe d = true → isAscii d = true)
    (h : ∀ c ∈ cs, safe c = true → c ≠ '%') :
    decodeBytes (encodeOutside safe cs) = cs.flatMap String.utf8EncodeChar := by
  unfold encodeOutside
  induction cs with
  | nil => rfl
  | cons c rest ih =>
    obtain ⟨hc, hrest⟩ := List.forall_mem_cons.mp h
    rw [List.flatMap_cons, List.flatMap_cons]
    split
    · next hkept =>
      rw [List.singleton_append, decodeBytes_cons (hc hkept), ih hrest,
        utf8EncodeChar_of_isAscii (hsafe c hkept), List.singleton_append]
    · rw [escapeChar_eq, decodeBytes_escapes, ih hrest]

/-- A text of ASCII characters is one stretch. -/
theorem decode_of_ascii (h : ∀ c ∈ cs, isAscii c = true) :
    decode cs = Text.utf8Lossy (decodeBytes cs) := by
  cases cs with
  | nil =>
    rw [decode]
    rfl
  | cons c rest =>
    obtain ⟨hc, hrest⟩ := List.forall_mem_cons.mp h
    have hstretch : rest.takeWhile isAscii = rest := List.takeWhile_eq_self_iff.mpr hrest
    have hnone : rest.dropWhile isAscii = [] := List.dropWhile_eq_nil_iff.mpr hrest
    rw [decode, if_pos hc, hstretch, hnone, decode, List.append_nil]

/-- A text is read back from its escaped form, if no percent sign was kept. -/
theorem decode_encodeOutside (hsafe : ∀ d, safe d = true → isAscii d = true)
    (h : ∀ c ∈ cs, safe c = true → c ≠ '%') : decode (encodeOutside safe cs) = cs := by
  rw [decode_of_ascii fun c => isAscii_of_mem_encodeOutside hsafe,
    decodeBytes_encodeOutside hsafe h, Text.utf8Lossy_flatMap]

/-! ## Texts that are read as nothing -/

theorem decodeBytes_ne_nil (c : Char) (rest : List Char) : decodeBytes (c :: rest) ≠ [] := by
  unfold decodeBytes
  split
  · split
    · exact List.cons_ne_nil _ _
    · exact List.cons_ne_nil _ _
  · exact List.cons_ne_nil _ _
  · next heq => cases heq

/-- Only the empty text is read as the empty text. -/
theorem decode_eq_nil_iff : decode cs = [] ↔ cs = [] := by
  constructor
  · intro h
    cases cs with
    | nil => rfl
    | cons c rest =>
      rw [decode] at h
      split at h
      · have hbytes := Text.utf8Lossy_eq_nil_iff.mp (List.append_eq_nil_iff.mp h).1
        exact absurd hbytes (decodeBytes_ne_nil c _)
      · cases h
  · rintro rfl
    exact decode.eq_1

end ChatWarden.Url
