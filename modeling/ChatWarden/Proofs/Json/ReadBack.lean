import ChatWarden.Proofs.Json.Written
import ChatWarden.Proofs.NameMap

/-!
# Reading back what was written

A string is read back as it was, wherever it stands, and so is an object whose values are strings.

Results:
* `readString_quoted`: a string between quotes is read up to its end.
* `read_ofTexts`: an object of texts is read back.
-/

namespace ChatWarden

namespace Json

/-! ## Strings -/

/-- The number at the front of the text, if it has one, is whole. -/
def UnitWhole (cs : List Char) : Prop :=
  ∀ a b c d rest, cs = '\\' :: 'u' :: a :: b :: c :: d :: rest → (fourHex? a b c d).isSome

/-- A number that is no half of a pair is read alone, whatever follows. -/
theorem readString_unit {a b c d : Char} {unit : Nat} {rest : List Char}
    (hvalue : fourHex? a b c d = some unit) (hunit : unit < 0x20) (hrest : UnitWhole rest)
    (half? : Option Char) (read : List Char) :
    readString half? read ('\\' :: 'u' :: a :: b :: c :: d :: rest) =
      readString half? (Char.ofNat unit :: read) rest := by
  have hhigh : isHighUnit unit = false := by simp [isHighUnit]; omega
  have hchar : unitChar? half? unit = some (Char.ofNat unit) := by
    rw [unitChar?, if_neg (by simp; omega)]
  by_cases hpair : ∃ a' b' c' d' after, rest = '\\' :: 'u' :: a' :: b' :: c' :: d' :: after
  · obtain ⟨a', b', c', d', after, rfl⟩ := hpair
    obtain ⟨low, hlow⟩ := Option.isSome_iff_exists.mp (hrest _ _ _ _ _ rfl)
    rw [readString]
    simp only [hvalue, hlow, hhigh, hchar, Bool.false_and, Bool.false_eq_true, if_false]
  · rw [readString]
    · simp only [hvalue, Option.bind_some, hchar]
    · intro a' b' c' d' after h
      exact hpair ⟨a', b', c', d', after, h⟩

theorem Escape.unitWhole {c : Char} {written : List Char} (h : Escape c written)
    (rest : List Char) : UnitWhole (written ++ rest) := by
  rintro x y z w after hafter
  cases h with
  | short letter hletter =>
    obtain rfl := (List.cons.inj (List.cons.inj hafter).2).1
    cases hletter
  | unit high low _ hvalue =>
    simp only [List.cons_append, List.nil_append, List.cons.injEq, true_and] at hafter
    obtain ⟨rfl, rfl, rfl, rfl, -⟩ := hafter
    rw [hvalue, Option.isSome_some]
  | plain _ hback => exact absurd (List.cons.inj hafter).1 hback

/-- A character that was written is read. -/
theorem readString_escape {c : Char} {written rest : List Char} (h : Escape c written)
    (hrest : UnitWhole rest) (half? : Option Char) (read : List Char) :
    readString half? read (written ++ rest) = readString half? (c :: read) rest := by
  cases h with
  | short letter hletter =>
    have hunit : letter ≠ 'u' := by
      rintro rfl
      cases hletter
    rw [List.cons_append, List.singleton_append, readString]
    · simp only [hletter]
    · intro _ _ _ _ _ _ _ _ _ h
      exact absurd h hunit
    · intro _ _ _ _ _ h
      exact absurd h hunit
  | unit high low hcontrol hvalue =>
    exact (readString_unit hvalue hcontrol hrest half? read).trans (by rw [Char.ofNat_toNat])
  | plain hquote hback hplain =>
    rw [List.singleton_append, readString, if_neg (Nat.not_lt.mpr hplain)]
    · exact hquote
    · intro _ _ _ _ _ _ _ _ _ h
      exact absurd h hback
    · intro _ _ _ _ _ h
      exact absurd h hback
    · intro _ _ h
      exact absurd h hback

/-- A string is read up to the quote behind it. -/
theorem readString_quoted (half? : Option Char) (read cs rest : List Char) :
    readString half? read (cs.flatMap escaped ++ '"' :: rest) =
      some (read.reverse ++ cs, rest) := by
  induction cs generalizing read with
  | nil => rw [List.flatMap_nil, List.nil_append, readString, List.append_nil]
  | cons c cs ih =>
    have hwhole : UnitWhole (cs.flatMap escaped ++ '"' :: rest) := by
      cases cs with
      | nil =>
        intro _ _ _ _ _ h
        cases h
      | cons d more =>
        rw [List.flatMap_cons, List.append_assoc]
        exact (escape_escaped d).unitWhole _
    rw [List.flatMap_cons, List.append_assoc, readString_escape (escape_escaped c) hwhole,
      ih,
      List.reverse_cons, List.append_assoc, List.singleton_append]

/-! ## Objects of texts -/

/-- A field whose value is a text. -/
def textField (field : String × String) : String × Json := (field.1, .str field.2)

/-- An object whose values are texts. -/
def ofTexts (texts : List (String × String)) : Json := .obj (texts.map textField)

theorem quote_append (cs rest : List Char) :
    quote cs ++ rest = '"' :: (cs.flatMap escaped ++ '"' :: rest) := by
  simp [quote]

theorem fieldChars_append (field : String × String) (more : List (String × Json))
    (rest : List Char) : fieldChars (textField field :: more) ++ rest =
      quote field.1.toList ++ ':' :: ' ' :: (quote field.2.toList ++
        if more = [] then rest else ',' :: ' ' :: (fieldChars more ++ rest)) := by
  cases more with
  | nil => simp [fieldChars, textField, chars]
  | cons next more => simp [fieldChars, textField, chars]

theorem skipSpace_fieldChars (field : String × String) (more : List (String × Json))
    (rest : List Char) : skipSpace (fieldChars (textField field :: more) ++ rest) =
      fieldChars (textField field :: more) ++ rest := by
  rw [fieldChars_append, quote_append]
  rfl

theorem readValue_quote (reach : Reach) (fuel depth : Nat) (s : String) (rest : List Char) :
    readValue reach (fuel + 1) depth (quote s.toList ++ rest) = .ok (.str s, rest) := by
  have hread := readString_quoted reach.half? [] s.toList rest
  rw [quote_append, readValue]
  simp only [hread, List.reverse_nil, List.nil_append, String.ofList_toList]

theorem skipSpace_colon (cs : List Char) : skipSpace (':' :: cs) = ':' :: cs := rfl

theorem skipSpace_quote (cs rest : List Char) :
    skipSpace (' ' :: (quote cs ++ rest)) = quote cs ++ rest := rfl

section Field

variable (reach : Reach) (fuel depth : Nat) (read : List (String × Json)) (name s : String) (rest : List Char)

/-- The last field of an object is read. -/
theorem readFields_last : readFields reach (fuel + 2) depth read
      (quote name.toList ++ ':' :: ' ' :: (quote s.toList ++ '\x7d' :: rest)) =
    .ok (.obj (NameMap.set name (.str s) read), rest) := by
  rw [quote_append name.toList, readFields]
  simp only [readString_quoted, skipSpace_colon, skipSpace_quote, readValue_quote,
    List.reverse_nil, List.nil_append, String.ofList_toList]
  rfl

/-- A field of an object is read, and the next one follows. -/
theorem readFields_next : readFields reach (fuel + 2) depth read
      (quote name.toList ++ ':' :: ' ' :: (quote s.toList ++ ',' :: ' ' :: rest)) =
    readFields reach (fuel + 1) depth (NameMap.set name (.str s) read) (skipSpace rest) := by
  rw [quote_append name.toList, readFields]
  simp only [readString_quoted, skipSpace_colon, skipSpace_quote, readValue_quote,
    List.reverse_nil, List.nil_append, String.ofList_toList]
  rfl

end Field

/-- Fields of texts are read up to the end of their object, each behind those before it. -/
theorem readFields_texts (reach : Reach) {texts : List (String × String)} (htexts : texts ≠ [])
    {fuel : Nat}
    (hfuel : texts.length < fuel) (depth : Nat) {read : List (String × Json)}
    (hnames : (read.map Prod.fst ++ texts.map Prod.fst).Nodup) (rest : List Char) :
    readFields reach fuel depth read (fieldChars (texts.map textField) ++ '\x7d' :: rest) =
      .ok (.obj (read ++ texts.map textField), rest) := by
  induction texts generalizing fuel read with
  | nil => exact absurd rfl htexts
  | cons field more ih =>
    obtain ⟨fuel, rfl⟩ : ∃ less, fuel = less + 2 := ⟨fuel - 2, by simp at hfuel; omega⟩
    have hnew : NameMap.set field.1 (.str field.2) read = read ++ [textField field] := by
      refine NameMap.set_of_notMem (fun hold => ?_) _
      exact (List.nodup_append.mp hnames).2.2 _ hold _ List.mem_cons_self rfl
    rw [List.map_cons, fieldChars_append]
    cases more with
    | nil =>
      rw [List.map_nil, if_pos rfl, readFields_last, hnew]
    | cons next more =>
      rw [List.map_cons, if_neg (List.cons_ne_nil _ _), readFields_next, skipSpace_fieldChars, hnew,
        ← List.map_cons, ih (List.cons_ne_nil _ _) (by simpa using hfuel)
          (by simpa [textField] using hnames),
        List.append_assoc, List.singleton_append]

theorem length_le_fieldChars (texts : List (String × String)) :
    texts.length ≤ (fieldChars (texts.map textField)).length := by
  induction texts with
  | nil => exact Nat.zero_le _
  | cons field more ih =>
    have hlength := congrArg List.length (fieldChars_append field (more.map textField) [])
    cases more with
    | nil => simp at hlength ⊢; omega
    | cons next more => simp at hlength ih ⊢; omega

/-- An object of texts is read, wherever it stands. -/
theorem readValue_ofTexts {texts : List (String × String)} (hnames : (texts.map Prod.fst).Nodup)
    {fuel : Nat} (hfuel : texts.length < fuel) {reach : Reach} {depth : Nat}
    (hdepth : depth < reach.depth) (rest : List Char) :
    readValue reach (fuel + 1) depth ((ofTexts texts).chars ++ rest) = .ok (ofTexts texts, rest) := by
  have hchars : (ofTexts texts).chars ++ rest =
      '\x7b' :: (fieldChars (texts.map textField) ++ '\x7d' :: rest) := by
    simp [ofTexts, chars]
  rw [hchars, readValue, if_neg (Nat.not_le.mpr hdepth)]
  cases texts with
  | nil => rfl
  | cons field more =>
    have hread : readFields reach fuel (depth + 1) []
        (fieldChars ((field :: more).map textField) ++ '\x7d' :: rest) =
          .ok (ofTexts (field :: more), rest) :=
      readFields_texts reach (List.cons_ne_nil field more) hfuel (depth + 1)
        (by simpa using hnames) rest
    rw [List.map_cons, fieldChars_append, quote_append] at hread
    rw [List.map_cons, skipSpace_fieldChars, fieldChars_append, quote_append]
    exact hread

/-- An object of texts with names of their own is read back from its text. -/
theorem read_ofTexts {texts : List (String × String)} (hnames : (texts.map Prod.fst).Nodup) :
    Json.read (ofTexts texts).text.toList = .ok (ofTexts texts) := by
  have hfuel : texts.length < 2 * (ofTexts texts).chars.length + 1 := by
    have hlength := length_le_fieldChars texts
    simp only [ofTexts, chars, List.length_append, List.length_cons]
    omega
  let reach : Reach := { depth := (ofTexts texts).chars.length }
  have hopen : 0 < reach.depth := by simp [reach, ofTexts, chars]
  have hread := readValue_ofTexts hnames hfuel hopen []
  rw [List.append_nil] at hread
  rw [text, String.toList_ofList, Json.read, readWith, show skipSpace (ofTexts texts).chars =
    (ofTexts texts).chars from rfl, hread]
  rfl

end Json

end ChatWarden
