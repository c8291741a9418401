import ChatWarden.Text.Lower
import ChatWarden.Text.Split
import Mathlib.Data.List.Infix

/-!
# Lowercase forms and the texts inside a text

Lowercasing looks beyond one character at the capital sigma only. So a part of a text has the
lowercase form that it has by itself, unless a capital sigma in it ends a word in one of the two
readings and not in the other.

Results:
* `lowerFrom_append`: the lowercase form of a text, cut where the text is cut.
* `lowerBetween_eq_lower_iff`: when the neighbours of a part leave its lowercase form as it is.
* `lowerBetween_of_ascii`: ASCII text is lowercased letter by letter, wherever it stands.
* `lower_eq_iff_of_plain`: which texts have a given lowercase form of ASCII letters.
-/

namespace ChatWarden.Text

variable {c d : Char} {cs part before after front back : List Char}

/-! ## Occurrences -/

theorem occursIn_iff_infix {needle cs : List Char} :
    occursIn needle cs = true ↔ needle <:+: cs := by
  induction cs with
  | nil => rw [occursIn, List.isEmpty_iff, List.infix_nil]
  | cons c rest ih =>
    rw [occursIn, Bool.or_eq_true, List.isPrefixOf_iff_prefix, ih, List.infix_cons_iff]

/-! ## Parts of a text -/

/-- Whether a capital sigma between the reversed text before it and the text after it is a final
    one. -/
def endsWord (before after : List Char) : Bool := meetsCased before && !meetsCased after

/-- The lowercase form of a part of a text, between the reversed text before it and the text after
    it. -/
def lowerBetween : (before part after : List Char) → List Char
  | _, [], _ => []
  | before, c :: rest, after =>
    lowerAt before c (rest ++ after) ++ lowerBetween (c :: before) rest after

theorem lowerFrom_append (before part after : List Char) :
    lowerFrom before (part ++ after) =
      lowerBetween before part after ++ lowerFrom (part.reverse ++ before) after := by
  induction part generalizing before with
  | nil => rfl
  | cons c rest ih =>
    rw [List.cons_append, lowerFrom, ih, lowerBetween, List.append_assoc, List.reverse_cons,
      List.append_assoc, List.singleton_append]

theorem lowerFrom_eq_lowerBetween (before part : List Char) :
    lowerFrom before part = lowerBetween before part [] := by
  have happend := lowerFrom_append before part []
  rwa [List.append_nil, lowerFrom, List.append_nil] at happend

/-- The lowercase form of a text holds those of its parts, as they read between their neighbours. -/
theorem lowerBetween_infix_lower (front part back : List Char) :
    lowerBetween front.reverse part back <:+: lower (front ++ part ++ back) := by
  rw [lower, List.append_assoc, lowerFrom_append, lowerFrom_append, List.append_nil]
  exact ⟨_, _, List.append_assoc ..⟩

/-! ## Capital sigmas -/

theorem lowerAt_sigma (before after : List Char) :
    lowerAt before 'Σ' after = [if endsWord before after then 'ς' else 'σ'] := rfl

theorem lowerAt_of_ne (h : c ≠ 'Σ') (before after : List Char) :
    lowerAt before c after = lowerChar c := by
  rw [lowerAt, if_neg (by simpa using h)]

/-- The neighbours of a character may change its lowercase form, but not how long it is. -/
theorem length_lowerAt (c : Char) (before after before' after' : List Char) :
    (lowerAt before c after).length = (lowerAt before' c after').length := by
  by_cases h : c = 'Σ'
  · rw [h, lowerAt_sigma, lowerAt_sigma]
    rfl
  · rw [lowerAt_of_ne h, lowerAt_of_ne h]

/-- Two places give a character the same lowercase form, unless it is a capital sigma that ends a
    word at one of them only. -/
theorem lowerAt_eq_iff {before after before' after' : List Char} :
    lowerAt before c after = lowerAt before' c after' ↔
      (c = 'Σ' → endsWord before after = endsWord before' after') := by
  by_cases h : c = 'Σ'
  · rw [h, lowerAt_sigma, lowerAt_sigma]
    cases endsWord before after <;> cases endsWord before' after' <;> decide
  · rw [lowerAt_of_ne h, lowerAt_of_ne h]
    exact iff_of_true rfl fun hc => absurd hc h

/-- Every capital sigma of a part ends a word between these neighbours just if it does so in the
    part by itself. -/
def KeepsSigmas (front part back : List Char) : Prop :=
  ∀ before after, part = before ++ 'Σ' :: after →
    endsWord (before.reverse ++ front.reverse) (after ++ back) = endsWord before.reverse after

theorem keepsSigmas_of_notMem (h : 'Σ' ∉ part) (front back : List Char) :
    KeepsSigmas front part back := by
  rintro before after rfl
  simp at h

/-- A part that follows `before` reads the same in front of `after` and behind `front`, and by
    itself, just if each of its capital sigmas does. -/
theorem lowerBetween_eq_iff (front before part after : List Char) :
    lowerBetween (before ++ front) part after = lowerBetween before part [] ↔
      ∀ first rest, part = first ++ 'Σ' :: rest →
        endsWord (first.reverse ++ (before ++ front)) (rest ++ after) =
          endsWord (first.reverse ++ before) rest := by
  induction part generalizing before with
  | nil => simp [lowerBetween]
  | cons c tail ih =>
    have hlen := length_lowerAt c (before ++ front) (tail ++ after) before (tail ++ [])
    have hparts : lowerBetween (before ++ front) (c :: tail) after =
        lowerBetween before (c :: tail) [] ↔
        lowerAt (before ++ front) c (tail ++ after) = lowerAt before c (tail ++ []) ∧
          lowerBetween (c :: before ++ front) tail after = lowerBetween (c :: before) tail [] :=
      ⟨fun h => List.append_inj h hlen, fun ⟨hhead, htail⟩ => congrArg₂ _ hhead htail⟩
    rw [hparts, lowerAt_eq_iff, ih, List.append_nil]
    constructor
    · rintro ⟨hhead, htail⟩ (_ | ⟨_, first⟩) rest hpart
      · obtain ⟨rfl, rfl⟩ := List.cons.inj hpart
        exact hhead rfl
      · obtain ⟨rfl, rfl⟩ := List.cons.inj hpart
        simpa using htail first rest rfl
    · intro h
      refine ⟨?_, fun first rest htail => ?_⟩
      · rintro rfl
        exact h [] tail rfl
      · simpa using h (c :: first) rest (by rw [htail, List.cons_append])

/-- A part of a text has the lowercase form that it has by itself just if its capital sigmas end
    words there as they do by themselves. -/
theorem lowerBetween_eq_lower_iff :
    lowerBetween front.reverse part back = lower part ↔ KeepsSigmas front part back := by
  have hiff := lowerBetween_eq_iff front.reverse [] part back
  simp only [List.nil_append, List.append_nil] at hiff
  rw [lower, lowerFrom_eq_lowerBetween, hiff, KeepsSigmas]

/-- Lowercasing keeps a part inside its text where the neighbours leave its capital sigmas. -/
theorem KeepsSigmas.lower_infix (h : KeepsSigmas front part back) :
    lower part <:+: lower (front ++ part ++ back) := by
  rw [← lowerBetween_eq_lower_iff.mpr h]
  exact lowerBetween_infix_lower front part back

/-! ## ASCII letters -/

/-- An ASCII character stands for itself or for its small letter, whatever is around it. -/
theorem lowerAt_of_ascii (h : c.toNat < 0x80) (before after : List Char) :
    lowerAt before c after = [c.toLower] := by
  have hall : ∀ n < 0x80, Char.ofNat n ≠ 'Σ' ∧
      lowerChar (Char.ofNat n) = [(Char.ofNat n).toLower] := by decide
  obtain ⟨hsigma, hlower⟩ := hall c.toNat h
  rw [Char.ofNat_toNat] at hsigma hlower
  rw [lowerAt_of_ne hsigma, hlower]

/-- ASCII text is lowercased letter by letter, wherever it stands. -/
theorem lowerBetween_of_ascii (h : ∀ c ∈ part, c.toNat < 0x80) (before after : List Char) :
    lowerBetween before part after = part.map Char.toLower := by
  induction part generalizing before with
  | nil => rfl
  | cons c rest ih =>
    obtain ⟨hc, hrest⟩ := List.forall_mem_cons.mp h
    rw [lowerBetween, lowerAt_of_ascii hc, ih hrest, List.singleton_append, List.map_cons]

theorem lower_of_ascii (h : ∀ c ∈ cs, c.toNat < 0x80) : lower cs = cs.map Char.toLower := by
  rw [lower, lowerFrom_eq_lowerBetween, lowerBetween_of_ascii h]

/-- Of all characters beyond ASCII only the Kelvin sign has a counterpart in ASCII. -/
theorem lowerRuns_ascii : ∀ run ∈ lowerRuns, run.last < 0x80 ∨ 0x80 ≤ run.target ∨
    run.first = run.last ∧ run.target = 'k'.toNat := by decide +kernel

theorem counterpart_of_not_ascii {n m : Nat} (h : counterpartIn? lowerRuns n = some m)
    (hn : 0x80 ≤ n) : 0x80 ≤ m ∨ m = 'k'.toNat := by
  obtain ⟨run, hrun, hcounterpart⟩ := List.exists_of_findSome?_eq_some h
  unfold CaseRun.counterpart? at hcounterpart
  split at hcounterpart
  · next hin =>
    simp only [Bool.and_eq_true, decide_eq_true_eq] at hin
    have hm := Option.some.inj hcounterpart
    rcases lowerRuns_ascii run hrun with hlast | htarget | ⟨hsingle, htarget⟩
    · omega
    · left
      omega
    · right
      omega
  · cases hcounterpart

/-- A small ASCII letter other than i and k is the lowercase form of ASCII letters only. -/
structure IsPlain (c : Char) : Prop where
  isLower : c.isLower = true
  ne_i : c ≠ 'i'
  ne_k : c ≠ 'k'

theorem IsPlain.toNat (h : IsPlain d) : 97 ≤ d.toNat ∧ d.toNat ≤ 122 := by
  obtain ⟨hlow, hhigh⟩ := Bool.and_eq_true_iff.mp h.isLower
  exact ⟨of_decide_eq_true hlow, of_decide_eq_true hhigh⟩

/-- A code point beyond ASCII, or one that is none, does not make a small ASCII letter. -/
theorem IsPlain.ne_ofNat (h : IsPlain d) {n : Nat} (hn : 0x80 ≤ n) : d ≠ Char.ofNat n := by
  rintro rfl
  have hrange := h.toNat
  by_cases hvalid : n.isValidChar
  · have hchar : Char.ofNat n = Char.ofNatAux n hvalid := dif_pos hvalid
    have htoNat : (Char.ofNatAux n hvalid).toNat = n := rfl
    rw [hchar, htoNat] at hrange
    omega
  · have hchar : Char.ofNat n = '\x00' := dif_neg hvalid
    rw [hchar] at hrange
    revert hrange
    decide

theorem ascii_of_plain (h : IsPlain d) {before after : List Char}
    (hd : d ∈ lowerAt before c after) : c.toNat < 0x80 := by
  have hrange := h.toNat
  by_contra hc
  by_cases hsigma : c = 'Σ'
  · rw [hsigma, lowerAt_sigma, List.mem_singleton] at hd
    have hsmall : ('ς'.toNat = 0x3C2) ∧ ('σ'.toNat = 0x3C3) := by decide
    split at hd
    · rw [hd] at hrange
      omega
    · rw [hd] at hrange
      omega
  · rw [lowerAt_of_ne hsigma, lowerChar, if_neg hc] at hd
    split at hd
    · -- the dotted capital I becomes a small i and a mark
      rcases List.mem_cons.mp hd with rfl | hmark
      · exact h.ne_i rfl
      · rw [List.mem_singleton.mp hmark] at hrange
        revert hrange
        decide
    · rw [List.mem_singleton] at hd
      cases hcounterpart : counterpartIn? lowerRuns c.toNat with
      | none =>
        rw [hcounterpart] at hd
        obtain rfl : d = c := hd
        omega
      | some m =>
        rw [hcounterpart] at hd
        rcases counterpart_of_not_ascii hcounterpart (by omega) with hm | rfl
        · exact h.ne_ofNat hm hd
        · exact h.ne_k hd

/-- A character has a lowercase form. -/
theorem lowerAt_ne_nil (c : Char) (before after : List Char) : lowerAt before c after ≠ [] := by
  by_cases h : c = 'Σ'
  · rw [h, lowerAt_sigma]
    exact List.cons_ne_nil _ _
  · rw [lowerAt_of_ne h]
    unfold lowerChar
    dsimp only
    split_ifs <;> exact List.cons_ne_nil _ _

theorem ascii_of_lowerBetween_plain (before part after : List Char)
    (h : ∀ d ∈ lowerBetween before part after, IsPlain d) : ∀ c ∈ part, c.toNat < 0x80 := by
  induction part generalizing before with
  | nil => simp
  | cons c rest ih =>
    rw [lowerBetween, List.forall_mem_append] at h
    obtain ⟨d, hd⟩ := List.exists_mem_of_ne_nil _ (lowerAt_ne_nil c before (rest ++ after))
    exact List.forall_mem_cons.mpr ⟨ascii_of_plain (h.1 d hd) hd, ih _ h.2⟩

theorem ascii_of_lower_plain (h : ∀ d ∈ lower cs, IsPlain d) : ∀ c ∈ cs, c.toNat < 0x80 := by
  rw [lower, lowerFrom_eq_lowerBetween] at h
  exact ascii_of_lowerBetween_plain [] cs [] h

/-- Only ASCII letters are ever changed to small ones of their own. -/
theorem ascii_of_toLower (h : c.toLower.toNat < 0x80) : c.toNat < 0x80 := by
  unfold Char.toLower at h
  split at h
  · next hcapital =>
    have hle : c.toNat ≤ 'Z'.toNat := UInt32.le_iff_toNat_le.mp hcapital.2
    have hz : 'Z'.toNat = 90 := rfl
    omega
  · exact h

/-- A text has a lowercase form of plain letters just if it has these letters, each in either
    case. -/
theorem lower_eq_iff_of_plain {letters : List Char} (h : ∀ d ∈ letters, IsPlain d) :
    lower cs = letters ↔ cs.map Char.toLower = letters := by
  constructor
  · intro hlower
    have hascii : ∀ c ∈ cs, c.toNat < 0x80 := ascii_of_lower_plain (hlower ▸ h)
    rw [← hlower, lower_of_ascii hascii]
  · intro hmap
    have hascii : ∀ c ∈ cs, c.toNat < 0x80 := by
      intro c hc
      have hmem : c.toLower ∈ letters := hmap ▸ List.mem_map_of_mem hc
      have hrange := (h _ hmem).toNat
      exact ascii_of_toLower (by omega)
    rw [lower_of_ascii hascii, hmap]

end ChatWarden.Text
