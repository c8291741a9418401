import ChatWarden.Proofs.Chat.Arguments
import ChatWarden.Proofs.Text.Splitting
import ChatWarden.Url.Address

/-!
# Reading written addresses back

An address that was cut from a text has parts that keep to their places: no part holds the marks
that would end it, and a path that stands at the very front cannot be taken for a scheme. So the
parts of an address that was put together again are found where they were put, also when the query
is another one by then. Only the path may be found with a slash in front, which it gets when a host
is written before it.

Results:
* `ofText?_eq_some_iff`: cutting a text, step by step.
* `isCut_of_ofText?`: what holds of the parts that a text is cut into.
* `ofText?_text`: the parts are found again in the text of an address.
-/

namespace ChatWarden.Url.Address

variable {mark c : Char} {cs front back rest host behind path : List Char} {a : Address}

/-! ## Cutting at a mark -/

/-- What stands in front of the first mark and what stands behind it. -/
def cut (mark : Char) (cs : List Char) : List Char × List Char :=
  (Text.cutAt? mark cs).getD (cs, [])

/-- A part behind its mark. An empty part is left out together with the mark. -/
def marked (mark : Char) (part : List Char) : List Char :=
  if part.isEmpty then [] else mark :: part

theorem cut_marked (h : mark ∉ front) (back : List Char) :
    cut mark (front ++ marked mark back) = (front, back) := by
  unfold cut marked
  cases back with
  | nil =>
    rw [List.isEmpty_nil, if_pos rfl, List.append_nil, Text.cutAt?_eq_none_iff.mpr h]
    rfl
  | cons c back =>
    rw [List.isEmpty_cons, if_neg Bool.false_ne_true, Text.cutAt?_append h]
    rfl

/-- A text is what stands in front of the mark, and a tail that begins with the mark if there is
    any. -/
theorem exists_tail (h : cut mark cs = (front, back)) :
    mark ∉ front ∧ ∃ tail, cs = front ++ tail ∧ (∀ c, tail.head? = some c → c = mark) ∧
      back ⊆ tail := by
  unfold cut at h
  by_cases hmark : mark ∈ cs
  · obtain ⟨before, after, happend, hbefore, hcut⟩ := Text.exists_cutAt? hmark
    rw [hcut, Option.getD_some] at h
    obtain ⟨rfl, rfl⟩ := Prod.mk.inj h
    refine ⟨hbefore, mark :: after, happend, ?_, List.subset_cons_self mark after⟩
    intro c hc
    exact (Option.some.inj hc).symm
  · rw [Text.cutAt?_eq_none_iff.mpr hmark, Option.getD_none] at h
    obtain ⟨rfl, rfl⟩ := Prod.mk.inj h
    refine ⟨hmark, [], (List.append_nil cs).symm, ?_, List.Subset.refl []⟩
    intro c hc
    cases hc

/-! ## Schemes -/

/-- A text could be a scheme: a letter and then letters, digits and three marks. -/
def IsScheme (cs : List Char) : Prop :=
  ∃ first more, cs = first :: more ∧ first.isAlpha = true ∧ ∀ c ∈ cs, isSchemeChar c = true

/-- A text begins with what could be a scheme, and a colon. -/
def HasScheme (cs : List Char) : Prop := ∃ scheme rest, cs = scheme ++ ':' :: rest ∧ IsScheme scheme

theorem isSchemeChar_lt (h : isSchemeChar c = true) : 0x20 < c.toNat ∧ c.toNat < 128 := by
  simp only [isSchemeChar, Bool.or_eq_true, beq_iff_eq] at h
  rcases h with ((h | rfl) | rfl) | rfl
  · have hrange := Text.toNat_of_isAlphanum h
    omega
  all_goals decide

/-- What writing a scheme in lower case does to one of its characters. -/
theorem toLower_of_isSchemeChar (h : isSchemeChar c = true) :
    isSchemeChar c.toLower = true ∧ c.toLower.toLower = c.toLower ∧
      (c.isAlpha = true → c.toLower.isAlpha = true) := by
  have hall : ∀ n < 128, isSchemeChar (Char.ofNat n) = true →
      isSchemeChar (Char.ofNat n).toLower = true ∧
        (Char.ofNat n).toLower.toLower = (Char.ofNat n).toLower ∧
        ((Char.ofNat n).isAlpha = true → (Char.ofNat n).toLower.isAlpha = true) := by decide
  have hc := hall c.toNat (isSchemeChar_lt h).2
  rw [Char.ofNat_toNat] at hc
  exact hc h

theorem IsScheme.colon_notMem (h : IsScheme cs) : ':' ∉ cs := by
  intro hmem
  obtain ⟨_, _, -, -, hall⟩ := h
  exact absurd (hall ':' hmem) (by decide)

/-- A scheme in lower case is a scheme. -/
theorem IsScheme.lowered (h : IsScheme cs) : IsScheme (cs.map Char.toLower) := by
  obtain ⟨first, more, rfl, hfirst, hall⟩ := h
  refine ⟨first.toLower, more.map Char.toLower, List.map_cons, ?_, ?_⟩
  · exact (toLower_of_isSchemeChar (hall first List.mem_cons_self)).2.2 hfirst
  · intro c hc
    obtain ⟨d, hd, rfl⟩ := List.mem_map.mp hc
    exact (toLower_of_isSchemeChar (hall d hd)).1

theorem IsScheme.lowered_lowered (h : IsScheme cs) :
    (cs.map Char.toLower).map Char.toLower = cs.map Char.toLower := by
  obtain ⟨_, _, -, -, hall⟩ := h
  rw [List.map_map]
  apply List.map_congr_left
  intro c hc
  exact (toLower_of_isSchemeChar (hall c hc)).2.1

theorem takeScheme_of_isScheme (h : IsScheme cs) (rest : List Char) :
    takeScheme (cs ++ ':' :: rest) = (cs.map Char.toLower, rest) := by
  have hcut := Text.cutAt?_append h.colon_notMem rest
  obtain ⟨first, more, rfl, hfirst, hall⟩ := h
  unfold takeScheme
  rw [hcut]
  show (if first.isAlpha && (first :: more).all isSchemeChar then _ else _) = _
  rw [hfirst, List.all_eq_true.mpr hall, Bool.and_self, if_pos rfl]

theorem takeScheme_of_not (h : ¬HasScheme cs) : takeScheme cs = ([], cs) := by
  unfold takeScheme
  split
  · next first more rest hcut =>
    split
    · next hscheme =>
      rw [Bool.and_eq_true, List.all_eq_true] at hscheme
      have hmark : ':' ∈ cs := by
        by_contra hnone
        rw [Text.cutAt?_eq_none_iff.mpr hnone] at hcut
        cases hcut
      obtain ⟨front, back, happend, -, hfound⟩ := Text.exists_cutAt? hmark
      rw [hfound] at hcut
      obtain ⟨rfl, rfl⟩ := Prod.mk.inj (Option.some.inj hcut)
      exact absurd ⟨_, _, happend, first, more, rfl, hscheme.1, hscheme.2⟩ h
    · rfl
  · rfl

/-- A text begins with its scheme and a colon, or it has no scheme. -/
theorem takeScheme_cases {scheme : List Char} (h : takeScheme cs = (scheme, behind)) :
    (IsScheme scheme ∧ scheme.map Char.toLower = scheme ∧ behind <:+ cs) ∨
      (scheme = [] ∧ behind = cs ∧ ¬HasScheme cs) := by
  by_cases hhas : HasScheme cs
  · obtain ⟨raw, rest, rfl, hraw⟩ := hhas
    rw [takeScheme_of_isScheme hraw] at h
    obtain ⟨rfl, rfl⟩ := Prod.mk.inj h
    exact .inl ⟨hraw.lowered, hraw.lowered_lowered,
      (List.suffix_cons ':' rest).trans (List.suffix_append raw _)⟩
  · rw [takeScheme_of_not hhas] at h
    obtain ⟨rfl, rfl⟩ := Prod.mk.inj h
    exact .inr ⟨rfl, rfl, hhas⟩

theorem HasScheme.append (h : HasScheme cs) (rest : List Char) : HasScheme (cs ++ rest) := by
  obtain ⟨scheme, behind, rfl, hscheme⟩ := h
  exact ⟨scheme, behind ++ rest, by rw [List.append_assoc, List.cons_append], hscheme⟩

/-- A scheme does not reach beyond a character that is part of none. -/
theorem not_hasScheme_append (h : ¬HasScheme path)
    (hrest : ∀ c, rest.head? = some c → isSchemeChar c = false ∧ c ≠ ':') :
    ¬HasScheme (path ++ rest) := by
  rintro ⟨scheme, behind, happend, hscheme⟩
  rcases List.append_eq_append_iff.mp happend with ⟨more, hmore, htail⟩ | ⟨more, hmore, htail⟩
  · -- the scheme would go on behind the path
    cases more with
    | nil => exact (hrest ':' (by rw [htail]; rfl)).2 rfl
    | cons c others =>
      have hc := (hrest c (by rw [htail]; rfl)).1
      obtain ⟨_, _, -, -, hall⟩ := hscheme
      rw [hall c (by rw [hmore]; simp)] at hc
      cases hc
  · cases more with
    | nil => exact (hrest ':' (by rw [← List.nil_append rest, ← htail]; rfl)).2 rfl
    | cons c others =>
      obtain ⟨rfl, -⟩ := List.cons.inj htail
      exact h ⟨scheme, others, hmore, hscheme⟩

/-! ## Hosts -/

/-- The path begins with a slash, if it is not empty. -/
def IsRooted (path : List Char) : Prop := ∀ c, path.head? = some c → c = '/'

/-- A text that goes on with what ends a host has a path that begins with a slash, if any. -/
theorem isRooted_of_ends (hpath : ∀ c ∈ path, c ≠ '?' ∧ c ≠ '#')
    (h : ∀ c, (path ++ rest).head? = some c → endsHost c = true) : IsRooted path := by
  intro c hc
  have hends := h c (by rw [List.head?_append, hc, Option.some_or])
  have hmem := hpath c (List.mem_of_mem_head? hc)
  simp only [endsHost, Bool.or_eq_true, beq_iff_eq] at hends
  rcases hends with (h | h) | h
  · exact h
  · exact absurd h hmem.1
  · exact absurd h hmem.2

theorem IsRooted.not_hasScheme (h : IsRooted path) : ¬HasScheme path := by
  rintro ⟨_, rest, rfl, first, more, rfl, hfirst, -⟩
  rw [h first rfl] at hfirst
  cases hfirst

/-- A host is found behind two slashes, up to the first character that ends it. -/
theorem takeHost_append (hhost : ∀ c ∈ host, endsHost c = false)
    (hbehind : ∀ c, behind.head? = some c → endsHost c = true) :
    takeHost ('/' :: '/' :: (host ++ behind)) = (host, behind) := by
  have hkept : ∀ c ∈ host, (!endsHost c) = true := by
    intro c hc
    rw [hhost c hc]
    rfl
  have hstop : behind.takeWhile (!endsHost ·) = [] ∧ behind.dropWhile (!endsHost ·) = behind := by
    cases behind with
    | nil => exact ⟨rfl, rfl⟩
    | cons c more =>
      have hc : ¬(!endsHost c) = true := by
        rw [hbehind c rfl]
        exact Bool.false_ne_true
      exact ⟨List.takeWhile_cons_of_neg hc, List.dropWhile_cons_of_neg hc⟩
  show ((host ++ behind).takeWhile (!endsHost ·), (host ++ behind).dropWhile (!endsHost ·)) = _
  rw [List.takeWhile_append_of_pos hkept, List.dropWhile_append_of_pos hkept, hstop.1, hstop.2,
    List.append_nil]

theorem takeHost_of_not (h : ¬['/', '/'] <+: cs) : takeHost cs = ([], cs) := by
  unfold takeHost
  split
  · next rest => exact absurd (List.prefix_append ['/', '/'] rest) h
  · rfl

/-- A text begins with two slashes and its host, or it has no host. -/
theorem takeHost_cases (h : takeHost cs = (host, behind)) :
    (cs = '/' :: '/' :: (host ++ behind) ∧ (∀ c ∈ host, endsHost c = false) ∧
      ∀ c, behind.head? = some c → endsHost c = true) ∨ (host = [] ∧ behind = cs) := by
  unfold takeHost at h
  split at h
  · next rest =>
    obtain ⟨rfl, rfl⟩ := Prod.mk.inj h
    refine .inl ⟨by rw [List.takeWhile_append_dropWhile], ?_, ?_⟩
    · intro c hc
      simpa using List.mem_takeWhile_imp hc
    · intro c hc
      obtain ⟨more, hmore⟩ := List.head?_eq_some_iff.mp hc
      simpa using Text.head_dropWhile _ hmore
  · obtain ⟨rfl, rfl⟩ := Prod.mk.inj h
    exact .inr ⟨rfl, rfl⟩

/-- The host of an address is in order. -/
def isSound (host : List Char) : Bool :=
  bracketsOk host && !(host.any fun c => deceptive.contains c.toNat)

/-! ## Cutting an address -/

/-- Cutting a text, step by step. -/
theorem ofText?_eq_some_iff : ofText? cs = some a ↔ ∃ behindScheme behindHost beforeFragment,
    takeScheme (cleaned cs) = (a.scheme, behindScheme) ∧
    takeHost behindScheme = (a.host, behindHost) ∧
    cut '#' behindHost = (beforeFragment, a.fragment) ∧
    cut '?' beforeFragment = (a.path, a.query) ∧ isSound a.host = true := by
  have heq : ofText? cs =
      let rest := (takeScheme (cleaned cs)).2
      let host := (takeHost rest).1
      let front := cut '#' (takeHost rest).2
      let path := cut '?' front.1
      if isSound host then some ⟨(takeScheme (cleaned cs)).1, host, path.1, path.2, front.2⟩
      else none := rfl
  rw [heq]
  dsimp only
  constructor
  · intro h
    split at h
    · next hsound =>
      obtain rfl := Option.some.inj h
      exact ⟨_, _, _, rfl, rfl, rfl, rfl, hsound⟩
    · cases h
  · rintro ⟨behindScheme, behindHost, beforeFragment, hscheme, hhost, hfragment, hquery, hsound⟩
    rw [hscheme, hhost, hfragment, hquery]
    exact if_pos hsound

/-- A character that stays when a text is cleaned. -/
def isKept (c : Char) : Bool := c != '\t' && c != '\r' && c != '\n'

theorem isKept_of_lt (h : 0x20 < c.toNat) : isKept c = true := by
  have hne (d : Char) (hd : d.toNat ≤ 0x20) : (c != d) = true := by
    rw [bne_iff_ne]
    rintro rfl
    omega
  rw [isKept, hne '\t' (by decide), hne '\r' (by decide), hne '\n' (by decide)]
  rfl

theorem cleaned_eq (cs : List Char) :
    cleaned cs = (cs.dropWhile fun c => c.toNat ≤ 0x20).filter isKept := rfl

theorem isKept_of_mem_cleaned (h : c ∈ cleaned cs) : isKept c = true := (List.mem_filter.mp h).2

theorem head_cleaned (h : (cleaned cs).head? = some c) : 0x20 < c.toNat := by
  cases hdrop : cs.dropWhile fun c => c.toNat ≤ 0x20 with
  | nil =>
    rw [cleaned_eq, hdrop] at h
    cases h
  | cons first more =>
    have hfirst : 0x20 < first.toNat := by simpa using Text.head_dropWhile _ hdrop
    rw [cleaned_eq, hdrop, List.filter_cons_of_pos (isKept_of_lt hfirst)] at h
    rwa [← Option.some.inj h]

/-- Nothing is taken off a text that begins with a visible character and holds no tabs and line
    ends. -/
theorem cleaned_of_clean (hfirst : ∀ c, cs.head? = some c → 0x20 < c.toNat)
    (hkept : ∀ c ∈ cs, isKept c = true) : cleaned cs = cs := by
  have hdrop : cs.dropWhile (fun c => c.toNat ≤ 0x20) = cs := by
    cases cs with
    | nil => rfl
    | cons c more =>
      have hc : ¬decide (c.toNat ≤ 0x20) = true := by
        have hvisible := hfirst c rfl
        rw [decide_eq_true_iff]
        omega
      exact List.dropWhile_cons_of_neg hc
  rw [cleaned_eq, hdrop, List.filter_eq_self]
  exact hkept

/-! ## The parts of an address -/

/-- What holds of the parts that a text is cut into. -/
structure IsCut (a : Address) : Prop where
  scheme : a.scheme = [] ∨ IsScheme a.scheme ∧ a.scheme.map Char.toLower = a.scheme
  host : ∀ c ∈ a.host, endsHost c = false
  sound : isSound a.host = true
  /-- Only a path behind a host must begin with a slash. -/
  rooted : a.host ≠ [] → IsRooted a.path
  path : ∀ c ∈ a.path, c ≠ '?' ∧ c ≠ '#'
  query : '#' ∉ a.query
  kept : ∀ c ∈ a.host ++ a.path ++ a.query ++ a.fragment, isKept c = true
  /-- What begins the text of the address does not begin with a scheme or with a blank. -/
  front : a.scheme = [] → a.host = [] →
    ¬HasScheme a.path ∧ ∀ c, a.path.head? = some c → 0x20 < c.toNat

/-- What stands behind the host is the path, and a tail with the query and the fragment. -/
theorem exists_path {before query fragment : List Char}
    (hfragment : cut '#' behind = (before, fragment)) (hquery : cut '?' before = (path, query)) :
    (∀ c ∈ path, c ≠ '?' ∧ c ≠ '#') ∧ '#' ∉ query ∧
      ∃ tail, behind = path ++ tail ∧ query ⊆ tail ∧ fragment ⊆ tail := by
  obtain ⟨hhash, tail, rfl, -, hback⟩ := exists_tail hfragment
  obtain ⟨hmark, more, rfl, -, hfront⟩ := exists_tail hquery
  rw [List.mem_append, not_or] at hhash
  refine ⟨?_, fun hmem => hhash.2 (hfront hmem), more ++ tail, List.append_assoc _ _ _, ?_, ?_⟩
  · intro c hc
    constructor
    · rintro rfl
      exact hmark hc
    · rintro rfl
      exact hhash.1 hc
  · exact List.Subset.trans hfront (List.subset_append_left more tail)
  · exact List.Subset.trans hback (List.subset_append_right more tail)

theorem isCut_of_ofText? (h : ofText? cs = some a) : IsCut a := by
  obtain ⟨behindScheme, behindHost, beforeFragment, hscheme, hhost, hfragment, hquery, hsound⟩ :=
    ofText?_eq_some_iff.mp h
  obtain ⟨hpath, hhash, tail, rfl, htail⟩ := exists_path hfragment hquery
  have hschemes := takeScheme_cases hscheme
  have hhosts := takeHost_cases hhost
  have hsuffix : behindScheme <:+ cleaned cs := by
    rcases hschemes with ⟨-, -, hsuffix⟩ | ⟨-, rfl, -⟩
    · exact hsuffix
    · exact List.suffix_refl _
  have hbehind : a.host ++ (a.path ++ tail) ⊆ behindScheme := by
    rcases hhosts with ⟨rfl, -, -⟩ | ⟨hnone, hsame⟩
    · exact List.subset_cons_of_subset _ (List.subset_cons_self _ _)
    · rw [hnone, hsame]
      exact List.Subset.refl _
  constructor
  case scheme =>
    rcases hschemes with ⟨hok, hlower, -⟩ | ⟨hnone, -, -⟩
    · exact .inr ⟨hok, hlower⟩
    · exact .inl hnone
  case host =>
    rcases hhosts with ⟨-, hall, -⟩ | ⟨hnone, -⟩
    · exact hall
    · rw [hnone]
      exact fun c hc => absurd hc List.not_mem_nil
  case sound => exact hsound
  case rooted =>
    intro hsome
    rcases hhosts with ⟨-, -, hends⟩ | ⟨hnone, -⟩
    · exact isRooted_of_ends hpath hends
    · exact absurd hnone hsome
  case path => exact hpath
  case query => exact hhash
  case kept =>
    intro c hc
    apply isKept_of_mem_cleaned
    apply hsuffix.subset
    apply hbehind
    simp only [List.mem_append] at hc ⊢
    rcases hc with ((hc | hc) | hc) | hc
    · exact .inl hc
    · exact .inr (.inl hc)
    · exact .inr (.inr (htail.1 hc))
    · exact .inr (.inr (htail.2 hc))
  case front =>
    intro hnone _
    rcases hschemes with ⟨⟨_, _, hcons, -, -⟩, -, -⟩ | ⟨-, hwhole, hno⟩
    · rw [hnone] at hcons
      cases hcons
    rcases hhosts with ⟨-, -, hends⟩ | ⟨-, hsame⟩
    · have hslash := isRooted_of_ends hpath hends
      refine ⟨hslash.not_hasScheme, fun c hc => ?_⟩
      rw [hslash c hc]
      decide
    · rw [hwhole] at hsame
      refine ⟨fun hhas => hno ?_, fun c hc => ?_⟩
      · rw [← hsame]
        exact hhas.append tail
      · have hhead : (cleaned cs).head? = some c := by
          rw [← hsame, List.head?_append, hc, Option.some_or]
        exact head_cleaned hhead

/-- Another query without hash signs, tabs and line ends changes nothing of this. -/
theorem IsCut.withQuery (h : a.IsCut) {query : List Char} (hhash : '#' ∉ query)
    (hkept : ∀ c ∈ query, isKept c = true) : IsCut { a with query } where
  scheme := h.scheme
  host := h.host
  sound := h.sound
  rooted := h.rooted
  path := h.path
  query := hhash
  kept := by
    intro c hc
    have hold := h.kept c
    simp only [List.mem_append] at hc hold
    rcases hc with ((hc | hc) | hc) | hc
    · exact hold (.inl (.inl (.inl hc)))
    · exact hold (.inl (.inl (.inr hc)))
    · exact hkept c hc
    · exact hold (.inr hc)
  front := h.front

/-! ## The text of an address -/

/-- Whether two slashes are written in front of the host, which may be empty. -/
def isHosted (a : Address) : Bool :=
  !a.host.isEmpty || "//".toList.isPrefixOf a.path ||
    (!a.scheme.isEmpty && hostSchemes.contains (String.ofList a.scheme))

/-- The path as it is written: behind a host it begins with a slash. -/
def writtenPath (a : Address) : List Char :=
  if a.isHosted && !a.path.isEmpty && a.path.head? != some '/' then '/' :: a.path else a.path

/-- The scheme as it is written. -/
def writtenScheme (a : Address) : List Char := if a.scheme.isEmpty then [] else a.scheme ++ [':']

/-- What stands behind the scheme and the host in the text of an address. -/
def writtenBehind (a : Address) : List Char :=
  a.writtenPath ++ (marked '?' a.query ++ marked '#' a.fragment)

/-- What stands behind the scheme in the text of an address. -/
def writtenRest (a : Address) : List Char :=
  if a.isHosted then '/' :: '/' :: (a.host ++ a.writtenBehind) else a.writtenBehind

theorem text_eq (a : Address) : a.text = a.writtenScheme ++ a.writtenRest := by
  have hpath : (if a.path.isEmpty || a.path.head? == some '/' then a.path else '/' :: a.path) =
      if !a.path.isEmpty && a.path.head? != some '/' then '/' :: a.path else a.path := by
    cases a.path with
    | nil => rfl
    | cons c rest =>
      rw [List.isEmpty_cons, List.head?_cons, Bool.false_or, Bool.not_false, Bool.true_and, bne]
      cases some c == some '/' <;> rfl
  have htext : a.text =
      let rest := if a.isHosted then '/' :: '/' :: a.host ++
          (if a.path.isEmpty || a.path.head? == some '/' then a.path else '/' :: a.path)
        else a.path
      let rest := if a.scheme.isEmpty then rest else a.scheme ++ ':' :: rest
      let rest := if a.query.isEmpty then rest else rest ++ '?' :: a.query
      if a.fragment.isEmpty then rest else rest ++ '#' :: a.fragment := rfl
  rw [htext, hpath]
  unfold writtenScheme writtenRest writtenBehind writtenPath marked
  cases a.isHosted <;> cases a.scheme.isEmpty <;> cases a.query.isEmpty <;>
    cases a.fragment.isEmpty <;> simp

theorem head_marked {part : List Char} (h : (marked mark part).head? = some c) : c = mark := by
  unfold marked at h
  split at h
  · cases h
  · exact (Option.some.inj h).symm

theorem mem_marked {part : List Char} (h : c ∈ marked mark part) : c = mark ∨ c ∈ part := by
  unfold marked at h
  split at h
  · cases h
  · exact List.mem_cons.mp h

/-- What follows the path begins with one of the two marks that end it. -/
theorem head_tail (h : (marked '?' a.query ++ marked '#' a.fragment).head? = some c) :
    c = '?' ∨ c = '#' := by
  rw [List.head?_append, Option.or_eq_some_iff] at h
  rcases h with h | ⟨-, h⟩
  · exact .inl (head_marked h)
  · exact .inr (head_marked h)

theorem IsCut.mem_writtenPath (h : a.IsCut) (hc : c ∈ a.writtenPath) :
    (c ≠ '?' ∧ c ≠ '#') ∧ isKept c = true := by
  have hpath (hmem : c ∈ a.path) : (c ≠ '?' ∧ c ≠ '#') ∧ isKept c = true :=
    ⟨h.path c hmem, h.kept c (by simp [hmem])⟩
  unfold writtenPath at hc
  split at hc
  · rcases List.mem_cons.mp hc with rfl | hmem
    · decide
    · exact hpath hmem
  · exact hpath hc

/-- Behind a host, the path is written with a slash in front, or it is empty. -/
theorem isRooted_writtenPath (hhosted : a.isHosted = true) : IsRooted a.writtenPath := by
  unfold writtenPath
  rw [hhosted, Bool.true_and]
  intro c hc
  split at hc
  · exact (Option.some.inj hc).symm
  · next hslash =>
    rw [Bool.and_eq_true, not_and_or, Bool.not_eq_true', bne_iff_ne, ne_eq, not_not] at hslash
    rcases hslash with hempty | hslash
    · rw [Bool.not_eq_false, List.isEmpty_iff] at hempty
      rw [hempty] at hc
      cases hc
    · rw [hslash] at hc
      exact (Option.some.inj hc).symm

/-- The tail of an address holds no tabs and line ends. -/
theorem IsCut.kept_writtenBehind (h : a.IsCut) (hc : c ∈ a.writtenBehind) : isKept c = true := by
  rcases List.mem_append.mp hc with hc | hc
  · exact (h.mem_writtenPath hc).2
  · rcases List.mem_append.mp hc with hc | hc
    · rcases mem_marked hc with rfl | hc
      · decide
      · exact h.kept c (by simp [hc])
    · rcases mem_marked hc with rfl | hc
      · decide
      · exact h.kept c (by simp [hc])

theorem IsCut.kept_writtenRest (h : a.IsCut) (hc : c ∈ a.writtenRest) : isKept c = true := by
  unfold writtenRest at hc
  split at hc
  · rcases List.mem_cons.mp hc with rfl | hc
    · decide
    rcases List.mem_cons.mp hc with rfl | hc
    · decide
    rcases List.mem_append.mp hc with hc | hc
    · exact h.kept c (by simp [hc])
    · exact h.kept_writtenBehind hc
  · exact h.kept_writtenBehind hc

/-- Without two slashes in front of it, what is written behind the scheme begins with the path. -/
theorem writtenRest_of_not_isHosted (h : a.isHosted = false) :
    a.writtenRest = a.path ++ (marked '?' a.query ++ marked '#' a.fragment) ∧ a.host = [] ∧
      ¬['/', '/'] <+: a.path := by
  have hparts := h
  simp only [isHosted, Bool.or_eq_false_iff, Bool.not_eq_false', List.isEmpty_iff] at hparts
  refine ⟨?_, hparts.1.1, fun hprefix => ?_⟩
  · rw [writtenRest, h, if_neg Bool.false_ne_true, writtenBehind, writtenPath, h, Bool.false_and,
      Bool.false_and, if_neg Bool.false_ne_true]
  · have hslashes : "//".toList.isPrefixOf a.path = true :=
      List.isPrefixOf_iff_prefix.mpr hprefix
    rw [hslashes] at hparts
    cases hparts.1.2

/-! ## Reading the text of an address -/

/-- The scheme is found again. -/
theorem IsCut.takeScheme_text (h : a.IsCut) :
    takeScheme (a.writtenScheme ++ a.writtenRest) = (a.scheme, a.writtenRest) := by
  unfold writtenScheme
  rcases h.scheme with hnone | ⟨hscheme, hlower⟩
  · rw [hnone, List.isEmpty_nil, if_pos rfl, List.nil_append]
    apply takeScheme_of_not
    cases hhosted : a.isHosted with
    | true =>
      have hslash : IsRooted a.writtenRest := by
        rw [writtenRest, hhosted, if_pos rfl]
        intro c hc
        exact (Option.some.inj hc).symm
      exact hslash.not_hasScheme
    | false =>
      obtain ⟨hrest, hhostless, -⟩ := writtenRest_of_not_isHosted hhosted
      rw [hrest]
      apply not_hasScheme_append (h.front hnone hhostless).1
      intro c hc
      rcases head_tail hc with rfl | rfl
      · decide
      · decide
  · have hfull : a.scheme.isEmpty = false := by
      obtain ⟨first, more, hcons, -, -⟩ := hscheme
      rw [hcons]
      rfl
    rw [hfull, if_neg Bool.false_ne_true, List.append_assoc, List.singleton_append,
      takeScheme_of_isScheme hscheme, hlower]

/-- The host is found again. -/
theorem IsCut.takeHost_text (h : a.IsCut) :
    takeHost a.writtenRest = (a.host, a.writtenBehind) := by
  cases hhosted : a.isHosted with
  | true =>
    rw [writtenRest, hhosted, if_pos rfl]
    apply takeHost_append h.host
    intro c hc
    rw [writtenBehind, List.head?_append, Option.or_eq_some_iff] at hc
    rcases hc with hc | ⟨-, hc⟩
    · rw [isRooted_writtenPath hhosted c hc]
      rfl
    · rcases head_tail hc with rfl | rfl
      · rfl
      · rfl
  | false =>
    obtain ⟨hrest, hhostless, hslashes⟩ := writtenRest_of_not_isHosted hhosted
    have hbehind : a.writtenRest = a.writtenBehind := by
      rw [writtenRest, hhosted, if_neg Bool.false_ne_true]
    rw [← hbehind, hhostless]
    apply takeHost_of_not
    rw [hrest]
    rintro ⟨more, happend⟩
    rcases List.append_eq_append_iff.mp happend with ⟨front, hpath, -⟩ | ⟨front, hpath, htail⟩
    · exact hslashes ⟨front, hpath.symm⟩
    · cases front with
      | nil =>
        rw [List.append_nil] at hpath
        rw [← hpath] at hslashes
        exact hslashes (List.prefix_refl _)
      | cons c others =>
        have hc : c ∈ ['/', '/'] := by
          rw [hpath]
          simp
        rcases head_tail (by rw [htail]; rfl) with rfl | rfl
        · exact absurd hc (by decide)
        · exact absurd hc (by decide)

/-- The text of an address does not begin with a blank: without a scheme it begins with a slash, the
    path or a mark. -/
theorem IsCut.head_text (h : a.IsCut) (hc : (a.writtenScheme ++ a.writtenRest).head? = some c) :
    0x20 < c.toNat := by
  rw [List.head?_append, Option.or_eq_some_iff] at hc
  unfold writtenScheme at hc
  rcases h.scheme with hnone | ⟨⟨first, more, hcons, -, hall⟩, -⟩
  · rw [hnone, List.isEmpty_nil, if_pos rfl] at hc
    rcases hc with hc | ⟨-, hc⟩
    · cases hc
    cases hhosted : a.isHosted with
    | true =>
      rw [writtenRest, hhosted, if_pos rfl] at hc
      rw [← Option.some.inj hc]
      decide
    | false =>
      obtain ⟨hrest, hhostless, -⟩ := writtenRest_of_not_isHosted hhosted
      rw [hrest, List.head?_append, Option.or_eq_some_iff] at hc
      rcases hc with hc | ⟨-, hc⟩
      · exact (h.front hnone hhostless).2 c hc
      · rcases head_tail hc with rfl | rfl
        · decide
        · decide
  · have hfirst := isSchemeChar_lt (hall first (by rw [hcons]; exact List.mem_cons_self))
    rw [hcons, List.isEmpty_cons, if_neg Bool.false_ne_true] at hc
    rcases hc with hc | ⟨hc, -⟩
    · rw [← Option.some.inj hc]
      exact hfirst.1
    · cases hc

theorem IsCut.kept_writtenScheme (h : a.IsCut) (hc : c ∈ a.writtenScheme) : isKept c = true := by
  unfold writtenScheme at hc
  split at hc
  · cases hc
  · rcases List.mem_append.mp hc with hc | hc
    · rcases h.scheme with hnone | ⟨⟨_, _, -, -, hall⟩, -⟩
      · rw [hnone] at hc
        cases hc
      · exact isKept_of_lt (isSchemeChar_lt (hall c hc)).1
    · rw [List.mem_singleton.mp hc]
      decide

/-- Nothing is taken off the text of an address. -/
theorem IsCut.cleaned_text (h : a.IsCut) : cleaned a.text = a.text := by
  rw [text_eq]
  apply cleaned_of_clean
  · intro c hc
    exact h.head_text hc
  · intro c hc
    rcases List.mem_append.mp hc with hc | hc
    · exact h.kept_writtenScheme hc
    · exact h.kept_writtenRest hc

/-- The parts of an address are found again in its text. The path is found as it was written. -/
theorem IsCut.ofText?_text (h : a.IsCut) :
    ofText? a.text = some { a with path := a.writtenPath } := by
  have hmark : '?' ∉ a.writtenPath := fun hc => (h.mem_writtenPath hc).1.1 rfl
  have hhash : '#' ∉ a.writtenPath ++ marked '?' a.query := by
    rw [List.mem_append, not_or]
    refine ⟨fun hc => (h.mem_writtenPath hc).1.2 rfl, fun hc => ?_⟩
    rcases mem_marked hc with hc | hc
    · exact absurd hc (by decide)
    · exact h.query hc
  rw [ofText?_eq_some_iff]
  refine ⟨a.writtenRest, a.writtenBehind, a.writtenPath ++ marked '?' a.query, ?_,
    h.takeHost_text, ?_, cut_marked hmark a.query, h.sound⟩
  · rw [h.cleaned_text, text_eq]
    exact h.takeScheme_text
  · rw [writtenBehind, ← List.append_assoc]
    exact cut_marked hhash a.fragment

end ChatWarden.Url.Address
