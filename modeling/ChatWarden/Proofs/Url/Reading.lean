import ChatWarden.Proofs.Chat.Arguments
import ChatWarden.Proofs.Text.Splitting
import ChatWarden.Proofs.Url.Percent
import ChatWarden.Rehearsal.Reading

/-!
# Reading addresses

An address ends at its first hash sign, and its path at the first question mark in front of that.
The client of a rehearsal keeps all laws that can be relied on: it cuts addresses there, carries out
the dot segments of the path, and writes escapes that stand for what was escaped.

Results:
* `Spelling.target_of_mark`: an address cut at its first question mark.
* `Spelling.fragment_ne_none`: an address with a hash sign has a fragment.
* `reading_isLawful`: the client of a rehearsal keeps the laws.
-/

namespace ChatWarden

namespace Url

variable {spelling : Spelling} {host rest front back : List Char}

/-- An address without a hash sign is cut at its first question mark. -/
theorem Spelling.target_of_mark (hhash : '#' ∉ front ++ '?' :: back) (hmark : '?' ∉ front) :
    spelling.target host (front ++ '?' :: back) = {
      host
      path := spelling.escapedPath (spelling.resolved front)
      query := some (spelling.escapedQuery back)
      fragment := none } := by
  unfold Spelling.target
  rw [Text.cutAt?_eq_none_iff.mpr hhash]
  dsimp only
  rw [Text.cutAt?_append hmark]
  rfl

/-- What stands behind a hash sign becomes a fragment. -/
theorem Spelling.fragment_ne_none (hhash : '#' ∈ rest) :
    (spelling.target host rest).fragment ≠ none := by
  obtain ⟨front, back, -, -, hcut⟩ := Text.exists_cutAt? hhash
  unfold Spelling.target
  rw [hcut]
  exact Option.some_ne_none _

/-- Whether a text holds a control character can be asked of all its characters at once. -/
theorem not_isControl_of_all {text : String} (h : text.toList.all (!isControl ·) = true) :
    ∀ c ∈ text.toList, isControl c = false := by
  intro c hc
  simpa using List.all_eq_true.mp h c hc

end Url

namespace Rehearsal

open Url (IsDots IsPlainHost secureAddress isAscii isControl isVisible)

variable {c : Char} {segment host path rest : List Char} {segments kept : List (List Char)}

/-! ## Dot segments -/

theorem resolveDots_cons (h : ¬IsDots segment) (kept rest : List (List Char)) :
    resolveDots kept (segment :: rest) = resolveDots (segment :: kept) rest := by
  obtain ⟨hone, htwo⟩ := not_or.mp h
  rw [resolveDots, if_neg (by simpa using hone), if_neg (by simpa using htwo)]

/-- Without dot segments there is nothing to carry out. -/
theorem resolveDots_of_plain (h : ∀ segment ∈ segments, ¬IsDots segment) :
    resolveDots kept segments = kept.reverse ++ segments := by
  induction segments generalizing kept with
  | nil => rw [resolveDots, List.append_nil]
  | cons segment rest ih =>
    obtain ⟨hsegment, hrest⟩ := List.forall_mem_cons.mp h
    rw [resolveDots_cons hsegment, ih hrest, List.reverse_cons, List.append_assoc,
      List.singleton_append]

/-- What is kept are segments, and none of them is a dot segment. -/
theorem mem_resolveDots (h : segment ∈ resolveDots kept segments) :
    segment ∈ kept ∨ segment ∈ segments ∧ ¬IsDots segment := by
  induction segments generalizing kept with
  | nil => exact .inl (List.mem_reverse.mp h)
  | cons first rest ih =>
    have hlater {others : List (List Char)} (hsub : others ⊆ kept)
        (hmem : segment ∈ resolveDots others rest) :
        segment ∈ kept ∨ segment ∈ first :: rest ∧ ¬IsDots segment := by
      rcases ih hmem with hkept | ⟨hrest, hdots⟩
      · exact .inl (hsub hkept)
      · exact .inr ⟨List.mem_cons_of_mem _ hrest, hdots⟩
    by_cases hfirst : IsDots first
    · rw [resolveDots] at h
      split_ifs at h
      · exact hlater (List.Subset.refl kept) h
      · exact hlater (List.Subset.refl kept) h
      · exact hlater (List.drop_subset 1 kept) h
      · next hone htwo =>
        exact absurd hfirst (not_or.mpr ⟨by simpa using hone, by simpa using htwo⟩)
    · rw [resolveDots_cons hfirst] at h
      rcases ih h with hkept | ⟨hrest, hdots⟩
      · rcases List.mem_cons.mp hkept with rfl | hbefore
        · exact .inr ⟨List.mem_cons_self, hfirst⟩
        · exact .inl hbefore
      · exact .inr ⟨List.mem_cons_of_mem _ hrest, hdots⟩

/-! ## Paths -/

theorem resolved_of_plain (h : ∀ segment ∈ Text.splitAt '/' path, ¬IsDots segment) :
    spelling.resolved path = path := by
  rw [spelling]
  dsimp only
  rw [resolveDots_of_plain h, List.reverse_nil, List.nil_append, Text.joinWith_splitAt]

/-- No dot segments are left. -/
theorem plain_of_resolved : ∀ segment ∈ Text.splitAt '/' (spelling.resolved path),
    ¬IsDots segment := by
  intro segment hsegment
  rw [spelling] at hsegment
  dsimp only at hsegment
  by_cases hnone : resolveDots [] (Text.splitAt '/' path) = []
  · rw [hnone] at hsegment
    rw [List.mem_singleton.mp hsegment]
    decide
  · have hwhole : ∀ part ∈ resolveDots [] (Text.splitAt '/' path), '/' ∉ part := by
      intro part hpart
      rcases mem_resolveDots hpart with hkept | ⟨hmem, -⟩
      · cases hkept
      · exact Text.notMem_of_mem_splitAt hmem
    rw [Text.splitAt_joinWith hnone hwhole] at hsegment
    rcases mem_resolveDots hsegment with hkept | ⟨-, hdots⟩
    · cases hkept
    · exact hdots

theorem mem_of_resolved (h : c ∈ spelling.resolved path) : c = '/' ∨ c ∈ path := by
  rcases Text.mem_joinWith h with hmark | ⟨part, hpart, hc⟩
  · exact .inl (List.mem_singleton.mp hmark)
  · rcases mem_resolveDots hpart with hkept | ⟨hmem, -⟩
    · cases hkept
    · right
      rw [← Text.joinWith_splitAt '/' path]
      exact Text.mem_joinWith_of_mem hmem hc

theorem isAscii_of_pathSafe (h : pathSafe c = true) : isAscii c = true := by
  simp only [pathSafe, querySafe, isVisible, Bool.and_eq_true, decide_eq_true_eq] at h
  simp only [isAscii, decide_eq_true_eq]
  omega

/-! ## Secure addresses -/

theorem not_isControl_of_plainHost (h : IsPlainHost host) : ∀ c ∈ host, isControl c = false := by
  intro c hc
  rcases h.2 c hc with hlower | rfl
  · have hletter : (c.isUpper || c.isLower || c.isDigit) = true := by
      rw [hlower, Bool.or_true, Bool.true_or]
    have hrange := Text.toNat_of_isAlphanum hletter
    simp only [isControl, Bool.or_eq_false_iff, decide_eq_false_iff_not, beq_eq_false_iff_ne]
    omega
  · decide

theorem not_isPart_of_plainHost (h : IsPlainHost host) : ∀ c ∈ host, isPart c = false := by
  intro c hc
  rcases h.2 c hc with hlower | rfl
  · rw [Bool.eq_false_iff]
    intro hpart
    simp only [isPart, Bool.or_eq_true, beq_iff_eq] at hpart
    rcases hpart with (rfl | rfl) | rfl <;> exact absurd hlower (by decide)
  · decide

theorem secureTarget?_secureAddress (h : IsPlainHost host) :
    secureTarget? (secureAddress host ('/' :: rest)) =
      some (spelling.target host ('/' :: rest)) := by
  have hparts : ∀ c ∈ host, (!isPart c) = true := by simpa using not_isPart_of_plainHost h
  have hslash : ¬(!isPart '/') = true := by decide
  have hfront : "https://".toList.isPrefixOf (secureAddress host ('/' :: rest)) = true := by
    unfold secureAddress
    rw [List.isPrefixOf_iff_prefix, List.append_assoc]
    exact List.prefix_append _ _
  have hbehind : (secureAddress host ('/' :: rest)).drop "https://".length =
      host ++ '/' :: rest := by
    unfold secureAddress
    rw [List.append_assoc, ← String.length_toList, List.drop_left]
  unfold secureTarget?
  rw [if_pos hfront, hbehind]
  dsimp only
  rw [List.takeWhile_append_of_pos hparts, List.dropWhile_append_of_pos hparts,
    List.takeWhile_cons, List.dropWhile_cons, if_neg hslash, if_neg hslash, List.append_nil]

/-- The client of a rehearsal keeps all laws. -/
theorem reading_isLawful : reading.IsLawful where
  refuses h := if_pos (by simp [show maxAddress < _ from h])
  takes {host rest} hhost hrest hlen := by
    have hcontrol : ∀ c ∈ secureAddress host ('/' :: rest), isControl c = false := by
      unfold secureAddress
      rw [List.forall_mem_append, List.forall_mem_append, List.forall_mem_cons]
      exact ⟨⟨Url.not_isControl_of_all (by decide), not_isControl_of_plainHost hhost⟩, rfl, hrest⟩
    have hopen : ¬(maxAddress < (secureAddress host ('/' :: rest)).length ||
        (secureAddress host ('/' :: rest)).any isControl) = true := by
      simpa [List.any_eq_true, show _ ≤ maxAddress from hlen] using hcontrol
    rw [reading]
    dsimp only
    rw [if_neg hopen, secureTarget?_secureAddress hhost]
    rfl
  cuts hhost htarget := by
    rw [reading] at htarget
    dsimp only at htarget
    split at htarget
    · cases htarget
    · rw [secureTarget?_secureAddress hhost] at htarget
      exact (Option.some.inj htarget).symm
  resolved_of_plain := resolved_of_plain
  plain_of_resolved := plain_of_resolved
  mem_of_resolved := mem_of_resolved
  decode_escapedPath h := Url.decode_encodeOutside (fun _ => isAscii_of_pathSafe) fun c hmem _ => by
    rintro rfl
    exact h hmem

end Rehearsal

end ChatWarden
