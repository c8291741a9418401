import ChatWarden.Proofs.Command.OddsQuery
import ChatWarden.Proofs.Odds.Hands
import Mathlib.Algebra.BigOperators.Field

/-!
# The odds are the true odds

The chance that is computed is the share of the hands with enough marked cards among all hands,
and the sum behind it has exactly the terms that count. The command computes the chance for decks
only.

Results:
* `TrueOdds`: what a computed chance tells about the hands of a deck.
* `trueOdds`: every deck gets such odds.
* `odds_count_hands`: so does every question that the command answers.
-/

namespace ChatWarden

namespace Odds

open Finset

variable {deck successes draws needed : ℕ}

/-- The numbers of marked cards over which the shares are added up. -/
def counts (deck successes draws needed : ℕ) : Finset ℕ :=
  Icc (lowest deck successes draws needed) (highest successes draws)

/-- The share of the hands with exactly `i` marked cards: the ways to choose these times the ways
    to choose the others, among all hands. -/
def share (deck successes draws i : ℕ) : ℚ :=
  successes.choose i * (deck - successes).choose (draws - i) / deck.choose draws

/-- What the chance of at least `needed` marked cards tells, where `draws` cards are drawn from
    `deck` cards of which `successes` are marked. -/
structure TrueOdds (deck successes draws needed : ℕ) : Prop where
  /-- It is the number of hands with enough marked cards, divided by that of all hands. -/
  counted : ∀ {α : Type} [DecidableEq α] (cards marked : Finset α), marked ⊆ cards →
    cards.card = deck → marked.card = successes →
      probability deck successes draws needed =
        #(goodHands cards marked draws needed) / #(cards.powersetCard draws)
  /-- It is the sum of the shares, capped at 1. -/
  added : probability deck successes draws needed =
    min (∑ i ∈ counts deck successes draws needed, share deck successes draws i) 1
  /-- The cap takes nothing off the sum. -/
  capped : ∑ i ∈ counts deck successes draws needed, share deck successes draws i ≤ 1
  /-- No share in the sum is about more cards than there are, or about fewer than none. -/
  inside : ∀ i ∈ counts deck successes draws needed, i ≤ successes ∧
    (0 : ℤ) ≤ (draws : ℤ) - i ∧ (draws : ℤ) - i ≤ (deck : ℤ) - successes
  /-- The sum leaves out no share that counts. -/
  whole : ∀ i ≤ draws, needed ≤ i → i ∉ counts deck successes draws needed →
    share deck successes draws i = 0
  /-- It is 0 just if more marked cards are wanted than a hand can hold. -/
  never : probability deck successes draws needed = 0 ↔ min successes draws < needed
  /-- It is 1 just if the other cards run out before too few marked ones are drawn. -/
  always : probability deck successes draws needed = 1 ↔
    (needed : ℤ) ≤ max 0 ((draws : ℤ) - ((deck : ℤ) - successes))

/-! ## Decks -/

/-- The chance is the sum of the shares. -/
theorem probability_eq_sum (hsuccesses : successes ≤ deck) (hdraws : draws ≤ deck) :
    probability deck successes draws needed =
      ∑ i ∈ counts deck successes draws needed, share deck successes draws i := by
  rw [probability_eq hsuccesses hdraws, Int.toNat_natCast, favourable_eq_sum, hands_eq]
  simp only [share, ← sum_div]
  push_cast
  rfl

theorem probability_le_one (hsuccesses : successes ≤ deck) (hdraws : draws ≤ deck) (needed : ℤ) :
    probability deck successes draws needed ≤ 1 := by
  rw [probability_eq hsuccesses hdraws]
  refine div_le_one_of_le₀ ?_ (Nat.cast_nonneg _)
  exact_mod_cast favourable_le_hands hsuccesses _

/-- The chance is 0 just if more marked cards are wanted than a hand can hold. -/
theorem probability_eq_zero_iff (hsuccesses : successes ≤ deck) (hdraws : draws ≤ deck) :
    probability deck successes draws needed = 0 ↔ min successes draws < needed := by
  have hhands : (hands deck draws : ℚ) ≠ 0 := by exact_mod_cast hands_ne_zero hdraws
  rw [probability_eq hsuccesses hdraws, div_eq_zero_iff, or_iff_left hhands, Nat.cast_eq_zero,
    Int.toNat_natCast]
  obtain ⟨cards, marked, hmarked, rfl, rfl⟩ := exists_cards hsuccesses
  rw [favourable_eq_card hmarked, card_eq_zero, goodHands_eq_empty_iff hmarked hdraws]

/-- The chance is 1 just if the other cards run out before too few marked ones are drawn. -/
theorem probability_eq_one_iff (hsuccesses : successes ≤ deck) (hdraws : draws ≤ deck) :
    probability deck successes draws needed = 1 ↔ needed ≤ draws - (deck - successes) := by
  have hhands : (hands deck draws : ℚ) ≠ 0 := by exact_mod_cast hands_ne_zero hdraws
  rw [probability_eq hsuccesses hdraws, div_eq_one_iff_eq hhands, Nat.cast_inj, Int.toNat_natCast]
  obtain ⟨cards, marked, hmarked, rfl, rfl⟩ := exists_cards hsuccesses
  rw [favourable_eq_card hmarked, hands_eq_card, ← goodHands_eq_hands_iff hmarked hdraws]
  constructor
  · intro hcard
    exact eq_of_subset_of_card_le (filter_subset ..) hcard.ge
  · exact congrArg card

/-- Every deck gets true odds. -/
theorem trueOdds (hsuccesses : successes ≤ deck) (hdraws : draws ≤ deck) :
    TrueOdds deck successes draws needed where
  counted cards marked hmarked hdeck hcount := by
    subst hdeck hcount
    exact probability_eq_card hmarked hdraws needed
  added := by
    rw [← probability_eq_sum hsuccesses hdraws,
      min_eq_left (probability_le_one hsuccesses hdraws needed)]
  capped := by
    rw [← probability_eq_sum hsuccesses hdraws]
    exact probability_le_one hsuccesses hdraws needed
  inside i hi := by
    obtain ⟨hlow, hhigh⟩ := mem_Icc.mp hi
    rw [lowest] at hlow
    rw [highest] at hhigh
    omega
  whole i hi hneeded hout := by
    rw [counts, mem_Icc, lowest, highest] at hout
    rw [share]
    rcases lt_or_ge successes i with hmany | hmarked
    · rw [Nat.choose_eq_zero_of_lt hmany, Nat.cast_zero, zero_mul, zero_div]
    · have hothers : deck - successes < draws - i := by omega
      rw [Nat.choose_eq_zero_of_lt hothers, Nat.cast_zero, mul_zero, zero_div]
  never := probability_eq_zero_iff hsuccesses hdraws
  always := by
    rw [probability_eq_one_iff hsuccesses hdraws]
    omega

end Odds

/-- The chance counts the hands with enough marked cards, for every deck, and the command computes
    it for decks only. -/
theorem odds_count_hands :
    (∀ deck successes draws needed : ℕ, successes ≤ deck → draws ≤ deck →
      Odds.TrueOdds deck successes draws needed) ∧
    ∀ (args sender : String) (path : List Exchange) (outcome : Except Failure Reply),
      (OddsQuery.execute args sender).Ends path outcome →
        OddsQuery.RefusesOrAnswers args outcome :=
  ⟨fun _ _ _ _ => Odds.trueOdds, fun _ _ _ _ => OddsQuery.execute_refusesOrAnswers⟩

/-- At least one of four marked cards, in seven from a deck of sixty. -/
theorem odds_count_hands_of_sixty :
    let q : OddsQuery := ⟨60, 4, 7, 1⟩
    (4 ≤ 60 ∧ 7 ≤ 60) ∧ Odds.TrueOdds 60 4 7 1 ∧
      Odds.probability 60 4 7 1 = 154289520 / 386206920 ∧
      (OddsQuery.execute "60 4 7 1" "viewer").Ends [] (.ok (.text q.answer)) ∧
      OddsQuery.RefusesOrAnswers "60 4 7 1" (.ok (.text q.answer)) := by
  intro q
  have hwords : OddsQuery.ofWords? (Text.words "60 4 7 1".toList) = some q := by decide +kernel
  have hends : (OddsQuery.execute "60 4 7 1" "viewer").Ends [] (.ok (.text q.answer)) := by
    refine Job.ends_ite.mpr (.inr ⟨by decide +kernel, ?_⟩)
    rw [hwords]
    exact Job.ends_pure.mpr ⟨rfl, rfl⟩
  have hchance : Odds.chance 60 4 7 1 = (154289520, 386206920) := by decide +kernel
  refine ⟨by decide, odds_count_hands.1 60 4 7 1 (by decide) (by decide), ?_, hends,
    odds_count_hands.2 _ _ _ _ hends⟩
  rw [Odds.probability, hchance]
  rfl

end ChatWarden
