import ChatWarden.Proofs.Odds.Hands
import Mathlib.Combinatorics.Enumerative.DoubleCounting

/-!
# Laws of the odds

Marking cards and drawing them are the same thing seen from two sides: a hand meets the marked
cards as the marked cards meet the hand. Counting all pairs of a hand and a marking in both orders
gives the symmetry of the odds, and with it what more draws do follows from what more marked cards
do.

Results:
* `favourable_mul_hands_comm`: the pairs of a hand and a marking that meet often enough, counted
  in both orders.
* `probability_comm`: marked cards and draws can be exchanged.
* `probability_monotone`: asking for more lowers the chance, marking or drawing more raises it.
-/

namespace ChatWarden.Odds

open Finset

section Counts

variable {deck successes draws needed more : ℕ}

/-- The pairs of a hand and a marking that meet often enough, counted in both orders. -/
theorem favourable_mul_hands_comm :
    hands deck draws * favourable deck draws successes needed =
      hands deck successes * favourable deck successes draws needed := by
  obtain ⟨cards, -, -, rfl, -⟩ := exists_cards deck.zero_le
  let meets (hand marked : Finset ℕ) : Prop := needed ≤ #(hand ∩ marked)
  rw [hands_eq_card, hands_eq_card]
  refine card_mul_eq_card_mul meets (fun hand hhand => ?_) fun marked hmarked => ?_
  · obtain ⟨hcards, hdraws⟩ := mem_powersetCard.mp hhand
    rw [← hdraws, favourable_eq_card hcards, goodHands, bipartiteAbove]
    simp only [meets, inter_comm hand]
  · obtain ⟨hcards, hsuccesses⟩ := mem_powersetCard.mp hmarked
    rw [← hsuccesses, favourable_eq_card hcards]
    rfl

/-- The more marked cards are wanted, the fewer hands are favourable. -/
theorem favourable_le_of_needed (h : needed ≤ more) (hsuccesses : successes ≤ deck) :
    favourable deck successes draws more ≤ favourable deck successes draws needed := by
  obtain ⟨cards, marked, hmarked, rfl, rfl⟩ := exists_cards hsuccesses
  rw [favourable_eq_card hmarked, favourable_eq_card hmarked]
  exact card_le_card (monotone_filter_right _ fun hand _ => h.trans)

/-- The more cards are marked, the more hands are favourable. -/
theorem favourable_le_of_successes (h : successes ≤ more) (hmore : more ≤ deck) :
    favourable deck successes draws needed ≤ favourable deck more draws needed := by
  obtain ⟨cards, marked, hmarked, rfl, rfl⟩ := exists_cards hmore
  obtain ⟨fewer, hfewer, rfl⟩ := exists_subset_card_eq h
  rw [favourable_eq_card hmarked, favourable_eq_card (hfewer.trans hmarked)]
  refine card_le_card (monotone_filter_right _ fun hand _ hneeded => ?_)
  exact hneeded.trans (card_le_card (inter_subset_inter_left hfewer))

end Counts

/-! ## Chances -/

section Decks

variable {deck successes draws : ℕ}

/-- The chance that a hand meets enough of the marked cards is the chance that the marked cards
    meet enough of the hand. -/
theorem probability_eq_markings (hsuccesses : successes ≤ deck) (hdraws : draws ≤ deck)
    (needed : ℤ) :
    probability deck successes draws needed =
      favourable deck draws successes needed.toNat / hands deck successes := by
  have hhands : (hands deck draws : ℚ) ≠ 0 := by exact_mod_cast hands_ne_zero hdraws
  have hmarkings : (hands deck successes : ℚ) ≠ 0 := by exact_mod_cast hands_ne_zero hsuccesses
  rw [probability_eq hsuccesses hdraws, div_eq_div_iff hhands hmarkings, mul_comm,
    mul_comm (favourable deck draws successes _ : ℚ)]
  exact_mod_cast favourable_mul_hands_comm.symm

end Decks

variable {deck successes draws needed more : ℤ}

theorem probability_nonneg : 0 ≤ probability deck successes draws needed :=
  div_nonneg (Nat.cast_nonneg _) (Nat.cast_nonneg _)

/-- Numbers of cards that belong to no deck leave no chance; all others are natural numbers. -/
theorem deck_cases (deck successes draws : ℤ) :
    (∀ needed, probability deck successes draws needed = 0 ∧
        probability deck draws successes needed = 0) ∨
      ∃ d s n : ℕ, deck = d ∧ successes = s ∧ draws = n ∧ s ≤ d ∧ n ≤ d := by
  by_cases h : 0 ≤ successes ∧ 0 ≤ draws ∧ successes ≤ deck ∧ draws ≤ deck
  · obtain ⟨hs, hn, hsuccesses, hdraws⟩ := h
    lift successes to ℕ using hs
    lift draws to ℕ using hn
    lift deck to ℕ using (by omega)
    exact .inr ⟨deck, successes, draws, rfl, rfl, rfl, by omega, by omega⟩
  · exact .inl fun needed => ⟨probability_eq_zero_of_not_deck needed h,
      probability_eq_zero_of_not_deck needed (by omega)⟩

/-- The more marked cards are wanted, the lower the chance. -/
theorem probability_le_of_needed (h : needed ≤ more) :
    probability deck successes draws more ≤ probability deck successes draws needed := by
  rcases deck_cases deck successes draws with hzero | ⟨d, s, n, rfl, rfl, rfl, hs, hn⟩
  · rw [(hzero more).1, (hzero needed).1]
  · rw [probability_eq hs hn, probability_eq hs hn]
    refine div_le_div_of_nonneg_right ?_ (Nat.cast_nonneg _)
    exact_mod_cast favourable_le_of_needed (Int.toNat_le_toNat h) hs

/-- The more cards are marked, the higher the chance. -/
theorem probability_le_of_successes (h : successes ≤ more) (hmore : more ≤ deck) :
    probability deck successes draws needed ≤ probability deck more draws needed := by
  rcases deck_cases deck successes draws with hzero | ⟨d, s, n, rfl, rfl, rfl, hs, hn⟩
  · rw [(hzero needed).1]
    exact probability_nonneg
  · lift more to ℕ using (by omega)
    have hm : more ≤ d := by omega
    rw [probability_eq hs hn, probability_eq hm hn]
    refine div_le_div_of_nonneg_right ?_ (Nat.cast_nonneg _)
    exact_mod_cast favourable_le_of_successes (by omega) hm

/-- The more cards are drawn, the higher the chance: the number of hands changes, but that of
    markings does not. -/
theorem probability_le_of_draws (h : draws ≤ more) (hmore : more ≤ deck) :
    probability deck successes draws needed ≤ probability deck successes more needed := by
  rcases deck_cases deck successes draws with hzero | ⟨d, s, n, rfl, rfl, rfl, hs, hn⟩
  · rw [(hzero needed).1]
    exact probability_nonneg
  · lift more to ℕ using (by omega)
    have hm : more ≤ d := by omega
    rw [probability_eq_markings hs hn, probability_eq_markings hs hm]
    refine div_le_div_of_nonneg_right ?_ (Nat.cast_nonneg _)
    exact_mod_cast favourable_le_of_successes (by omega) hm

/-- One more wanted card never raises the chance; one more marked card and one more drawn card
    never lower it. -/
theorem probability_monotone (deck successes draws needed : ℤ) :
    probability deck successes draws (needed + 1) ≤ probability deck successes draws needed ∧
      (successes + 1 ≤ deck →
        probability deck successes draws needed ≤
          probability deck (successes + 1) draws needed) ∧
      (draws + 1 ≤ deck →
        probability deck successes draws needed ≤
          probability deck successes (draws + 1) needed) := by
  refine ⟨probability_le_of_needed ?_, probability_le_of_successes ?_, probability_le_of_draws ?_⟩
  all_goals omega

/-- Six of ten cards, of which four are marked: with one more marked or drawn, every hand has a
    marked card. -/
theorem probability_monotone_of_ten :
    (4 + 1 ≤ 10 ∧ 6 + 1 ≤ 10) ∧ probability 10 4 6 (1 + 1) ≤ probability 10 4 6 1 ∧
      probability 10 4 6 1 ≤ probability 10 (4 + 1) 6 1 ∧
      probability 10 4 6 1 ≤ probability 10 4 (6 + 1) 1 :=
  have h := probability_monotone 10 4 6 1
  ⟨by decide, h.1, h.2.1 (by decide), h.2.2 (by decide)⟩

/-- Marked cards and drawn cards can be exchanged. -/
theorem probability_comm (deck successes draws needed : ℤ) :
    probability deck successes draws needed = probability deck draws successes needed := by
  rcases deck_cases deck successes draws with hzero | ⟨d, s, n, rfl, rfl, rfl, hs, hn⟩
  · rw [(hzero needed).1, (hzero needed).2]
  · rw [probability_eq_markings hs hn, probability_eq hn hs]

end ChatWarden.Odds
