import ChatWarden.Proofs.Odds.Binomials
import Mathlib.Algebra.Order.Field.Rat
import Mathlib.Data.Finset.Powerset
import Mathlib.Tactic.NormNum

/-!
# Hands of cards

A hand is a set of cards of a given size. Hands are told apart by how many of their cards are
marked, and counting them by that number is what the sum of products does.

Results:
* `card_hands_with`: the number of hands with exactly so many marked cards.
* `exists_hand_iff`: the numbers of marked cards that hands have.
* `favourable_eq_card`: the favourable hands are those with enough marked cards.
* `probability_eq_card`: the chance is the share of these among all hands.
-/

namespace ChatWarden.Odds

open Finset

/-! ## Counting hands -/

theorem hands_eq_card {α : Type} {cards : Finset α} {draws : ℕ} :
    hands cards.card draws = #(cards.powersetCard draws) := by
  rw [hands_eq, card_powersetCard]

/-- Where there are enough cards for a hand, the fewest marked cards that it must hold are no more
    than the most that it can hold. -/
theorem fewest_le_most {α : Type} {cards marked : Finset α} {draws : ℕ} (hmarked : marked ⊆ cards)
    (hdraws : draws ≤ cards.card) :
    draws - (cards.card - marked.card) ≤ min marked.card draws := by
  have hle : marked.card ≤ cards.card := card_le_card hmarked
  omega

section Hands

variable {α : Type} [DecidableEq α] {cards marked hand front back : Finset α}
variable {draws needed i : ℕ}

/-- The hands of `draws` cards in which at least `needed` cards are marked. -/
def goodHands (cards marked : Finset α) (draws needed : ℕ) : Finset (Finset α) :=
  {hand ∈ cards.powersetCard draws | needed ≤ #(hand ∩ marked)}

/-- Marked cards put together with others can be taken apart again. -/
theorem parts_of_union (hfront : front ⊆ marked) (hback : back ⊆ cards \ marked) :
    (front ∪ back) ∩ marked = front ∧ (front ∪ back) \ marked = back ∧
      #(front ∪ back) = front.card + back.card := by
  have hapart : Disjoint back marked := disjoint_of_subset_left hback sdiff_disjoint
  refine ⟨?_, ?_, card_union_of_disjoint (disjoint_of_subset_left hfront hapart.symm)⟩
  · rw [union_inter_distrib_right, inter_eq_left.mpr hfront, disjoint_iff_inter_eq_empty.mp hapart,
      union_empty]
  · rw [union_sdiff_distrib, sdiff_eq_empty_iff_subset.mpr hfront, sdiff_eq_self_of_disjoint hapart,
      empty_union]

/-- A hand with exactly `i` marked cards is made of `i` of the marked cards and of as many of the
    others as it has room for. -/
theorem card_hands_with (hmarked : marked ⊆ cards) (hi : i ≤ draws) :
    #{hand ∈ cards.powersetCard draws | #(hand ∩ marked) = i} =
      marked.card.choose i * (cards.card - marked.card).choose (draws - i) := by
  rw [← card_sdiff_of_subset hmarked, ← card_powersetCard, ← card_powersetCard, ← card_product]
  refine card_bij' (fun hand _ => (hand ∩ marked, hand \ marked))
    (fun parts _ => parts.1 ∪ parts.2) ?_ ?_ ?_ ?_
  · intro hand hhand
    obtain ⟨hhand, hcount⟩ := mem_filter.mp hhand
    obtain ⟨hcards, hdraws⟩ := mem_powersetCard.mp hhand
    have hothers : #(hand \ marked) = draws - i := by
      have hparts : #(hand ∩ marked) + #(hand \ marked) = hand.card := card_inter_add_card_sdiff ..
      omega
    exact mem_product.mpr ⟨mem_powersetCard.mpr ⟨inter_subset_right, hcount⟩,
      mem_powersetCard.mpr ⟨sdiff_subset_sdiff hcards subset_rfl, hothers⟩⟩
  · rintro ⟨front, back⟩ hparts
    obtain ⟨hfront, hback⟩ := mem_product.mp hparts
    obtain ⟨hfront, hcount⟩ := mem_powersetCard.mp hfront
    obtain ⟨hback, hothers⟩ := mem_powersetCard.mp hback
    obtain ⟨hunion, -, hcard⟩ := parts_of_union hfront hback
    refine mem_filter.mpr ⟨mem_powersetCard.mpr ⟨?_, ?_⟩, ?_⟩
    · exact union_subset (hfront.trans hmarked) (hback.trans sdiff_subset)
    · dsimp only at *
      omega
    · rw [hunion, hcount]
  · intro hand _
    rw [union_comm]
    exact sdiff_union_inter hand marked
  · rintro ⟨front, back⟩ hparts
    obtain ⟨hfront, hback⟩ := mem_product.mp hparts
    obtain ⟨hfirst, hsecond, -⟩ :=
      parts_of_union (mem_powersetCard.mp hfront).1 (mem_powersetCard.mp hback).1
    rw [Prod.mk.injEq]
    exact ⟨hfirst, hsecond⟩

/-- A hand holds at most all marked cards, and at most all the others. -/
theorem card_inter_bounds (hmarked : marked ⊆ cards) (hhand : hand ∈ cards.powersetCard draws) :
    draws - (cards.card - marked.card) ≤ #(hand ∩ marked) ∧
      #(hand ∩ marked) ≤ min marked.card draws := by
  obtain ⟨hcards, hdraws⟩ := mem_powersetCard.mp hhand
  have hparts : #(hand ∩ marked) + #(hand \ marked) = hand.card := card_inter_add_card_sdiff ..
  have hothers : #(hand \ marked) ≤ cards.card - marked.card := by
    rw [← card_sdiff_of_subset hmarked]
    exact card_le_card (sdiff_subset_sdiff hcards subset_rfl)
  have hfront : #(hand ∩ marked) ≤ marked.card := card_le_card inter_subset_right
  omega

/-- The numbers of marked cards that hands have. -/
theorem exists_hand_iff (hmarked : marked ⊆ cards) :
    (∃ hand ∈ cards.powersetCard draws, #(hand ∩ marked) = i) ↔
      draws - (cards.card - marked.card) ≤ i ∧ i ≤ min marked.card draws := by
  constructor
  · rintro ⟨hand, hhand, rfl⟩
    exact card_inter_bounds hmarked hhand
  · rintro ⟨hlow, hhigh⟩
    have hle : marked.card ≤ cards.card := card_le_card hmarked
    have hpos : 0 < #{hand ∈ cards.powersetCard draws | #(hand ∩ marked) = i} := by
      rw [card_hands_with hmarked (by omega)]
      exact Nat.mul_pos (Nat.choose_pos (by omega)) (Nat.choose_pos (by omega))
    obtain ⟨hand, hhand⟩ := card_pos.mp hpos
    exact ⟨hand, mem_filter.mp hhand⟩

/-- The favourable hands are those with enough marked cards. -/
theorem favourable_eq_card (hmarked : marked ⊆ cards) :
    favourable cards.card marked.card draws needed = #(goodHands cards marked draws needed) := by
  have hrange : ∀ hand ∈ goodHands cards marked draws needed, #(hand ∩ marked) ∈
      Icc (lowest cards.card marked.card draws needed) (highest marked.card draws) := by
    intro hand hgood
    obtain ⟨hhand, hneeded⟩ := mem_filter.mp hgood
    obtain ⟨hlow, hhigh⟩ := card_inter_bounds hmarked hhand
    exact mem_Icc.mpr ⟨max_le hneeded hlow, hhigh⟩
  rw [favourable_eq_sum, card_eq_sum_card_fiberwise hrange]
  refine sum_congr rfl fun i hi => ?_
  obtain ⟨hlow, hhigh⟩ := mem_Icc.mp hi
  have hneeded : needed ≤ i := (le_max_left ..).trans hlow
  have hdraws : i ≤ draws := hhigh.trans (min_le_right ..)
  rw [← card_hands_with hmarked hdraws, goodHands, filter_filter]
  -- a hand with `i` marked cards has enough of them
  refine congrArg card (filter_congr fun hand _ => ?_)
  constructor
  · exact fun hcount => ⟨hcount.symm ▸ hneeded, hcount⟩
  · exact And.right

/-- There is no favourable hand just if more marked cards are wanted than a hand can hold. -/
theorem goodHands_eq_empty_iff (hmarked : marked ⊆ cards) (hdraws : draws ≤ cards.card) :
    goodHands cards marked draws needed = ∅ ↔ min marked.card draws < needed := by
  rw [goodHands, filter_eq_empty_iff]
  constructor
  · intro hnone
    -- the hand with the most marked cards
    obtain ⟨hand, hhand, hcount⟩ :=
      (exists_hand_iff hmarked).mpr ⟨fewest_le_most hmarked hdraws, le_rfl⟩
    have hfew := hnone hhand
    omega
  · intro hmany hand hhand hneeded
    have hbounds := card_inter_bounds hmarked hhand
    omega

/-- All hands are favourable just if the other cards run out before too few marked ones are
    drawn. -/
theorem goodHands_eq_hands_iff (hmarked : marked ⊆ cards) (hdraws : draws ≤ cards.card) :
    goodHands cards marked draws needed = cards.powersetCard draws ↔
      needed ≤ draws - (cards.card - marked.card) := by
  rw [goodHands, filter_eq_self]
  constructor
  · intro hall
    -- the hand with the fewest marked cards
    obtain ⟨hand, hhand, hcount⟩ :=
      (exists_hand_iff hmarked).mpr ⟨le_rfl, fewest_le_most hmarked hdraws⟩
    have henough := hall hand hhand
    omega
  · intro hfew hand hhand
    exact hfew.trans (card_inter_bounds hmarked hhand).1

end Hands

/-- There are cards in any numbers. -/
theorem exists_cards {deck successes : ℕ} (hsuccesses : successes ≤ deck) :
    ∃ cards marked : Finset ℕ, marked ⊆ cards ∧ cards.card = deck ∧ marked.card = successes :=
  ⟨range deck, range successes, range_subset_range.mpr hsuccesses, card_range _, card_range _⟩

/-! ## The chance as a share -/

section Chance

variable {deck successes draws : ℕ}

/-- The chance of at least `needed` marked cards, as a rational number. -/
def probability (deck successes draws needed : ℤ) : ℚ :=
  (chance deck successes draws needed).1 / (chance deck successes draws needed).2

/-- There are no more favourable hands than hands, so the cap takes nothing off. -/
theorem favourable_le_hands (hsuccesses : successes ≤ deck) (needed : ℕ) :
    favourable deck successes draws needed ≤ hands deck draws := by
  obtain ⟨cards, marked, hmarked, rfl, rfl⟩ := exists_cards hsuccesses
  rw [favourable_eq_card hmarked, hands_eq_card]
  exact card_le_card (filter_subset ..)

theorem hands_ne_zero (hdraws : draws ≤ deck) : hands deck draws ≠ 0 := by
  rw [hands_eq]
  exact (Nat.choose_pos hdraws).ne'

theorem probability_eq (hsuccesses : successes ≤ deck) (hdraws : draws ≤ deck) (needed : ℤ) :
    probability deck successes draws needed =
      favourable deck successes draws needed.toNat / hands deck draws := by
  have hchance : chance deck successes draws needed =
      (favourable deck successes draws needed.toNat, hands deck draws) := by
    rw [chance, if_neg (by simp only [Bool.or_eq_true, decide_eq_true_eq]; omega)]
    dsimp only
    rw [Int.toNat_natCast, Int.toNat_natCast, Int.toNat_natCast,
      min_eq_left (favourable_le_hands hsuccesses _)]
  rw [probability, hchance]

/-- Numbers of cards that no deck has leave no chance. -/
theorem probability_eq_zero_of_not_deck {deck successes draws : ℤ} (needed : ℤ)
    (h : ¬ (0 ≤ successes ∧ 0 ≤ draws ∧ successes ≤ deck ∧ draws ≤ deck)) :
    probability deck successes draws needed = 0 := by
  rw [probability, chance, if_pos (by simp only [Bool.or_eq_true, decide_eq_true_eq]; omega)]
  simp

end Chance

variable {α : Type} [DecidableEq α] {cards marked : Finset α} {draws : ℕ}

/-- The chance is the share of the hands with enough marked cards among all hands. -/
theorem probability_eq_card (hmarked : marked ⊆ cards) (hdraws : draws ≤ cards.card) (needed : ℤ) :
    probability cards.card marked.card draws needed =
      #(goodHands cards marked draws needed.toNat) / #(cards.powersetCard draws) := by
  rw [probability_eq (card_le_card hmarked) hdraws, favourable_eq_card hmarked, hands_eq_card]

end ChatWarden.Odds
