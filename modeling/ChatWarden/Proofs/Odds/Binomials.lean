import ChatWarden.Odds
import Mathlib.Algebra.BigOperators.Intervals
import Mathlib.Data.Nat.Choose.Basic

/-!
# Binomials in a row

The rows of binomials are filled from left to right, each number from the one before, and the
favourable hands are counted along two slices of such rows, one of them read backwards.

Results:
* `binomials_eq`, `slice_binomials`: the rows and their slices hold the binomial coefficients.
* `hands_eq`: the number of all hands is a binomial coefficient.
* `favourable_eq_sum`: the favourable hands are counted by a sum of products of two binomial
  coefficients, over the numbers of marked cards from the lowest to the highest.
-/

namespace ChatWarden.Odds

variable {deck successes draws needed n k count first last low high : ℕ}

/-- Each number of the row follows from the one before. -/
theorem choose_succ_eq : n.choose k * (n - k) / (k + 1) = n.choose (k + 1) :=
  Nat.div_eq_of_eq_mul_left k.succ_pos (n.choose_succ_right_eq k).symm

theorem binomialsFrom_eq :
    binomialsFrom n count k (n.choose k) = (List.range' k count).map n.choose := by
  induction count generalizing k with
  | zero => rfl
  | succ count ih => rw [binomialsFrom, choose_succ_eq, ih, List.range'_succ, List.map_cons]

theorem binomials_eq : binomials n = (List.range' 0 (n + 1)).map n.choose := by
  rw [binomials, ← binomialsFrom_eq, Nat.choose_zero_right]

theorem choose_eq : choose n k = n.choose k := by
  rw [choose, binomials_eq, List.getD_eq_getElem?_getD, List.getElem?_map]
  by_cases hk : k < n + 1
  · rw [List.getElem?_range' hk]
    simp
  · rw [List.getElem?_eq_none (by simpa using hk), Nat.choose_eq_zero_of_lt (by omega)]
    rfl

/-- The number of all hands is a binomial coefficient. -/
theorem hands_eq : hands deck draws = deck.choose draws := choose_eq

theorem slice_binomials (hlast : last ≤ n) :
    slice (binomials n) first last = (List.range' first (last + 1 - first)).map n.choose := by
  rw [slice, binomials_eq, ← List.map_drop, ← List.map_take, List.drop_range',
    List.take_range'_of_length_ge (by omega)]
  simp

/-- Read backwards, the numbers of other cards in a hand belong to the numbers of marked ones. -/
theorem reverse_range' (hlow : low ≤ high) (hhigh : high ≤ draws) :
    (List.range' (draws - high) (draws - low + 1 - (draws - high))).reverse =
      (List.range' low (high + 1 - low)).map (draws - ·) := by
  have hcount : draws - low + 1 - (draws - high) = high + 1 - low := by omega
  rw [hcount, List.reverse_range', List.range'_eq_map_range, List.map_map]
  refine List.map_congr_left fun i hi => ?_
  have hlt : i < high + 1 - low := List.mem_range.mp hi
  simp only [Function.comp_apply]
  omega

/-- The favourable hands are counted for each number of marked cards from the lowest through the
    highest: the ways to choose these times the ways to choose the others. -/
theorem favourable_eq_sum :
    favourable deck successes draws needed =
      ∑ i ∈ Finset.Icc (lowest deck successes draws needed) (highest successes draws),
        successes.choose i * (deck - successes).choose (draws - i) := by
  rw [favourable]
  dsimp only
  split
  · next hempty => rw [Finset.Icc_eq_empty_of_lt hempty, Finset.sum_empty]
  next hlow =>
  obtain ⟨hsuccesses, hdraws⟩ : highest successes draws ≤ successes ∧
      highest successes draws ≤ draws := le_min_iff.mp le_rfl
  have hothers : draws - lowest deck successes draws needed ≤ deck - successes := by
    have hleft : draws - (deck - successes) ≤ lowest deck successes draws needed :=
      le_max_right ..
    omega
  rw [slice_binomials hsuccesses, slice_binomials hothers, ← List.map_reverse,
    reverse_range' (not_lt.mp hlow) hdraws, List.map_map, List.zipWith_map, List.zipWith_self]
  rfl

end ChatWarden.Odds
