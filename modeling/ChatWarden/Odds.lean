import ChatWarden.Decimal.Rounding

/-!
# Odds of drawing cards

The chance to find at least a wanted number of marked cards in a hand drawn from a deck without
putting cards back, as an exact quotient of two counts of hands.

Results:
* `binomials n` lists the numbers of ways to choose 0, 1, …, n things from n.
* `favourable` counts the hands with enough marked cards, `hands` all hands.
-/

namespace ChatWarden.Odds

/-- The numbers of ways to choose `k`, …, `k + count - 1` things from `n`, of which the first is
    `value`. -/
def binomialsFrom (n : Nat) : (count k value : Nat) → List Nat
  | 0, _, _ => []
  | count + 1, k, value => value :: binomialsFrom n count (k + 1) (value * (n - k) / (k + 1))

/-- The numbers of ways to choose 0, 1, …, n things from n. -/
def binomials (n : Nat) : List Nat := binomialsFrom n (n + 1) 0 1

/-- The number of ways to choose `k` things from `n`. -/
def choose (n k : Nat) : Nat := (binomials n).getD k 0

/-- A slice of a list: the items from place `first` through place `last`. -/
def slice (list : List Nat) (first last : Nat) : List Nat :=
  (list.drop first).take (last + 1 - first)

/-- The least number of marked cards that counts: at least the wanted number, and all that are
    left when the other cards are used up. -/
def lowest (deck successes draws needed : Nat) : Nat := max needed (draws - (deck - successes))

/-- The greatest number of marked cards in a hand. -/
def highest (successes draws : Nat) : Nat := min successes draws

/-- The number of hands of `draws` cards with at least `needed` of the marked ones: for each
    possible number of marked cards, the ways to choose these times the ways to choose the
    others. -/
def favourable (deck successes draws needed : Nat) : Nat :=
  let low := lowest deck successes draws needed
  let high := highest successes draws
  if high < low then 0
  else
    let marked := slice (binomials successes) low high
    let others := (slice (binomials (deck - successes)) (draws - high) (draws - low)).reverse
    (List.zipWith (· * ·) marked others).foldr (· + ·) 0

/-- The number of all hands of `draws` cards. -/
def hands (deck draws : Nat) : Nat := choose deck draws

/-- The chance of at least `needed` marked cards as a quotient, capped at 1. It is 0 where no
    such hand can be drawn, also for numbers of cards that no deck has. -/
def chance (deck successes draws needed : Int) : Nat × Nat :=
  if deck < 0 || successes < 0 || draws < 0 || deck < successes || deck < draws then (0, 1)
  else
    let all := hands deck.toNat draws.toNat
    (min (favourable deck.toNat successes.toNat draws.toNat needed.toNat) all, all)

/-- The chance with a fixed number of places. -/
def chanceText (places : Nat) (deck successes draws needed : Int) : String :=
  let (num, den) := chance deck successes draws needed
  .ofList (Decimal.fixedPlaces places num den)

/-- The chance in percent with five places. It is rounded from the exact quotient; if the terms of the
    chance are added up in binary fractions, the last place may differ where that lies midway. -/
def percentText (deck successes draws needed : Int) : String :=
  let (num, den) := chance deck successes draws needed
  .ofList (Decimal.fixedPlaces 5 (num * 100) den)

end ChatWarden.Odds
