import ChatWarden.Command.OddsQuery
import ChatWarden.Proofs.Work.Ends

/-!
# Which questions are answered

The odds command reads four numbers and refuses those that describe no deck.

Results:
* `problem?_eq_none_iff`: which questions nothing is wrong with.
* `execute_ends`: the command refuses a question, or it answers one that nothing is wrong with.
* `execute_refusesOrAnswers`: the numbers of a question that is answered are those of a deck.
-/

namespace ChatWarden

namespace OddsQuery

variable {args sender : String} {path : List Exchange} {outcome : Except Failure Reply}

/-- What the command says to questions that it does not answer. -/
def refusals : List String :=
  [usage, "Error: Deck size can be at most " ++ toString maxDeck ++ " cards.",
    "Error: More successes or draws than cards in deck."]

/-- The command refuses what it was asked, or it answers with the odds of a deck. The numbers that
    are let through are those of a deck; the text of the answer reads the odds as exact quotients,
    as `Odds.percentText` does. -/
def RefusesOrAnswers (args : String) (outcome : Except Failure Reply) : Prop :=
  (∃ refusal ∈ refusals, outcome = .ok (.text refusal)) ∨
    ∃ deck successes draws needed : ℕ, successes ≤ deck ∧ draws ≤ deck ∧
      ofWords? (Text.words args.toList) = some ⟨deck, successes, draws, needed⟩ ∧
      outcome = .ok (.text (answer ⟨deck, successes, draws, needed⟩))

/-- Nothing is wrong with a question just if it is about a deck that is not too large. -/
theorem problem?_eq_none_iff {q : OddsQuery} :
    q.problem? = none ↔ (0 ≤ q.deck ∧ 0 ≤ q.successes ∧ 0 ≤ q.draws ∧ 0 ≤ q.needed) ∧
      q.deck ≤ maxDeck ∧ q.successes ≤ q.deck ∧ q.draws ≤ q.deck := by
  rw [problem?]
  simp only [Bool.or_eq_true, decide_eq_true_eq]
  constructor
  · intro h
    split_ifs at h
    omega
  · intro h
    rw [if_neg (by omega), if_neg (by omega), if_neg (by omega)]

/-- The command refuses a question, or it answers one that nothing is wrong with. -/
theorem execute_ends (h : (execute args sender).Ends path outcome) :
    (∃ refusal ∈ refusals, outcome = .ok (.text refusal)) ∨
      ∃ q, ofWords? (Text.words args.toList) = some q ∧ q.problem? = none ∧
        outcome = .ok (.text q.answer) := by
  have hnoted {message reply : String} {rest : List Exchange}
      (hrest : (do Job.note (record message); return reply : Job Reply).Ends rest outcome) :
      outcome = .ok (.text reply) := by
    obtain ⟨more, -, hmore⟩ := Job.ends_note_bind.mp hrest
    exact (Job.ends_pure.mp hmore).2
  rcases Job.ends_ite.mp h with ⟨-, husage⟩ | ⟨-, hasked⟩
  · exact .inl ⟨usage, by simp [refusals], (Job.ends_pure.mp husage).2⟩
  cases hwords : ofWords? (Text.words args.toList) with
  | none =>
    rw [hwords] at hasked
    exact .inl ⟨usage, by simp [refusals], hnoted hasked⟩
  | some q =>
    rw [hwords] at hasked
    dsimp only at hasked
    cases hproblem : q.problem? with
    | none =>
      rw [hproblem] at hasked
      exact .inr ⟨q, rfl, hproblem, (Job.ends_pure.mp hasked).2⟩
    | some problem =>
      rw [hproblem] at hasked
      refine .inl ?_
      cases problem with
      | negative => exact ⟨usage, by simp [refusals], (Job.ends_pure.mp hasked).2⟩
      | deckTooLarge => exact ⟨_, by simp [refusals], hnoted hasked⟩
      | moreThanDeck => exact ⟨_, by simp [refusals], (Job.ends_pure.mp hasked).2⟩

/-- The four numbers of a question that is answered are those of a deck. -/
theorem execute_refusesOrAnswers (h : (execute args sender).Ends path outcome) :
    RefusesOrAnswers args outcome := by
  refine (execute_ends h).imp_right ?_
  rintro ⟨⟨deck, successes, draws, needed⟩, hwords, hproblem, houtcome⟩
  obtain ⟨⟨hdeck, hsuccesses, hdraws, hneeded⟩, -, hmarked, hdrawn⟩ :=
    problem?_eq_none_iff.mp hproblem
  dsimp only at *
  lift deck to ℕ using hdeck
  lift successes to ℕ using hsuccesses
  lift draws to ℕ using hdraws
  lift needed to ℕ using hneeded
  exact ⟨deck, successes, draws, needed, by omega, by omega, hwords, houtcome⟩

end OddsQuery

end ChatWarden
