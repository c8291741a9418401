import ChatWarden.Proofs.Supervision.Life
import Mathlib.Algebra.BigOperators.Group.Finset.Piecewise
import Mathlib.Logic.Relation

/-!
# The ledger of the supervisor

The standing of every task, the number of free slots and the failures that were counted and written
down. In an entry of the ledger one task gets on by a step; the slot that it takes or gives back is
one that was or comes free, and a failure that the supervisor learns of is counted and written down.

Results:
* `Ledger.Step.sound` and `Ledger.Steps.sound`: entries keep the books in order.
* `Ledger.Steps.leads`: what no entry undoes.
-/

namespace ChatWarden.Supervision

/-- What the accounts of the supervisor are about. -/
structure Ledger where
  free : Nat
  size : Nat
  failures : Nat
  errors : Nat
  standing : TaskId → Standing

namespace Supervisor

/-- The number of failures that were written down. -/
def errors (s : Supervisor) : Nat := s.records.countP (·.level == .error)

/-- The ledger of a supervisor. -/
def ledger (s : Supervisor) : Ledger :=
  ⟨s.free, s.tasks.length, s.failures, s.errors, s.standing⟩

end Supervisor

namespace Ledger

variable {l l' : Ledger}

/-- The sum of an amount over all tasks. -/
def total (l : Ledger) (amount : Standing → Nat) : Nat :=
  ∑ id ∈ Finset.range l.size, amount (l.standing id)

/-- An entry: a task gets on by a step. -/
structure Step (id : TaskId) (l l' : Ledger) : Prop where
  step : (l.standing id).Step (l'.standing id)
  others : ∀ other, other ≠ id → l'.standing other = l.standing other
  size : l'.size = max l.size (id + 1)
  free : l'.free + (l'.standing id).slots = l.free + (l.standing id).slots
  failures : l'.failures + (l.standing id).losses = l.failures + (l'.standing id).losses
  errors : l'.errors + (l.standing id).losses = l.errors + (l'.standing id).losses

/-- Entries, one after the other. -/
def Steps : Ledger → Ledger → Prop := Relation.ReflTransGen fun l l' => ∃ id, Step id l l'

/-- The books are in order: every task stands as it should in its phase, no slot is lost or given
    twice, and every failure that the supervisor learned of was counted and written down. -/
structure Sound (slots : Nat) (l : Ledger) : Prop where
  fits : ∀ id, (l.standing id).Fits
  unborn : ∀ id, l.size ≤ id → l.standing id = {}
  free : l.free + l.total Standing.slots = slots
  failures : l.failures = l.total Standing.losses
  errors : l.errors = l.total Standing.losses

/-- Of an amount that a task without a standing has none of, an entry changes the total by what it
    changes for the task. -/
theorem Step.balance {id : TaskId} (h : Step id l l')
    (hunborn : ∀ id, l.size ≤ id → l.standing id = {}) (amount : Standing → Nat)
    (hamount : amount {} = 0) :
    l'.total amount + amount (l.standing id) = l.total amount + amount (l'.standing id) := by
  have hid : id ∈ Finset.range l'.size := by simp [h.size]
  have hrest : ∑ other ∈ Finset.range l'.size \ {id}, amount (l'.standing other) =
      ∑ other ∈ Finset.range l'.size \ {id}, amount (l.standing other) :=
    Finset.sum_congr rfl fun other hother => by
      rw [h.others other fun heq => (Finset.mem_sdiff.mp hother).2 (Finset.mem_singleton.mpr heq)]
  -- A task that comes with the entry had no standing before, so it may be counted there as well.
  have hgrown : l.total amount = ∑ other ∈ Finset.range l'.size, amount (l.standing other) := by
    refine Finset.sum_subset (by simp [h.size]) fun other _ hother => ?_
    rw [hunborn other (by simpa using hother), hamount]
  have hsplit := fun f : TaskId → Nat => Finset.sum_eq_add_sum_sdiff_singleton_of_mem hid f
  rw [hgrown, total, hsplit, hsplit fun other => amount (l.standing other), hrest]
  ac_rfl

theorem Step.sound {slots : Nat} {id : TaskId} (h : Step id l l') (hsound : l.Sound slots) :
    l'.Sound slots where
  fits other := by
    rcases eq_or_ne other id with rfl | hne
    · exact h.step.fits (hsound.fits other)
    · rw [h.others other hne]
      exact hsound.fits other
  unborn other hother := by
    have hsize := h.size
    have hne : other ≠ id := by omega
    rw [h.others other hne, hsound.unborn other (by omega)]
  free := by
    have := h.balance hsound.unborn Standing.slots rfl
    have := h.free
    have := hsound.free
    omega
  failures := by
    have := h.balance hsound.unborn Standing.losses rfl
    have := h.failures
    have := hsound.failures
    omega
  errors := by
    have := h.balance hsound.unborn Standing.losses rfl
    have := h.errors
    have := hsound.errors
    omega

namespace Steps

theorem refl (l : Ledger) : Steps l l := Relation.ReflTransGen.refl

theorem single {id : TaskId} (h : Step id l l') : Steps l l' :=
  Relation.ReflTransGen.single ⟨id, h⟩

theorem trans {l'' : Ledger} (h : Steps l l') (h' : Steps l' l'') : Steps l l'' :=
  Relation.ReflTransGen.trans h h'

theorem sound {slots : Nat} (h : Steps l l') (hsound : l.Sound slots) : l'.Sound slots := by
  induction h with
  | refl => exact hsound
  | tail _ hstep ih =>
    obtain ⟨id, hstep⟩ := hstep
    exact hstep.sound ih

theorem leads {slots : Nat} (h : Steps l l') (hsound : l.Sound slots) (id : TaskId) :
    (l.standing id).Leads (l'.standing id) := by
  induction h with
  | refl => rfl
  | tail hsteps hstep ih =>
    obtain ⟨other, hstep⟩ := hstep
    refine ih.trans ?_
    rcases eq_or_ne id other with rfl | hne
    · exact hstep.step.leads ((sound hsteps hsound).fits id)
    · rw [hstep.others id hne]

end Steps

end Ledger

end ChatWarden.Supervision
