import PhantomTracker.Foundation.StepFunction
import Mathlib.Algebra.Order.BigOperators.Group.Finset
import Mathlib.Algebra.Order.Ring.Int
import Mathlib.Data.Finset.Card

/-!
Contract: a finite set that changes in time, and the mean number of its members
over consecutive windows.

Owns: the set with the number of its members as a step function of time, the
exchange of one item for another, the windows and the mean that closing one
reports, bounds on that mean, and the comparison of two sets that see the same
exchanges.

Does not own: which items belong to the set, or how the numbers are sampled.
-/

namespace PhantomTracker.Foundation

universe u

/-- The members, their number as a step function of time, the start of the
current window, absent before the first one, and the mean over the window that
was closed last. -/
structure Occupancy (τ : Type u) where
  members : Finset τ
  numbers : Trace Int
  windowStart : Option Nat
  reported : Option Int

namespace Occupancy

variable {τ : Type u}

/-- A set with the given members, before its first window. -/
def start (members : Finset τ) : Occupancy τ := ⟨members, ⟨members.card, []⟩, none, none⟩

def change (occupancy : Occupancy τ) (now : Nat) (members : Finset τ) : Occupancy τ :=
  { occupancy with
    members := members
    numbers := occupancy.numbers.record now members.card }

/-- The mean number of members from the start of the window to `endNow`, rounded
down, and zero over a window without length. -/
def mean (occupancy : Occupancy τ) (endNow : Nat) : Option Int :=
  occupancy.windowStart.map fun start =>
    (∑ t ∈ Finset.Ico start endNow, occupancy.numbers.valueAt t) / ((endNow - start : Nat) : Int)

/-- Report the mean over the window and start the next one. -/
def close (occupancy : Occupancy τ) (endNow startNow : Nat) : Occupancy τ :=
  { occupancy with
    windowStart := some startNow
    reported := occupancy.mean endNow }

/-- One item ceases to be a member, and then another one becomes a member if it
counts. -/
def exchange [DecidableEq τ] (occupancy : Occupancy τ) (incomingNow outgoingNow : Nat)
    (entering leaving : τ) (counts : Bool) : Occupancy τ :=
  let entered := occupancy.change incomingNow (occupancy.members.erase entering)
  entered.change outgoingNow (if counts then insert leaving entered.members else entered.members)

/-! ## Bounds on the mean -/

/-- At no time are there more members than `bound`. -/
structure Bounded (bound : Nat) (occupancy : Occupancy τ) : Prop where
  members : occupancy.members.card ≤ bound
  numbers : ∀ t, 0 ≤ occupancy.numbers.valueAt t ∧ occupancy.numbers.valueAt t ≤ bound

section Bounded

variable {occupancy : Occupancy τ} {bound : Nat}

theorem bounded_start {members : Finset τ} (few : members.card ≤ bound) :
    (start members).Bounded bound where
  members := few
  numbers _ := ⟨Int.natCast_nonneg _, Int.ofNat_le.mpr few⟩

theorem Bounded.change (bounded : occupancy.Bounded bound) (now : Nat) {members : Finset τ}
    (few : members.card ≤ bound) : (occupancy.change now members).Bounded bound where
  members := few
  numbers t := by
    show 0 ≤ (occupancy.numbers.record now members.card).valueAt t ∧ _
    unfold Occupancy.change
    rw [Trace.valueAt_record]
    split
    · omega
    · exact bounded.numbers t

theorem Bounded.close (bounded : occupancy.Bounded bound) (endNow startNow : Nat) :
    (occupancy.close endNow startNow).Bounded bound :=
  ⟨bounded.members, bounded.numbers⟩

theorem Bounded.mean (bounded : occupancy.Bounded bound) {endNow : Nat} {mean : Int}
    (reports : occupancy.mean endNow = some mean) : 0 ≤ mean ∧ mean ≤ bound := by
  obtain ⟨start, _, rfl⟩ := Option.map_eq_some_iff.mp reports
  constructor
  · apply Int.ediv_nonneg _ (Int.natCast_nonneg _)
    exact Finset.sum_nonneg fun t _ => (bounded.numbers t).1
  · have sum := Finset.sum_le_card_nsmul (Finset.Ico start endNow)
      occupancy.numbers.valueAt bound fun t _ => (bounded.numbers t).2
    rw [Nat.card_Ico, nsmul_eq_mul] at sum
    rcases Nat.eq_zero_or_pos (endNow - start) with empty | positive
    · rw [empty, Nat.cast_zero, Int.ediv_zero]
      exact Int.natCast_nonneg _
    · apply Int.ediv_le_of_le_mul (by omega)
      rw [mul_comm]
      exact sum

end Bounded

/-! ## Two sets that see the same exchanges -/

/-- One set is part of the other at all times, and their windows are the same. -/
structure Below (small big : Occupancy τ) : Prop where
  members : small.members ⊆ big.members
  numbers : ∀ t, small.numbers.valueAt t ≤ big.numbers.valueAt t
  windowStart : small.windowStart = big.windowStart
  reported : Option.Rel (· ≤ ·) small.reported big.reported

section Below

variable {small big : Occupancy τ}

theorem below_start {fewer members : Finset τ} (part : fewer ⊆ members) :
    (start fewer).Below (start members) where
  members := part
  numbers _ := Int.ofNat_le.mpr (Finset.card_le_card part)
  windowStart := rfl
  reported := .none

theorem Below.change (below : small.Below big) (now : Nat) {fewer members : Finset τ}
    (part : fewer ⊆ members) : (small.change now fewer).Below (big.change now members) where
  members := part
  numbers t := by
    have cards := Finset.card_le_card part
    unfold Occupancy.change
    rw [Trace.valueAt_record, Trace.valueAt_record]
    split
    · omega
    · exact below.numbers t
  windowStart := below.windowStart
  reported := below.reported

theorem Below.exchange [DecidableEq τ] (below : small.Below big) (incomingNow outgoingNow : Nat)
    (entering leaving : τ) {fewer counts : Bool} (weaker : fewer = true → counts = true) :
    (small.exchange incomingNow outgoingNow entering leaving fewer).Below
      (big.exchange incomingNow outgoingNow entering leaving counts) := by
  have entered := below.change incomingNow (Finset.erase_subset_erase entering below.members)
  apply entered.change
  cases fewer with
  | true =>
      rw [weaker rfl]
      exact Finset.insert_subset_insert leaving entered.members
  | false =>
      cases counts with
      | true => exact entered.members.trans (Finset.subset_insert leaving _)
      | false => exact entered.members

theorem Below.mean (below : small.Below big) (endNow : Nat) :
    Option.Rel (· ≤ ·) (small.mean endNow) (big.mean endNow) := by
  unfold Occupancy.mean
  rw [below.windowStart]
  cases big.windowStart with
  | none => exact .none
  | some start =>
      apply Option.Rel.some
      dsimp only
      have sums : ∑ t ∈ Finset.Ico start endNow, small.numbers.valueAt t ≤
          ∑ t ∈ Finset.Ico start endNow, big.numbers.valueAt t :=
        Finset.sum_le_sum fun t _ => below.numbers t
      rcases Nat.eq_zero_or_pos (endNow - start) with empty | positive
      · rw [empty, Nat.cast_zero, Int.ediv_zero, Int.ediv_zero]
      · exact Int.ediv_le_ediv (Int.natCast_pos.mpr positive) sums

theorem Below.close (below : small.Below big) (endNow startNow : Nat) :
    (small.close endNow startNow).Below (big.close endNow startNow) where
  members := below.members
  numbers := below.numbers
  windowStart := rfl
  reported := below.mean endNow

theorem Below.exists_more (below : small.Below big) {mean : Int}
    (reports : small.reported = some mean) :
    ∃ more, big.reported = some more ∧ mean ≤ more := by
  have related := below.reported
  rw [reports] at related
  generalize big.reported = result at related ⊢
  cases related with
  | some less => exact ⟨_, rfl, less⟩

theorem Below.exists_less (below : small.Below big) {mean : Int}
    (reports : big.reported = some mean) :
    ∃ less, small.reported = some less ∧ less ≤ mean := by
  have related := below.reported
  rw [reports] at related
  generalize small.reported = result at related ⊢
  cases related with
  | some less => exact ⟨_, rfl, less⟩

end Below

end Occupancy

end PhantomTracker.Foundation
