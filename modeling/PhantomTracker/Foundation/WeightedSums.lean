import Mathlib.Algebra.BigOperators.Intervals
import Mathlib.Algebra.BigOperators.Ring.Finset
import Mathlib.Algebra.Order.BigOperators.Group.Finset
import Mathlib.Data.Rat.Floor

/-!
Contract: weighted averages of natural numbers that are rounded down, and the
forward and backward steps of a sequence.

Owns: bounds of a weighted sum and of its rounded average by bounds of the
values, the average of a complement against the average itself, and the balance
between the forward steps of a sequence, its backward steps and its ends.

Does not own: where the weights come from.
-/

namespace PhantomTracker.Foundation

section Average

variable {ι : Type*} {indices : Finset ι} {weight value rest : ι → Nat} {bound : Nat}

/-- A bound of every value that has a weight bounds the weighted sum. -/
theorem weightedSum_le (bounded : ∀ k ∈ indices, weight k ≠ 0 → value k ≤ bound) :
    ∑ k ∈ indices, value k * weight k ≤ bound * ∑ k ∈ indices, weight k := by
  rw [Finset.mul_sum]
  apply Finset.sum_le_sum
  intro k member
  rcases Nat.eq_zero_or_pos (weight k) with zero | positive
  · rw [zero, Nat.mul_zero, Nat.mul_zero]
  · exact Nat.mul_le_mul_right _ (bounded k member positive.ne')

/-- A bound of every value that has a weight bounds the average. -/
theorem weightedAverage_le (bounded : ∀ k ∈ indices, weight k ≠ 0 → value k ≤ bound) :
    (∑ k ∈ indices, value k * weight k) / (∑ k ∈ indices, weight k) ≤ bound := by
  apply Nat.div_le_of_le_mul
  rw [Nat.mul_comm]
  exact weightedSum_le bounded

/-- Where every value and its `rest` cover `bound`, so do their weighted sums. -/
theorem mul_le_weightedSums (covered : ∀ k ∈ indices, weight k ≠ 0 → bound ≤ value k + rest k) :
    bound * ∑ k ∈ indices, weight k ≤
      ∑ k ∈ indices, value k * weight k + ∑ k ∈ indices, rest k * weight k := by
  rw [Finset.mul_sum, ← Finset.sum_add_distrib]
  apply Finset.sum_le_sum
  intro k member
  rcases Nat.eq_zero_or_pos (weight k) with zero | positive
  · rw [zero, Nat.mul_zero]
    exact Nat.zero_le _
  · rw [← Nat.add_mul]
    exact Nat.mul_le_mul_right _ (covered k member positive.ne')

/-- **Complement of an average.** What an average that is rounded down leaves of
`bound` is at most the average of the rest, rounded up. -/
theorem sub_weightedAverage_le_ceil
    (covered : ∀ k ∈ indices, weight k ≠ 0 → bound ≤ value k + rest k)
    (positive : 0 < ∑ k ∈ indices, weight k) :
    bound - (∑ k ∈ indices, value k * weight k) / (∑ k ∈ indices, weight k) ≤
      ⌈((∑ k ∈ indices, rest k * weight k : Nat) : ℚ) / (∑ k ∈ indices, weight k : Nat)⌉₊ := by
  have sums := mul_le_weightedSums covered
  generalize (∑ k ∈ indices, weight k) = total at *
  generalize (∑ k ∈ indices, value k * weight k) = sum at *
  generalize (∑ k ∈ indices, rest k * weight k) = restSum at *
  have roundedUp : restSum ≤ ⌈(restSum : ℚ) / total⌉₊ * total := by
    have ceiling := Nat.le_ceil ((restSum : ℚ) / total)
    rw [div_le_iff₀ (by exact_mod_cast positive)] at ceiling
    exact_mod_cast ceiling
  have roundedDown : sum < (sum / total + 1) * total := by
    rw [Nat.mul_comm]
    exact Nat.lt_mul_div_succ sum positive
  have covers : bound * total < (sum / total + 1 + ⌈(restSum : ℚ) / total⌉₊) * total := by
    rw [Nat.add_mul]
    omega
  have below := Nat.lt_of_mul_lt_mul_right covers
  omega

end Average

/-! ## Steps of a sequence -/

section Steps

variable (f : Nat → Nat) (n : Nat)

/-- The steps of a sequence that go up, added up. -/
def forwardSum : Nat := ∑ k ∈ Finset.range n, (f (k + 1) - f k)

/-- The steps of a sequence that go down, added up. -/
def backwardSum : Nat := ∑ k ∈ Finset.range n, (f k - f (k + 1))

/-- Going up and down leads from one end of the sequence to the other. -/
theorem forwardSum_balance : f 0 + forwardSum f n = f n + backwardSum f n := by
  unfold forwardSum backwardSum
  induction n with
  | zero => simp
  | succ n inductionHypothesis =>
      rw [Finset.sum_range_succ, Finset.sum_range_succ]
      omega

/-- Between ends in order, every backward step makes the forward steps longer. -/
theorem forwardSum_eq (ends : f 0 ≤ f n) : forwardSum f n = f n - f 0 + backwardSum f n := by
  have balance := forwardSum_balance f n
  omega

theorem backwardSum_eq_zero_iff : backwardSum f n = 0 ↔ ∀ k < n, f k ≤ f (k + 1) := by
  unfold backwardSum
  rw [Finset.sum_eq_zero_iff]
  constructor
  · intro zero k below
    exact Nat.sub_eq_zero_iff_le.mp (zero k (Finset.mem_range.mpr below))
  · intro ordered k member
    exact Nat.sub_eq_zero_of_le (ordered k (Finset.mem_range.mp member))

end Steps

end PhantomTracker.Foundation
