import PhantomTracker.Foundation.WeightedSums
import PhantomTracker.Host.Averaging
import PhantomTracker.Idle.Tracker
import Mathlib.Order.Lattice.Nat

/-!
Contract: what `phantom_average` computes from a buffer with any contents.

Owns: the exact sums of the fold over samples in any order, the average as their
quotient while they fit the 64-bit accumulators, the slots that it depends on,
the bound of the average by the largest count, and the total weight of a window
whose inner samples are out of order.

Does not own: which contents a buffer can have.

The fold of the idle tracker is the same function, so its weights are used here.
-/

namespace PhantomTracker.Host

open PhantomTracker.Foundation
open PhantomTracker.Idle (weight weightedCtx nrRunningAvgFold nrRunningAvgFold_eq_weightedCtx)

namespace SampleMap

variable (map : SampleMap) (nbSamples : Nat)

/-- The total weight of the fold, without the wrap of `total_time`. -/
def exactTime : Nat := ∑ k ∈ Finset.range map.maxEntries, weight map nbSamples k

/-- The weighted sum of the fold, without the wrap of `sum`. A negative count is
clamped to zero. -/
def exactSum : Nat :=
  ∑ k ∈ Finset.range map.maxEntries, (map.slot k).count.toNat * weight map nbSamples k

/-- The largest non-negative count among the slots below `nb_samples`, and 0 if
there is none. -/
def largestCount : Nat :=
  (Finset.range (min nbSamples map.maxEntries)).sup fun k => (map.slot k).count.toNat

variable {map nbSamples}

/-- Only samples below `nb_samples` have a weight. -/
theorem lt_of_weight_ne_zero {k : Nat} (weighs : weight map nbSamples k ≠ 0) : k < nbSamples := by
  by_contra past
  exact weighs (if_pos (Nat.not_lt.mp past))

theorem exactSum_cast :
    (map.exactSum nbSamples : Int) =
      ∑ k ∈ Finset.range map.maxEntries, max 0 (map.slot k).count * weight map nbSamples k := by
  unfold exactSum
  rw [Nat.cast_sum]
  apply Finset.sum_congr rfl
  intro k _
  rw [Nat.cast_mul, Int.ofNat_toNat, max_comm]

/-- The accumulators at the end of the fold. -/
theorem phantomAvgFold_eq_exact (map : SampleMap) (nbSamples : Nat) :
    phantomAvgFold map nbSamples =
      ⟨s64 (map.exactSum nbSamples), u64 (map.exactTime nbSamples), nbSamples⟩ := by
  have closed : phantomAvgFold map nbSamples = weightedCtx map nbSamples map.maxEntries :=
    nrRunningAvgFold_eq_weightedCtx map nbSamples
  rw [closed, exactSum_cast]
  rfl

/-! ## The average -/

section Average

variable (sumFits : map.exactSum nbSamples < 2 ^ 63) (timeFits : map.exactTime nbSamples < 2 ^ 64)

include sumFits timeFits

/-- While the accumulators do not overflow, the average is the quotient of the
exact sums, rounded down. -/
theorem phantomAverage_eq_div :
    phantomAverage map nbSamples = (map.exactSum nbSamples / map.exactTime nbSamples : Nat) := by
  have sum : s64 (map.exactSum nbSamples) = map.exactSum nbSamples :=
    s64_of_lt (Int.natCast_nonneg _) (by exact_mod_cast sumFits)
  unfold phantomAverage
  rw [phantomAvgFold_eq_exact, sum, u64_of_lt timeFits]
  dsimp only
  have converted : ((map.exactSum nbSamples : Int) % 2 ^ 64).toNat = map.exactSum nbSamples := by
    omega
  rw [converted]
  split_ifs with positive
  · have quotient := Nat.div_le_self (map.exactSum nbSamples) (map.exactTime nbSamples)
    exact s64_of_lt (Int.natCast_nonneg _) (by omega)
  · rw [Nat.eq_zero_of_not_pos positive, Nat.div_zero]
    rfl

theorem phantomAverage_le_largestCount :
    phantomAverage map nbSamples ≤ map.largestCount nbSamples := by
  rw [phantomAverage_eq_div sumFits timeFits]
  apply Int.ofNat_le.mpr
  apply weightedAverage_le
  intro k member weighs
  have below : k < min nbSamples map.maxEntries :=
    Nat.lt_min.mpr ⟨lt_of_weight_ne_zero weighs, Finset.mem_range.mp member⟩
  have bound : (map.slot k).count.toNat ≤ map.largestCount nbSamples :=
    Finset.le_sup (f := fun k => (map.slot k).count.toNat) (Finset.mem_range.mpr below)
  exact bound

theorem phantomAverage_nonneg : 0 ≤ phantomAverage map nbSamples := by
  rw [phantomAverage_eq_div sumFits timeFits]
  exact Int.natCast_nonneg _

/-- A ceiling of the counts below `nb_samples` is one of the average. -/
theorem phantomAverage_le_of_counts {ceiling : Nat}
    (counts : ∀ k < nbSamples, k < map.maxEntries → (map.slot k).count ≤ ceiling) :
    phantomAverage map nbSamples ≤ ceiling := by
  have largest : map.largestCount nbSamples ≤ ceiling := by
    apply Finset.sup_le
    intro k member
    have below := Nat.lt_min.mp (Finset.mem_range.mp member)
    exact Int.toNat_le.mpr (counts k below.1 below.2)
  exact (phantomAverage_le_largestCount sumFits timeFits).trans (Int.ofNat_le.mpr largest)

end Average

/-! ## The slots that matter -/

section Dependence

variable {other : SampleMap}

/-- The fold reads no slot past `nb_samples`. -/
theorem weight_congr (capacity : other.maxEntries = map.maxEntries)
    (agree : ∀ k ≤ nbSamples, other.slot k = map.slot k) (k : Nat) :
    weight other nbSamples k = weight map nbSamples k := by
  unfold weight
  by_cases past : k ≥ nbSamples
  · rw [if_pos past, if_pos past]
  · have next : u32Succ k ≤ nbSamples := Nat.le_trans (Nat.mod_le _ _) (by omega)
    have lookup : other.lookupElem (u32Succ k) = map.lookupElem (u32Succ k) := by
      unfold lookupElem
      rw [capacity, agree _ next]
    rw [if_neg past, if_neg past, lookup, agree k (by omega)]

/-- The average depends only on the slots up to `nb_samples`. -/
theorem phantomAverage_congr (capacity : other.maxEntries = map.maxEntries)
    (agree : ∀ k ≤ nbSamples, other.slot k = map.slot k) :
    phantomAverage other nbSamples = phantomAverage map nbSamples := by
  have weights := weight_congr capacity agree
  have time : other.exactTime nbSamples = map.exactTime nbSamples := by
    unfold exactTime
    rw [capacity]
    exact Finset.sum_congr rfl fun k _ => weights k
  have sum : other.exactSum nbSamples = map.exactSum nbSamples := by
    unfold exactSum
    rw [capacity]
    apply Finset.sum_congr rfl
    intro k _
    rw [weights k]
    -- A slot past `nb_samples` may differ, but it has no weight.
    by_cases weighs : weight map nbSamples k = 0
    · rw [weighs, Nat.mul_zero, Nat.mul_zero]
    · rw [agree k (lt_of_weight_ne_zero weighs).le]
  unfold phantomAverage
  rw [phantomAvgFold_eq_exact, phantomAvgFold_eq_exact, sum, time]

end Dependence

end SampleMap

/-- **The average is a convex combination** whatever the buffer holds: it lies
between 0 and the largest non-negative count below `nb_samples`, and slots past
`nb_samples` do not matter. -/
theorem phantom_average_convex (map : SampleMap) (nbSamples : Nat)
    (sumFits : map.exactSum nbSamples < 2 ^ 63) (timeFits : map.exactTime nbSamples < 2 ^ 64) :
    0 ≤ phantomAverage map nbSamples ∧
      phantomAverage map nbSamples ≤ map.largestCount nbSamples ∧
      (map.exactTime nbSamples = 0 → phantomAverage map nbSamples = 0) ∧
      ∀ other : SampleMap, other.maxEntries = map.maxEntries →
        (∀ k ≤ nbSamples, other.slot k = map.slot k) →
        phantomAverage other nbSamples = phantomAverage map nbSamples := by
  refine ⟨SampleMap.phantomAverage_nonneg sumFits timeFits,
    SampleMap.phantomAverage_le_largestCount sumFits timeFits, ?_,
    fun other => SampleMap.phantomAverage_congr⟩
  intro empty
  rw [SampleMap.phantomAverage_eq_div sumFits timeFits, empty, Nat.div_zero]
  rfl

/-- A buffer of four samples in which a negative count and a sample that is out of
order have been left. -/
def garbledMap : SampleMap where
  maxEntries := 4
  slot
    | 0 => ⟨3, 0⟩
    | 1 => ⟨-5, 9⟩
    | 2 => ⟨2, 1⟩
    | _ => ⟨7, 10⟩

/-- The largest count below `nb_samples` is 3, and the average of the garbled
buffer is 2. -/
theorem garbled_average_bounded :
    phantomAverage garbledMap 3 = 2 ∧ phantomAverage garbledMap 3 ≤ 3 := by
  have bounded := phantom_average_convex garbledMap 3 (by decide) (by decide)
  exact ⟨by decide, bounded.2.1⟩

/-! ## The length of a window -/

namespace SampleMap

variable {map : SampleMap} {n : Nat}

theorem weight_of_lt (room : n < map.maxEntries) (representable : n < 2 ^ 32) {k : Nat}
    (below : k < n) : weight map n k = map.timestamps (k + 1) - map.timestamps k := by
  have next : u32Succ k = k + 1 := Nat.mod_eq_of_lt (by omega)
  have present : map.lookupElem (k + 1) = some (map.slot (k + 1)) := if_pos (by omega)
  unfold weight
  rw [if_neg (Nat.not_le.mpr below), next, present]
  rfl

/-- The weights of a window are its forward steps. -/
theorem exactTime_eq_forwardSum (room : n < map.maxEntries) (representable : n < 2 ^ 32) :
    map.exactTime n = forwardSum map.timestamps n := by
  have inner : Finset.range n ⊆ Finset.range map.maxEntries := Finset.range_mono room.le
  unfold exactTime forwardSum
  rw [← Finset.sum_subset inner]
  · exact Finset.sum_congr rfl fun k member =>
      weight_of_lt room representable (Finset.mem_range.mp member)
  · intro k _ past
    exact if_pos (Nat.not_lt.mp fun below => past (Finset.mem_range.mpr below))

/-- The backward steps of a window do not show in the 64-bit total: they add up to
a multiple of 2 ^ 64, such as 0, or they make the total wrap. -/
def BackwardsHidden (map : SampleMap) (n : Nat) : Prop :=
  backwardSum map.timestamps n % 2 ^ 64 = 0 ∨
    2 ^ 64 ≤ map.timestamps n - map.timestamps 0 + backwardSum map.timestamps n % 2 ^ 64

end SampleMap

/-- **Out-of-order samples inflate the window** by exactly the length of the
backward steps. The total weight stays within the window if and only if there are
none or the 64-bit total hides them. -/
theorem window_inflated_by_backward_steps (map : SampleMap) (n : Nat) (room : n < map.maxEntries)
    (representable : n < 2 ^ 32) (words : ∀ k ≤ n, map.timestamps k < 2 ^ 64)
    (between : ∀ k ≤ n, map.timestamps 0 ≤ map.timestamps k ∧
      map.timestamps k ≤ map.timestamps n) :
    ((phantomAvgFold map n).totalTime ≤ map.timestamps n - map.timestamps 0 ↔
      map.BackwardsHidden n) ∧
    (map.exactTime n < 2 ^ 64 →
      ((phantomAvgFold map n).totalTime ≤ map.timestamps n - map.timestamps 0 ↔
        ∀ k < n, map.timestamps k ≤ map.timestamps (k + 1))) := by
  have last := words n le_rfl
  have total : (phantomAvgFold map n).totalTime =
      (map.timestamps n - map.timestamps 0 + backwardSum map.timestamps n) % 2 ^ 64 := by
    rw [SampleMap.phantomAvgFold_eq_exact, SampleMap.exactTime_eq_forwardSum room representable,
      forwardSum_eq map.timestamps n (between n le_rfl).1]
    rfl
  constructor
  · rw [total]
    unfold SampleMap.BackwardsHidden
    omega
  · intro fits
    rw [SampleMap.exactTime_eq_forwardSum room representable,
      forwardSum_eq map.timestamps n (between n le_rfl).1] at fits
    rw [total, Nat.mod_eq_of_lt fits, ← backwardSum_eq_zero_iff]
    omega

/-- A window whose samples are in order. -/
def orderedMap : SampleMap where
  maxEntries := 4
  slot
    | 0 => ⟨3, 0⟩
    | 1 => ⟨2, 1⟩
    | 2 => ⟨5, 9⟩
    | _ => ⟨7, 10⟩

theorem ordered_window_not_inflated :
    (phantomAvgFold orderedMap 3).totalTime ≤
      orderedMap.timestamps 3 - orderedMap.timestamps 0 := by
  have equivalence := window_inflated_by_backward_steps orderedMap 3 (by decide) (by decide)
    (by decide) (by decide)
  exact equivalence.1.mpr (Or.inl (by decide))

/-- In a window of length 10 with the timestamps 0, 9, 1 and 10, the stretch
between 1 and 9 is weighted twice: the total weight is 18. -/
theorem swapped_samples_inflate_window :
    (∀ k ≤ 3, garbledMap.timestamps 0 ≤ garbledMap.timestamps k ∧
      garbledMap.timestamps k ≤ garbledMap.timestamps 3) ∧
      garbledMap.timestamps 3 - garbledMap.timestamps 0 = 10 ∧
      (phantomAvgFold garbledMap 3).totalTime = 18 := by
  decide

end PhantomTracker.Host
