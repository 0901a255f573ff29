import PhantomTracker.Foundation.StepFunction
import PhantomTracker.Host.Timer
import Mathlib.Algebra.Order.BigOperators.Group.Finset
import Mathlib.Algebra.Order.Ring.Int

/-!
Contract: what `phantom_average` computes from a window of samples in order.

Owns: the windows for which the 64-bit arithmetic of `phantom_avg_cb` is exact,
what the fold over such a window adds up, and that the average of such a window is
the weighted sum of its counts divided by its length, rounded down.

Does not own: that the buffers hold such windows.
-/

namespace PhantomTracker.Host

open PhantomTracker.Foundation

theorem s64_of_lt {value : Int} (nonneg : 0 ≤ value) (below : value < 2 ^ 63) :
    s64 value = value := by
  unfold s64
  rw [Int.bmod_eq_of_le] <;> omega

theorem u64_of_lt {value : Nat} (below : value < 2 ^ 64) : u64 value = value :=
  Nat.mod_eq_of_lt below

namespace SampleMap

def counts (map : SampleMap) (k : Nat) : Int := (map.slot k).count

def timestamps (map : SampleMap) (k : Nat) : Nat := (map.slot k).timestamp

/-- The time between two neighbouring samples. -/
def gap (map : SampleMap) (k : Nat) : Nat := map.timestamps (k + 1) - map.timestamps k

/-- The counts of the first `n` samples, weighted with the time each of them
lasted. -/
def weighted (map : SampleMap) (n : Nat) : Int :=
  ∑ k ∈ Finset.range n, map.gap k • map.counts k

/-- The samples `0 .. last` are in order of time, their counts are not negative,
and neither their length nor the weighted sum over them overflows. -/
structure ExactWindow (map : SampleMap) (last : Nat) : Prop where
  room : last < map.maxEntries
  capacity : map.maxEntries ≤ 2 ^ 32
  ordered : ∀ j k, j ≤ k → k ≤ last → map.timestamps j ≤ map.timestamps k
  nonneg : ∀ k < last, 0 ≤ map.counts k
  sum : map.weighted last < 2 ^ 63
  length : map.timestamps last - map.timestamps 0 < 2 ^ 64

/-- The samples `0 .. last` are in order of time, with counts between 0 and
`nbVcpus`, and neither their length nor a weighted sum over them overflows. -/
structure Window (map : SampleMap) (last nbVcpus : Nat) : Prop where
  room : last < map.maxEntries
  capacity : map.maxEntries ≤ 2 ^ 32
  ordered : ∀ j k, j ≤ k → k ≤ last → map.timestamps j ≤ map.timestamps k
  nonneg : ∀ k < last, 0 ≤ map.counts k
  ceiling : ∀ k < last, map.counts k ≤ nbVcpus
  product : nbVcpus * (map.timestamps last - map.timestamps 0) < 2 ^ 63
  length : map.timestamps last - map.timestamps 0 < 2 ^ 64

variable {map : SampleMap} {last nbVcpus : Nat}

theorem weighted_succ (map : SampleMap) (n : Nat) :
    map.weighted (n + 1) = map.weighted n + map.gap n • map.counts n :=
  Finset.sum_range_succ _ n

/-- The duration of a sample, added to the time before it. -/
theorem add_gap (ordered : ∀ j k, j ≤ k → k ≤ last → map.timestamps j ≤ map.timestamps k)
    {k : Nat} (below : k < last) :
    map.timestamps k - map.timestamps 0 + map.gap k =
      map.timestamps (k + 1) - map.timestamps 0 := by
  have first := ordered 0 k (Nat.zero_le k) (by omega)
  have next := ordered k (k + 1) (by omega) below
  unfold gap
  omega

/-- Counts that a ceiling bounds have a weighted sum that it bounds. -/
theorem Window.weighted_le (window : map.Window last nbVcpus) {n : Nat} (within : n ≤ last) :
    map.weighted n ≤ (nbVcpus * (map.timestamps n - map.timestamps 0) : Nat) := by
  induction n with
  | zero => simp [weighted]
  | succ n inductionHypothesis =>
      have earlier := inductionHypothesis (by omega)
      have count := window.ceiling n (by omega)
      have sample : map.gap n • map.counts n ≤ (nbVcpus * map.gap n : Nat) := by
        rw [nsmul_eq_mul, mul_comm, Nat.cast_mul]
        exact mul_le_mul_of_nonneg_right count (Int.natCast_nonneg _)
      rw [weighted_succ, ← add_gap window.ordered (by omega), Nat.mul_add, Nat.cast_add]
      exact add_le_add earlier sample

theorem Window.exactWindow (window : map.Window last nbVcpus) : map.ExactWindow last where
  room := window.room
  capacity := window.capacity
  ordered := window.ordered
  nonneg := window.nonneg
  sum := by
    have upper := window.weighted_le le_rfl
    have product := window.product
    omega
  length := window.length

namespace ExactWindow

theorem weighted_nonneg (window : map.ExactWindow last) {n : Nat} (within : n ≤ last) :
    0 ≤ map.weighted n := by
  apply Finset.sum_nonneg
  intro k member
  have below : k < n := Finset.mem_range.mp member
  exact nsmul_nonneg (window.nonneg k (by omega)) _

theorem weighted_lt (window : map.ExactWindow last) {n : Nat} (within : n ≤ last) :
    map.weighted n < 2 ^ 63 := by
  have part : map.weighted n ≤ map.weighted last := by
    apply Finset.sum_le_sum_of_subset_of_nonneg (Finset.range_mono within)
    intro k member _
    exact nsmul_nonneg (window.nonneg k (Finset.mem_range.mp member)) _
  have sum := window.sum
  omega

/-- The product of one callback does not overflow: a count of zero makes it
zero, and any other count bounds the duration by the weighted sum of the whole
window. -/
theorem product_exact (window : map.ExactWindow last) {k : Nat} (below : k < last) :
    s64 (map.counts k * s64 (map.gap k)) = map.gap k • map.counts k := by
  have nonneg := window.nonneg k below
  have term : map.gap k • map.counts k < 2 ^ 63 := by
    have earlier := window.weighted_nonneg below.le
    have upTo := window.weighted_lt below
    rw [weighted_succ] at upTo
    omega
  rw [nsmul_eq_mul, mul_comm (map.gap k : Int)] at *
  rcases nonneg.eq_or_lt with zero | positive
  · rw [← zero, zero_mul, zero_mul]
    rfl
  · have duration : (map.gap k : Int) ≤ map.counts k * map.gap k :=
      le_mul_of_one_le_left (Int.natCast_nonneg _) positive
    rw [s64_of_lt (Int.natCast_nonneg _) (by omega)]
    exact s64_of_lt (mul_nonneg nonneg (Int.natCast_nonneg _)) term

end ExactWindow

end SampleMap

/-! ## The fold -/

section Fold

variable {map : SampleMap} {last nbSamples nbVcpus : Nat}

/-- The context of the fold before callback `k`. -/
def windowCtx (map : SampleMap) (nbSamples k : Nat) : PhantomAvgCtx :=
  ⟨map.weighted k, map.timestamps k - map.timestamps 0, nbSamples⟩

theorem phantomAvgCb_windowCtx (window : map.ExactWindow last) (counted : last ≤ nbSamples)
    {k : Nat} (below : k < last) :
    phantomAvgCb map (windowCtx map nbSamples k) k = windowCtx map nbSamples (k + 1) := by
  have room := window.room
  have capacity := window.capacity
  have next : u32Succ k = k + 1 := by
    unfold u32Succ
    omega
  have present : map.lookupElem (k + 1) = some (map.slot (k + 1)) := if_pos (by omega)
  have inOrder : ¬ (map.slot (k + 1)).timestamp < (map.slot k).timestamp :=
    not_lt.mpr (window.ordered k (k + 1) (by omega) below)
  have notNegative : ¬ (map.slot k).count < 0 := not_lt.mpr (window.nonneg k below)
  have sum : s64 (map.weighted k + s64 (map.counts k * s64 (map.gap k))) =
      map.weighted (k + 1) := by
    rw [window.product_exact below, ← map.weighted_succ]
    exact s64_of_lt (window.weighted_nonneg below) (window.weighted_lt below)
  have time : u64 (map.timestamps k - map.timestamps 0 + map.gap k) =
      map.timestamps (k + 1) - map.timestamps 0 := by
    have final := window.ordered (k + 1) last below le_rfl
    have length := window.length
    rw [SampleMap.add_gap window.ordered below]
    exact u64_of_lt (by omega)
  have inside : ¬ k ≥ (windowCtx map nbSamples k).nbSamples :=
    not_le.mpr (Nat.lt_of_lt_of_le below counted)
  unfold phantomAvgCb
  rw [if_neg inside, next, present]
  dsimp only
  rw [if_neg inOrder, if_neg notNegative]
  exact congrArg₂ (fun sum time => (⟨sum, time, nbSamples⟩ : PhantomAvgCtx)) sum time

theorem foldl_phantomAvgCb_window (window : map.ExactWindow last) (counted : last ≤ nbSamples)
    {n : Nat} (within : n ≤ last) :
    (List.range n).foldl (phantomAvgCb map) ⟨0, 0, nbSamples⟩ = windowCtx map nbSamples n := by
  induction n with
  | zero => simp [windowCtx, SampleMap.weighted]
  | succ n inductionHypothesis =>
      rw [List.range_succ, List.foldl_append, inductionHypothesis (by omega)]
      exact phantomAvgCb_windowCtx window counted within

/-- Callbacks at or past `nb_samples` change nothing. -/
theorem foldl_phantomAvgCb_past (map : SampleMap) (ctx : PhantomAvgCtx) {indices : List Nat}
    (past : ∀ k ∈ indices, ctx.nbSamples ≤ k) : indices.foldl (phantomAvgCb map) ctx = ctx := by
  induction indices with
  | nil => rfl
  | cons k rest inductionHypothesis =>
      have here : phantomAvgCb map ctx k = ctx := if_pos (past k List.mem_cons_self)
      rw [List.foldl_cons, here]
      exact inductionHypothesis fun j member => past j (List.mem_cons_of_mem k member)

/-- The fold ends with the last callback below `nb_samples`. -/
theorem phantomAvgFold_of_le (map : SampleMap) {nbSamples : Nat}
    (within : nbSamples ≤ map.maxEntries) :
    phantomAvgFold map nbSamples =
      (List.range nbSamples).foldl (phantomAvgCb map) ⟨0, 0, nbSamples⟩ := by
  have kept : ∀ n, ((List.range n).foldl (phantomAvgCb map) ⟨0, 0, nbSamples⟩).nbSamples =
      nbSamples := by
    intro n
    induction n with
    | zero => rfl
    | succ n inductionHypothesis =>
        rw [List.range_succ, List.foldl_append, List.foldl_cons, List.foldl_nil,
          phantomAvgCb_nbSamples, inductionHypothesis]
  unfold phantomAvgFold
  obtain ⟨rest, total⟩ := Nat.exists_eq_add_of_le within
  rw [total, List.range_add, List.foldl_append]
  apply foldl_phantomAvgCb_past
  intro k member
  obtain ⟨j, _, rfl⟩ := List.mem_map.mp member
  rw [kept]
  exact Nat.le_add_right nbSamples j

theorem phantomAvgFold_window (window : map.ExactWindow last) :
    phantomAvgFold map last = windowCtx map last last := by
  rw [phantomAvgFold_of_le map window.room.le]
  exact foldl_phantomAvgCb_window window le_rfl le_rfl

/-- The fold over a full array ends with its last slot, whatever `nb_samples`
says. -/
theorem phantomAvgFold_full (window : map.ExactWindow last) (full : map.maxEntries = last + 1)
    (representable : last + 1 < 2 ^ 32) (counted : last ≤ nbSamples) :
    phantomAvgFold map nbSamples = windowCtx map nbSamples last := by
  have successor : u32Succ last = last + 1 := Nat.mod_eq_of_lt representable
  have absent : map.lookupElem (last + 1) = none := if_neg (by omega)
  unfold phantomAvgFold
  rw [full, List.range_succ, List.foldl_append, foldl_phantomAvgCb_window window counted le_rfl,
    List.foldl_cons, List.foldl_nil]
  unfold phantomAvgCb
  rw [successor, absent]
  exact ite_self _

/-- **The average of a window.** -/
theorem phantomAverage_window (window : map.Window last nbVcpus) :
    phantomAverage map last =
      map.weighted last / ((map.timestamps last - map.timestamps 0 : Nat) : Int) := by
  have sums := window.exactWindow
  have nonneg := sums.weighted_nonneg le_rfl
  have below := sums.sum
  unfold phantomAverage
  rw [phantomAvgFold_window sums]
  by_cases empty : map.timestamps last - map.timestamps 0 = 0
  · simp [windowCtx, empty]
  · have positive : (windowCtx map last last).totalTime > 0 := Nat.pos_of_ne_zero empty
    rw [if_pos positive]
    obtain ⟨sum, asNat⟩ := Int.eq_ofNat_of_zero_le nonneg
    have small : (map.weighted last % 2 ^ 64).toNat = sum := by omega
    have quotient : sum / (map.timestamps last - map.timestamps 0) ≤ sum := Nat.div_le_self _ _
    simp only [windowCtx]
    rw [small, asNat, s64_of_lt (Int.natCast_nonneg _) (by omega), Int.natCast_div]

end Fold

end PhantomTracker.Host
