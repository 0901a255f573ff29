import PhantomTracker.Host.UnorderedSamples

/-!
Contract: the idle average that a tick publishes, against the number of CPUs whose
run queue was empty.

Owns: the number of empty run queues behind a sample, the average of that number
with the weights of the fold, and that `last_idle_avg` exceeds neither this average
rounded up nor the number of CPUs.

Does not own: how far below the average the published value can be.
-/

namespace PhantomTracker.Idle

open PhantomTracker.Foundation
open PhantomTracker.Host

/-! ## Run queues -/

/-- The CPUs whose run queue is empty. -/
def emptyQueues (queues : List UInt32) : Nat := queues.countP fun nrRunning => nrRunning = 0

/-- The generated loop adds up the lengths of the run queues. -/
theorem cpuLoop_map_some (queues : List UInt32) :
    cpuLoop (queues.map some) = ((queues.map UInt32.toNat).sum : Nat) := by
  suffices adds : ∀ sample : Int,
      queues.foldl (fun sample nrRunning => sample + (nrRunning.toNat : Int)) sample =
        sample + ((queues.map UInt32.toNat).sum : Nat) by
    have total := adds 0
    rw [Int.zero_add] at total
    unfold cpuLoop
    rw [List.foldl_map]
    exact total
  induction queues with
  | nil => simp
  | cons nrRunning rest inductionHypothesis =>
      intro sample
      rw [List.foldl_cons, inductionHypothesis, List.map_cons, List.sum_cons, Nat.cast_add,
        Int.add_assoc]

/-- A run queue that is not empty holds a task, so tasks and empty queues together
cover the CPUs. -/
theorem length_le_sum_add_emptyQueues (queues : List UInt32) :
    queues.length ≤ (queues.map UInt32.toNat).sum + emptyQueues queues := by
  unfold emptyQueues
  induction queues with
  | nil => exact Nat.zero_le _
  | cons nrRunning rest inductionHypothesis =>
      rw [List.length_cons, List.map_cons, List.sum_cons, List.countP_cons]
      by_cases empty : nrRunning = 0
      · rw [if_pos (decide_eq_true empty)]
        omega
      · have busy : nrRunning.toNat ≠ 0 := fun zero => empty (UInt32.toNat_inj.mp zero)
        omega

/-! ## The published value -/

namespace Tracker

variable (tracker : Tracker) (boundary : GlobalRunnxSample)

/-- The array that a tick folds. -/
def closedMap : SampleMap := (tracker.closeWindow boundary).buffs tracker.state.active

/-- The end index that a tick folds up to. -/
def endIdx : Nat := (tracker.state.index tracker.state.active).toNat

variable {tracker boundary}

theorem closeWindow_nbCpus :
    (tracker.closeWindow boundary).state.nbCpus = tracker.state.nbCpus := by
  have swapped : ∀ state : GlobalRunnxTrackerState, state.swapCollectx.nbCpus = state.nbCpus := by
    intro state
    unfold GlobalRunnxTrackerState.swapCollectx
    split_ifs <;> rfl
  have indexed : ∀ (state : GlobalRunnxTrackerState) (buff : Buff) (value : UInt32),
      (state.setIndex buff value).nbCpus = state.nbCpus := by
    intro state buff value
    cases buff <;> rfl
  unfold closeWindow
  dsimp only
  rw [indexed, swapped, indexed]

theorem closedMap_maxEntries : (tracker.closedMap boundary).maxEntries =
    (tracker.buffs tracker.state.active).maxEntries := by
  unfold closedMap
  rw [closeWindow_old, SampleMap.updateElem_maxEntries]

/-- The boundary sample replaces no sample that has a weight. -/
theorem closedMap_slot {k : Nat} (below : k < tracker.endIdx) :
    (tracker.closedMap boundary).slot k = (tracker.buffs tracker.state.active).slot k := by
  unfold closedMap
  rw [closeWindow_old]
  exact SampleMap.updateElem_slot_of_ne _ (Nat.ne_of_lt below) boundary

/-- A tick publishes at most the number of CPUs, whatever it has averaged. -/
theorem idleAvgTimerCb_lastIdleAvg_le :
    (tracker.idleAvgTimerCb boundary).state.lastIdleAvg ≤ tracker.state.nbCpus := by
  rw [← closeWindow_nbCpus, idleAvgTimerCb_state]
  unfold GlobalRunnxTrackerState.publish
  dsimp only
  split
  · exact Nat.zero_le _
  · exact Nat.sub_le _ _

/-- While the accumulators do not overflow, a tick publishes what the rounded
average leaves of the CPUs. -/
theorem idleAvgTimerCb_lastIdleAvg
    (sumFits : (tracker.closedMap boundary).exactSum tracker.endIdx < 2 ^ 63)
    (timeFits : (tracker.closedMap boundary).exactTime tracker.endIdx < 2 ^ 64)
    (positive : 0 < (tracker.closedMap boundary).exactTime tracker.endIdx) :
    (tracker.idleAvgTimerCb boundary).state.lastIdleAvg =
      tracker.state.nbCpus - (tracker.closedMap boundary).exactSum tracker.endIdx /
        (tracker.closedMap boundary).exactTime tracker.endIdx := by
  have folded : tracker.avgCtx boundary =
      ⟨s64 ((tracker.closedMap boundary).exactSum tracker.endIdx),
        u64 ((tracker.closedMap boundary).exactTime tracker.endIdx), tracker.endIdx⟩ :=
    SampleMap.phantomAvgFold_eq_exact _ _
  have average : runnxAvg (tracker.avgCtx boundary) =
      (tracker.closedMap boundary).exactSum tracker.endIdx /
        (tracker.closedMap boundary).exactTime tracker.endIdx := by
    rw [folded, s64_of_lt (Int.natCast_nonneg _) (by exact_mod_cast sumFits), u64_of_lt timeFits]
    unfold runnxAvg
    dsimp only
    rw [if_pos positive]
    congr 1
    omega
  rw [idleAvgTimerCb_state, average]
  show (if _ > (tracker.closeWindow boundary).state.nbCpus then 0
    else (tracker.closeWindow boundary).state.nbCpus - _) = _
  rw [closeWindow_nbCpus]
  split_ifs <;> omega

end Tracker

/-- **The idle average never over-reports.** When every sample is the sum of the run
queues of all CPUs, the published value is at most the weighted average of the
number of empty run queues, rounded up, and at most the number of CPUs. -/
theorem idle_average_never_over_reports {tracker : Tracker} {boundary : GlobalRunnxSample}
    {queues : Nat → List UInt32}
    (lengths : ∀ k < tracker.endIdx, k < (tracker.buffs tracker.state.active).maxEntries →
      (queues k).length = tracker.state.nbCpus)
    (samples : ∀ k < tracker.endIdx, k < (tracker.buffs tracker.state.active).maxEntries →
      ((tracker.buffs tracker.state.active).slot k).count = cpuLoop ((queues k).map some))
    (sumFits : (tracker.closedMap boundary).exactSum tracker.endIdx < 2 ^ 63)
    (timeFits : (tracker.closedMap boundary).exactTime tracker.endIdx < 2 ^ 64)
    (positive : 0 < (tracker.closedMap boundary).exactTime tracker.endIdx) :
    let map := tracker.closedMap boundary
    let emptyTime := ∑ k ∈ Finset.range map.maxEntries,
      emptyQueues (queues k) * weight map tracker.endIdx k
    (tracker.idleAvgTimerCb boundary).state.lastIdleAvg ≤
        ⌈(emptyTime : ℚ) / map.exactTime tracker.endIdx⌉₊ ∧
      (tracker.idleAvgTimerCb boundary).state.lastIdleAvg ≤ tracker.state.nbCpus := by
  intro map emptyTime
  rw [Tracker.idleAvgTimerCb_lastIdleAvg sumFits timeFits positive]
  refine ⟨?_, Nat.sub_le _ _⟩
  apply sub_weightedAverage_le_ceil _ positive
  intro k member weighs
  have below := SampleMap.lt_of_weight_ne_zero weighs
  have room : k < (tracker.buffs tracker.state.active).maxEntries := by
    rw [← Tracker.closedMap_maxEntries]
    exact Finset.mem_range.mp member
  have count : ((tracker.closedMap boundary).slot k).count =
      (((queues k).map UInt32.toNat).sum : Nat) := by
    rw [Tracker.closedMap_slot below, samples k below room, cpuLoop_map_some]
  rw [count, Int.toNat_natCast, ← lengths k below room]
  exact length_le_sum_add_emptyQueues (queues k)

/-- Two CPUs with one task from time 0 to 4 and three tasks from time 4 on. -/
def twoCpuQueues : Nat → List UInt32
  | 0 => [1, 0]
  | _ => [2, 1]

/-- The tracker that has recorded the two samples in buffer 2. -/
def twoCpuTracker : Tracker where
  state := ⟨0, 2, 0, 2, 0, 0⟩
  buffs _ := ⟨3, fun k => ⟨cpuLoop ((twoCpuQueues k).map some), 4 * k⟩⟩

/-- A tick at time 10 sees 2.2 tasks on average and publishes 0 idle CPUs. A CPU was
idle for four of the ten units of time. -/
theorem two_cpu_idle_average :
    (twoCpuTracker.idleAvgTimerCb ⟨3, 10⟩).state.lastIdleAvg = 0 ∧
      (twoCpuTracker.idleAvgTimerCb ⟨3, 10⟩).state.lastIdleAvg ≤
        ⌈((∑ k ∈ Finset.range 3, emptyQueues (twoCpuQueues k) *
          weight (twoCpuTracker.closedMap ⟨3, 10⟩) 2 k : Nat) : ℚ) /
            (twoCpuTracker.closedMap ⟨3, 10⟩).exactTime 2⌉₊ := by
  have lengths : ∀ k < twoCpuTracker.endIdx, k < 3 → (twoCpuQueues k).length = 2 := by decide
  have reported := idle_average_never_over_reports lengths (fun _ _ _ => rfl)
    (by decide : (twoCpuTracker.closedMap ⟨3, 10⟩).exactSum twoCpuTracker.endIdx < 2 ^ 63)
    (by decide) (by decide)
  exact ⟨by decide, reported.1⟩

end PhantomTracker.Idle
