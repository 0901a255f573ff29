import PhantomTracker.Host.Timer
import Mathlib.Algebra.BigOperators.Intervals

/-!
Contract: the idle tracker `global_running_tracker`, which publishes the average
number of runnable tasks and of idle CPUs.

Owns: `global_runnx_tracker_state`, the two sample arrays, one complete execution
of `global_running_tracker_switch_handler` and of `idle_avg_timer_cb`, the state
that the loader starts them in, and the weight that the fold gives to each
sample.

Does not own: runs of the tracker. The folded callback is the one of the phantom
timer, line by line, and is owned there.
-/

namespace PhantomTracker.Idle

open PhantomTracker.Host

/-- `max_entries` of `collectx_buff_1` and `collectx_buff_2`. -/
def collectxMaxEntries : Nat := 3000

/-- `struct global_runnx_sample`, which has the fields of `struct phantom_count`. -/
abbrev GlobalRunnxSample := PhantomCount

/-- `struct global_runnx_tracker_state`, without `global_runnx_count`, which
nothing reads or writes. -/
structure GlobalRunnxTrackerState where
  collectionBuff1Index : UInt32
  collectionBuff2Index : UInt32
  isCollectxInBuff1 : UInt64
  nbCpus : Nat
  lastIdleAvg : Nat
  globalRunnxAvg : Nat
deriving DecidableEq, Repr

namespace GlobalRunnxTrackerState

/-- `collection_buff_1_index` or `collection_buff_2_index`. -/
def index (state : GlobalRunnxTrackerState) : Buff → UInt32
  | .one => state.collectionBuff1Index
  | .two => state.collectionBuff2Index

def setIndex (state : GlobalRunnxTrackerState) (buff : Buff) (value : UInt32) :
    GlobalRunnxTrackerState :=
  match buff with
  | .one => { state with collectionBuff1Index := value }
  | .two => { state with collectionBuff2Index := value }

/-- The buffer that `is_collectx_in_buff_1` selects for collection. -/
def active (state : GlobalRunnxTrackerState) : Buff :=
  if state.isCollectxInBuff1 = 1 then .one else .two

/-- The compare-and-swap on `is_collectx_in_buff_1`: from 1 to 0 in the branch
that found 1, from 0 to 1 in the other one. -/
def swapCollectx (state : GlobalRunnxTrackerState) : GlobalRunnxTrackerState :=
  if state.isCollectxInBuff1 = 1 then { state with isCollectxInBuff1 := 0 }
  else if state.isCollectxInBuff1 = 0 then { state with isCollectxInBuff1 := 1 }
  else state

/-- The two averages that a tick publishes. -/
def publish (state : GlobalRunnxTrackerState) (avg : Nat) : GlobalRunnxTrackerState :=
  { state with
    globalRunnxAvg := avg
    lastIdleAvg := if avg > state.nbCpus then 0 else state.nbCpus - avg }

@[simp] theorem setIndex_index (state : GlobalRunnxTrackerState) (buff : Buff) (value : UInt32) :
    (state.setIndex buff value).index buff = value := by
  cases buff <;> rfl

@[simp] theorem setIndex_index_other (state : GlobalRunnxTrackerState) (buff : Buff)
    (value : UInt32) :
    (state.setIndex buff value).index buff.other = state.index buff.other := by
  cases buff <;> rfl

@[simp] theorem setIndex_other_index (state : GlobalRunnxTrackerState) (buff : Buff)
    (value : UInt32) :
    (state.setIndex buff.other value).index buff = state.index buff := by
  cases buff <;> rfl

@[simp] theorem setIndex_active (state : GlobalRunnxTrackerState) (buff : Buff)
    (value : UInt32) : (state.setIndex buff value).active = state.active := by
  cases buff <;> rfl

@[simp] theorem setIndex_isCollectxInBuff1 (state : GlobalRunnxTrackerState) (buff : Buff)
    (value : UInt32) :
    (state.setIndex buff value).isCollectxInBuff1 = state.isCollectxInBuff1 := by
  cases buff <;> rfl

@[simp] theorem swapCollectx_index (state : GlobalRunnxTrackerState) :
    state.swapCollectx.index = state.index := by
  unfold swapCollectx
  split_ifs <;> rfl

@[simp] theorem publish_index (state : GlobalRunnxTrackerState) (avg : Nat) :
    (state.publish avg).index = state.index := by
  funext buff
  cases buff <;> rfl

theorem swapCollectx_flag {state : GlobalRunnxTrackerState}
    (flag : state.isCollectxInBuff1 = 0 ∨ state.isCollectxInBuff1 = 1) :
    state.swapCollectx.isCollectxInBuff1 = 0 ∨ state.swapCollectx.isCollectxInBuff1 = 1 := by
  unfold swapCollectx
  rcases flag with zero | one
  · rw [if_neg (by rw [zero]; decide), if_pos zero]
    exact Or.inr rfl
  · rw [if_pos one]
    exact Or.inl rfl

@[simp] theorem publish_isCollectxInBuff1 (state : GlobalRunnxTrackerState) (avg : Nat) :
    (state.publish avg).isCollectxInBuff1 = state.isCollectxInBuff1 := rfl

@[simp] theorem publish_active (state : GlobalRunnxTrackerState) (avg : Nat) :
    (state.publish avg).active = state.active := rfl

/-- The flag selects the other buffer after the swap, unless it is neither 0
nor 1: then it stays, and buffer 2 stays selected. -/
theorem swapCollectx_active (state : GlobalRunnxTrackerState) :
    state.swapCollectx.active =
      if state.isCollectxInBuff1 = 0 ∨ state.isCollectxInBuff1 = 1 then state.active.other
      else state.active := by
  unfold swapCollectx active
  by_cases one : state.isCollectxInBuff1 = 1
  · simp [one, Buff.other]
  · by_cases zero : state.isCollectxInBuff1 = 0
    · simp [zero, Buff.other]
    · simp [one, zero]

end GlobalRunnxTrackerState

/-- The pinned state and the two arrays. -/
structure Tracker where
  state : GlobalRunnxTrackerState
  buffs : Buff → SampleMap

/-- `global_running_tracker_cpu_loop.h`: one block for each CPU, which adds
`nr_running` of its run queue if `bpf_per_cpu_ptr` finds it. The sum of so many
32-bit numbers fits an `__s64`. -/
def cpuLoop (runqueues : List (Option UInt32)) : Int :=
  runqueues.foldl
    (fun sample rq =>
      match rq with
      | some nrRunning => sample + nrRunning.toNat
      | none => sample)
    0

theorem cpuLoop_nonneg (runqueues : List (Option UInt32)) : 0 ≤ cpuLoop runqueues := by
  suffices grows : ∀ sample : Int, 0 ≤ sample → 0 ≤ runqueues.foldl
      (fun sample rq =>
        match rq with
        | some nrRunning => sample + nrRunning.toNat
        | none => sample) sample from grows 0 (Int.le_refl 0)
  induction runqueues with
  | nil => exact fun _ nonneg => nonneg
  | cons rq rest inductionHypothesis =>
      intro sample nonneg
      rw [List.foldl_cons]
      cases rq with
      | none => exact inductionHypothesis sample nonneg
      | some nrRunning => exact inductionHypothesis (sample + nrRunning.toNat) (by omega)

/-- `nr_running_avg_sample_cb`. -/
def nrRunningAvgSampleCb : SampleMap → PhantomAvgCtx → Nat → PhantomAvgCtx := phantomAvgCb

/-- The context after `bpf_for_each_map_elem` over the array that stopped
collecting. -/
def nrRunningAvgFold (map : SampleMap) (nbSamples : Nat) : PhantomAvgCtx :=
  (List.range map.maxEntries).foldl (nrRunningAvgSampleCb map) ⟨0, 0, nbSamples⟩

/-- `avg_ctx.sum / avg_ctx.total_time`, an unsigned division. -/
def runnxAvg (ctx : PhantomAvgCtx) : Nat :=
  if ctx.totalTime > 0 then (ctx.sum % 2 ^ 64).toNat / ctx.totalTime else 0

namespace Tracker

/-- `global_running_tracker_switch_handler`. The update of the array is refused
at or past `max_entries`, and its result is ignored. -/
def switchHandler (sample : GlobalRunnxSample) (tracker : Tracker) : Tracker :=
  let buff := tracker.state.active
  let idx := tracker.state.index buff
  { state := tracker.state.setIndex buff (idx + 1)
    buffs := Function.update tracker.buffs buff
      ((tracker.buffs buff).updateElem idx.toNat sample) }

/-- The part of `idle_avg_timer_cb` before the fold: both boundary samples and the
swap. -/
def closeWindow (boundary : GlobalRunnxSample) (tracker : Tracker) : Tracker :=
  let old := tracker.state.active
  let new := old.other
  let opened := Function.update tracker.buffs new ((tracker.buffs new).updateElem 0 boundary)
  let swapped := (tracker.state.setIndex new 1).swapCollectx
  let endIdx := swapped.index old
  { state := swapped.setIndex old (endIdx + 1)
    buffs := Function.update opened old ((opened old).updateElem endIdx.toNat boundary) }

/-- The context that `idle_avg_timer_cb` has folded. -/
def avgCtx (boundary : GlobalRunnxSample) (tracker : Tracker) : PhantomAvgCtx :=
  let old := tracker.state.active
  nrRunningAvgFold ((tracker.closeWindow boundary).buffs old) (tracker.state.index old).toNat

/-- `idle_avg_timer_cb`. -/
def idleAvgTimerCb (boundary : GlobalRunnxSample) (tracker : Tracker) : Tracker :=
  let closed := tracker.closeWindow boundary
  { closed with state := closed.state.publish (runnxAvg (tracker.avgCtx boundary)) }

/-- `main` of the loader: a pinned state is reused as it is, and the arrays are
new in any case. -/
def load (pinned : Option GlobalRunnxTrackerState) (nbCpus : Nat) : Tracker where
  state := pinned.getD ⟨0, 0, 0, nbCpus, 0, 0⟩
  buffs := fun _ => .fresh collectxMaxEntries

end Tracker

/-- One execution of the handler or of the timer callback, with the run queues
and the clock that it reads. -/
inductive TrackerEvent where
  | switch (runqueues : List (Option UInt32)) (now : Nat)
  | tick (runqueues : List (Option UInt32)) (now : Nat)
deriving DecidableEq, Repr

/-- The sample that the event records. -/
def TrackerEvent.sample : TrackerEvent → GlobalRunnxSample
  | .switch runqueues now => ⟨cpuLoop runqueues, now⟩
  | .tick runqueues now => ⟨cpuLoop runqueues, now⟩

def Tracker.handle (tracker : Tracker) (event : TrackerEvent) : Tracker :=
  match event with
  | .switch _ _ => tracker.switchHandler event.sample
  | .tick _ _ => tracker.idleAvgTimerCb event.sample

/-! ## What an event leaves behind -/

namespace Tracker

variable {tracker : Tracker} {boundary : GlobalRunnxSample}

theorem switchHandler_active (sample : GlobalRunnxSample) :
    (tracker.switchHandler sample).state.active = tracker.state.active :=
  GlobalRunnxTrackerState.setIndex_active _ _ _

theorem switchHandler_index (sample : GlobalRunnxSample) :
    (tracker.switchHandler sample).state.index tracker.state.active =
      tracker.state.index tracker.state.active + 1 :=
  GlobalRunnxTrackerState.setIndex_index _ _ _

theorem switchHandler_buffs_active (sample : GlobalRunnxSample) :
    (tracker.switchHandler sample).buffs tracker.state.active =
      (tracker.buffs tracker.state.active).updateElem
        (tracker.state.index tracker.state.active).toNat sample :=
  Function.update_self _ _ _

theorem switchHandler_buffs_other (sample : GlobalRunnxSample) :
    (tracker.switchHandler sample).buffs tracker.state.active.other =
      tracker.buffs tracker.state.active.other :=
  Function.update_of_ne (Buff.other_ne _) _ _

theorem closeWindow_old :
    (tracker.closeWindow boundary).buffs tracker.state.active =
      (tracker.buffs tracker.state.active).updateElem
        (tracker.state.index tracker.state.active).toNat boundary := by
  unfold closeWindow
  dsimp only
  rw [Function.update_self, Function.update_of_ne (Buff.other_ne _).symm,
    GlobalRunnxTrackerState.swapCollectx_index, GlobalRunnxTrackerState.setIndex_other_index]

theorem closeWindow_new :
    (tracker.closeWindow boundary).buffs tracker.state.active.other =
      (tracker.buffs tracker.state.active.other).updateElem 0 boundary := by
  unfold closeWindow
  dsimp only
  rw [Function.update_of_ne (Buff.other_ne _), Function.update_self]

theorem closeWindow_index_old :
    (tracker.closeWindow boundary).state.index tracker.state.active =
      tracker.state.index tracker.state.active + 1 := by
  unfold closeWindow
  dsimp only
  rw [GlobalRunnxTrackerState.setIndex_index, GlobalRunnxTrackerState.swapCollectx_index,
    GlobalRunnxTrackerState.setIndex_other_index]

theorem closeWindow_index_new :
    (tracker.closeWindow boundary).state.index tracker.state.active.other = 1 := by
  unfold closeWindow
  dsimp only
  rw [GlobalRunnxTrackerState.setIndex_index_other, GlobalRunnxTrackerState.swapCollectx_index,
    GlobalRunnxTrackerState.setIndex_index]

theorem closeWindow_active :
    (tracker.closeWindow boundary).state.active =
      if tracker.state.isCollectxInBuff1 = 0 ∨ tracker.state.isCollectxInBuff1 = 1 then
        tracker.state.active.other
      else tracker.state.active := by
  unfold closeWindow
  dsimp only
  rw [GlobalRunnxTrackerState.setIndex_active, GlobalRunnxTrackerState.swapCollectx_active,
    GlobalRunnxTrackerState.setIndex_isCollectxInBuff1, GlobalRunnxTrackerState.setIndex_active]

theorem closeWindow_flag
    (flag : tracker.state.isCollectxInBuff1 = 0 ∨ tracker.state.isCollectxInBuff1 = 1) :
    (tracker.closeWindow boundary).state.isCollectxInBuff1 = 0 ∨
      (tracker.closeWindow boundary).state.isCollectxInBuff1 = 1 := by
  unfold closeWindow
  dsimp only
  rw [GlobalRunnxTrackerState.setIndex_isCollectxInBuff1]
  apply GlobalRunnxTrackerState.swapCollectx_flag
  rw [GlobalRunnxTrackerState.setIndex_isCollectxInBuff1]
  exact flag

theorem idleAvgTimerCb_state :
    (tracker.idleAvgTimerCb boundary).state =
      (tracker.closeWindow boundary).state.publish (runnxAvg (tracker.avgCtx boundary)) := rfl

theorem idleAvgTimerCb_old :
    (tracker.idleAvgTimerCb boundary).buffs tracker.state.active =
      (tracker.buffs tracker.state.active).updateElem
        (tracker.state.index tracker.state.active).toNat boundary :=
  closeWindow_old

theorem idleAvgTimerCb_new :
    (tracker.idleAvgTimerCb boundary).buffs tracker.state.active.other =
      (tracker.buffs tracker.state.active.other).updateElem 0 boundary :=
  closeWindow_new

theorem idleAvgTimerCb_index_old :
    (tracker.idleAvgTimerCb boundary).state.index tracker.state.active =
      tracker.state.index tracker.state.active + 1 := by
  rw [idleAvgTimerCb_state, GlobalRunnxTrackerState.publish_index, closeWindow_index_old]

theorem idleAvgTimerCb_index_new :
    (tracker.idleAvgTimerCb boundary).state.index tracker.state.active.other = 1 := by
  rw [idleAvgTimerCb_state, GlobalRunnxTrackerState.publish_index, closeWindow_index_new]

theorem idleAvgTimerCb_active :
    (tracker.idleAvgTimerCb boundary).state.active =
      if tracker.state.isCollectxInBuff1 = 0 ∨ tracker.state.isCollectxInBuff1 = 1 then
        tracker.state.active.other
      else tracker.state.active := by
  rw [idleAvgTimerCb_state, GlobalRunnxTrackerState.publish_active, closeWindow_active]

theorem idleAvgTimerCb_flag
    (flag : tracker.state.isCollectxInBuff1 = 0 ∨ tracker.state.isCollectxInBuff1 = 1) :
    (tracker.idleAvgTimerCb boundary).state.isCollectxInBuff1 = 0 ∨
      (tracker.idleAvgTimerCb boundary).state.isCollectxInBuff1 = 1 := by
  rw [idleAvgTimerCb_state, GlobalRunnxTrackerState.publish_isCollectxInBuff1]
  exact closeWindow_flag flag

theorem handle_maxEntries (event : TrackerEvent) (buff : Buff) :
    ((tracker.handle event).buffs buff).maxEntries = (tracker.buffs buff).maxEntries := by
  unfold handle
  by_cases collecting : buff = tracker.state.active
  · subst collecting
    split
    · rw [switchHandler_buffs_active, SampleMap.updateElem_maxEntries]
    · rw [idleAvgTimerCb_old, SampleMap.updateElem_maxEntries]
  · rw [Buff.eq_other_of_ne collecting]
    split
    · rw [switchHandler_buffs_other]
    · rw [idleAvgTimerCb_new, SampleMap.updateElem_maxEntries]

end Tracker

/-! ## The weight of a sample -/

/-- How long sample `k` counts in the fold. -/
def weight (map : SampleMap) (nbSamples k : Nat) : Nat :=
  if k ≥ nbSamples then 0
  else
    match map.lookupElem (u32Succ k) with
    | none => 0
    | some nextSample => nextSample.timestamp - (map.slot k).timestamp

/-- The context of the fold before callback `n`. -/
def weightedCtx (map : SampleMap) (nbSamples n : Nat) : PhantomAvgCtx where
  sum := s64 (∑ k ∈ Finset.range n, max 0 (map.slot k).count * weight map nbSamples k)
  totalTime := u64 (∑ k ∈ Finset.range n, weight map nbSamples k)
  nbSamples := nbSamples

theorem weightedCtx_succ (map : SampleMap) (nbSamples n : Nat) :
    weightedCtx map nbSamples (n + 1) =
      ⟨s64 ((weightedCtx map nbSamples n).sum +
          s64 (max 0 (map.slot n).count * s64 (weight map nbSamples n))),
        u64 ((weightedCtx map nbSamples n).totalTime + weight map nbSamples n), nbSamples⟩ := by
  unfold weightedCtx s64 u64
  dsimp only
  rw [Finset.sum_range_succ, Finset.sum_range_succ, Int.mul_bmod_bmod, Int.add_bmod_bmod,
    Int.bmod_add_bmod, Nat.mod_add_mod]

/-- A callback whose sample has no weight leaves the context as it is. -/
theorem weightedCtx_succ_of_zero {map : SampleMap} {nbSamples n : Nat}
    (zero : weight map nbSamples n = 0) :
    weightedCtx map nbSamples (n + 1) = weightedCtx map nbSamples n := by
  unfold weightedCtx
  simp [Finset.sum_range_succ, zero]

theorem nrRunningAvgSampleCb_weightedCtx (map : SampleMap) (nbSamples n : Nat) :
    nrRunningAvgSampleCb map (weightedCtx map nbSamples n) n =
      weightedCtx map nbSamples (n + 1) := by
  have shape : weight map nbSamples n = if n ≥ nbSamples then 0 else
      match map.lookupElem (u32Succ n) with
      | none => 0
      | some nextSample => nextSample.timestamp - (map.slot n).timestamp := rfl
  unfold nrRunningAvgSampleCb phantomAvgCb
  by_cases past : n ≥ nbSamples
  · rw [if_pos past] at shape
    rw [weightedCtx_succ_of_zero shape]
    exact if_pos past
  rw [if_neg past] at shape
  rw [if_neg (show ¬ n ≥ (weightedCtx map nbSamples n).nbSamples from past)]
  cases next : map.lookupElem (u32Succ n) with
  | none =>
      rw [next] at shape
      rw [weightedCtx_succ_of_zero shape]
  | some nextSample =>
      rw [next] at shape
      dsimp only at shape ⊢
      by_cases backwards : nextSample.timestamp < (map.slot n).timestamp
      · rw [Nat.sub_eq_zero_of_le backwards.le] at shape
        rw [if_pos backwards, weightedCtx_succ_of_zero shape]
      · have clamped : (if (map.slot n).count < 0 then 0 else (map.slot n).count) =
            max 0 (map.slot n).count := by
          split_ifs <;> omega
        rw [if_neg backwards, clamped, ← shape, weightedCtx_succ]
        rfl

/-- The fold adds up the weights and the weighted counts. -/
theorem nrRunningAvgFold_eq_weightedCtx (map : SampleMap) (nbSamples : Nat) :
    nrRunningAvgFold map nbSamples = weightedCtx map nbSamples map.maxEntries := by
  suffices upTo : ∀ n, (List.range n).foldl (nrRunningAvgSampleCb map) ⟨0, 0, nbSamples⟩ =
      weightedCtx map nbSamples n from upTo map.maxEntries
  intro n
  induction n with
  | zero => rfl
  | succ n inductionHypothesis =>
      rw [List.range_succ, List.foldl_append, inductionHypothesis]
      exact nrRunningAvgSampleCb_weightedCtx map nbSamples n

end PhantomTracker.Idle
