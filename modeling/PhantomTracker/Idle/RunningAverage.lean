import PhantomTracker.Foundation.Runs
import PhantomTracker.Foundation.StepFunction
import PhantomTracker.Host.Averaging
import PhantomTracker.Idle.Tracker

/-!
Contract: what the idle tracker publishes in a run from a fresh start.

Owns: the sampled run-queue sum as a step function of time, runs of the tracker
with the window between the last two ticks, and that the published average is the
time-weighted mean over the whole window as long as the window fits the array.

Does not own: a start from a pinned state.
-/

namespace PhantomTracker.Idle

open PhantomTracker.Foundation
open PhantomTracker.Host

/-! ## Samples of one window -/

/-- The samples `0 .. last` of an array record the sum since `start`, when the
window was opened. `clock` is not before the newest of them. -/
structure Collected (trace : Trace Int) (map : SampleMap) (start clock last : Nat) : Prop where
  sampled : Sampled trace.valueAt map.counts map.timestamps last
  opened : map.timestamps 0 = start
  newest : map.timestamps last ≤ clock
  nonneg : ∀ k ≤ last, 0 ≤ map.counts k

section Window

variable {trace : Trace Int} {map : SampleMap} {start clock last : Nat}

/-- The boundary sample opens a window. -/
theorem collected_open (sample : GlobalRunnxSample) (room : 0 < map.maxEntries)
    (nonneg : 0 ≤ sample.count) :
    Collected (trace.record sample.timestamp sample.count) (map.updateElem 0 sample)
      sample.timestamp sample.timestamp 0 := by
  have first : (map.updateElem 0 sample).slot 0 = sample := SampleMap.updateElem_slot_same room _
  have time : (map.updateElem 0 sample).timestamps 0 = sample.timestamp :=
    congrArg PhantomCount.timestamp first
  have count : (map.updateElem 0 sample).counts 0 = sample.count :=
    congrArg PhantomCount.count first
  refine ⟨Sampled.single fun t reached => ?_, time, time.le, fun k within => ?_⟩
  · rw [time] at reached
    rw [Trace.valueAt_record, if_pos reached, count]
  · obtain rfl : k = 0 := Nat.le_zero.mp within
    rw [count]
    exact nonneg

/-- A sample that is not before the others extends the window. -/
theorem Collected.append (collected : Collected trace map start clock last)
    (sample : GlobalRunnxSample) (room : last + 1 < map.maxEntries)
    (later : clock ≤ sample.timestamp)
    (nonneg : 0 ≤ sample.count) :
    Collected (trace.record sample.timestamp sample.count) (map.updateElem (last + 1) sample)
      start sample.timestamp (last + 1) := by
  have added : (map.updateElem (last + 1) sample).slot (last + 1) = sample :=
    SampleMap.updateElem_slot_same room _
  have kept : ∀ k ≤ last, (map.updateElem (last + 1) sample).slot k = map.slot k :=
    fun k within => map.updateElem_slot_of_ne (by omega) _
  have time : (map.updateElem (last + 1) sample).timestamps (last + 1) = sample.timestamp :=
    congrArg PhantomCount.timestamp added
  have count : (map.updateElem (last + 1) sample).counts (last + 1) = sample.count :=
    congrArg PhantomCount.count added
  constructor
  · apply collected.sampled.extend
    · exact fun k within => congrArg PhantomCount.count (kept k within)
    · exact fun k within => congrArg PhantomCount.timestamp (kept k within)
    · rw [time]
      exact collected.newest.trans later
    · intro t earlier
      rw [time] at earlier
      rw [Trace.valueAt_record, if_neg (not_le.mpr earlier)]
    · intro t reached
      rw [time] at reached
      rw [Trace.valueAt_record, if_pos reached, count]
  · exact (congrArg PhantomCount.timestamp (kept 0 (Nat.zero_le last))).trans collected.opened
  · exact time.le
  · intro k within
    by_cases newest : k = last + 1
    · rw [newest, count]
      exact nonneg
    · have old : k ≤ last := by omega
      have same : (map.updateElem (last + 1) sample).counts k = map.counts k :=
        congrArg PhantomCount.count (kept k old)
      rw [same]
      exact collected.nonneg k old

/-- The weighted sum of the samples is the integral of the sum over their time. -/
theorem Collected.weighted_eq (collected : Collected trace map start clock last) :
    map.weighted last = ∑ t ∈ Finset.Ico start (map.timestamps last), trace.valueAt t := by
  rw [← collected.opened, collected.sampled.integral]
  rfl

/-- The sample that closes a window: if neither its length nor the integral over it
overflows, the fold over it is exact, and ends with the integral and the length
of the window. -/
theorem Collected.close (collected : Collected trace map start clock last)
    (sample : GlobalRunnxSample) (room : last + 1 < map.maxEntries)
    (capacity : map.maxEntries ≤ 2 ^ 32) (later : clock ≤ sample.timestamp)
    (nonneg : 0 ≤ sample.count) (bounded : sample.timestamp < 2 ^ 64)
    (sum : ∑ t ∈ Finset.Ico start sample.timestamp, trace.valueAt t < 2 ^ 63) :
    (map.updateElem (last + 1) sample).ExactWindow (last + 1) ∧
      ∀ nbSamples, windowCtx (map.updateElem (last + 1) sample) nbSamples (last + 1) =
        ⟨∑ t ∈ Finset.Ico start sample.timestamp, trace.valueAt t,
          sample.timestamp - start, nbSamples⟩ := by
  have closed := collected.append sample room later nonneg
  have time : (map.updateElem (last + 1) sample).timestamps (last + 1) = sample.timestamp :=
    congrArg PhantomCount.timestamp (SampleMap.updateElem_slot_same room _)
  -- the closing sample changes the recorded sum only from its own time on
  have weighted : (map.updateElem (last + 1) sample).weighted (last + 1) =
      ∑ t ∈ Finset.Ico start sample.timestamp, trace.valueAt t := by
    rw [closed.weighted_eq, time]
    apply Finset.sum_congr rfl
    intro t member
    rw [Trace.valueAt_record, if_neg (not_le.mpr (Finset.mem_Ico.mp member).2)]
  refine ⟨⟨?_, ?_, ?_, ?_, ?_, ?_⟩, fun nbSamples => ?_⟩
  · rw [SampleMap.updateElem_maxEntries]
    exact room
  · rw [SampleMap.updateElem_maxEntries]
    exact capacity
  · exact fun _ _ before within => closed.sampled.time_le_time before within
  · exact fun k below => closed.nonneg k below.le
  · rw [weighted]
    exact sum
  · omega
  · unfold windowCtx
    rw [weighted, time, closed.opened]

end Window

/-- The quotient of a window without overflow. -/
theorem runnxAvg_of_lt {sum : Int} {totalTime nbSamples : Nat} (nonneg : 0 ≤ sum)
    (below : sum < 2 ^ 63) :
    (runnxAvg ⟨sum, totalTime, nbSamples⟩ : Int) = sum / totalTime := by
  unfold runnxAvg
  dsimp only
  by_cases empty : totalTime = 0
  · rw [if_neg (by omega), empty]
    exact (Int.ediv_zero sum).symm
  · obtain ⟨value, asNat⟩ := Int.eq_ofNat_of_zero_le nonneg
    have small : (sum % 2 ^ 64).toNat = value := by omega
    rw [if_pos (Nat.pos_of_ne_zero empty), small, asNat, Int.natCast_div]

/-! ## Runs -/

/-- The tracker in a run: the time of its newest event, the sums sampled so far,
and the boundary timestamp of the last tick. -/
structure TrackerRun where
  tracker : Tracker
  clock : Nat
  trace : Trace Int
  windowStart : Option Nat

def TrackerEvent.now : TrackerEvent → Nat
  | .switch _ now => now
  | .tick _ now => now

namespace TrackerRun

/-- A freshly initialised tracker. -/
def fresh (nbCpus : Nat) : TrackerRun := ⟨Tracker.load none nbCpus, 0, ⟨0, []⟩, none⟩

def after (state : TrackerRun) (event : TrackerEvent) : TrackerRun where
  tracker := state.tracker.handle event
  clock := event.now
  trace := state.trace.record event.sample.timestamp event.sample.count
  windowStart :=
    match event with
    | .switch _ _ => state.windowStart
    | .tick _ now => some now

def step (state : TrackerRun) (event : TrackerEvent) : Option TrackerRun := some (state.after event)

/-- The clock does not go back, and the weighted sum of a window that the event
closes does not overflow. -/
def Serialised (state : TrackerRun) (event : TrackerEvent) : Prop :=
  state.clock ≤ event.now ∧ event.now < 2 ^ 64 ∧
    match event with
    | .switch _ _ => True
    | .tick _ now => ∀ start, state.windowStart = some start →
        ∑ t ∈ Finset.Ico start now, state.trace.valueAt t < 2 ^ 63

/-- After the first tick, a switch leaves a slot for the boundary sample. -/
def LeavesRoom (state : TrackerRun) : TrackerEvent → Prop
  | .switch _ _ => state.windowStart.isSome = true →
      (state.tracker.state.index state.tracker.state.active).toNat + 1 < collectxMaxEntries
  | .tick _ _ => True

/-- A tick after the first weights the whole window, and publishes the mean of the
sampled sums over it. -/
def AveragesWindow (state : TrackerRun) (runqueues : List (Option UInt32)) (now : Nat) : Prop :=
  ∀ start, state.windowStart = some start →
    (state.tracker.avgCtx ⟨cpuLoop runqueues, now⟩).totalTime = now - start ∧
    ((state.tracker.idleAvgTimerCb ⟨cpuLoop runqueues, now⟩).state.globalRunnxAvg : Int) =
      (∑ t ∈ Finset.Ico start now, state.trace.valueAt t) / ((now - start : Nat) : Int)

/-- What holds between two events. -/
structure Sound (state : TrackerRun) : Prop where
  flag : state.tracker.state.isCollectxInBuff1 = 0 ∨ state.tracker.state.isCollectxInBuff1 = 1
  capacity : ∀ buff, (state.tracker.buffs buff).maxEntries = collectxMaxEntries
  window : ∀ start, state.windowStart = some start →
    ∃ last, (state.tracker.state.index state.tracker.state.active).toNat = last + 1 ∧
      last + 1 < collectxMaxEntries ∧
      Collected state.trace (state.tracker.buffs state.tracker.state.active) start state.clock last

theorem sound_fresh (nbCpus : Nat) : (fresh nbCpus).Sound where
  flag := Or.inl rfl
  capacity _ := rfl
  window _ opened := nomatch opened

variable {state : TrackerRun} {runqueues : List (Option UInt32)} {now : Nat}

theorem Sound.switch (sound : state.Sound) (serialised : state.Serialised (.switch runqueues now))
    (room : state.LeavesRoom (.switch runqueues now)) :
    (state.after (.switch runqueues now)).Sound := by
  have active : (state.after (.switch runqueues now)).tracker.state.active =
      state.tracker.state.active := Tracker.switchHandler_active _
  constructor
  · have flag : (state.after (.switch runqueues now)).tracker.state.isCollectxInBuff1 =
        state.tracker.state.isCollectxInBuff1 :=
      GlobalRunnxTrackerState.setIndex_isCollectxInBuff1 _ _ _
    rw [flag]
    exact sound.flag
  · intro buff
    exact (state.tracker.handle_maxEntries (.switch runqueues now) buff).trans (sound.capacity buff)
  · intro start opened
    rcases sound.window start opened with ⟨last, index, inside, collected⟩
    have free : last + 1 + 1 < collectxMaxEntries := index ▸ room (Option.isSome_of_eq_some opened)
    have capacity := sound.capacity state.tracker.state.active
    refine ⟨last + 1, ?_, free, ?_⟩
    · have advanced : (state.after (.switch runqueues now)).tracker.state.index
          state.tracker.state.active = state.tracker.state.index state.tracker.state.active + 1 :=
        Tracker.switchHandler_index _
      unfold collectxMaxEntries at free
      rw [active, advanced, UInt32.toNat_add, index, UInt32.toNat_one]
      omega
    · have written : (state.after (.switch runqueues now)).tracker.buffs state.tracker.state.active =
          (state.tracker.buffs state.tracker.state.active).updateElem (last + 1)
            ⟨cpuLoop runqueues, now⟩ := by
        rw [← index]
        exact Tracker.switchHandler_buffs_active _
      rw [active, written]
      exact collected.append ⟨cpuLoop runqueues, now⟩ (by omega) serialised.1 (cpuLoop_nonneg _)

theorem Sound.tick (sound : state.Sound) : (state.after (.tick runqueues now)).Sound := by
  have active : (state.after (.tick runqueues now)).tracker.state.active =
      state.tracker.state.active.other := by
    have selected : (state.after (.tick runqueues now)).tracker.state.active = _ :=
      Tracker.idleAvgTimerCb_active
    rw [selected, if_pos sound.flag]
  constructor
  · exact Tracker.idleAvgTimerCb_flag sound.flag
  · intro buff
    exact (state.tracker.handle_maxEntries (.tick runqueues now) buff).trans (sound.capacity buff)
  · intro start opened
    obtain rfl := Option.some.inj opened
    have capacity := sound.capacity state.tracker.state.active.other
    refine ⟨0, ?_, by decide, ?_⟩
    · have reset : (state.after (.tick runqueues now)).tracker.state.index
          state.tracker.state.active.other = 1 :=
        Tracker.idleAvgTimerCb_index_new
      rw [active, reset]
      rfl
    · have written : (state.after (.tick runqueues now)).tracker.buffs
          state.tracker.state.active.other =
          (state.tracker.buffs state.tracker.state.active.other).updateElem 0
            ⟨cpuLoop runqueues, now⟩ :=
        Tracker.idleAvgTimerCb_new
      rw [active, written]
      exact collected_open ⟨cpuLoop runqueues, now⟩ (by rw [capacity]; decide) (cpuLoop_nonneg _)

theorem Sound.step (sound : state.Sound) {event : TrackerEvent} {next : TrackerRun}
    (serialised : state.Serialised event) (room : state.LeavesRoom event)
    (taken : state.step event = some next) : next.Sound := by
  obtain rfl := Option.some.inj taken
  cases event with
  | switch runqueues now => exact sound.switch serialised room
  | tick runqueues now => exact sound.tick

/-- One tick. The window that it closes is in order, so the fold is exact. -/
theorem Sound.averagesWindow (sound : state.Sound)
    (serialised : state.Serialised (.tick runqueues now)) :
    state.AveragesWindow runqueues now := by
  intro start opened
  rcases sound.window start opened with ⟨last, index, inside, collected⟩
  rcases serialised with ⟨later, bounded, noOverflow⟩
  have capacity := sound.capacity state.tracker.state.active
  have sum := noOverflow start opened
  rcases collected.close ⟨cpuLoop runqueues, now⟩ (by omega) (by rw [capacity]; decide) later
    (cpuLoop_nonneg _) bounded sum with ⟨window, closed⟩
  have folded : state.tracker.avgCtx ⟨cpuLoop runqueues, now⟩ =
      ⟨∑ t ∈ Finset.Ico start now, state.trace.valueAt t, now - start, last + 1⟩ := by
    unfold Tracker.avgCtx
    dsimp only
    rw [Tracker.closeWindow_old, index, ← closed]
    exact phantomAvgFold_window window
  have nonneg : 0 ≤ ∑ t ∈ Finset.Ico start now, state.trace.valueAt t :=
    le_of_le_of_eq (window.weighted_nonneg le_rfl)
      (congrArg PhantomAvgCtx.sum (closed (last + 1)))
  constructor
  · rw [folded]
  · rw [Tracker.idleAvgTimerCb_state, folded]
    exact runnxAvg_of_lt nonneg sum

/-- **The running average.** In every run from a fresh start in which every switch
leaves a slot for the boundary sample, every tick after the first weights its
whole window and publishes the mean over it. -/
theorem averages_window_of_room {nbCpus : Nat} {events : List TrackerEvent}
    (run : GuardedRun step (fun state event => state.Serialised event ∧ state.LeavesRoom event)
      (fresh nbCpus) events state)
    (runqueues : List (Option UInt32)) (now : Nat)
    (serialised : state.Serialised (.tick runqueues now)) :
    state.AveragesWindow runqueues now := by
  have sound : state.Sound := by
    apply run.invariant Sound _ (sound_fresh nbCpus)
    intro before event next sound allowed taken
    exact sound.step allowed.1 allowed.2 taken
  exact sound.averagesWindow serialised

/-- Two tasks run for two time units and four for eight: the average is 3. -/
theorem two_then_four_average :
    ∃ state, GuardedRun step (fun state event => state.Serialised event ∧ state.LeavesRoom event)
        (fresh 8) [.tick [some 2] 10, .switch [some 4] 12] state ∧
      (state.tracker.idleAvgTimerCb ⟨cpuLoop [some 4], 20⟩).state.globalRunnxAvg = 3 := by
  have run : GuardedRun step
      (fun state event => state.Serialised event ∧ state.LeavesRoom event) (fresh 8)
      [.tick [some 2] 10, .switch [some 4] 12]
      (((fresh 8).after (.tick [some 2] 10)).after (.switch [some 4] 12)) := by
    apply GuardedRun.cons ⟨⟨Nat.zero_le _, by decide, fun _ opened => nomatch opened⟩, trivial⟩ rfl
    apply GuardedRun.cons ⟨⟨by decide, by decide, trivial⟩, fun _ => by decide +kernel⟩ rfl
    exact .nil _
  refine ⟨_, run, ?_⟩
  have averaged := averages_window_of_room run [some 4] 20 ⟨by decide, by decide, fun start opened =>
    Option.some.inj opened ▸ by decide +kernel⟩ 10 rfl
  apply Int.natCast_inj.mp
  rw [averaged.2]
  decide +kernel

/-! ## A burst of switches -/

/-- When the last slot has been taken, the boundary sample is lost, and with it the
time from the sample in the last slot to the tick. -/
theorem Sound.totalTime_of_full (sound : state.Sound) {start filled : Nat}
    (opened : state.windowStart = some start)
    (lastSlot : (state.tracker.state.index state.tracker.state.active).toNat + 1 =
      collectxMaxEntries)
    (later : state.clock ≤ filled) (bounded : filled < 2 ^ 64)
    (sum : ∑ t ∈ Finset.Ico start filled, state.trace.valueAt t < 2 ^ 63)
    (taken boundary : List (Option UInt32)) (now : Nat) :
    ((state.after (.switch taken filled)).tracker.avgCtx ⟨cpuLoop boundary, now⟩).totalTime =
      filled - start := by
  rcases sound.window start opened with ⟨last, index, inside, collected⟩
  have capacity := sound.capacity state.tracker.state.active
  rcases collected.close ⟨cpuLoop taken, filled⟩ (by omega) (by rw [capacity]; decide) later
    (cpuLoop_nonneg _) bounded sum with ⟨window, closed⟩
  have active : (state.after (.switch taken filled)).tracker.state.active =
      state.tracker.state.active := Tracker.switchHandler_active _
  have advanced : ((state.after (.switch taken filled)).tracker.state.index
      state.tracker.state.active).toNat = last + 1 + 1 := by
    have next : (state.after (.switch taken filled)).tracker.state.index
        state.tracker.state.active = state.tracker.state.index state.tracker.state.active + 1 :=
      Tracker.switchHandler_index _
    unfold collectxMaxEntries at inside
    rw [next, UInt32.toNat_add, index, UInt32.toNat_one]
    omega
  have written : (state.after (.switch taken filled)).tracker.buffs state.tracker.state.active =
      (state.tracker.buffs state.tracker.state.active).updateElem (last + 1)
        ⟨cpuLoop taken, filled⟩ := by
    rw [← index]
    exact Tracker.switchHandler_buffs_active _
  generalize (state.tracker.buffs state.tracker.state.active).updateElem (last + 1)
    ⟨cpuLoop taken, filled⟩ = map at window closed written
  have full : map.maxEntries = last + 1 + 1 := by
    rw [← written]
    exact (state.tracker.handle_maxEntries (.switch taken filled) _).trans
      (capacity.trans (by omega))
  have refused : map.updateElem (last + 1 + 1) ⟨cpuLoop boundary, now⟩ = map :=
    if_neg (by omega)
  unfold Tracker.avgCtx
  dsimp only
  rw [Tracker.closeWindow_old, active, advanced, written, refused]
  unfold collectxMaxEntries at lastSlot
  have folded := phantomAvgFold_full window full (by omega) (Nat.le_succ (last + 1))
  rw [closed] at folded
  exact congrArg PhantomAvgCtx.totalTime folded

/-- A first tick on an idle host, then `n` switches at time 1 with four runnable
tasks. -/
def burst : Nat → TrackerRun
  | 0 => (fresh 8).after (.tick [some 0] 0)
  | n + 1 => (burst n).after (.switch [some 4] 1)

theorem burst_serialised (n : Nat) : (burst n).Serialised (.switch [some 4] 1) := by
  refine ⟨?_, by decide, trivial⟩
  cases n with
  | zero => decide
  | succ n => exact le_rfl

theorem burst_windowStart (n : Nat) : (burst n).windowStart = some 0 := by
  induction n with
  | zero => rfl
  | succ n inductionHypothesis => exact inductionHypothesis

theorem burst_valueAt_le (n t : Nat) : (burst n).trace.valueAt t ≤ 4 := by
  induction n with
  | zero =>
      have recorded : (burst 0).trace.valueAt t = if 0 ≤ t then cpuLoop [some 0] else 0 :=
        Trace.valueAt_record _ _ _ _
      rw [recorded, if_pos (Nat.zero_le t)]
      decide
  | succ n inductionHypothesis =>
      have recorded : (burst (n + 1)).trace.valueAt t =
          if 1 ≤ t then cpuLoop [some 4] else (burst n).trace.valueAt t :=
        Trace.valueAt_record _ _ _ _
      rw [recorded]
      split
      · decide
      · exact inductionHypothesis

theorem burst_sum (n length : Nat) :
    ∑ t ∈ Finset.Ico 0 length, (burst n).trace.valueAt t ≤ 4 * length := by
  have bounded := Finset.sum_le_card_nsmul (Finset.Ico 0 length) (burst n).trace.valueAt 4
    fun t _ => burst_valueAt_le n t
  rw [Nat.card_Ico, nsmul_eq_mul, mul_comm] at bounded
  exact bounded

theorem burst_index {n : Nat} (below : n < collectxMaxEntries) :
    ((burst n).tracker.state.index (burst n).tracker.state.active).toNat = n + 1 := by
  induction n with
  | zero => decide +kernel
  | succ n inductionHypothesis =>
      have before := inductionHypothesis (by omega)
      have advanced : (burst (n + 1)).tracker.state.index (burst n).tracker.state.active =
          (burst n).tracker.state.index (burst n).tracker.state.active + 1 :=
        Tracker.switchHandler_index _
      have active : (burst (n + 1)).tracker.state.active = (burst n).tracker.state.active :=
        Tracker.switchHandler_active _
      unfold collectxMaxEntries at below
      rw [active, advanced, UInt32.toNat_add, before, UInt32.toNat_one]
      omega

theorem sound_burst {n : Nat} (below : n + 1 < collectxMaxEntries) : (burst n).Sound := by
  induction n with
  | zero => exact (sound_fresh 8).tick
  | succ n inductionHypothesis =>
      apply (inductionHypothesis (by omega)).switch (burst_serialised n)
      intro _
      rw [burst_index (by omega)]
      exact below

theorem burst_run (m n : Nat) :
    GuardedRun step Serialised (burst m) (List.replicate n (.switch [some 4] 1))
      (burst (m + n)) := by
  induction n generalizing m with
  | zero => exact .nil _
  | succ n inductionHypothesis =>
      have later : m + (n + 1) = m + 1 + n := by omega
      rw [List.replicate_succ, later]
      exact .cons (burst_serialised m) rfl (inductionHypothesis (m + 1))

/-- A window with 2999 switches: of its three time units only the first is
weighted. -/
theorem burst_loses_boundary :
    GuardedRun step Serialised (fresh 8)
        (.tick [some 0] 0 :: List.replicate 2999 (.switch [some 4] 1)) (burst 2999) ∧
      (burst 2999).Serialised (.tick [some 4] 3) ∧
      ((burst 2999).tracker.avgCtx ⟨cpuLoop [some 4], 3⟩).totalTime = 1 ∧
      ¬ (burst 2999).AveragesWindow [some 4] 3 := by
  have weighted : ((burst 2999).tracker.avgCtx ⟨cpuLoop [some 4], 3⟩).totalTime = 1 := by
    apply (sound_burst (n := 2998) (by decide)).totalTime_of_full (burst_windowStart 2998)
    · rw [burst_index (by decide)]
      rfl
    · exact (burst_serialised 2998).1
    · decide
    · have bounded := burst_sum 2998 1
      omega
  refine ⟨?_, ⟨?_, by decide, ?_⟩, weighted, fun averaged => ?_⟩
  · apply GuardedRun.cons ⟨Nat.zero_le _, by decide, fun _ opened => nomatch opened⟩ rfl
    have run := burst_run 0 2999
    rw [Nat.zero_add] at run
    exact run
  · exact (burst_serialised 2999).1.trans (by decide)
  · intro start opened
    rw [burst_windowStart] at opened
    obtain rfl := Option.some.inj opened
    have bounded := burst_sum 2999 3
    omega
  · have whole := (averaged 0 (burst_windowStart 2999)).1
    rw [weighted] at whole
    cases whole

end TrackerRun

end PhantomTracker.Idle
