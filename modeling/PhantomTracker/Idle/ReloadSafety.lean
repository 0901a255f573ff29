import PhantomTracker.Host.Averaging
import PhantomTracker.Host.RecordedSlots
import PhantomTracker.Idle.Tracker

/-!
Contract: what the idle tracker publishes after a reload with a pinned state.

Owns: which slots of the new arrays have been recorded since the reload, and the
pinned states after which every published average weights recorded samples only.

Does not own: what the averages of a fresh start mean.
-/

namespace PhantomTracker.Idle

open PhantomTracker.Host

/-! ## Recorded slots -/

/-- The tracker, and the slots of its arrays recorded since the reload. -/
structure Recording where
  tracker : Tracker
  recorded : Buff → Nat → Bool

namespace Recording

/-- The tracker after a reload. -/
def reload (pinned : GlobalRunnxTrackerState) (nbCpus : Nat) : Recording where
  tracker := Tracker.load (some pinned) nbCpus
  recorded := fun _ _ => false

/-- The buffer that collects. -/
def active (recording : Recording) : Buff := recording.tracker.state.active

/-- The index at which that buffer takes its next sample. -/
def endIdx (recording : Recording) : UInt32 := recording.tracker.state.index recording.active

/-- The event, and the slots that it records. -/
def step (recording : Recording) (event : TrackerEvent) : Recording where
  tracker := recording.tracker.handle event
  recorded :=
    let appended := Function.update recording.recorded recording.active
      ((recording.tracker.buffs recording.active).recordElem
        (recording.recorded recording.active) recording.endIdx.toNat)
    match event with
    | .switch _ _ => appended
    | .tick _ _ => Function.update appended recording.active.other
        ((recording.tracker.buffs recording.active.other).recordElem
          (recording.recorded recording.active.other) 0)

def run (recording : Recording) (events : List TrackerEvent) : Recording :=
  events.foldl step recording

/-- A tick with this boundary sample weights only intervals between samples that
are recorded. -/
def WeighsRecorded (recording : Recording) (runqueues : List (Option UInt32)) (now : Nat) : Prop :=
  let after := recording.step (.tick runqueues now)
  ∀ k, 0 < weight (after.tracker.buffs recording.active) recording.endIdx.toNat k →
    after.recorded recording.active k = true ∧ after.recorded recording.active (k + 1) = true

end Recording

/-! ## One array -/

/-- The collecting buffer: the slots below its index are recorded, or its index is
past the end of the array and nothing is recorded. -/
def Collecting (recorded : Nat → Bool) (idx : UInt32) : Prop :=
  (∀ k < idx.toNat, k < collectxMaxEntries → recorded k = true) ∨
    collectxMaxEntries ≤ idx.toNat ∧ ∀ k, recorded k = false

section Array

variable {map : SampleMap} {recorded : Nat → Bool} {idx : UInt32} {k : Nat}

theorem toNat_succ_cases (idx : UInt32) :
    (idx + 1).toNat = idx.toNat + 1 ∨ (idx + 1).toNat = 0 := by
  have bound := idx.toNat_lt
  rw [UInt32.toNat_add]
  have one : (1 : UInt32).toNat = 1 := rfl
  omega

/-- Appending a sample keeps the collecting buffer in order. -/
theorem Collecting.append (capacity : map.maxEntries = collectxMaxEntries)
    (collecting : Collecting recorded idx) :
    Collecting (map.recordElem recorded idx.toNat) (idx + 1) := by
  rcases toNat_succ_cases idx with next | wrapped
  · rcases collecting with covered | ⟨past, none⟩
    · left
      intro k below inside
      by_cases newest : k = idx.toNat
      · rw [newest] at inside ⊢
        exact SampleMap.recordElem_self (by omega)
      · exact SampleMap.recordElem_of_recorded (covered k (by omega) inside)
    · right
      refine ⟨by omega, fun k => ?_⟩
      rw [SampleMap.recordElem_of_refused (by omega)]
      exact none k
  · left
    intro k below
    omega

/-- Once the collecting buffer is closed, only recorded neighbours have a
weight. -/
theorem Collecting.weighs (capacity : map.maxEntries = collectxMaxEntries)
    (blank : map.Blank recorded) (collecting : Collecting recorded idx)
    (sample : GlobalRunnxSample)
    (positive : 0 < weight (map.updateElem idx.toNat sample) idx.toNat k) :
    map.recordElem recorded idx.toNat k = true ∧
      map.recordElem recorded idx.toNat (k + 1) = true := by
  have closed := blank.update idx.toNat sample
  unfold weight at positive
  by_cases outside : k ≥ idx.toNat
  · rw [if_pos outside] at positive
    cases positive
  rw [if_neg outside] at positive
  unfold SampleMap.lookupElem at positive
  by_cases next : u32Succ k < (map.updateElem idx.toNat sample).maxEntries
  · rw [if_pos next] at positive
    rw [map.updateElem_maxEntries, capacity] at next
    have bound := idx.toNat_lt
    have successor : u32Succ k = k + 1 := by
      unfold u32Succ
      omega
    rw [successor] at positive next
    rcases collecting with covered | ⟨past, none⟩
    · have here : recorded k = true := covered k (by omega) (by omega)
      refine ⟨SampleMap.recordElem_of_recorded here, ?_⟩
      by_cases newest : k + 1 = idx.toNat
      · rw [newest] at next ⊢
        exact SampleMap.recordElem_self (by omega)
      · exact SampleMap.recordElem_of_recorded (covered (k + 1) (by omega) next)
    · -- past the end nothing was recorded, so both timestamps are zero
      rw [SampleMap.recordElem_of_refused (by omega)] at closed
      rw [closed _ (none _), closed _ (none _)] at positive
      cases positive
  · rw [if_neg next] at positive
    cases positive

end Array

/-! ## One event -/

namespace Recording

/-- What holds after every event. -/
structure Sound (recording : Recording) : Prop where
  capacity : ∀ buff, (recording.tracker.buffs buff).maxEntries = collectxMaxEntries
  blank : ∀ buff, (recording.tracker.buffs buff).Blank (recording.recorded buff)
  collecting : Collecting (recording.recorded recording.active) recording.endIdx

theorem sound_reload {pinned : GlobalRunnxTrackerState} {nbCpus : Nat}
    (indexed : pinned.index pinned.active = 0 ∨
      collectxMaxEntries ≤ (pinned.index pinned.active).toNat) :
    (reload pinned nbCpus).Sound where
  capacity _ := rfl
  blank _ := SampleMap.blank_fresh _ _
  collecting := by
    rcases indexed with zero | past
    · left
      intro k below
      have start : (reload pinned nbCpus).endIdx = 0 := zero
      rw [start] at below
      cases below
    · exact Or.inr ⟨past, fun _ => rfl⟩

variable {recording : Recording} {runqueues : List (Option UInt32)} {now : Nat}

/-! What a switch does to the collecting buffer and to the other one. -/

theorem switch_active : (recording.step (.switch runqueues now)).active = recording.active :=
  Tracker.switchHandler_active _

theorem switch_endIdx : (recording.step (.switch runqueues now)).endIdx = recording.endIdx + 1 := by
  unfold endIdx
  rw [switch_active]
  exact Tracker.switchHandler_index _

theorem switch_buffs_active :
    (recording.step (.switch runqueues now)).tracker.buffs recording.active =
      (recording.tracker.buffs recording.active).updateElem recording.endIdx.toNat
        ⟨cpuLoop runqueues, now⟩ :=
  Tracker.switchHandler_buffs_active _

theorem switch_buffs_other :
    (recording.step (.switch runqueues now)).tracker.buffs recording.active.other =
      recording.tracker.buffs recording.active.other :=
  Tracker.switchHandler_buffs_other _

theorem switch_recorded_active :
    (recording.step (.switch runqueues now)).recorded recording.active =
      (recording.tracker.buffs recording.active).recordElem
        (recording.recorded recording.active) recording.endIdx.toNat :=
  Function.update_self _ _ _

theorem switch_recorded_other :
    (recording.step (.switch runqueues now)).recorded recording.active.other =
      recording.recorded recording.active.other :=
  Function.update_of_ne (Buff.other_ne _) _ _

theorem Sound.switch (sound : recording.Sound) :
    (recording.step (.switch runqueues now)).Sound := by
  constructor
  · intro buff
    exact (recording.tracker.handle_maxEntries (.switch runqueues now) buff).trans
      (sound.capacity buff)
  · intro buff
    by_cases here : buff = recording.active
    · rw [here, switch_recorded_active, switch_buffs_active]
      exact (sound.blank _).update _ _
    · rw [Buff.eq_other_of_ne here, switch_recorded_other, switch_buffs_other]
      exact sound.blank _
  · rw [switch_active, switch_endIdx, switch_recorded_active]
    exact sound.collecting.append (sound.capacity _)

/-! What a tick does to the buffer that it closes and to the one that it opens. -/

theorem tick_active :
    (recording.step (.tick runqueues now)).active =
      if recording.tracker.state.isCollectxInBuff1 = 0 ∨
          recording.tracker.state.isCollectxInBuff1 = 1 then recording.active.other
      else recording.active :=
  Tracker.idleAvgTimerCb_active

theorem tick_index_old :
    (recording.step (.tick runqueues now)).tracker.state.index recording.active =
      recording.endIdx + 1 :=
  Tracker.idleAvgTimerCb_index_old

theorem tick_index_new :
    (recording.step (.tick runqueues now)).tracker.state.index recording.active.other = 1 :=
  Tracker.idleAvgTimerCb_index_new

theorem tick_buffs_old :
    (recording.step (.tick runqueues now)).tracker.buffs recording.active =
      (recording.tracker.buffs recording.active).updateElem recording.endIdx.toNat
        ⟨cpuLoop runqueues, now⟩ :=
  Tracker.idleAvgTimerCb_old

theorem tick_buffs_new :
    (recording.step (.tick runqueues now)).tracker.buffs recording.active.other =
      (recording.tracker.buffs recording.active.other).updateElem 0 ⟨cpuLoop runqueues, now⟩ :=
  Tracker.idleAvgTimerCb_new

theorem tick_recorded_old :
    (recording.step (.tick runqueues now)).recorded recording.active =
      (recording.tracker.buffs recording.active).recordElem
        (recording.recorded recording.active) recording.endIdx.toNat := by
  unfold step
  dsimp only
  rw [Function.update_of_ne (Buff.other_ne _).symm, Function.update_self]

theorem tick_recorded_new :
    (recording.step (.tick runqueues now)).recorded recording.active.other =
      (recording.tracker.buffs recording.active.other).recordElem
        (recording.recorded recording.active.other) 0 :=
  Function.update_self _ _ _

theorem Sound.tick (sound : recording.Sound) :
    (recording.step (.tick runqueues now)).Sound := by
  constructor
  · intro buff
    exact (recording.tracker.handle_maxEntries (.tick runqueues now) buff).trans
      (sound.capacity buff)
  · intro buff
    by_cases old : buff = recording.active
    · rw [old, tick_recorded_old, tick_buffs_old]
      exact (sound.blank _).update _ _
    · rw [Buff.eq_other_of_ne old, tick_recorded_new, tick_buffs_new]
      exact (sound.blank _).update _ _
  · unfold endIdx
    rw [tick_active]
    split
    · rw [tick_index_new, tick_recorded_new]
      left
      intro k below inside
      obtain rfl : k = 0 := Nat.lt_one_iff.mp below
      exact SampleMap.recordElem_self (by rw [sound.capacity]; exact inside)
    · -- a flag that is neither 0 nor 1 keeps the closed buffer collecting
      rw [tick_index_old, tick_recorded_old]
      exact sound.collecting.append (sound.capacity _)

/-! ## Runs -/

theorem Sound.run (sound : recording.Sound) (events : List TrackerEvent) :
    (recording.run events).Sound := by
  induction events generalizing recording with
  | nil => exact sound
  | cons event rest inductionHypothesis =>
      cases event with
      | switch runqueues now => exact inductionHypothesis sound.switch
      | tick runqueues now => exact inductionHypothesis sound.tick

theorem Sound.weighsRecorded (sound : recording.Sound) (runqueues : List (Option UInt32))
    (now : Nat) : recording.WeighsRecorded runqueues now := by
  unfold WeighsRecorded
  dsimp only
  rw [tick_recorded_old, tick_buffs_old]
  intro k positive
  exact sound.collecting.weighs (sound.capacity _) (sound.blank _) _ positive

/-- After a reload with an index inside the array, the first tick weights the time
from 0 on. -/
theorem not_weighsRecorded_of_inside {pinned : GlobalRunnxTrackerState} {nbCpus : Nat}
    (positive : 0 < (pinned.index pinned.active).toNat)
    (inside : (pinned.index pinned.active).toNat < collectxMaxEntries) :
    ¬ (reload pinned nbCpus).WeighsRecorded [] 1 := by
  obtain ⟨k, index⟩ := Nat.exists_eq_succ_of_ne_zero (Nat.ne_of_gt positive)
  have endIdx : (reload pinned nbCpus).endIdx.toNat = k + 1 := index
  have successor : u32Succ k = k + 1 := by
    unfold u32Succ
    unfold collectxMaxEntries at inside
    omega
  unfold WeighsRecorded
  dsimp only
  rw [tick_recorded_old, tick_buffs_old, endIdx]
  intro weighs
  have room :
      k + 1 < ((reload pinned nbCpus).tracker.buffs (reload pinned nbCpus).active).maxEntries := by
    rw [index] at inside
    exact inside
  have boundary : (((reload pinned nbCpus).tracker.buffs (reload pinned nbCpus).active).updateElem
      (k + 1) ⟨cpuLoop [], 1⟩).slot (k + 1) = ⟨cpuLoop [], 1⟩ :=
    SampleMap.updateElem_slot_same room _
  have zero : (((reload pinned nbCpus).tracker.buffs (reload pinned nbCpus).active).updateElem
      (k + 1) ⟨cpuLoop [], 1⟩).slot k = ⟨0, 0⟩ :=
    SampleMap.updateElem_slot_of_ne _ (by omega) _
  have weighted := (weighs k ?_).1
  · rw [SampleMap.recordElem_of_ne (by omega)] at weighted
    cases weighted
  · unfold weight SampleMap.lookupElem
    rw [if_neg (by omega), successor, SampleMap.updateElem_maxEntries, if_pos room]
    dsimp only
    rw [boundary, zero]
    decide

/-- **Reload safety.** After a reload, every tick of every run weights recorded
samples only, exactly when the pinned index of the collecting buffer is 0 or
past the end of the array. -/
theorem reload_safe_iff_index_outside (pinned : GlobalRunnxTrackerState) (nbCpus : Nat) :
    (∀ events runqueues now, ((reload pinned nbCpus).run events).WeighsRecorded runqueues now) ↔
      pinned.index pinned.active = 0 ∨
        collectxMaxEntries ≤ (pinned.index pinned.active).toNat := by
  constructor
  · intro safe
    by_contra inside
    rw [not_or, not_le] at inside
    have positive : 0 < (pinned.index pinned.active).toNat := by
      apply Nat.pos_of_ne_zero
      intro zero
      exact inside.1 (UInt32.toNat_inj.mp zero)
    exact not_weighsRecorded_of_inside positive inside.2 (safe [] [] 1)
  · intro indexed events runqueues now
    exact ((sound_reload indexed).run events).weighsRecorded runqueues now

/-- Eight CPUs, five samples in buffer 1 when the tracker was stopped. -/
def stoppedState : GlobalRunnxTrackerState := ⟨5, 1, 1, 8, 5, 3⟩

/-- The tracker one second after the reload, when three tasks run. -/
def reloaded : Recording := (reload stoppedState 8).run [.switch [some 3] 1000000000]

/-- Three tasks go on running until the next tick. Its average also weights the
second before the reloaded tracker took a sample, so that it comes out as 0 with
all CPUs idle. -/
theorem reload_weighs_unrecorded :
    let after := reloaded.step (.tick [some 3] 1004000000)
    after.tracker.state.globalRunnxAvg = 0 ∧ after.tracker.state.lastIdleAvg = 8 ∧
      weight (after.tracker.buffs reloaded.active) reloaded.endIdx.toNat 4 = 1000000000 ∧
      after.recorded reloaded.active 4 = false ∧
      ¬ reloaded.WeighsRecorded [some 3] 1004000000 := by
  intro after
  have weighted : weight (after.tracker.buffs reloaded.active) reloaded.endIdx.toNat 4 =
      1000000000 := by decide +kernel
  have unrecorded : after.recorded reloaded.active 4 = false := by decide +kernel
  have average : runnxAvg (reloaded.tracker.avgCtx ⟨cpuLoop [some 3], 1004000000⟩) = 0 := by
    have folded : reloaded.tracker.avgCtx ⟨cpuLoop [some 3], 1004000000⟩ = _ :=
      phantomAvgFold_of_le _ (by decide +kernel)
    rw [folded]
    decide +kernel
  have published : after.tracker.state =
      (reloaded.tracker.closeWindow ⟨cpuLoop [some 3], 1004000000⟩).state.publish 0 := by
    rw [← average]
    exact Tracker.idleAvgTimerCb_state
  refine ⟨?_, ?_, weighted, unrecorded, fun weighs => ?_⟩
  · rw [published]
    rfl
  · rw [published]
    decide +kernel
  · have recorded := (weighs 4 (by rw [weighted]; decide)).1
    rw [unrecorded] at recorded
    cases recorded

end Recording

end PhantomTracker.Idle
