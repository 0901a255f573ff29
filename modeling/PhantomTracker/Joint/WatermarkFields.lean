import PhantomTracker.Host.UnorderedSamples
import PhantomTracker.Idle.IdleReport
import PhantomTracker.Joint.H2gPage

/-!
Contract: what a reader of the host-to-guest page gets back from the word of one tick.

Owns: that the fields of a watermark hold the two averages as the two programs have computed
them, because the averages of a VM and of a host with at most 65535 CPUs fit their fields, and
that the timestamp fields of two ticks tell the time between them.

Does not own: where the word is written, or what it says about the host.
-/

namespace PhantomTracker.Joint

open PhantomTracker.Foundation
open PhantomTracker.Host
open PhantomTracker.Idle

/-! ## Values that fit -/

theorem phantomField_of_fits {watermark : Watermark} (nonneg : 0 ≤ watermark.phantomAvg)
    (fits : watermark.phantomAvg ≤ 65535) :
    (phantomField (watermarkMsg watermark) : Int) = watermark.phantomAvg := by
  rw [(watermarkMsg_fields watermark).1]
  omega

theorem idleField_of_fits {watermark : Watermark} (fits : watermark.idleAvg ≤ 65535) :
    idleField (watermarkMsg watermark) = watermark.idleAvg := by
  rw [(watermarkMsg_fields watermark).2]
  omega

/-! ## Timestamps -/

/-- A watermark carries the last clock read of its tick. -/
theorem callbackFn_ts {clock : TickClock} {lastIdleAvg : Option Nat} {key : VmKey}
    {state : HostState} {watermark : Watermark}
    (published : (callbackFn clock lastIdleAvg key state).2 = some watermark) :
    watermark.ts = clock.publishNow := by
  rcases callbackFn_cases clock lastIdleAvg key state with
    idle | ⟨vm, old, new, found, foundOld, foundNew⟩
  · rw [idle] at published
    cases published
  · rw [callbackFn_watermark clock lastIdleAvg found foundOld foundNew] at published
    rw [← Option.some.inj published]

/-- The time between two watermarks, from their fields alone. -/
theorem elapsed_of_tsFields {earlier later : Watermark} (ordered : earlier.ts ≤ later.ts)
    (near : later.ts - earlier.ts < 2 ^ 32) :
    (tsField (watermarkMsg later) + 2 ^ 32 - tsField (watermarkMsg earlier)) % 2 ^ 32 =
      later.ts - earlier.ts := by
  rw [watermarkMsg_tsField, watermarkMsg_tsField]
  omega

/-! ## One tick -/

section Tick

variable {state : HostState} {key : VmKey} {vm : VmT} {old new : MapId} {clock : TickClock}
  {processed : SampleMap} {tracker : Tracker} {boundary : GlobalRunnxSample} {idleAvg : Nat}

/-- **The fields survive packing.** `processed` is the buffer that the tick averages. Its
timestamps are arbitrary, and so is a count below 0, which the fold takes for 0. -/
theorem watermark_fields_survive (found : state.vms.lookup key = some vm)
    (foundOld : state.mapRegistry.lookup (collectionBuff vm.active key) = some old)
    (foundNew : state.mapRegistry.lookup (collectionBuff vm.active.other key) = some new)
    (averaged : (callbackFn clock (some idleAvg) key state).1.sampleMaps old = processed)
    (vcpus : vm.nbVcpus ≤ 65535)
    (counts : ∀ k < vm.index vm.active, k < processed.maxEntries →
      (processed.slot k).count ≤ vm.nbVcpus)
    (sumFits : processed.exactSum (vm.index vm.active) < 2 ^ 63)
    (timeFits : processed.exactTime (vm.index vm.active) < 2 ^ 64)
    (cpus : tracker.state.nbCpus ≤ 65535)
    (produced : (tracker.idleAvgTimerCb boundary).state.lastIdleAvg = idleAvg) :
    ∃ watermark, (callbackFn clock (some idleAvg) key state).2 = some watermark ∧
      tsField (watermarkMsg watermark) = clock.publishNow % 2 ^ 32 ∧
      (phantomField (watermarkMsg watermark) : Int) =
        phantomAverage processed (vm.index vm.active) ∧
      idleField (watermarkMsg watermark) = idleAvg ∧
      ∀ (later : TickClock) (lastIdleAvg : Option Nat) (laterKey : VmKey) (laterState : HostState)
        (laterWatermark : Watermark),
        (callbackFn later lastIdleAvg laterKey laterState).2 = some laterWatermark →
        clock.publishNow ≤ later.publishNow → later.publishNow - clock.publishNow < 2 ^ 32 →
        (tsField (watermarkMsg laterWatermark) + 2 ^ 32 - tsField (watermarkMsg watermark)) %
          2 ^ 32 = later.publishNow - clock.publishNow := by
  have nonneg := SampleMap.phantomAverage_nonneg sumFits timeFits
  have ceiling := SampleMap.phantomAverage_le_of_counts sumFits timeFits counts
  have idle : idleAvg ≤ tracker.state.nbCpus := produced ▸ Tracker.idleAvgTimerCb_lastIdleAvg_le
  have published := callbackFn_watermark clock (some idleAvg) found foundOld foundNew
  rw [averaged] at published
  refine ⟨_, published, watermarkMsg_tsField _, ?_, ?_, ?_⟩
  · exact phantomField_of_fits nonneg (by dsimp only; omega)
  · exact idleField_of_fits (idle.trans cpus)
  · intro later lastIdleAvg laterKey laterState laterWatermark laterPublished ordered near
    have laterTs := callbackFn_ts laterPublished
    rw [← laterTs] at ordered near ⊢
    exact elapsed_of_tsFields ordered near

end Tick

/-! ## A tick with two samples -/

/-- A VM with two vCPUs and two samples in buffer 2. -/
def sampledVm : VmT := ⟨CharArray.zeroed 128, 1, 0, 2, 0, 2, 0⟩

/-- Its buffers: two phantoms from time 0 to 10, and one from time 10 on. -/
def sampledHost : HostState :=
  { loneHost with
    vms := loneHost.vms.insert (vmKey loneName.bytes) sampledVm
    sampleMaps := fun _ => ⟨3, fun k => ⟨2 - k, 10 * k⟩⟩ }

/-- A host with eight CPUs, on which 2.2 tasks run on average. -/
def eightCpuTracker : Tracker := { twoCpuTracker with state := ⟨0, 2, 0, 8, 0, 0⟩ }

/-- A tick at time 40 that publishes 50 ns after the low half of the clock has wrapped. -/
theorem two_samples_survive :
    ∃ watermark,
      (callbackFn ⟨40, 40, 2 ^ 32 + 50⟩ (some 6) (vmKey loneName.bytes) sampledHost).2 =
        some watermark ∧
      tsField (watermarkMsg watermark) = 50 ∧ phantomField (watermarkMsg watermark) = 1 ∧
      idleField (watermarkMsg watermark) = 6 := by
  have found : sampledHost.vms.lookup (vmKey loneName.bytes) = some sampledVm :=
    AList.lookup_insert _
  rcases watermark_fields_survive found (by decide +kernel : _ = some 2)
    (by decide +kernel : _ = some 1)
    (rfl : (callbackFn ⟨40, 40, 2 ^ 32 + 50⟩ (some 6) (vmKey loneName.bytes)
      sampledHost).1.sampleMaps 2 = _)
    (by decide) (by decide +kernel) (by decide +kernel) (by decide +kernel)
    (by decide : eightCpuTracker.state.nbCpus ≤ 65535)
    (by decide : (eightCpuTracker.idleAvgTimerCb ⟨3, 10⟩).state.lastIdleAvg = 6) with
    ⟨watermark, published, ts, phantom, idle, _⟩
  have average : phantomAverage ((callbackFn ⟨40, 40, 2 ^ 32 + 50⟩ (some 6)
      (vmKey loneName.bytes) sampledHost).1.sampleMaps 2) 2 = 1 := by decide +kernel
  exact ⟨watermark, published, ts, Int.ofNat_inj.mp (phantom.trans average), idle⟩

end PhantomTracker.Joint
