import PhantomTracker.Host.State
import PhantomTracker.Shmem.Layout
import Mathlib.Algebra.Group.Int.Defs

/-!
Contract: one complete execution of `callback_fn` of the phantom timer.

Owns: `phantom_avg_cb` and `phantom_average` with their 64-bit arithmetic, the
buffer swap and the boundary samples of `callback_fn`, `next_history_slot`, the
watermark handed to `write_watermark` and the word it packs, and what one tick
leaves unchanged.

Does not own: the shared-memory page the watermark is written to, or the
interleaving of a tick with switch handlers.
-/

namespace PhantomTracker.Host

open PhantomTracker.Foundation
open PhantomTracker.Shmem (nrHostIvshmemMsgs h2gFirstHistorySlot)

/-- An `__s64` result of exact value `value`. -/
def s64 (value : Int) : Int := value.bmod (2 ^ 64)

/-- A `__u64` result of exact value `value`. -/
def u64 (value : Nat) : Nat := value % 2 ^ 64

/-- `struct phantom_avg_ctx`, without the `avg` field that only
`phantom_average` itself uses. -/
structure PhantomAvgCtx where
  sum : Int
  totalTime : Nat
  nbSamples : Nat
deriving DecidableEq, Repr

def phantomAvgCb (map : SampleMap) (ctx : PhantomAvgCtx) (k : Nat) : PhantomAvgCtx :=
  if k ≥ ctx.nbSamples then ctx
  else
    match map.lookupElem (u32Succ k) with
    | none => ctx
    | some nextSample =>
        let currentSample := map.slot k
        -- A later index with an earlier timestamp is dropped.
        if nextSample.timestamp < currentSample.timestamp then ctx
        else
          let count := if currentSample.count < 0 then 0 else currentSample.count
          let duration := nextSample.timestamp - currentSample.timestamp
          { ctx with
            sum := s64 (ctx.sum + s64 (count * s64 duration))
            totalTime := u64 (ctx.totalTime + duration) }

/-- The callback leaves `nb_samples` alone. -/
theorem phantomAvgCb_nbSamples (map : SampleMap) (ctx : PhantomAvgCtx) (k : Nat) :
    (phantomAvgCb map ctx k).nbSamples = ctx.nbSamples := by
  unfold phantomAvgCb
  split
  · rfl
  split
  · rfl
  dsimp only
  split <;> rfl

/-- `bpf_for_each_map_elem(map_ptr, phantom_avg_cb, &ctx, 0)`: the callback
visits every index of the array in order. -/
def phantomAvgFold (map : SampleMap) (nbSamples : Nat) : PhantomAvgCtx :=
  (List.range map.maxEntries).foldl (phantomAvgCb map) ⟨0, 0, nbSamples⟩

/-- The signed sum is converted to `__u64` by the division, and the quotient
back to `__s64` by the assignment. -/
def phantomAverage (map : SampleMap) (nbSamples : Nat) : Int :=
  let ctx := phantomAvgFold map nbSamples
  if ctx.totalTime > 0 then s64 ((ctx.sum % 2 ^ 64).toNat / ctx.totalTime : Nat) else 0

/-! ## The watermark -/

/-- `H2G_HISTORY_SLOT_COUNT`. -/
def h2gHistorySlotCount : Nat := nrHostIvshmemMsgs - h2gFirstHistorySlot

def nextHistorySlot (vm : VmT) : Nat × VmT :=
  (h2gFirstHistorySlot + vm.h2gHistoryIndex % h2gHistorySlotCount,
    { vm with h2gHistoryIndex := u32Succ vm.h2gHistoryIndex })

/-- The arguments of `write_watermark`. -/
structure Watermark where
  index : Nat
  ts : Nat
  phantomAvg : Int
  idleAvg : Nat
deriving DecidableEq, Repr

/-- The word that `write_watermark` packs. -/
def Watermark.msg (watermark : Watermark) : Nat :=
  u64 ((watermark.ts &&& 0xffffffff) <<< 32) |||
    (((watermark.phantomAvg % 2 ^ 64).toNat &&& 0xffff) <<< 16) |||
    (watermark.idleAvg &&& 0xffff)

/-! ## One tick -/

/-- The three clock reads of `callback_fn`. -/
structure TickClock where
  endNow : Nat
  startNow : Nat
  publishNow : Nat
deriving DecidableEq, Repr

/-- The compare-and-swap on `is_collectx_in_buff_1`: from 1 to 0 in the branch
that found 1, from 0 to 1 in the other one. -/
def VmT.swapCollectx (vm : VmT) : VmT :=
  if vm.isCollectxInBuff1 = 1 then { vm with isCollectxInBuff1 := 0 }
  else if vm.isCollectxInBuff1 = 0 then { vm with isCollectxInBuff1 := 1 }
  else vm

/-- `callback_fn` for the VM stored under `key`. `lastIdleAvg` is the field of
the same name of `global_tracker_state`, absent when the lookup fails. The
second component is the watermark, absent when a buffer is missing. -/
def callbackFn (clock : TickClock) (lastIdleAvg : Option Nat) (key : VmKey)
    (state : HostState) : HostState × Option Watermark :=
  match state.vms.lookup key with
  | none => (state, none)
  | some vm =>
      match state.mapRegistry.lookup (collectionBuff vm.active key),
          state.mapRegistry.lookup (collectionBuff vm.active.other key) with
      | some old, some new =>
          let countEnd : PhantomCount := ⟨vm.phantomCount, clock.endNow⟩
          let countStart : PhantomCount := ⟨vm.phantomCount, clock.startNow⟩
          -- Open the other buffer with the start sample, then swap to it.
          let opened := Function.update state.sampleMaps new
            ((state.sampleMaps new).updateElem 0 countStart)
          let swapped := (vm.setIndex vm.active.other 1).swapCollectx
          -- Close the old buffer with the end sample and average it.
          let endIdx := swapped.index vm.active
          let reserved := swapped.setIndex vm.active (u32Succ endIdx)
          let closed := Function.update opened old ((opened old).updateElem endIdx countEnd)
          let avg := phantomAverage (closed old) endIdx
          let slot := nextHistorySlot reserved
          ({ state with vms := state.vms.insert key slot.2, sampleMaps := closed },
            some ⟨slot.1, clock.publishNow, avg, lastIdleAvg.getD 0⟩)
      | _, _ => (state, none)

/-! ## What a tick leaves unchanged -/

section Frame

variable {clock : TickClock} {lastIdleAvg : Option Nat} {key : VmKey} {state : HostState}

@[simp] theorem swapCollectx_phantomCount (vm : VmT) :
    vm.swapCollectx.phantomCount = vm.phantomCount := by
  unfold VmT.swapCollectx
  split_ifs <;> rfl

@[simp] theorem swapCollectx_nbVcpus (vm : VmT) :
    vm.swapCollectx.nbVcpus = vm.nbVcpus := by
  unfold VmT.swapCollectx
  split_ifs <;> rfl

@[simp] theorem swapCollectx_h2gHistoryIndex (vm : VmT) :
    vm.swapCollectx.h2gHistoryIndex = vm.h2gHistoryIndex := by
  unfold VmT.swapCollectx
  split_ifs <;> rfl

@[simp] theorem swapCollectx_index (vm : VmT) (buff : Buff) :
    vm.swapCollectx.index buff = vm.index buff := by
  unfold VmT.swapCollectx
  split_ifs <;> cases buff <;> rfl

/-- The end index of the old buffer is the one before the other buffer was opened. -/
theorem swapCollectx_index_active (vm : VmT) :
    (vm.setIndex vm.active.other 1).swapCollectx.index vm.active = vm.index vm.active := by
  rw [swapCollectx_index, vm.setIndex_index_of_ne (Buff.other_ne vm.active).symm]

theorem swapCollectx_active {vm : VmT}
    (flag : vm.isCollectxInBuff1 = 0 ∨ vm.isCollectxInBuff1 = 1) :
    vm.swapCollectx.active = vm.active.other := by
  rcases flag with two | one <;> simp_all [VmT.swapCollectx, VmT.active, Buff.other]

theorem swapCollectx_flag {vm : VmT}
    (flag : vm.isCollectxInBuff1 = 0 ∨ vm.isCollectxInBuff1 = 1) :
    vm.swapCollectx.isCollectxInBuff1 = 0 ∨ vm.swapCollectx.isCollectxInBuff1 = 1 := by
  rcases flag with two | one <;> simp_all [VmT.swapCollectx]

/-- The entry that a tick which finds both buffers leaves for its VM. -/
def VmT.ticked (vm : VmT) : VmT :=
  let swapped := (vm.setIndex vm.active.other 1).swapCollectx
  (nextHistorySlot (swapped.setIndex vm.active (u32Succ (swapped.index vm.active)))).2

theorem ticked_phantomCount (vm : VmT) : vm.ticked.phantomCount = vm.phantomCount := by
  simp [VmT.ticked, nextHistorySlot]

theorem ticked_nbVcpus (vm : VmT) : vm.ticked.nbVcpus = vm.nbVcpus := by
  simp [VmT.ticked, nextHistorySlot]

theorem ticked_h2gHistoryIndex (vm : VmT) :
    vm.ticked.h2gHistoryIndex = u32Succ vm.h2gHistoryIndex := by
  simp [VmT.ticked, nextHistorySlot]

theorem ticked_flag {vm : VmT} (flag : vm.isCollectxInBuff1 = 0 ∨ vm.isCollectxInBuff1 = 1) :
    vm.ticked.isCollectxInBuff1 = 0 ∨ vm.ticked.isCollectxInBuff1 = 1 := by
  have opening : ((vm.setIndex vm.active.other 1).isCollectxInBuff1 = 0) ∨
      ((vm.setIndex vm.active.other 1).isCollectxInBuff1 = 1) := by
    rw [VmT.setIndex_isCollectxInBuff1]
    exact flag
  simpa [VmT.ticked, nextHistorySlot] using swapCollectx_flag opening

theorem ticked_active {vm : VmT} (flag : vm.isCollectxInBuff1 = 0 ∨ vm.isCollectxInBuff1 = 1) :
    vm.ticked.active = vm.active.other := by
  have opening : ((vm.setIndex vm.active.other 1).isCollectxInBuff1 = 0) ∨
      ((vm.setIndex vm.active.other 1).isCollectxInBuff1 = 1) := by
    rw [VmT.setIndex_isCollectxInBuff1]
    exact flag
  show (VmT.setIndex _ vm.active _).active = _
  rw [VmT.setIndex_active, swapCollectx_active opening, VmT.setIndex_active]

theorem ticked_index_other (vm : VmT) : vm.ticked.index vm.active.other = 1 := by
  show (VmT.setIndex _ vm.active _).index vm.active.other = 1
  rw [VmT.setIndex_index_other, swapCollectx_index, VmT.setIndex_index]

/-- The maps after a tick that finds both buffers. -/
theorem callbackFn_of_buffered {vm : VmT} {old new : MapId}
    (found : state.vms.lookup key = some vm)
    (foundOld : state.mapRegistry.lookup (collectionBuff vm.active key) = some old)
    (foundNew : state.mapRegistry.lookup (collectionBuff vm.active.other key) = some new) :
    (callbackFn clock lastIdleAvg key state).1 =
      let opened := Function.update state.sampleMaps new
        ((state.sampleMaps new).updateElem 0 ⟨vm.phantomCount, clock.startNow⟩)
      { state with
        vms := state.vms.insert key vm.ticked
        sampleMaps := Function.update opened old
          ((opened old).updateElem (vm.index vm.active) ⟨vm.phantomCount, clock.endNow⟩) } := by
  have endIndex := swapCollectx_index_active vm
  unfold callbackFn
  simp only [found, foundOld, foundNew, endIndex]
  unfold VmT.ticked
  simp only [endIndex]

/-- The watermark of a tick that finds both buffers. The old buffer, as the tick
leaves it, is the one that is averaged. -/
theorem callbackFn_watermark (clock : TickClock) (lastIdleAvg : Option Nat) {vm : VmT}
    {old new : MapId} (found : state.vms.lookup key = some vm)
    (foundOld : state.mapRegistry.lookup (collectionBuff vm.active key) = some old)
    (foundNew : state.mapRegistry.lookup (collectionBuff vm.active.other key) = some new) :
    (callbackFn clock lastIdleAvg key state).2 =
      some ⟨h2gFirstHistorySlot + vm.h2gHistoryIndex % h2gHistorySlotCount, clock.publishNow,
        phantomAverage ((callbackFn clock lastIdleAvg key state).1.sampleMaps old)
          (vm.index vm.active), lastIdleAvg.getD 0⟩ := by
  have endIndex := swapCollectx_index_active vm
  unfold callbackFn
  simp only [found, foundOld, foundNew, endIndex, nextHistorySlot, VmT.setIndex_h2gHistoryIndex,
    swapCollectx_h2gHistoryIndex, Function.update_self]

/-- Case analysis of a tick: it does nothing, or it finds the VM and both of
its buffers. -/
theorem callbackFn_cases (clock : TickClock) (lastIdleAvg : Option Nat) (key : VmKey)
    (state : HostState) :
    callbackFn clock lastIdleAvg key state = (state, none) ∨
      ∃ vm old new, state.vms.lookup key = some vm ∧
        state.mapRegistry.lookup (collectionBuff vm.active key) = some old ∧
        state.mapRegistry.lookup (collectionBuff vm.active.other key) = some new := by
  cases found : state.vms.lookup key with
  | none =>
      left
      unfold callbackFn
      rw [found]
  | some vm =>
      cases foundOld : state.mapRegistry.lookup (collectionBuff vm.active key) with
      | none =>
          left
          unfold callbackFn
          simp only [found, foundOld]
      | some old =>
          cases foundNew : state.mapRegistry.lookup (collectionBuff vm.active.other key) with
          | none =>
              left
              unfold callbackFn
              simp only [found, foundOld, foundNew]
          | some new => exact Or.inr ⟨vm, old, new, rfl, foundOld, foundNew⟩

theorem callbackFn_vcpus : (callbackFn clock lastIdleAvg key state).1.vcpus = state.vcpus := by
  rcases callbackFn_cases clock lastIdleAvg key state with
    idle | ⟨vm, old, new, found, foundOld, foundNew⟩
  · rw [idle]
  · rw [callbackFn_of_buffered found foundOld foundNew]

theorem callbackFn_mapRegistry :
    (callbackFn clock lastIdleAvg key state).1.mapRegistry = state.mapRegistry := by
  rcases callbackFn_cases clock lastIdleAvg key state with
    idle | ⟨vm, old, new, found, foundOld, foundNew⟩
  · rw [idle]
  · rw [callbackFn_of_buffered found foundOld foundNew]

/-- A tick of one VM leaves the entries of the others alone. -/
theorem callbackFn_vms_of_ne {other : VmKey} (different : other ≠ key) :
    (callbackFn clock lastIdleAvg key state).1.vms.lookup other = state.vms.lookup other := by
  rcases callbackFn_cases clock lastIdleAvg key state with
    idle | ⟨vm, old, new, found, foundOld, foundNew⟩
  · rw [idle]
  · rw [callbackFn_of_buffered found foundOld foundNew]
    exact AList.lookup_insert_ne different

end Frame

end PhantomTracker.Host
