import PhantomTracker.Foundation.Runs
import PhantomTracker.Host.Averaging
import PhantomTracker.Host.Registration
import PhantomTracker.Host.TransitionRule
import PhantomTracker.Host.VmMaps
import PhantomTracker.Host.WindowView

/-!
Contract: complete switch handlers and ticks, one after the other, with the
count of one VM as a step function of time.

Owns: the serialised machine, the clock and the trace of the count that it
keeps beside the maps, which VMs do not share the buffers of another one, and
what a half of a handler and a tick do to the buffers of a VM.

Does not own: what the average of a window is.
-/

namespace PhantomTracker.Host

open PhantomTracker.Foundation

/-! ## The machine -/

/-- `trace` is the count of the VM as a step function that changes at the
timestamps of the handlers. `windowStart` is the timestamp of the last
`count_start`, absent before the first tick of the VM. -/
structure Serial where
  host : HostState
  clock : Nat
  trace : Trace Int
  windowStart : Option Nat

inductive SerialAction where
  | switch (input : SwitchInput)
  | tick (vmName : VmKey) (clock : TickClock) (lastIdleAvg : Option Nat)

/-- The count of the VM. -/
def countOf (key : VmKey) (host : HostState) : Int :=
  ((host.vms.lookup key).map VmT.phantomCount).getD 0

theorem countOf_of_found {key : VmKey} {host : HostState} {vm : VmT}
    (found : host.vms.lookup key = some vm) : countOf key host = vm.phantomCount := by
  unfold countOf
  rw [found]
  rfl

namespace Serial

/-- The machine after a half of a handler whose clock reads `now`. -/
def afterHalf (key : VmKey) (serial : Serial) (now : Nat) (after : HostState) : Serial :=
  { serial with
    host := after
    clock := now
    trace := serial.trace.record now (countOf key after) }

def step (key : VmKey) (serial : Serial) : SerialAction → Option Serial
  | .switch input =>
      let incoming := serial.afterHalf key input.incomingNow (incomingSwitch input serial.host).1
      some (incoming.afterHalf key input.outgoingNow (phantomSwitchHandler input serial.host))
  | .tick vmName clock lastIdleAvg =>
      some { serial with
        host := (callbackFn clock lastIdleAvg vmName serial.host).1
        clock := clock.publishNow
        windowStart := if vmName = key then some clock.startNow else serial.windowStart }

/-- Nothing has been recorded, and the VM has had no tick. -/
def start (key : VmKey) (host : HostState) : Serial :=
  ⟨host, 0, ⟨countOf key host, []⟩, none⟩

end Serial

/-! ## Buffers that no other VM shares -/

/-- The key of a VM whose name leaves room for the suffix. -/
def FittingKey (vmName : VmKey) : Prop :=
  ∃ name : CString, name.bytes.length ≤ maxFittingName ∧ vmName = vmKey name.bytes

/-- No other VM with a fitting name finds one of the maps. -/
def Exclusive (key : VmKey) (maps : Buff → MapId) (registry : FiniteMap VmKey MapId) : Prop :=
  ∀ vmName, FittingKey vmName → vmName ≠ key → ∀ buff map,
    registry.lookup (collectionBuff buff vmName) = some map → ∀ own, map ≠ maps own

/-- The maps that `setup_vm_maps` registers. -/
def mapOf (collection processing : MapId) : Buff → MapId
  | .one => collection
  | .two => processing

section Setup

variable {collection processing : MapId} {name : CString} {host : HostState}

theorem registryKey_ne (first second : CString) (firstFits : first.bytes.length ≤ maxFittingName)
    (secondFits : second.bytes.length ≤ maxFittingName) (different : first ≠ second)
    (left right : Buff) : registryKey left first.bytes ≠ registryKey right second.bytes := by
  intro same
  have bytes := registryKey_name_injective first.nulFree second.nulFree firstFits secondFits same
  apply different
  cases first
  cases second
  cases bytes
  rfl

theorem registryKey_one_ne_two (fits : name.bytes.length ≤ maxFittingName) :
    registryKey .one name.bytes ≠ registryKey .two name.bytes := by
  have small : name.bytes.length ≤ 61 := fits
  have room : ∀ buff : Buff, (name.bytes ++ buff.suffix).length < vmNameLen := by
    intro buff
    rw [List.length_append]
    show name.bytes.length + 2 < 64
    omega
  intro same
  have bytes := congrArg CharArray.bytes same
  unfold registryKey at bytes
  rw [CharArray.copyString_bytes_of_lt (room .one), CharArray.copyString_bytes_of_lt (room .two),
    List.append_assoc, List.append_assoc, List.append_cancel_left_eq] at bytes
  simp [Buff.suffix, Buff.digit] at bytes

/-- The registry after `setup_vm_maps`. -/
theorem setupVmMaps_registry (fits : name.bytes.length ≤ maxFittingName) (buff : Buff) :
    (setupVmMaps none collection processing name host).1.mapRegistry.lookup
      (registryKey buff name.bytes) = some (mapOf collection processing buff) := by
  cases buff with
  | one =>
      exact (AList.lookup_insert_ne (registryKey_one_ne_two fits)).trans (AList.lookup_insert _)
  | two => exact AList.lookup_insert _

theorem setupVmMaps_registry_of_ne {key : VmKey}
    (other : ∀ buff, key ≠ registryKey buff name.bytes) :
    (setupVmMaps none collection processing name host).1.mapRegistry.lookup key =
      host.mapRegistry.lookup key :=
  (AList.lookup_insert_ne (other .two)).trans (AList.lookup_insert_ne (other .one))

theorem exclusive_setupVmMaps (fits : name.bytes.length ≤ maxFittingName)
    (newMaps : NewMaps collection processing host) :
    Exclusive (vmKey name.bytes) (mapOf collection processing)
      (setupVmMaps none collection processing name host).1.mapRegistry := by
  rintro _ ⟨other, otherFits, rfl⟩ different buff map registered own
  have names : other ≠ name := by
    rintro rfl
    exact different rfl
  rw [collectionBuff_vmKey other.nulFree otherFits, setupVmMaps_registry_of_ne fun target =>
    registryKey_ne other name otherFits fits names buff target] at registered
  obtain ⟨notCollection, notProcessing⟩ := newMaps.unused _ map registered
  cases own
  · exact notCollection
  · exact notProcessing

/-- After `setup_vm_maps` a registered VM collects into two buffers of its
own. -/
theorem collecting_setupVmMaps (fits : name.bytes.length ≤ maxFittingName)
    (newMaps : NewMaps collection processing host) {vm : VmT}
    (found : host.vms.lookup (vmKey name.bytes) = some vm)
    (flag : vm.isCollectxInBuff1 = 0 ∨ vm.isCollectxInBuff1 = 1)
    (fitting : ∀ tid vcpu, host.vcpus.lookup tid = some vcpu → FittingKey vcpu.vmName) :
    Collecting (vmKey name.bytes) (mapOf collection processing) vm
      (setupVmMaps none collection processing name host).1 where
  found := found
  buffered := by
    unfold buffers
    rw [collectionBuff_vmKey name.nulFree fits, collectionBuff_vmKey name.nulFree fits,
      setupVmMaps_registry fits, setupVmMaps_registry fits]
    exact congrArg some (funext fun buff => by cases buff <;> rfl)
  apart buff := by
    cases buff
    · exact newMaps.distinct.symm
    · exact newMaps.distinct
  capacity buff := by
    show (Function.update (Function.update host.sampleMaps collection _) processing _
      (mapOf collection processing buff)).maxEntries = _
    cases buff with
    | one => rw [mapOf, Function.update_of_ne newMaps.distinct, Function.update_self]; rfl
    | two => rw [mapOf, Function.update_self]; rfl
  flag := flag
  foreign tid vcpu buff map present different registered :=
    exclusive_setupVmMaps fits newMaps vcpu.vmName (fitting tid vcpu present) different buff map
      registered

end Setup

/-! ## What a half does -/

section Half

variable {key : VmKey} {maps : Buff → MapId} {vm : VmT} {host after : HostState} {now : Nat}

theorem HalfStep.sameShape (step : HalfStep now host after) : SameShape host after := by
  cases step with
  | stay => exact SameShape.refl host
  | flip half found flag =>
      refine ⟨switchHalf_mapRegistry, fun other => ?_, switchHalf_maxEntries⟩
      rw [switchHalf_vcpus]
      exact (sameShape_setFlag found half.desired).names other

/-- A half for a vCPU of another VM leaves the buffers alone. -/
theorem switchHalf_sampleMaps_foreign (collecting : Collecting key maps vm host) {half : Half}
    {tid : Tid} {vcpu : VcpuT} (present : host.vcpus.lookup tid = some vcpu)
    (foreign : vcpu.vmName ≠ key) (own : Buff) :
    (switchHalf half now tid vcpu host).sampleMaps (maps own) = host.sampleMaps (maps own) := by
  cases found : host.vms.lookup vcpu.vmName with
  | none => rw [switchHalf_of_absent found]
  | some other =>
      cases buffered : host.mapRegistry.lookup (collectionBuff other.active vcpu.vmName) with
      | none => rw [switchHalf_of_unbuffered found buffered]
      | some map =>
          rw [switchHalf_of_buffered found buffered]
          have apart := collecting.foreign tid vcpu _ map present foreign buffered own
          exact Function.update_of_ne (Ne.symm apart) _ _

/-- What a half does, seen from one VM: nothing, or one update of its count with
the sample for it. -/
inductive OwnHalf (key : VmKey) (maps : Buff → MapId) (vm : VmT) (now : Nat)
    (host after : HostState) : Prop where
  | silent (found : after.vms.lookup key = some vm)
      (samples : ∀ buff, after.sampleMaps (maps buff) = host.sampleMaps (maps buff))
  | update (half : Half)
      (found : after.vms.lookup key = some ((vm.setCount (half.newCount vm)).setIndex vm.active
        (u32Succ (vm.index vm.active))))
      (written : after.sampleMaps (maps vm.active) =
        (host.sampleMaps (maps vm.active)).updateElem (vm.index vm.active)
          ⟨half.newCount vm, now⟩)

theorem HalfStep.own (collecting : Collecting key maps vm host) (step : HalfStep now host after) :
    OwnHalf key maps vm now host after := by
  cases step with
  | stay => exact .silent collecting.found fun _ => rfl
  | @flip half tid vcpu present flag =>
      by_cases own : vcpu.vmName = key
      · have found : host.vms.lookup vcpu.vmName = some vm := own ▸ collecting.found
        have buffered : host.mapRegistry.lookup (collectionBuff vm.active vcpu.vmName) =
            some (maps vm.active) := own ▸ buffers_lookup collecting.buffered vm.active
        rw [switchHalf_of_buffered found buffered, own]
        exact .update half (AList.lookup_insert _) (Function.update_self _ _ _)
      · refine .silent ?_ (switchHalf_sampleMaps_foreign collecting present own)
        rw [switchHalf_vms_of_ne (Ne.symm own)]
        exact collecting.found

theorem newCount_bounds (half : Half) {vm : VmT}
    (bounds : 0 ≤ vm.phantomCount ∧ vm.phantomCount ≤ vm.nbVcpus) :
    0 ≤ half.newCount vm ∧ half.newCount vm ≤ vm.nbVcpus := by
  cases half with
  | incoming =>
      show 0 ≤ atomicDecIfPos vm.phantomCount ∧ atomicDecIfPos vm.phantomCount ≤ vm.nbVcpus
      unfold atomicDecIfPos
      split <;> omega
  | outgoing =>
      show 0 ≤ atomicIncIfLtCeil vm.phantomCount vm.nbVcpus ∧
        atomicIncIfLtCeil vm.phantomCount vm.nbVcpus ≤ vm.nbVcpus
      unfold atomicIncIfLtCeil
      split <;> omega

end Half

/-! ## What a tick does -/

section Tick

variable {key vmName : VmKey} {maps : Buff → MapId} {vm : VmT} {host : HostState}
  {clock : TickClock} {lastIdleAvg : Option Nat}

theorem callbackFn_maxEntries (map : MapId) :
    ((callbackFn clock lastIdleAvg vmName host).1.sampleMaps map).maxEntries =
      (host.sampleMaps map).maxEntries := by
  rcases callbackFn_cases clock lastIdleAvg vmName host with
    idle | ⟨current, old, new, found, foundOld, foundNew⟩
  · rw [idle]
  · rw [callbackFn_of_buffered found foundOld foundNew]
    dsimp only
    rw [SampleMap.update_maxEntries, SampleMap.update_maxEntries]

theorem sameShape_callbackFn (clock : TickClock) (lastIdleAvg : Option Nat) (vmName : VmKey)
    (host : HostState) : SameShape host (callbackFn clock lastIdleAvg vmName host).1 :=
  ⟨callbackFn_mapRegistry, fun _ => by rw [callbackFn_vcpus], callbackFn_maxEntries⟩

/-- A tick of another VM leaves the buffers alone. -/
theorem callbackFn_sampleMaps_foreign (clock : TickClock) (lastIdleAvg : Option Nat)
    (exclusive : Exclusive key maps host.mapRegistry) (fitting : FittingKey vmName)
    (different : vmName ≠ key) (own : Buff) :
    (callbackFn clock lastIdleAvg vmName host).1.sampleMaps (maps own) =
      host.sampleMaps (maps own) := by
  rcases callbackFn_cases clock lastIdleAvg vmName host with
    idle | ⟨current, old, new, found, foundOld, foundNew⟩
  · rw [idle]
  · have notOld := exclusive vmName fitting different _ old foundOld own
    have notNew := exclusive vmName fitting different _ new foundNew own
    rw [callbackFn_of_buffered found foundOld foundNew]
    dsimp only
    rw [Function.update_of_ne (Ne.symm notOld), Function.update_of_ne (Ne.symm notNew)]

/-- The samples of the window that a tick closes. -/
def closedWindow (maps : Buff → MapId) (vm : VmT) (host : HostState) (endNow : Nat) : SampleMap :=
  (host.sampleMaps (maps vm.active)).updateElem (vm.index vm.active) ⟨vm.phantomCount, endNow⟩

/-- What a tick does to its own VM: it averages the active buffer, closed with
the current count, and opens the other one with the same count. -/
structure OwnTick (key : VmKey) (maps : Buff → MapId) (vm : VmT) (clock : TickClock)
    (host : HostState) (result : HostState × Option Watermark) : Prop where
  found : ∃ after, result.1.vms.lookup key = some after ∧
    after.phantomCount = vm.phantomCount ∧ after.nbVcpus = vm.nbVcpus ∧
    (after.isCollectxInBuff1 = 0 ∨ after.isCollectxInBuff1 = 1) ∧
    after.active = vm.active.other ∧ after.index vm.active.other = 1
  opened : result.1.sampleMaps (maps vm.active.other) =
    (host.sampleMaps (maps vm.active.other)).updateElem 0 ⟨vm.phantomCount, clock.startNow⟩
  average : ∃ watermark, result.2 = some watermark ∧ watermark.phantomAvg =
    phantomAverage (closedWindow maps vm host clock.endNow) (vm.index vm.active)

theorem ownTick_callbackFn (collecting : Collecting key maps vm host) (clock : TickClock)
    (lastIdleAvg : Option Nat) :
    OwnTick key maps vm clock host (callbackFn clock lastIdleAvg key host) := by
  have first := buffers_lookup collecting.buffered vm.active
  have second := buffers_lookup collecting.buffered vm.active.other
  have apart := collecting.apart vm.active
  have endIndex := swapCollectx_index_active vm
  unfold callbackFn
  simp only [collecting.found, first, second]
  refine ⟨⟨_, AList.lookup_insert _, ?_, ?_, ?_, ?_, ?_⟩, ?_, ⟨_, rfl, ?_⟩⟩
  · exact ticked_phantomCount vm
  · exact ticked_nbVcpus vm
  · exact ticked_flag collecting.flag
  · exact ticked_active collecting.flag
  · exact ticked_index_other vm
  · show Function.update _ (maps vm.active) _ (maps vm.active.other) = _
    rw [Function.update_of_ne apart, Function.update_self]
  · dsimp only
    rw [Function.update_self, Function.update_of_ne (Ne.symm apart), endIndex]
    rfl

end Tick

/-! ## A registered VM -/

/-- The fields of a VM entry that `register_vm` initialises stay in range. -/
structure VmT.InRange (vm : VmT) : Prop where
  nonneg : 0 ≤ vm.phantomCount
  ceiling : vm.phantomCount ≤ vm.nbVcpus
  flag : vm.isCollectxInBuff1 = 0 ∨ vm.isCollectxInBuff1 = 1

/-- The entry of the VM exists and is in range. -/
def Registered (key : VmKey) (host : HostState) : Prop :=
  ∃ vm, host.vms.lookup key = some vm ∧ vm.InRange

section Registered

variable {key : VmKey} {host after : HostState}

theorem RegisterArgs.vm_inRange (args : RegisterArgs) : args.vm.InRange :=
  ⟨le_rfl, Int.natCast_nonneg _, Or.inl rfl⟩

theorem Registered.half {now : Nat} (registered : Registered key host)
    (step : HalfStep now host after) : Registered key after := by
  obtain ⟨vm, found, inRange⟩ := registered
  cases step with
  | stay => exact ⟨vm, found, inRange⟩
  | @flip half tid vcpu present flag =>
      by_cases own : vcpu.vmName = key
      · subst own
        obtain ⟨vmAfter, foundAfter, count, ceiling, sameFlag⟩ :=
          switchHalf_vms_own half now tid found
        have bounds := newCount_bounds half ⟨inRange.nonneg, inRange.ceiling⟩
        refine ⟨vmAfter, foundAfter, ?_, ?_, ?_⟩
        · rw [count]
          exact bounds.1
        · rw [count, ceiling]
          exact bounds.2
        · rw [sameFlag]
          exact inRange.flag
      · refine ⟨vm, ?_, inRange⟩
        rw [switchHalf_vms_of_ne (Ne.symm own)]
        exact found

theorem Registered.tick (registered : Registered key host) (clock : TickClock)
    (lastIdleAvg : Option Nat) (vmName : VmKey) :
    Registered key (callbackFn clock lastIdleAvg vmName host).1 := by
  obtain ⟨vm, found, inRange⟩ := registered
  by_cases own : vmName = key
  · subst own
    rcases callbackFn_cases clock lastIdleAvg vmName host with
      idle | ⟨current, old, new, present, first, second⟩
    · rw [idle]
      exact ⟨vm, found, inRange⟩
    · obtain rfl := Option.some.inj (found.symm.trans present)
      rw [callbackFn_of_buffered found first second]
      refine ⟨vm.ticked, AList.lookup_insert _, ?_, ?_, ticked_flag inRange.flag⟩
      · rw [ticked_phantomCount]
        exact inRange.nonneg
      · rw [ticked_phantomCount, ticked_nbVcpus]
        exact inRange.ceiling
  · refine ⟨vm, ?_, inRange⟩
    rw [callbackFn_vms_of_ne (Ne.symm own)]
    exact found

/-- Along every run a registered VM stays registered and in range, whether or not
it has buffers. -/
theorem Registered.run {tracked : VmKey} {guard : Serial → SerialAction → Prop}
    {serial final : Serial} {actions : List SerialAction} (registered : Registered key serial.host)
    (run : GuardedRun (Serial.step tracked) guard serial actions final) :
    Registered key final.host := by
  refine run.invariant (fun serial => Registered key serial.host) ?_ registered
  intro current action next known _ taken
  cases action with
  | switch input =>
      obtain rfl := Option.some.inj taken
      exact (known.half (incomingSwitch_halfStep input _)).half (outgoingSwitch_halfStep input _ _)
  | tick vmName clock lastIdleAvg =>
      obtain rfl := Option.some.inj taken
      exact known.tick clock lastIdleAvg vmName

end Registered

end PhantomTracker.Host
