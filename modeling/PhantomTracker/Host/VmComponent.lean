import PhantomTracker.Foundation.Component
import PhantomTracker.Host.BufferRepresentation
import PhantomTracker.Host.CleanupInverse

/-!
Contract: the host as a family of independent machines, one for each VM.

Owns: the machine of one VM, which knows nothing of the others; the inputs that
switch events and ticks route to it; and that complete handlers, ticks and runs
of the tools for other VMs move each VM by these inputs alone.

Does not own: handlers that overlap, or the page that the watermarks go to.

One input of a VM does come from outside it. The outgoing half tests the local
`prev_state`, which is the state of the outgoing thread only if the incoming
thread is a registered vCPU, of whatever VM, and 0 otherwise.
-/

namespace PhantomTracker.Host

open PhantomTracker.Foundation
open PhantomTracker.Shmem (h2gFirstHistorySlot)

/-! ## The machine of one VM -/

/-- What the host keeps of one VM: its entry, its vCPUs and its two buffers. -/
structure VmView where
  vm : VmT
  vcpus : Tid → Option VcpuT
  samples : Buff → SampleMap

/-- What reaches one VM: a half of a handler for one of its vCPUs, and a tick. -/
inductive VmInput where
  | half (half : Half) (tid : Tid) (g2hRead : Nat → Option Nat) (prevState now : Nat)
  | tick (clock : TickClock) (lastIdleAvg : Option Nat)

/-- The test of `prev_state`, which only the outgoing half makes. -/
def Half.Eligible (half : Half) (prevState : Nat) : Prop :=
  match half with
  | incoming => True
  | outgoing => prevState = taskRunning ∨ prevState = taskWaking

instance (half : Half) (prevState : Nat) : Decidable (half.Eligible prevState) := by
  cases half with
  | incoming => exact isTrue trivial
  | outgoing => exact inferInstanceAs (Decidable (_ ∨ _))

/-- What a half tests before it flips the flag of `vcpu`. -/
def Half.Fires (half : Half) (g2hRead : Nat → Option Nat) (prevState : Nat) (vcpu : VcpuT) :
    Prop :=
  (g2hRead vcpu.vcpuIndex).getD 0 = 1 ∧ half.Eligible prevState ∧ vcpu.isPhantom = half.expected

instance (half : Half) (g2hRead : Nat → Option Nat) (prevState : Nat) (vcpu : VcpuT) :
    Decidable (half.Fires g2hRead prevState vcpu) :=
  inferInstanceAs (Decidable (_ ∧ _ ∧ _))

namespace VmView

/-- A half that fires: the flag, the counter and the sample. -/
def flip (half : Half) (now : Nat) (tid : Tid) (vcpu : VcpuT) (view : VmView) : VmView where
  vm := (view.vm.setCount (half.newCount view.vm)).setIndex view.vm.active
    (u32Succ (view.vm.index view.vm.active))
  vcpus := Function.update view.vcpus tid (some { vcpu with isPhantom := half.desired })
  samples := Function.update view.samples view.vm.active
    ((view.samples view.vm.active).updateElem (view.vm.index view.vm.active)
      ⟨half.newCount view.vm, now⟩)

/-- The buffers after a tick: the other one opened, the active one closed. -/
def windowed (clock : TickClock) (view : VmView) : Buff → SampleMap :=
  let opened := Function.update view.samples view.vm.active.other
    ((view.samples view.vm.active.other).updateElem 0 ⟨view.vm.phantomCount, clock.startNow⟩)
  Function.update opened view.vm.active
    ((opened view.vm.active).updateElem (view.vm.index view.vm.active)
      ⟨view.vm.phantomCount, clock.endNow⟩)

def ticked (clock : TickClock) (view : VmView) : VmView :=
  { view with vm := view.vm.ticked, samples := view.windowed clock }

/-- The watermark of a tick. -/
def watermark (clock : TickClock) (lastIdleAvg : Option Nat) (view : VmView) : Watermark where
  index := h2gFirstHistorySlot + view.vm.h2gHistoryIndex % h2gHistorySlotCount
  ts := clock.publishNow
  phantomAvg := phantomAverage (view.windowed clock view.vm.active)
    (view.vm.index view.vm.active)
  idleAvg := lastIdleAvg.getD 0

def step (view : VmView) : VmInput → VmView × List Watermark
  | .half half tid g2hRead prevState now =>
      match view.vcpus tid with
      | some vcpu =>
          if half.Fires g2hRead prevState vcpu then (view.flip half now tid vcpu, [])
          else (view, [])
      | none => (view, [])
  | .tick clock lastIdleAvg => (view.ticked clock, [view.watermark clock lastIdleAvg])

end VmView

/-! ## The inputs of one VM -/

/-- The thread is a vCPU of the VM. -/
def ownThread (key : VmKey) (host : HostState) (tid : Tid) : Bool :=
  (host.vcpus.lookup tid).any fun vcpu => vcpu.vmName = key

def routeHalf (key : VmKey) (host : HostState) (half : Half) (tid : Tid)
    (g2hRead : Nat → Option Nat) (prevState now : Nat) : List VmInput :=
  if ownThread key host tid then [.half half tid g2hRead prevState now] else []

/-- The inputs that an action routes to the VM `key`. -/
def routeAction (key : VmKey) (host : HostState) : HostAction → List VmInput
  | .switch input =>
      let incoming := incomingSwitch input host
      routeHalf key host .incoming input.event.nextPid input.g2hRead 0 input.incomingNow ++
        routeHalf key incoming.1 .outgoing input.event.prevPid input.g2hRead incoming.2
          input.outgoingNow
  | .tick clock lastIdleAvg vmName => if vmName = key then [.tick clock lastIdleAvg] else []
  | _ => []

/-- The watermarks of the VM `key` that an action publishes. -/
def emitAction (key : VmKey) (host : HostState) : HostAction → List Watermark
  | .tick clock lastIdleAvg vmName =>
      if vmName = key then (callbackFn clock lastIdleAvg vmName host).2.toList else []
  | _ => []

/-- The host holds `view` of the VM `key`, whose buffers `maps` no other VM uses. -/
structure Sees (key : VmKey) (maps : Buff → MapId) (host : HostState) (view : VmView) : Prop where
  collecting : Collecting key maps view.vm host
  exclusive : Exclusive key maps host.mapRegistry
  vcpus : ∀ tid, view.vcpus tid = (host.vcpus.lookup tid).filter fun vcpu => vcpu.vmName = key
  samples : ∀ buff, view.samples buff = host.sampleMaps (maps buff)

/-! ## A half of a handler -/

section Half

variable {key : VmKey} {maps : Buff → MapId} {host : HostState} {view : VmView} {half : Half}
  {tid : Tid} {vcpu : VcpuT} {g2hRead : Nat → Option Nat} {prevState now : Nat}

/-- Either half of the handler, as one function. -/
def hostHalf (half : Half) (tid : Tid) (g2hRead : Nat → Option Nat) (prevState now : Nat)
    (host : HostState) : HostState :=
  match host.vcpus.lookup tid with
  | some vcpu => if half.Fires g2hRead prevState vcpu then switchHalf half now tid vcpu host else host
  | none => host

theorem incomingSwitch_eq_hostHalf (input : SwitchInput) (host : HostState) :
    (incomingSwitch input host).1 =
      hostHalf .incoming input.event.nextPid input.g2hRead 0 input.incomingNow host := by
  unfold incomingSwitch hostHalf
  cases host.vcpus.lookup input.event.nextPid with
  | none => rfl
  | some vcpu =>
      by_cases fires : input.msg vcpu = 1 ∧ vcpu.isPhantom = Half.incoming.expected
      · have both : Half.incoming.Fires input.g2hRead 0 vcpu := ⟨fires.1, trivial, fires.2⟩
        simp only [if_pos fires, if_pos both]
      · have silent : ¬ Half.incoming.Fires input.g2hRead 0 vcpu := fun both =>
          fires ⟨both.1, both.2.2⟩
        simp only [if_neg fires, if_neg silent]

theorem outgoingSwitch_eq_hostHalf (input : SwitchInput) (prevState : Nat) (host : HostState) :
    outgoingSwitch input prevState host =
      hostHalf .outgoing input.event.prevPid input.g2hRead prevState input.outgoingNow host := rfl

theorem Sees.ownVcpu (sees : Sees key maps host view) (found : host.vcpus.lookup tid = some vcpu)
    (own : vcpu.vmName = key) : view.vcpus tid = some vcpu := by
  rw [sees.vcpus, found, Option.filter_some, if_pos (decide_eq_true own)]

/-- The vCPUs of the VM after a flag of one of them has been set. -/
theorem Sees.vcpus_insert (sees : Sees key maps host view) (own : vcpu.vmName = key) (value : Nat)
    (other : Tid) :
    Function.update view.vcpus tid (some { vcpu with isPhantom := value }) other =
      ((host.vcpus.insert tid { vcpu with isPhantom := value }).lookup other).filter fun entry =>
        entry.vmName = key := by
  by_cases same : other = tid
  · subst same
    rw [Function.update_self, AList.lookup_insert, Option.filter_some, if_pos (decide_eq_true own)]
  · rw [Function.update_of_ne same, AList.lookup_insert_ne same]
    exact sees.vcpus other

/-- A half that fires for a vCPU of the VM moves the VM as it would alone. -/
theorem Sees.flip (sees : Sees key maps host view) (found : host.vcpus.lookup tid = some vcpu)
    (own : vcpu.vmName = key) (flag : vcpu.isPhantom = half.expected) :
    Sees key maps (switchHalf half now tid vcpu host) (view.flip half now tid vcpu) := by
  have present : host.vms.lookup vcpu.vmName = some view.vm := own ▸ sees.collecting.found
  have buffered : host.mapRegistry.lookup (collectionBuff view.vm.active vcpu.vmName) =
      some (maps view.vm.active) := own ▸ buffers_lookup sees.collecting.buffered view.vm.active
  have shape : SameShape host (switchHalf half now tid vcpu host) :=
    (HalfStep.flip half found flag).sameShape
  have after : switchHalf half now tid vcpu host = _ := switchHalf_of_buffered present buffered
  refine ⟨sees.collecting.of_sameShape shape ?_ ?_, ?_, ?_, ?_⟩
  · rw [after, own]
    exact AList.lookup_insert _
  · show (VmT.setIndex _ _ _).isCollectxInBuff1 = 0 ∨ (VmT.setIndex _ _ _).isCollectxInBuff1 = 1
    rw [VmT.setIndex_isCollectxInBuff1]
    exact sees.collecting.flag
  · rw [switchHalf_mapRegistry]
    exact sees.exclusive
  · intro other
    rw [switchHalf_vcpus]
    exact sees.vcpus_insert own half.desired other
  · intro buff
    rw [after]
    show Function.update view.samples _ _ buff = Function.update host.sampleMaps _ _ (maps buff)
    by_cases same : buff = view.vm.active
    · subst same
      rw [Function.update_self, Function.update_self, sees.samples]
    · have apart : maps buff ≠ maps view.vm.active := by
        rw [Buff.eq_other_of_ne same]
        exact sees.collecting.apart view.vm.active
      rw [Function.update_of_ne same, Function.update_of_ne apart]
      exact sees.samples buff

/-- A half that fires for a vCPU of another VM leaves the VM alone. -/
theorem Sees.flipForeign (sees : Sees key maps host view)
    (found : host.vcpus.lookup tid = some vcpu) (foreign : vcpu.vmName ≠ key)
    (flag : vcpu.isPhantom = half.expected) :
    Sees key maps (switchHalf half now tid vcpu host) view := by
  have shape : SameShape host (switchHalf half now tid vcpu host) :=
    (HalfStep.flip half found flag).sameShape
  refine ⟨sees.collecting.of_sameShape shape ?_ sees.collecting.flag, ?_, ?_, ?_⟩
  · rw [switchHalf_vms_of_ne (Ne.symm foreign)]
    exact sees.collecting.found
  · rw [switchHalf_mapRegistry]
    exact sees.exclusive
  · intro other
    rw [switchHalf_vcpus, sees.vcpus]
    by_cases same : other = tid
    · subst same
      rw [AList.lookup_insert, found, Option.filter_some, Option.filter_some,
        if_neg (by simpa using foreign), if_neg (by simpa using foreign)]
    · rw [AList.lookup_insert_ne same]
  · intro buff
    rw [switchHalf_sampleMaps_foreign sees.collecting found foreign]
    exact sees.samples buff

/-- A half moves the VM by the input that it routes to it, if any. -/
theorem Sees.afterHalf (sees : Sees key maps host view) (half : Half) (tid : Tid)
    (g2hRead : Nat → Option Nat) (prevState now : Nat) :
    Sees key maps (hostHalf half tid g2hRead prevState now host)
        (consume VmView.step view (routeHalf key host half tid g2hRead prevState now)).1 ∧
      (consume VmView.step view (routeHalf key host half tid g2hRead prevState now)).2 = [] := by
  unfold hostHalf routeHalf ownThread
  cases found : host.vcpus.lookup tid with
  | none => exact ⟨sees, rfl⟩
  | some vcpu =>
      by_cases own : vcpu.vmName = key
      · simp only [Option.any_some, decide_eq_true own, if_true, consume, VmView.step,
          sees.ownVcpu found own]
        by_cases fires : half.Fires g2hRead prevState vcpu
        · simp only [if_pos fires]
          exact ⟨sees.flip found own fires.2.2, rfl⟩
        · simp only [if_neg fires]
          exact ⟨sees, rfl⟩
      · simp only [Option.any_some, decide_eq_false own, Bool.false_eq_true, if_false, consume]
        refine ⟨?_, trivial⟩
        by_cases fires : half.Fires g2hRead prevState vcpu
        · rw [if_pos fires]
          exact sees.flipForeign found own fires.2.2
        · rw [if_neg fires]
          exact sees

/-- A handler moves the VM by the inputs that it routes to it. -/
theorem Sees.switch (sees : Sees key maps host view) (input : SwitchInput) :
    Sees key maps (phantomSwitchHandler input host)
        (consume VmView.step view (routeAction key host (.switch input))).1 ∧
      (consume VmView.step view (routeAction key host (.switch input))).2 = [] := by
  obtain ⟨incoming, silent⟩ := sees.afterHalf .incoming input.event.nextPid input.g2hRead 0
    input.incomingNow
  rw [← incomingSwitch_eq_hostHalf] at incoming
  obtain ⟨outgoing, alsoSilent⟩ := incoming.afterHalf .outgoing input.event.prevPid
    input.g2hRead (incomingSwitch input host).2 input.outgoingNow
  rw [← outgoingSwitch_eq_hostHalf] at outgoing
  simp only [routeAction, consume_append, silent, alsoSilent]
  exact ⟨outgoing, rfl⟩

end Half

/-! ## A tick -/

section Tick

variable {key vmName : VmKey} {maps : Buff → MapId} {host : HostState} {view : VmView}

/-- What `callback_fn` does to the buffers of the VM. -/
theorem Sees.windowed (sees : Sees key maps host view) (clock : TickClock)
    (lastIdleAvg : Option Nat) (buff : Buff) :
    view.windowed clock buff =
      (callbackFn clock lastIdleAvg key host).1.sampleMaps (maps buff) := by
  have first := buffers_lookup sees.collecting.buffered view.vm.active
  have second := buffers_lookup sees.collecting.buffered view.vm.active.other
  have apart := sees.collecting.apart view.vm.active
  rw [callbackFn_of_buffered sees.collecting.found first second]
  unfold VmView.windowed
  dsimp only
  by_cases same : buff = view.vm.active
  · subst same
    rw [Function.update_self, Function.update_self,
      Function.update_of_ne (Buff.other_ne view.vm.active).symm,
      Function.update_of_ne (Ne.symm apart), sees.samples]
  · obtain rfl := Buff.eq_other_of_ne same
    rw [Function.update_of_ne same, Function.update_of_ne apart, Function.update_self,
      Function.update_self, sees.samples]

/-- A tick of the VM moves it as it would alone. -/
theorem Sees.tick (sees : Sees key maps host view) (clock : TickClock)
    (lastIdleAvg : Option Nat) :
    Sees key maps (callbackFn clock lastIdleAvg key host).1 (view.ticked clock) ∧
      (callbackFn clock lastIdleAvg key host).2 = some (view.watermark clock lastIdleAvg) := by
  have first := buffers_lookup sees.collecting.buffered view.vm.active
  have second := buffers_lookup sees.collecting.buffered view.vm.active.other
  have windowed := sees.windowed clock lastIdleAvg
  refine ⟨⟨sees.collecting.of_sameShape (sameShape_callbackFn clock lastIdleAvg key host) ?_
    (ticked_flag sees.collecting.flag), ?_, ?_, windowed⟩, ?_⟩
  · rw [callbackFn_of_buffered sees.collecting.found first second]
    exact AList.lookup_insert _
  · rw [callbackFn_mapRegistry]
    exact sees.exclusive
  · rw [callbackFn_vcpus]
    exact sees.vcpus
  · rw [callbackFn_watermark clock lastIdleAvg sees.collecting.found first second, ← windowed]
    rfl

/-- A tick of another VM leaves the VM alone. -/
theorem Sees.tickForeign (sees : Sees key maps host view) (fitting : FittingKey vmName)
    (different : vmName ≠ key) (clock : TickClock) (lastIdleAvg : Option Nat) :
    Sees key maps (callbackFn clock lastIdleAvg vmName host).1 view := by
  refine ⟨sees.collecting.of_sameShape (sameShape_callbackFn clock lastIdleAvg vmName host) ?_
    sees.collecting.flag, ?_, ?_, ?_⟩
  · rw [callbackFn_vms_of_ne (Ne.symm different)]
    exact sees.collecting.found
  · rw [callbackFn_mapRegistry]
    exact sees.exclusive
  · rw [callbackFn_vcpus]
    exact sees.vcpus
  · intro buff
    rw [callbackFn_sampleMaps_foreign clock lastIdleAvg sees.exclusive fitting different]
    exact sees.samples buff

end Tick

/-! ## The tools -/

section Tools

variable {name : CString} {maps : Buff → MapId} {host after : HostState} {view : VmView}

/-- What leaves the keys, the vCPUs and the buffers of a VM alone, and lets nobody
else find its buffers, leaves the VM alone. -/
theorem Sees.untouched {key : VmKey} (sees : Sees key maps host view)
    (vm : after.vms.lookup key = host.vms.lookup key)
    (registered : ∀ buff, after.mapRegistry.lookup (collectionBuff buff key) =
      host.mapRegistry.lookup (collectionBuff buff key))
    (found : ∀ target map, after.mapRegistry.lookup target = some map →
      host.mapRegistry.lookup target = some map ∨ ∀ own, map ≠ maps own)
    (vcpus : ∀ tid, ((after.vcpus.lookup tid).filter fun vcpu => vcpu.vmName = key) =
      (host.vcpus.lookup tid).filter fun vcpu => vcpu.vmName = key)
    (names : ∀ tid vcpu, after.vcpus.lookup tid = some vcpu →
      host.vcpus.lookup tid = some vcpu ∨ FittingKey vcpu.vmName)
    (samples : ∀ buff, after.sampleMaps (maps buff) = host.sampleMaps (maps buff)) :
    Sees key maps after view := by
  have exclusive : Exclusive key maps after.mapRegistry := by
    intro vmName fitting different buff map present
    rcases found _ map present with before | apart
    · exact sees.exclusive vmName fitting different buff map before
    · exact apart
  refine ⟨⟨vm.trans sees.collecting.found, ?_, sees.collecting.apart, ?_, sees.collecting.flag, ?_⟩,
    exclusive, ?_, ?_⟩
  · unfold buffers
    rw [registered, registered]
    exact sees.collecting.buffered
  · intro buff
    rw [samples]
    exact sees.collecting.capacity buff
  · intro tid vcpu buff map present different registeredMap
    rcases names tid vcpu present with before | fitting
    · rcases found _ map registeredMap with earlier | apart
      · exact sees.collecting.foreign tid vcpu buff map before different earlier
      · exact apart
    · exact exclusive vcpu.vmName fitting different buff map registeredMap
  · intro tid
    rw [vcpus]
    exact sees.vcpus tid
  · intro buff
    rw [samples]
    exact sees.samples buff

/-- A scan for another name keeps the vCPUs of a VM. -/
theorem cleanupStaleVcpus_filter_own {other : CString} (allocated : Bool)
    (fits : name.bytes.length ≤ maxFittingName) (different : other ≠ name)
    (vcpus : FiniteMap Tid VcpuT) (tid : Tid) :
    (((cleanupStaleVcpus allocated other vcpus).lookup tid).filter fun vcpu =>
        vcpu.vmName = vmKey name.bytes) =
      (vcpus.lookup tid).filter fun vcpu => vcpu.vmName = vmKey name.bytes := by
  rw [cleanupStaleVcpus_lookup]
  split
  case isFalse => rfl
  case isTrue scanned =>
      obtain ⟨vcpu, present, text⟩ := ownedBy_iff.mp scanned.2
      have foreign : vcpu.vmName ≠ vmKey name.bytes := by
        intro own
        have short : name.bytes.length < vmNameLen := by
          have room : name.bytes.length ≤ 61 := fits
          show name.bytes.length < 64
          omega
        rw [own, vmKey_text short] at text
        apply different
        cases other
        cases name
        cases text
        rfl
      rw [present, Option.filter_none, Option.filter_some, if_neg (by simpa using foreign)]

/-- The keys of another VM are not those of the VM. -/
theorem vmKey_ne {other : CString} (fits : name.bytes.length ≤ maxFittingName)
    (otherFits : other.bytes.length ≤ maxFittingName) (different : other ≠ name) :
    vmKey name.bytes ≠ vmKey other.bytes := by
  have short : ∀ text : CString, text.bytes.length ≤ maxFittingName →
      text.bytes.length < vmNameLen := by
    intro text room
    have small : text.bytes.length ≤ 61 := room
    show text.bytes.length < 64
    omega
  exact fun same => different (vmKey_injective (short name fits) (short other otherFits) same).symm

/-- `cleanup` of another VM leaves the VM alone. -/
theorem Sees.cleanupForeign (sees : Sees (vmKey name.bytes) maps host view) {other : CString}
    (fits : name.bytes.length ≤ maxFittingName) (otherFits : other.bytes.length ≤ maxFittingName)
    (different : other ≠ name) (calls : CleanupCalls) :
    Sees (vmKey name.bytes) maps (cleanup calls other host) view := by
  have erased : ∀ target map, (cleanup calls other host).mapRegistry.lookup target = some map →
      host.mapRegistry.lookup target = some map := by
    intro target map present
    simp only [cleanup, deleteElem_lookup] at present
    split_ifs at present
    exact present
  refine sees.untouched ?_ ?_ (fun target map present => Or.inl (erased target map present)) ?_ ?_
    (fun _ => rfl)
  · simp only [cleanup, deleteElem_lookup]
    rw [if_neg fun both => vmKey_ne fits otherFits different both.2]
  · intro buff
    have apart : ∀ target, collectionBuff buff (vmKey name.bytes) ≠
        registryKey target other.bytes := by
      intro target
      rw [collectionBuff_vmKey name.nulFree fits]
      exact registryKey_ne name other fits otherFits (Ne.symm different) buff target
    simp only [cleanup, deleteElem_lookup]
    rw [if_neg fun both => apart .two both.2, if_neg fun both => apart .one both.2]
  · exact cleanupStaleVcpus_filter_own _ fits different host.vcpus
  · intro tid vcpu present
    left
    have looked : (cleanupStaleVcpus (calls.getVcpus && calls.allocate) other host.vcpus).lookup tid =
        some vcpu := present
    rw [cleanupStaleVcpus_lookup] at looked
    split_ifs at looked
    exact looked

/-- What `register_vm` does, whichever of its calls fails: it touches no other
entry of `vms`, and it deletes and inserts vCPUs of its own name. -/
theorem registerVm_shape (failing : Option RegisterCall) (allocated : Bool) (args : RegisterArgs)
    (host : HostState) :
    ∃ swept temp, (∀ qmpDetail ∈ temp, qmpDetail ∈ args.vcpus) ∧
      (registerVm failing allocated args host).1.vcpus =
        insertVcpus args temp (cleanupStaleVcpus swept args.vmName host.vcpus) ∧
      ∀ key, key ≠ vmKey args.vmName.bytes →
        (registerVm failing allocated args host).1.vms.lookup key = host.vms.lookup key := by
  have others : ∀ key, key ≠ vmKey args.vmName.bytes →
      (host.vms.insert (vmKey args.vmName.bytes) args.vm).lookup key = host.vms.lookup key :=
    fun key different => AList.lookup_insert_ne different
  have listed : ∀ count, ∀ qmpDetail ∈ args.vcpus.take count, qmpDetail ∈ args.vcpus :=
    fun count qmpDetail member => List.mem_of_mem_take member
  cases failing with
  | none => exact ⟨allocated, args.vcpus.take args.vcpus.length, listed _, rfl, others⟩
  | some call =>
      cases call with
      | updateVms => exact ⟨allocated, [], List.forall_mem_nil _, rfl, fun _ _ => rfl⟩
      | mallocVcpu position => exact ⟨allocated, args.vcpus.take position, listed _, rfl, others⟩
      | updateVcpu position => exact ⟨allocated, args.vcpus.take position, listed _, rfl, others⟩
      | _ => exact ⟨false, [], List.forall_mem_nil _, rfl, fun _ _ => rfl⟩

theorem registerVm_mapRegistry (failing : Option RegisterCall) (allocated : Bool)
    (args : RegisterArgs) (host : HostState) :
    (registerVm failing allocated args host).1.mapRegistry = host.mapRegistry := by
  cases failing with
  | none => rfl
  | some call => cases call <;> rfl

theorem registerVm_sampleMaps (failing : Option RegisterCall) (allocated : Bool)
    (args : RegisterArgs) (host : HostState) :
    (registerVm failing allocated args host).1.sampleMaps = host.sampleMaps := by
  cases failing with
  | none => rfl
  | some call => cases call <;> rfl

/-- `register_vm` for another VM leaves the VM alone, whichever of its calls fails. -/
theorem Sees.registerForeign (sees : Sees (vmKey name.bytes) maps host view) {args : RegisterArgs}
    (fits : name.bytes.length ≤ maxFittingName)
    (otherFits : args.vmName.bytes.length ≤ maxFittingName) (different : args.vmName ≠ name)
    (threads : ∀ qmpDetail ∈ args.vcpus,
      ownThread (vmKey name.bytes) host qmpDetail.threadId = false)
    (failing : Option RegisterCall) (allocated : Bool) :
    Sees (vmKey name.bytes) maps (registerVm failing allocated args host).1 view := by
  obtain ⟨swept, temp, listed, vcpus, vms⟩ := registerVm_shape failing allocated args host
  refine sees.untouched (vms _ (vmKey_ne fits otherFits different)) ?_ ?_ ?_ ?_ ?_
  · intro buff
    rw [registerVm_mapRegistry]
  · intro target map present
    rw [registerVm_mapRegistry] at present
    exact Or.inl present
  · intro tid
    rw [vcpus]
    rcases @insertVcpus_lookup args (cleanupStaleVcpus swept args.vmName host.vcpus) temp tid with
      ⟨qmpDetail, member, rfl, inserted⟩ | ⟨_, kept⟩
    · have mine := threads qmpDetail (listed qmpDetail member)
      rw [inserted, Option.filter_some, if_neg]
      · unfold ownThread at mine
        cases present : host.vcpus.lookup qmpDetail.threadId with
        | none => rfl
        | some vcpu =>
            rw [present, Option.any_some, decide_eq_false_iff_not] at mine
            rw [Option.filter_some, if_neg (by simpa using mine)]
      · have apart : (args.vcpu qmpDetail).vmName ≠ vmKey name.bytes :=
          Ne.symm (vmKey_ne fits otherFits different)
        simpa using apart
    · rw [kept]
      exact cleanupStaleVcpus_filter_own _ fits different host.vcpus tid
  · intro tid vcpu present
    rw [vcpus] at present
    rcases @insertVcpus_lookup args (cleanupStaleVcpus swept args.vmName host.vcpus) temp tid with
      ⟨qmpDetail, _, _, inserted⟩ | ⟨_, kept⟩
    · right
      obtain rfl := Option.some.inj (inserted.symm.trans present)
      exact ⟨args.vmName, otherFits, rfl⟩
    · left
      rw [kept, cleanupStaleVcpus_lookup] at present
      split_ifs at present
      exact present
  · intro buff
    rw [registerVm_sampleMaps]

section Setup

variable (failing : Option SetupCall) (collection processing : MapId) (other : CString)
  (host : HostState)

/-- `setup_vm_maps` leaves the entries under other keys alone. -/
theorem setupVmMaps_lookup_of_ne {target : VmKey}
    (apart : ∀ buff, target ≠ registryKey buff other.bytes) :
    (setupVmMaps failing collection processing other host).1.mapRegistry.lookup target =
      host.mapRegistry.lookup target := by
  cases failing with
  | none => exact setupVmMaps_registry_of_ne apart
  | some call =>
      cases call with
      | registerProcessing => exact AList.lookup_insert_ne (apart .one)
      | _ => rfl

/-- After `setup_vm_maps` a key answers with the map it had or with a new one. -/
theorem setupVmMaps_lookup {target : VmKey} {map : MapId}
    (present : (setupVmMaps failing collection processing other host).1.mapRegistry.lookup target =
      some map) :
    map = collection ∨ map = processing ∨ host.mapRegistry.lookup target = some map := by
  have inserted : ∀ (registry : FiniteMap VmKey MapId) (key : VmKey) (stored : MapId),
      (registry.insert key stored).lookup target = some map →
        map = stored ∨ registry.lookup target = some map := by
    intro registry key stored found
    by_cases same : target = key
    · rw [same, AList.lookup_insert] at found
      exact Or.inl (Option.some.inj found).symm
    · rw [AList.lookup_insert_ne same] at found
      exact Or.inr found
  cases failing with
  | none =>
      rcases inserted _ _ _ present with two | rest
      · exact Or.inr (Or.inl two)
      · rcases inserted _ _ _ rest with one | before
        · exact Or.inl one
        · exact Or.inr (Or.inr before)
  | some call =>
      cases call with
      | registerProcessing =>
          rcases inserted _ _ _ present with one | before
          · exact Or.inl one
          · exact Or.inr (Or.inr before)
      | _ => exact Or.inr (Or.inr present)

/-- `setup_vm_maps` leaves the samples of all maps but the new ones alone. -/
theorem setupVmMaps_sampleMaps {map : MapId} (notCollection : map ≠ collection)
    (notProcessing : map ≠ processing) :
    (setupVmMaps failing collection processing other host).1.sampleMaps map =
      host.sampleMaps map := by
  have created : Function.update (Function.update host.sampleMaps collection
      (SampleMap.fresh vmMapMaxEntries)) processing (SampleMap.fresh vmMapMaxEntries) map =
        host.sampleMaps map := by
    rw [Function.update_of_ne notProcessing, Function.update_of_ne notCollection]
  cases failing with
  | none => exact created
  | some call =>
      cases call with
      | registerProcessing => exact created
      | _ => rfl

theorem vms_setupVmMaps :
    (setupVmMaps failing collection processing other host).1.vms = host.vms := by
  cases failing with
  | none => rfl
  | some call => cases call <;> rfl

theorem vcpus_setupVmMaps :
    (setupVmMaps failing collection processing other host).1.vcpus = host.vcpus := by
  cases failing with
  | none => rfl
  | some call => cases call <;> rfl

end Setup

/-- `setup_vm_maps` for another VM leaves the VM alone, whichever of its calls fails. -/
theorem Sees.setupForeign (sees : Sees (vmKey name.bytes) maps host view) {other : CString}
    {collection processing : MapId} (fits : name.bytes.length ≤ maxFittingName)
    (otherFits : other.bytes.length ≤ maxFittingName) (different : other ≠ name)
    (newMaps : NewMaps collection processing host) (failing : Option SetupCall) :
    Sees (vmKey name.bytes) maps (setupVmMaps failing collection processing other host).1 view := by
  have ownMaps : ∀ own, maps own ≠ collection ∧ maps own ≠ processing := fun own =>
    newMaps.unused _ _ (buffers_lookup sees.collecting.buffered own)
  refine sees.untouched (by rw [vms_setupVmMaps]) ?_ ?_ ?_ ?_ ?_
  · intro buff
    apply setupVmMaps_lookup_of_ne
    intro target
    rw [collectionBuff_vmKey name.nulFree fits]
    exact registryKey_ne name other fits otherFits (Ne.symm different) buff target
  · intro target map present
    rcases setupVmMaps_lookup _ _ _ _ _ present with rfl | rfl | before
    · exact Or.inr fun own same => (ownMaps own).1 same.symm
    · exact Or.inr fun own same => (ownMaps own).2 same.symm
    · exact Or.inl before
  · intro tid
    rw [vcpus_setupVmMaps]
  · intro tid vcpu present
    rw [vcpus_setupVmMaps] at present
    exact Or.inl present
  · intro buff
    exact setupVmMaps_sampleMaps _ _ _ _ _ (ownMaps buff).1 (ownMaps buff).2

/-! ## A registered VM -/

/-- The view of a VM that has just been registered. Of several list nodes with one
thread the last one stays. -/
def freshView (args : RegisterArgs) : VmView where
  vm := args.vm
  vcpus tid := (insertVcpus args args.vcpus ∅).lookup tid
  samples _ := SampleMap.fresh vmMapMaxEntries

/-- Inserting a list of vCPUs answers every thread of the list, whatever was stored. -/
theorem insertVcpus_lookup_listed (args : RegisterArgs) (left right : FiniteMap Tid VcpuT)
    {tid : Tid} (temp : List QmpVcpu) (same : left.lookup tid = right.lookup tid ∨
      ∃ qmpDetail ∈ temp, qmpDetail.threadId = tid) :
    (insertVcpus args temp left).lookup tid = (insertVcpus args temp right).lookup tid := by
  induction temp generalizing left right with
  | nil =>
      rcases same with equal | ⟨_, member, _⟩
      · exact equal
      · cases member
  | cons head rest inductionHypothesis =>
      apply inductionHypothesis
      by_cases here : tid = head.threadId
      · left
        rw [here, AList.lookup_insert, AList.lookup_insert]
      · rcases same with equal | ⟨qmpDetail, member, thread⟩
        · left
          rw [AList.lookup_insert_ne here, AList.lookup_insert_ne here, equal]
        · rcases List.mem_cons.mp member with rfl | later
          · exact absurd thread.symm here
          · exact Or.inr ⟨qmpDetail, later, thread⟩

/-- What a registration needs of the host: fitting names of the VMs registered so
far, and new maps. -/
structure Registrable (setup : VmSetup) (host : HostState) : Prop where
  fits : setup.name.bytes.length ≤ maxFittingName
  allocated : setup.allocated = true
  newMaps : NewMaps setup.collection setup.processing host
  fitting : ∀ tid vcpu, host.vcpus.lookup tid = some vcpu → FittingKey vcpu.vmName

/-- After a registration all names still fit. -/
theorem Registrable.fitting_run {setup : VmSetup} (registrable : Registrable setup host) (tid : Tid)
    (vcpu : VcpuT) (present : (setup.run host).vcpus.lookup tid = some vcpu) :
    FittingKey vcpu.vmName := by
  rw [run_vcpus] at present
  rcases @insertVcpus_lookup setup.args
    (cleanupStaleVcpus setup.allocated setup.name host.vcpus) setup.args.vcpus tid with
    ⟨qmpDetail, _, _, inserted⟩ | ⟨_, kept⟩
  · obtain rfl := Option.some.inj (inserted.symm.trans present)
    exact ⟨setup.name, registrable.fits, rfl⟩
  · rw [kept, cleanupStaleVcpus_lookup] at present
    split_ifs at present
    exact registrable.fitting tid vcpu present

theorem run_sampleMaps (setup : VmSetup) (host : HostState) :
    (setup.run host).sampleMaps = Function.update
      (Function.update host.sampleMaps setup.collection (SampleMap.fresh vmMapMaxEntries))
      setup.processing (SampleMap.fresh vmMapMaxEntries) := rfl

/-- A registration leaves the VM with a fresh view, whatever the host held. -/
theorem sees_run {setup : VmSetup} (registrable : Registrable setup host) :
    Sees (vmKey setup.name.bytes) setup.created (setup.run host) (freshView setup.args) := by
  have short : setup.name.bytes.length < vmNameLen := by
    have room : setup.name.bytes.length ≤ 61 := registrable.fits
    show setup.name.bytes.length < 64
    omega
  have newMaps : NewMaps setup.collection setup.processing
      (registerVm none setup.allocated setup.args host).1 :=
    ⟨registrable.newMaps.distinct, registrable.newMaps.unused⟩
  have found : (registerVm none setup.allocated setup.args host).1.vms.lookup
      (vmKey setup.name.bytes) = some setup.args.vm := AList.lookup_insert _
  refine ⟨collecting_setupVmMaps registrable.fits newMaps found (Or.inl rfl)
      registrable.fitting_run,
    exclusive_setupVmMaps registrable.fits newMaps, ?_, ?_⟩
  · intro tid
    rw [run_vcpus]
    show (insertVcpus setup.args setup.args.vcpus ∅).lookup tid = _
    by_cases listed : ∃ qmpDetail ∈ setup.args.vcpus, qmpDetail.threadId = tid
    · rw [insertVcpus_lookup_listed setup.args ∅
        (cleanupStaleVcpus setup.allocated setup.name host.vcpus) setup.args.vcpus (Or.inr listed)]
      rcases @insertVcpus_lookup setup.args
        (cleanupStaleVcpus setup.allocated setup.name host.vcpus) setup.args.vcpus tid with
        ⟨qmpDetail, _, _, inserted⟩ | ⟨unlisted, _⟩
      · rw [inserted, Option.filter_some, if_pos]
        exact decide_eq_true rfl
      · obtain ⟨qmpDetail, member, thread⟩ := listed
        exact absurd thread (unlisted qmpDetail member)
    · have absent : ∀ stored : FiniteMap Tid VcpuT,
          (insertVcpus setup.args setup.args.vcpus stored).lookup tid = stored.lookup tid := by
        intro stored
        rcases @insertVcpus_lookup setup.args stored setup.args.vcpus tid with
          ⟨qmpDetail, member, thread, _⟩ | ⟨_, kept⟩
        · exact absurd ⟨qmpDetail, member, thread⟩ listed
        · exact kept
      rw [absent, absent, cleanupStaleVcpus_lookup, registrable.allocated]
      show none = _
      by_cases owned : ownedBy setup.name host.vcpus tid = true
      · rw [if_pos ⟨rfl, owned⟩]
        rfl
      · rw [if_neg fun both => owned both.2]
        cases present : host.vcpus.lookup tid with
        | none => rfl
        | some vcpu =>
            have foreign := vmName_ne_of_unowned short (Bool.eq_false_iff.mpr owned) present
            rw [Option.filter_some, if_neg (by simpa using foreign)]
  · intro buff
    rw [run_sampleMaps]
    cases buff with
    | one =>
        rw [show setup.created .one = setup.collection from rfl,
          Function.update_of_ne registrable.newMaps.distinct, Function.update_self]
        rfl
    | two =>
        rw [show setup.created .two = setup.processing from rfl, Function.update_self]
        rfl

end Tools

/-! ## The host as a family of components -/

section Component

variable {name : CString}

/-- What may happen beside the VM `name`: handlers and ticks of any VM, and runs of
the tools for other VMs, with new maps and threads that are not vCPUs of the VM. -/
def Beside (name : CString) (host : HostState) : HostAction → Prop
  | .switch _ => True
  | .tick _ _ vmName => FittingKey vmName
  | .register _ _ args => args.vmName ≠ name ∧ args.vmName.bytes.length ≤ maxFittingName ∧
      ∀ qmpDetail ∈ args.vcpus, ownThread (vmKey name.bytes) host qmpDetail.threadId = false
  | .setup _ collection processing other => other ≠ name ∧ other.bytes.length ≤ maxFittingName ∧
      NewMaps collection processing host
  | .cleanup _ other => other ≠ name ∧ other.bytes.length ≤ maxFittingName

/-- A VM with a fitting name as a component of the host. -/
def vmComponent (name : CString) (fits : name.bytes.length ≤ maxFittingName)
    (maps : Buff → MapId) :
    Component HostAction.apply (emitAction (vmKey name.bytes)) VmView.step where
  sees := Sees (vmKey name.bytes) maps
  allowed := Beside name
  route := routeAction (vmKey name.bytes)
  simulates := by
    intro host view action sees beside
    cases action with
    | switch input =>
        obtain ⟨after, silent⟩ := sees.switch input
        exact ⟨after, silent.symm⟩
    | tick clock lastIdleAvg vmName =>
        by_cases own : vmName = vmKey name.bytes
        · subst own
          obtain ⟨after, published⟩ := sees.tick clock lastIdleAvg
          simp only [routeAction, emitAction, if_true, published]
          exact ⟨after, rfl⟩
        · simp only [routeAction, emitAction, if_neg own]
          exact ⟨sees.tickForeign beside own clock lastIdleAvg, rfl⟩
    | register failing allocated args =>
        exact ⟨sees.registerForeign fits beside.2.1 beside.1 beside.2.2 failing allocated, rfl⟩
    | setup failing collection processing other =>
        exact ⟨sees.setupForeign fits beside.2.1 beside.1 beside.2.2 failing, rfl⟩
    | cleanup calls other => exact ⟨sees.cleanupForeign fits beside.2 beside.1 calls, rfl⟩

/-- The inputs of one VM along a run. -/
def vmInputs (name : CString) (host : HostState) (actions : List HostAction) : List VmInput :=
  routed HostAction.apply (routeAction (vmKey name.bytes)) host actions

/-- The watermarks of one VM along a run, oldest first. -/
def vmWatermarks (name : CString) (host : HostState) (actions : List HostAction) :
    List Watermark :=
  emitted HostAction.apply (emitAction (vmKey name.bytes)) host actions

/-- **VMs with fitting names do not influence each other.** Register one VM on two
hosts, beside other VMs whose names fit as well, and let two histories of handlers,
ticks and tool runs for other VMs follow that route the same inputs to it: the halves
of the handler for its own vCPUs and its own ticks. The tool runs give other VMs new
maps, and their threads are no vCPUs of this VM. Then the same watermarks are
published for it, and the hosts hold the same entry, the same vCPUs and the same
samples of it. -/
theorem vms_do_not_interfere {setup otherSetup : VmSetup} {host otherHost : HostState}
    {actions otherActions : List HostAction} (sameArgs : otherSetup.args = setup.args)
    (registrable : Registrable setup host) (otherRegistrable : Registrable otherSetup otherHost)
    (beside : AllowedRun HostAction.apply (Beside setup.name) (setup.run host) actions)
    (otherBeside : AllowedRun HostAction.apply (Beside setup.name) (otherSetup.run otherHost)
      otherActions)
    (sameInputs : vmInputs setup.name (setup.run host) actions =
      vmInputs setup.name (otherSetup.run otherHost) otherActions) :
    vmWatermarks setup.name (setup.run host) actions =
        vmWatermarks setup.name (otherSetup.run otherHost) otherActions ∧
      ∃ view, Sees (vmKey setup.name.bytes) setup.created
          (actions.foldl HostAction.apply (setup.run host)) view ∧
        Sees (vmKey setup.name.bytes) otherSetup.created
          (otherActions.foldl HostAction.apply (otherSetup.run otherHost)) view := by
  have sameName : otherSetup.name = setup.name := congrArg RegisterArgs.vmName sameArgs
  have sees := sees_run registrable
  have otherSees := sees_run otherRegistrable
  rw [sameName, sameArgs] at otherSees
  have run := (vmComponent setup.name registrable.fits setup.created).run sees beside
  have otherRun := (vmComponent setup.name registrable.fits otherSetup.created).run otherSees
    otherBeside
  have inputs : routed HostAction.apply
      (vmComponent setup.name registrable.fits otherSetup.created).route
        (otherSetup.run otherHost) otherActions =
      routed HostAction.apply (vmComponent setup.name registrable.fits setup.created).route
        (setup.run host) actions := sameInputs.symm
  rw [inputs] at otherRun
  exact ⟨run.2.trans otherRun.2.symm, _, run.1, otherRun.1⟩

/-! Two hosts with the same VM. -/

theorem registrable_emptyHost {setup : VmSetup} (fits : setup.name.bytes.length ≤ maxFittingName)
    (allocated : setup.allocated = true) (apart : setup.collection ≠ setup.processing) :
    Registrable setup emptyHost where
  fits := fits
  allocated := allocated
  newMaps := ⟨apart, fun key map found => by simp [emptyHost] at found⟩
  fitting tid vcpu found := by simp [emptyHost] at found

/-- A second VM can be registered beside a first one, with maps of its own. -/
theorem Registrable.second {first second : VmSetup} {host : HostState}
    (registrable : Registrable first host) (fits : second.name.bytes.length ≤ maxFittingName)
    (allocated : second.allocated = true) (newMaps : NewMaps second.collection second.processing host)
    (apart : ∀ left right, first.created left ≠ second.created right) :
    Registrable second (first.run host) where
  fits := fits
  allocated := allocated
  newMaps := by
    refine ⟨newMaps.distinct, fun target map present => ?_⟩
    rcases setupVmMaps_lookup _ _ _ _ _ present with rfl | rfl | before
    · exact ⟨apart .one .one, apart .one .two⟩
    · exact ⟨apart .two .one, apart .two .two⟩
    · exact newMaps.unused target map before
  fitting := registrable.fitting_run

/-- Another VM, which the second host has registered first. -/
def neighbour : VmSetup := letterSetup 1 8 3 4

/-- A preemption of the thread, with a guest page that says 1 everywhere. -/
def preemption (tid : Tid) : HostAction :=
  .switch ⟨⟨tid, 1, 0⟩, fun _ => some 1, 5, 6⟩

/-- A tick of the VM whose name is `count` times the letter `a`. -/
def letterTick (count : Nat) : HostAction :=
  .tick ⟨7, 8, 9⟩ (some 2) (vmKey (List.replicate count 97))

theorem beside_letterTick {count : Nat} (fits : count ≤ maxFittingName) (name : CString)
    (host : HostState) : Beside name host (letterTick count) :=
  ⟨⟨List.replicate count 97, nulFree_replicate count⟩, by rw [List.length_replicate]; exact fits, rfl⟩

theorem registrable_neighbour : Registrable neighbour emptyHost :=
  registrable_emptyHost (by decide) rfl (by decide)

/-- The VM on the second host, with maps of its own. -/
def tenant : VmSetup := letterSetup 2 7 5 6

theorem registrable_tenant : Registrable tenant (neighbour.run emptyHost) := by
  refine registrable_neighbour.second (by decide) rfl ⟨by decide, fun key map found => ?_⟩ ?_
  · simp [emptyHost] at found
  · intro left right
    cases left <;> cases right <;> decide

/-- One preemption and one tick of a VM, alone and beside a neighbour that is
preempted, ticks and is cleaned up. -/
theorem neighbour_is_not_seen :
    vmWatermarks (letterSetup 2 7 1 2).name ((letterSetup 2 7 1 2).run emptyHost)
        [preemption 7, letterTick 2] =
      vmWatermarks (letterSetup 2 7 1 2).name
        (tenant.run (neighbour.run emptyHost))
        [preemption 8, letterTick 1, preemption 7, .cleanup (.working true) neighbour.name,
          letterTick 2] := by
  have alone : Registrable (letterSetup 2 7 1 2) emptyHost :=
    registrable_emptyHost (by decide) rfl (by decide)
  have sameArgs : tenant.args = (letterSetup 2 7 1 2).args := rfl
  refine (vms_do_not_interfere sameArgs alone registrable_tenant ?_ ?_ ?_).1
  · exact ⟨trivial, beside_letterTick (by decide) _ _, trivial⟩
  · exact ⟨trivial, beside_letterTick (by decide) _ _, trivial, ⟨by decide, by decide⟩,
      beside_letterTick (by decide) _ _, trivial⟩
  · rfl

end Component

end PhantomTracker.Host
