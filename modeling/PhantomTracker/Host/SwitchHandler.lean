import PhantomTracker.Host.State

/-!
Contract: one complete execution of `phantom_switch_handler`.

Owns: `atomic_dec_if_pos` and `atomic_inc_if_lt_ceil` as an uninterrupted caller
sees them, the incoming and the outgoing half of the handler, the sample each
half appends, and the case analysis of what a half can do to the maps.

Does not own: the interleaving of several handlers, which the concurrent
machine models step by step, or the guest page behind
`bpf_host_ivshmem_g2h_read`.

The two halves of the source are the same code up to the flag values and the
counter update, so they are one definition with a `Half` parameter. They differ
in one further point: only the incoming half loads `ctx->prev_state`, and it
does so only when the incoming task is a registered vCPU. Otherwise the local
variable keeps its initial value 0.
-/

namespace PhantomTracker.Host

open PhantomTracker.Foundation

/-- `TASK_RUNNING`. -/
def taskRunning : Nat := 0x00000000

/-- `TASK_WAKING`. -/
def taskWaking : Nat := 0x00000200

structure SchedSwitch where
  prevPid : Tid
  nextPid : Tid
  prevState : Nat
deriving DecidableEq, Repr

/-- One `sched_switch` event: the tracepoint record, the result of
`bpf_host_ivshmem_g2h_read` for each vCPU index, and the clock at the two
places where the handler reads it. -/
structure SwitchInput where
  event : SchedSwitch
  g2hRead : Nat → Option Nat
  incomingNow : Nat
  outgoingNow : Nat

/-- The word left in the zero-initialised `msg` after the read. A failed read
leaves it zero. -/
def SwitchInput.msg (input : SwitchInput) (vcpu : VcpuT) : Nat :=
  (input.g2hRead vcpu.vcpuIndex).getD 0

def atomicDecIfPos (p : Int) : Int :=
  if p ≤ 0 then p else p - 1

def atomicIncIfLtCeil (p : Int) (ceilVal : Nat) : Int :=
  if p ≥ ceilVal then p else p + 1

inductive Half where
  | incoming
  | outgoing
deriving DecidableEq, Repr

namespace Half

/-- The value of `is_phantom` that the compare-and-swap expects. -/
def expected : Half → Nat
  | incoming => 1
  | outgoing => 0

/-- The value of `is_phantom` that the compare-and-swap stores. -/
def desired : Half → Nat
  | incoming => 0
  | outgoing => 1

def newCount (half : Half) (vm : VmT) : Int :=
  match half with
  | incoming => atomicDecIfPos vm.phantomCount
  | outgoing => atomicIncIfLtCeil vm.phantomCount vm.nbVcpus

end Half

/-- Append a sample with the current count of `vm` to its active buffer and
write `vm` back. The two lookups at the top of the source, whose results are
overwritten before use, have no effect. -/
def recordSample (now : Nat) (vmName : VmKey) (vm : VmT) (state : HostState) : HostState :=
  match state.mapRegistry.lookup (collectionBuff vm.active vmName) with
  | some map =>
      let idx := vm.index vm.active
      { state with
        vms := state.vms.insert vmName (vm.setIndex vm.active (u32Succ idx))
        sampleMaps := Function.update state.sampleMaps map
          ((state.sampleMaps map).updateElem idx ⟨vm.phantomCount, now⟩) }
  | none => { state with vms := state.vms.insert vmName vm }

/-- What a half does once its compare-and-swap on `is_phantom` has succeeded. -/
def switchHalf (half : Half) (now : Nat) (tid : Tid) (vcpu : VcpuT) (state : HostState) :
    HostState :=
  let flagged : HostState :=
    { state with vcpus := state.vcpus.insert tid { vcpu with isPhantom := half.desired } }
  match flagged.vms.lookup vcpu.vmName with
  | some vm =>
      recordSample now vcpu.vmName (vm.setCount (half.newCount vm)) flagged
  | none => flagged

/-- The half for the incoming task, with the value of the local `prev_state`
that it leaves for the outgoing half. -/
def incomingSwitch (input : SwitchInput) (state : HostState) : HostState × Nat :=
  match state.vcpus.lookup input.event.nextPid with
  | some vcpu =>
      if input.msg vcpu = 1 ∧ vcpu.isPhantom = Half.incoming.expected then
        (switchHalf .incoming input.incomingNow input.event.nextPid vcpu state,
          input.event.prevState)
      else (state, input.event.prevState)
  | none => (state, 0)

/-- The half for the outgoing task. -/
def outgoingSwitch (input : SwitchInput) (prevState : Nat) (state : HostState) : HostState :=
  match state.vcpus.lookup input.event.prevPid with
  | some vcpu =>
      if input.msg vcpu = 1 ∧ (prevState = taskRunning ∨ prevState = taskWaking) ∧
          vcpu.isPhantom = Half.outgoing.expected then
        switchHalf .outgoing input.outgoingNow input.event.prevPid vcpu state
      else state
  | none => state

def phantomSwitchHandler (input : SwitchInput) (state : HostState) : HostState :=
  let incoming := incomingSwitch input state
  outgoingSwitch input incoming.2 incoming.1

/-! ## What one half can do -/

section Half

variable {half : Half} {now : Nat} {tid : Tid} {vcpu : VcpuT} {state : HostState}

@[simp] theorem recordSample_vcpus (vmName : VmKey) (vm : VmT) :
    (recordSample now vmName vm state).vcpus = state.vcpus := by
  unfold recordSample
  split <;> rfl

@[simp] theorem recordSample_mapRegistry (vmName : VmKey) (vm : VmT) :
    (recordSample now vmName vm state).mapRegistry = state.mapRegistry := by
  unfold recordSample
  split <;> rfl

@[simp] theorem switchHalf_vcpus :
    (switchHalf half now tid vcpu state).vcpus =
      state.vcpus.insert tid { vcpu with isPhantom := half.desired } := by
  unfold switchHalf
  simp only
  split <;> simp

@[simp] theorem switchHalf_mapRegistry :
    (switchHalf half now tid vcpu state).mapRegistry = state.mapRegistry := by
  unfold switchHalf
  simp only
  split <;> simp

theorem switchHalf_of_absent (absent : state.vms.lookup vcpu.vmName = none) :
    switchHalf half now tid vcpu state =
      { state with vcpus := state.vcpus.insert tid { vcpu with isPhantom := half.desired } } := by
  unfold switchHalf
  simp only [absent]

/-- The VM entry after a half, when the VM has no active buffer. -/
theorem switchHalf_of_unbuffered {vm : VmT} (found : state.vms.lookup vcpu.vmName = some vm)
    (unbuffered : state.mapRegistry.lookup (collectionBuff vm.active vcpu.vmName) = none) :
    switchHalf half now tid vcpu state =
      { state with
        vcpus := state.vcpus.insert tid { vcpu with isPhantom := half.desired }
        vms := state.vms.insert vcpu.vmName (vm.setCount (half.newCount vm)) } := by
  unfold switchHalf recordSample
  simp only [found, VmT.setCount_active, unbuffered]

/-- The VM entry and the active buffer after a half, when both exist. -/
theorem switchHalf_of_buffered {vm : VmT} {map : MapId}
    (found : state.vms.lookup vcpu.vmName = some vm)
    (buffered : state.mapRegistry.lookup (collectionBuff vm.active vcpu.vmName) = some map) :
    switchHalf half now tid vcpu state =
      { state with
        vcpus := state.vcpus.insert tid { vcpu with isPhantom := half.desired }
        vms := state.vms.insert vcpu.vmName
          ((vm.setCount (half.newCount vm)).setIndex vm.active
            (u32Succ (vm.index vm.active)))
        sampleMaps := Function.update state.sampleMaps map
          ((state.sampleMaps map).updateElem (vm.index vm.active)
            ⟨half.newCount vm, now⟩) } := by
  unfold switchHalf recordSample
  simp only [found, VmT.setCount_active, VmT.setCount_index, VmT.setCount_phantomCount, buffered]

/-- A half leaves the entries of all other VMs alone. -/
theorem switchHalf_vms_of_ne {key : VmKey} (different : key ≠ vcpu.vmName) :
    (switchHalf half now tid vcpu state).vms.lookup key = state.vms.lookup key := by
  cases found : state.vms.lookup vcpu.vmName with
  | none => rw [switchHalf_of_absent found]
  | some vm =>
      cases buffered : state.mapRegistry.lookup (collectionBuff vm.active vcpu.vmName) with
      | none =>
          rw [switchHalf_of_unbuffered found buffered]
          exact AList.lookup_insert_ne different
      | some map =>
          rw [switchHalf_of_buffered found buffered]
          exact AList.lookup_insert_ne different

/-- A half applies its counter update to its own VM and keeps `nb_vcpus` and
the buffer selection. -/
theorem switchHalf_vms_own (half : Half) (now : Nat) (tid : Tid) {vm : VmT}
    (found : state.vms.lookup vcpu.vmName = some vm) :
    ∃ after, (switchHalf half now tid vcpu state).vms.lookup vcpu.vmName = some after ∧
      after.phantomCount = half.newCount vm ∧ after.nbVcpus = vm.nbVcpus ∧
      after.isCollectxInBuff1 = vm.isCollectxInBuff1 := by
  cases buffered : state.mapRegistry.lookup (collectionBuff vm.active vcpu.vmName) with
  | none =>
      rw [switchHalf_of_unbuffered found buffered]
      exact ⟨_, AList.lookup_insert _, rfl, rfl, rfl⟩
  | some map =>
      rw [switchHalf_of_buffered found buffered]
      refine ⟨_, AList.lookup_insert _, ?_, ?_, ?_⟩ <;> simp

/-- A half keeps the history cursor of every VM. -/
theorem switchHalf_h2gHistoryIndex (half : Half) (now : Nat) (tid : Tid) {key : VmKey} {vm : VmT}
    (found : state.vms.lookup key = some vm) :
    ∃ after, (switchHalf half now tid vcpu state).vms.lookup key = some after ∧
      after.h2gHistoryIndex = vm.h2gHistoryIndex := by
  by_cases own : key = vcpu.vmName
  · subst own
    cases buffered : state.mapRegistry.lookup (collectionBuff vm.active vcpu.vmName) with
    | none =>
        rw [switchHalf_of_unbuffered found buffered]
        exact ⟨_, AList.lookup_insert _, VmT.setCount_h2gHistoryIndex _ _⟩
    | some map =>
        rw [switchHalf_of_buffered found buffered]
        exact ⟨_, AList.lookup_insert _, VmT.setIndex_h2gHistoryIndex _ _ _⟩
  · exact ⟨vm, (switchHalf_vms_of_ne own).trans found, rfl⟩

end Half

/-- What a half of the handler can do to the host state when its clock reads
`now`: nothing, or flip the flag of one vCPU from the expected to the desired
value. -/
inductive HalfStep (now : Nat) : HostState → HostState → Prop where
  | stay (state : HostState) : HalfStep now state state
  | flip {state : HostState} (half : Half) {tid : Tid} {vcpu : VcpuT}
      (found : state.vcpus.lookup tid = some vcpu)
      (flag : vcpu.isPhantom = half.expected) :
      HalfStep now state (switchHalf half now tid vcpu state)

theorem incomingSwitch_halfStep (input : SwitchInput) (state : HostState) :
    HalfStep input.incomingNow state (incomingSwitch input state).1 := by
  unfold incomingSwitch
  cases found : state.vcpus.lookup input.event.nextPid with
  | none => exact .stay state
  | some vcpu =>
      by_cases fires : input.msg vcpu = 1 ∧ vcpu.isPhantom = Half.incoming.expected
      · simp only [if_pos fires]
        exact .flip .incoming found fires.2
      · simp only [if_neg fires]
        exact .stay state

theorem outgoingSwitch_halfStep (input : SwitchInput) (prevState : Nat) (state : HostState) :
    HalfStep input.outgoingNow state (outgoingSwitch input prevState state) := by
  unfold outgoingSwitch
  cases found : state.vcpus.lookup input.event.prevPid with
  | none => exact .stay state
  | some vcpu =>
      by_cases fires : input.msg vcpu = 1 ∧ (prevState = taskRunning ∨ prevState = taskWaking) ∧
          vcpu.isPhantom = Half.outgoing.expected
      · simp only [if_pos fires]
        exact .flip .outgoing found fires.2.2
      · simp only [if_neg fires]
        exact .stay state

/-! ## What the halves do to the vCPU entries -/

section Entries

variable {input : SwitchInput} {state : HostState} {tid : Tid} {vcpu : VcpuT}

theorem incomingSwitch_vcpus_of_ne {tid : Tid} (different : tid ≠ input.event.nextPid) :
    (incomingSwitch input state).1.vcpus.lookup tid = state.vcpus.lookup tid := by
  unfold incomingSwitch
  cases state.vcpus.lookup input.event.nextPid with
  | none => rfl
  | some vcpu =>
      by_cases fires : input.msg vcpu = 1 ∧ vcpu.isPhantom = Half.incoming.expected
      · simp only [if_pos fires, switchHalf_vcpus]
        exact AList.lookup_insert_ne different
      · simp only [if_neg fires]

/-- The incoming half clears the flag of a phantom vCPU whose guest slot reads
1. -/
theorem incomingSwitch_vcpus_own (found : state.vcpus.lookup input.event.nextPid = some vcpu) :
    (incomingSwitch input state).1.vcpus.lookup input.event.nextPid =
      some (if input.msg vcpu = 1 ∧ vcpu.isPhantom = 1 then { vcpu with isPhantom := 0 }
        else vcpu) := by
  unfold incomingSwitch
  simp only [found]
  by_cases fires : input.msg vcpu = 1 ∧ vcpu.isPhantom = 1
  · have fires' : input.msg vcpu = 1 ∧ vcpu.isPhantom = Half.incoming.expected := fires
    simp only [if_pos fires, if_pos fires', switchHalf_vcpus]
    exact AList.lookup_insert _
  · have silent : ¬ (input.msg vcpu = 1 ∧ vcpu.isPhantom = Half.incoming.expected) := fires
    simp only [if_neg fires, if_neg silent]
    exact found

/-- The value of `prev_state` that reaches the outgoing half depends only on
whether the incoming task is a vCPU. -/
theorem incomingSwitch_prevState (input : SwitchInput) (state : HostState) :
    (incomingSwitch input state).2 =
      if (state.vcpus.lookup input.event.nextPid).isSome then input.event.prevState else 0 := by
  unfold incomingSwitch
  cases found : state.vcpus.lookup input.event.nextPid with
  | none => rfl
  | some vcpu =>
      dsimp only
      split <;> rfl

theorem outgoingSwitch_vcpus_of_ne (different : tid ≠ input.event.prevPid) (prevState : Nat) :
    (outgoingSwitch input prevState state).vcpus.lookup tid = state.vcpus.lookup tid := by
  unfold outgoingSwitch
  cases state.vcpus.lookup input.event.prevPid with
  | none => rfl
  | some vcpu =>
      simp only
      split
      · rw [switchHalf_vcpus]
        exact AList.lookup_insert_ne different
      · rfl

/-- The outgoing half flags no vCPU but one whose guest slot reads 1. -/
theorem outgoingSwitch_vcpus_own (found : state.vcpus.lookup input.event.prevPid = some vcpu)
    (prevState : Nat) :
    (outgoingSwitch input prevState state).vcpus.lookup input.event.prevPid = some vcpu ∨
      input.msg vcpu = 1 ∧
        (outgoingSwitch input prevState state).vcpus.lookup input.event.prevPid =
          some { vcpu with isPhantom := 1 } := by
  unfold outgoingSwitch
  simp only [found]
  split
  · rename_i fires
    right
    rw [switchHalf_vcpus]
    exact ⟨fires.1, AList.lookup_insert _⟩
  · left
    exact found

end Entries

/-- What both halves preserve, the handler preserves. -/
theorem phantomSwitchHandler_preserves (holds : HostState → Prop)
    (preserved : ∀ now before after, HalfStep now before after → holds before → holds after)
    (input : SwitchInput) {state : HostState} (initially : holds state) :
    holds (phantomSwitchHandler input state) := by
  have afterIncoming := preserved _ _ _ (incomingSwitch_halfStep input state) initially
  exact preserved _ _ _ (outgoingSwitch_halfStep input _ _) afterIncoming

end PhantomTracker.Host
