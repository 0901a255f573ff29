import PhantomTracker.Joint.Composition
import PhantomTracker.Host.NoLostUpdate

/-!
Contract: a phantom vCPU is not running.

Owns: the protocol invariant between guest and host, its preservation by every
step of the composed machine, and its consequences for the flags and the
counter of the VM.

Does not own: the accounting of the counter beyond the bound that follows here.

The host clears a flag only if the guest slot still reads 1 when the vCPU is
switched in. The slot does so because only the vCPU itself writes it, and a
phantom vCPU does not run.
-/

namespace PhantomTracker.Joint

open PhantomTracker.Foundation
open PhantomTracker.Foundation.FiniteMap
open PhantomTracker.Shmem
open PhantomTracker.Host
open PhantomTracker.Guest (GuestState GuestEvent guestStep)

/-! ## What a half never changes -/

/-- The VM and the index of the vCPU behind a thread. -/
def identityOf (host : HostState) (tid : Host.Tid) : Option (VmKey × Nat) :=
  (host.vcpus.lookup tid).map fun vcpu => (vcpu.vmName, vcpu.vcpuIndex)

theorem identityOf_of_lookup {host : HostState} {tid : Host.Tid} {vcpu : VcpuT}
    (found : host.vcpus.lookup tid = some vcpu) :
    identityOf host tid = some (vcpu.vmName, vcpu.vcpuIndex) := by
  unfold identityOf
  rw [found]
  rfl

/-- Equal identities: an entry on one side has a counterpart on the other. -/
theorem lookup_of_identityOf_eq {before after : HostState} {tid : Host.Tid} {vcpu : VcpuT}
    (same : identityOf after = identityOf before)
    (found : after.vcpus.lookup tid = some vcpu) :
    ∃ earlier, before.vcpus.lookup tid = some earlier ∧ earlier.vcpuIndex = vcpu.vcpuIndex := by
  have identity := identityOf_of_lookup found
  rw [same] at identity
  unfold identityOf at identity
  rcases Option.map_eq_some_iff.mp identity with ⟨earlier, present, equal⟩
  exact ⟨earlier, present, congrArg Prod.snd equal⟩

theorem identityOf_halfStep {now : Nat} {before after : HostState}
    (step : HalfStep now before after) : identityOf after = identityOf before := by
  cases step with
  | stay => rfl
  | @flip half tid vcpu found flag =>
      funext other
      unfold identityOf
      rw [switchHalf_vcpus]
      by_cases same : other = tid
      · subst same
        rw [AList.lookup_insert, found]
        rfl
      · rw [AList.lookup_insert_ne same]

theorem identityOf_handler (input : SwitchInput) (state : HostState) :
    identityOf (phantomSwitchHandler input state) = identityOf state := by
  apply phantomSwitchHandler_preserves (fun current => identityOf current = identityOf state)
  · intro now before after step same
    exact (identityOf_halfStep step).trans same
  · rfl

/-- One VM is registered: every vCPU thread is one of its own, guest CPU `i` is
the vCPU with index `i`, and the idle thread is no vCPU. -/
structure OneVm (key : VmKey) (identity : Host.Tid → Option (VmKey × Nat)) : Prop where
  named : ∀ tid name index, identity tid = some (name, index) → name = key
  distinct : ∀ tid other name otherName index, identity tid = some (name, index) →
    identity other = some (otherName, index) → tid = other
  idle : identity 0 = none

/-! ## The counter against the flags -/

/-- A half never raises the counter above what it makes of the flags. -/
theorem newCount_le {half : Half} {vm : VmT} {flagged : Nat}
    (bound : vm.phantomCount + half.desired ≤ flagged + half.expected) :
    half.newCount vm ≤ flagged := by
  cases half with
  | incoming =>
      simp only [Half.desired, Half.expected] at bound
      simp only [Half.newCount, atomicDecIfPos]
      split <;> omega
  | outgoing =>
      simp only [Half.desired, Half.expected] at bound
      simp only [Half.newCount, atomicIncIfLtCeil]
      split <;> omega

/-- The counter of the VM is at most the number of its flagged vCPUs. -/
def CountsFlagged (key : VmKey) (host : HostState) : Prop :=
  ∃ vm, host.vms.lookup key = some vm ∧ vm.phantomCount ≤ flaggedOf key host.vcpus

theorem CountsFlagged.halfStep {now : Nat} {key : VmKey} {before after : HostState}
    (step : HalfStep now before after) (counts : CountsFlagged key before) :
    CountsFlagged key after := by
  cases step with
  | stay => exact counts
  | @flip half tid vcpu found flag =>
      rcases counts with ⟨vm, foundVm, bound⟩
      by_cases own : vcpu.vmName = key
      · subst own
        rcases switchHalf_vms_own half now tid foundVm with ⟨after, foundAfter, count, _⟩
        refine ⟨after, foundAfter, ?_⟩
        have moved := flaggedOf_flip found flag rfl
        rw [switchHalf_vcpus, count]
        apply newCount_le
        omega
      · refine ⟨vm, (switchHalf_vms_of_ne (Ne.symm own)).trans foundVm, ?_⟩
        have same : flaggedOf key (before.vcpus.insert tid
            { vcpu with isPhantom := half.desired }) = flaggedOf key before.vcpus := by
          apply countWhere_insert_of_same found
          simp [own]
        rw [switchHalf_vcpus, same]
        exact bound

/-! ## Flags after a handler -/

/-- Where a flag after a complete handler comes from, if a flagged incoming
vCPU has its slot at 1: it was there before, or the outgoing vCPU got it with
its slot at 1. The incoming vCPU has none. -/
theorem flagged_after_handler {input : SwitchInput} {state : HostState} {tid : Host.Tid}
    {vcpu : VcpuT} (different : input.event.nextPid ≠ input.event.prevPid)
    (reads : ∀ next, state.vcpus.lookup input.event.nextPid = some next →
      next.isPhantom = 1 → input.msg next = 1)
    (found : (phantomSwitchHandler input state).vcpus.lookup tid = some vcpu)
    (flag : vcpu.isPhantom = 1) :
    tid ≠ input.event.nextPid ∧ ∃ before, state.vcpus.lookup tid = some before ∧
      before.vcpuIndex = vcpu.vcpuIndex ∧
      (before.isPhantom = 1 ∨ tid = input.event.prevPid ∧ input.msg before = 1) := by
  unfold phantomSwitchHandler at found
  dsimp only at found
  by_cases incoming : tid = input.event.nextPid
  · subst incoming
    rw [outgoingSwitch_vcpus_of_ne different] at found
    have same := identityOf_halfStep (incomingSwitch_halfStep input state)
    rcases lookup_of_identityOf_eq same found with ⟨next, registered, _⟩
    rw [incomingSwitch_vcpus_own registered] at found
    split at found
    · obtain rfl := Option.some.inj found
      cases flag
    · rename_i silent
      obtain rfl := Option.some.inj found
      exact absurd ⟨reads _ registered flag, flag⟩ silent
  · refine ⟨incoming, ?_⟩
    by_cases outgoing : tid = input.event.prevPid
    · subst outgoing
      have same := identityOf_halfStep
        (outgoingSwitch_halfStep input (incomingSwitch input state).2 (incomingSwitch input state).1)
      rcases lookup_of_identityOf_eq same found with ⟨before, present, index⟩
      refine ⟨before, (incomingSwitch_vcpus_of_ne incoming).symm.trans present, index, ?_⟩
      rcases outgoingSwitch_vcpus_own present (incomingSwitch input state).2 with kept | ⟨one, _⟩
      · rw [kept] at found
        obtain rfl := Option.some.inj found
        exact Or.inl flag
      · exact Or.inr ⟨rfl, one⟩
    · rw [outgoingSwitch_vcpus_of_ne outgoing, incomingSwitch_vcpus_of_ne incoming] at found
      exact ⟨vcpu, found, rfl, Or.inl flag⟩

/-- A flagged vCPU whose slot reads 1 loses its flag when it is switched in. -/
theorem cleared_by_handler {input : SwitchInput} {state : HostState} {vcpu : VcpuT}
    (different : input.event.nextPid ≠ input.event.prevPid)
    (found : state.vcpus.lookup input.event.nextPid = some vcpu) (flag : vcpu.isPhantom = 1)
    (reads : input.msg vcpu = 1) :
    (phantomSwitchHandler input state).vcpus.lookup input.event.nextPid =
      some { vcpu with isPhantom := 0 } := by
  unfold phantomSwitchHandler
  dsimp only
  rw [outgoingSwitch_vcpus_of_ne different, incomingSwitch_vcpus_own found, if_pos ⟨reads, flag⟩]

/-! ## The protocol invariant -/

section Invariant

variable {ι : Type} {nrCpus : Nat}

/-- A host thread other than the idle one runs on at most one host CPU. -/
def RunsOnce (running : ι → Host.Tid) : Prop :=
  ∀ cpu other, running cpu = running other → running cpu = 0 ∨ cpu = other

/-- **The protocol invariant.** A phantom vCPU runs nowhere, and its guest slot
still reads 1. -/
structure Coherent (registry : HostRegistry) (key : VmKey) (joint : JointState ι nrCpus) :
    Prop where
  oneVm : OneVm key (identityOf joint.host)
  once : RunsOnce joint.running
  mapped : joint.guest.driver.MappedAt hostIvshmemG2hOffset
  parked : ∀ tid vcpu, joint.host.vcpus.lookup tid = some vcpu → vcpu.isPhantom = 1 →
    (∀ cpu, joint.running cpu ≠ tid) ∧
      readSlot registry joint.guest.memory vcpu.vcpuIndex = some 1
  counts : CountsFlagged key joint.host

variable {registry : HostRegistry} {backend : HostIvshmemBackend} {key : VmKey}
  {joint : JointState ι nrCpus}

/-- A guest event writes at most the slot of a running vCPU, so no slot of a
phantom one. -/
theorem Coherent.guest [DecidableEq ι] (coherent : Coherent registry key joint)
    (first : registry.devices 1 = some backend) {event : GuestEvent nrCpus}
    (scheduled : JointGuard joint (.guest event)) :
    Coherent registry key (jointStep registry joint (.guest event)) where
  oneVm := coherent.oneVm
  once := coherent.once
  mapped := by
    show (guestStep joint.guest event).driver.MappedAt hostIvshmemG2hOffset
    rw [Guest.guestStep_driver]
    exact coherent.mapped
  parked tid vcpu found flag := by
    have parked := coherent.parked tid vcpu found flag
    refine ⟨parked.1, ?_⟩
    have different : vcpu.vcpuIndex ≠ event.cpu := by
      intro same
      rcases scheduled with ⟨hostCpu, index⟩
      rcases Option.map_eq_some_iff.mp index with ⟨active, present, activeIndex⟩
      have identity := identityOf_of_lookup present
      rw [activeIndex, ← same] at identity
      have sameThread := coherent.oneVm.distinct _ _ _ _ _ identity (identityOf_of_lookup found)
      exact parked.1 hostCpu sameThread
    have kept := Guest.slotsOf_guestStep_of_ne coherent.mapped different
    exact (readSlot_congr first kept).trans parked.2
  counts := coherent.counts

theorem RunsOnce.update [DecidableEq ι] {running : ι → Host.Tid} (once : RunsOnce running)
    {cpu : ι} {next : Host.Tid}
    (elsewhere : next = 0 ∨ ∀ other, other ≠ cpu → running other ≠ next) :
    RunsOnce (Function.update running cpu next) := by
  intro left right same
  by_cases leftHere : left = cpu <;> by_cases rightHere : right = cpu
  · exact Or.inr (leftHere.trans rightHere.symm)
  · subst leftHere
    rw [Function.update_self, Function.update_of_ne rightHere] at same
    rw [Function.update_self]
    exact elsewhere.imp_right fun alone => absurd same.symm (alone right rightHere)
  · subst rightHere
    rw [Function.update_self, Function.update_of_ne leftHere] at same
    rw [Function.update_of_ne leftHere, same]
    exact elsewhere.imp_right fun alone => absurd same (alone left leftHere)
  · rw [Function.update_of_ne leftHere, Function.update_of_ne rightHere] at same
    rw [Function.update_of_ne leftHere]
    exact once left right same

/-- A host switch flags at most the vCPU that leaves, with its slot at 1, and
leaves no flag on the vCPU that enters. -/
theorem Coherent.hostSwitch [DecidableEq ι] (coherent : Coherent registry key joint) {cpu : ι}
    {next : Host.Tid} {prevState incomingNow outgoingNow : Nat}
    (guarded : JointGuard joint (.hostSwitch cpu next prevState incomingNow outgoingNow)) :
    Coherent registry key
      (jointStep registry joint (.hostSwitch cpu next prevState incomingNow outgoingNow)) where
  oneVm := by
    show OneVm key (identityOf (phantomSwitchHandler _ joint.host))
    rw [identityOf_handler]
    exact coherent.oneVm
  once := coherent.once.update guarded.2
  mapped := coherent.mapped
  parked tid vcpu found flag := by
    have reads : ∀ entering, joint.host.vcpus.lookup next = some entering →
        entering.isPhantom = 1 →
        (switchInput registry joint cpu next prevState incomingNow outgoingNow).msg entering = 1 :=
      fun entering present flagged => msg_of_read (coherent.parked next entering present flagged).2
    rcases flagged_after_handler guarded.1 reads found flag with
      ⟨notNext, before, present, index, origin⟩
    -- The thread runs on no other CPU and its slot reads 1, by either origin of the flag.
    have source : (∀ other, other ≠ cpu → joint.running other ≠ tid) ∧
        readSlot registry joint.guest.memory before.vcpuIndex = some 1 := by
      rcases origin with flagged | ⟨isPrev, one⟩
      · have parked := coherent.parked tid before present flagged
        exact ⟨fun other _ => parked.1 other, parked.2⟩
      · refine ⟨?_, read_of_msg one⟩
        intro other different same
        rcases coherent.once other cpu (same.trans isPrev) with idle | equal
        · have nobody := coherent.oneVm.idle
          rw [← idle, same, identityOf_of_lookup present] at nobody
          cases nobody
        · exact different equal
    refine ⟨?_, index ▸ source.2⟩
    intro other
    show Function.update joint.running cpu next other ≠ tid
    by_cases here : other = cpu
    · subst here
      rw [Function.update_self]
      exact Ne.symm notNext
    · rw [Function.update_of_ne here]
      exact source.1 other here
  counts := by
    apply phantomSwitchHandler_preserves (CountsFlagged key)
    · intro now before after step counts
      exact counts.halfStep step
    · exact coherent.counts

theorem Coherent.step [DecidableEq ι] (coherent : Coherent registry key joint)
    (first : registry.devices 1 = some backend) {action : JointAction ι nrCpus}
    (guarded : JointGuard joint action) :
    Coherent registry key (jointStep registry joint action) := by
  cases action with
  | guest event => exact coherent.guest first guarded
  | hostSwitch cpu next prevState incomingNow outgoingNow => exact coherent.hostSwitch guarded

/-- Where a run starts: one VM has been registered with `register_vm`, and its
guest driver is bound to the first backend. What the guest has done before is
left open. -/
structure Starts (registry : HostRegistry) (backend : HostIvshmemBackend) (nbCpu : UInt32)
    (key : VmKey) (joint : JointState ι nrCpus) : Prop where
  registered : RegisteredBackend nbCpu backend
  first : registry.devices 1 = some backend
  bound : GuestBound backend joint.guest.driver
  oneVm : OneVm key (identityOf joint.host)
  once : RunsOnce joint.running
  unflagged : ∀ tid vcpu, joint.host.vcpus.lookup tid = some vcpu → vcpu.isPhantom = 0
  counter : ∃ vm, joint.host.vms.lookup key = some vm ∧ vm.phantomCount = 0

theorem Starts.coherent {nbCpu : UInt32} (starts : Starts registry backend nbCpu key joint) :
    Coherent registry key joint where
  oneVm := starts.oneVm
  once := starts.once
  mapped := GuestBound.mapped starts.registered starts.bound
  parked tid vcpu found flag := by
    have zero := starts.unflagged tid vcpu found
    omega
  counts := by
    rcases starts.counter with ⟨vm, found, zero⟩
    refine ⟨vm, found, ?_⟩
    omega

/-- The flag of a parked vCPU is cleared by its next switch-in. -/
theorem Coherent.cleared [DecidableEq ι] (coherent : Coherent registry key joint)
    {tid : Host.Tid} {vcpu : VcpuT} (found : joint.host.vcpus.lookup tid = some vcpu)
    (flag : vcpu.isPhantom = 1) (cpu : ι) (prevState incomingNow outgoingNow : Nat) :
    (jointStep registry joint
      (.hostSwitch cpu tid prevState incomingNow outgoingNow)).host.vcpus.lookup tid =
        some { vcpu with isPhantom := 0 } := by
  have parked := coherent.parked tid vcpu found flag
  let input := switchInput registry joint cpu tid prevState incomingNow outgoingNow
  have different : input.event.nextPid ≠ input.event.prevPid := Ne.symm (parked.1 cpu)
  have reads : input.msg vcpu = 1 := msg_of_read parked.2
  exact cleared_by_handler different found flag reads

/-- The counter is at most the number of vCPUs that do not run. -/
theorem Coherent.waiting [Fintype ι] (coherent : Coherent registry key joint) :
    ∃ vm, joint.host.vms.lookup key = some vm ∧ vm.phantomCount ≤ waitingOf key joint := by
  rcases coherent.counts with ⟨vm, found, bound⟩
  refine ⟨vm, found, ?_⟩
  have parked : flaggedOf key joint.host.vcpus ≤ waitingOf key joint := by
    apply countWhere_le_of_lookup
    intro tid vcpu present flagged
    have both := of_decide_eq_true flagged
    exact decide_eq_true ⟨both.1, (coherent.parked tid vcpu present both.2).1⟩
  omega

/-- **A phantom vCPU is not running.** In every reachable state of the composed
machine a vCPU whose flag is 1 runs on no host CPU and its guest slot reads 1,
so that its next switch-in clears the flag; and the counter counts no running
vCPU. -/
theorem phantom_vcpu_not_running [Fintype ι] [DecidableEq ι] {nbCpu : UInt32}
    {start final : JointState ι nrCpus} {actions : List (JointAction ι nrCpus)}
    (starts : Starts registry backend nbCpu key start)
    (run : JointRun registry start actions final) :
    (∀ tid vcpu, final.host.vcpus.lookup tid = some vcpu → vcpu.isPhantom = 1 →
      (∀ cpu, final.running cpu ≠ tid) ∧
      readSlot registry final.guest.memory vcpu.vcpuIndex = some 1 ∧
      ∀ cpu prevState incomingNow outgoingNow,
        (jointStep registry final
          (.hostSwitch cpu tid prevState incomingNow outgoingNow)).host.vcpus.lookup tid =
            some { vcpu with isPhantom := 0 }) ∧
    ∃ vm, final.host.vms.lookup key = some vm ∧ vm.phantomCount ≤ waitingOf key final := by
  have coherent : Coherent registry key final := by
    apply run.invariant (Coherent registry key) _ starts.coherent
    intro joint action next known guarded taken
    obtain rfl := Option.some.inj taken
    exact known.step starts.first guarded
  refine ⟨?_, coherent.waiting⟩
  intro tid vcpu found flag
  have parked := coherent.parked tid vcpu found flag
  exact ⟨parked.1, parked.2, coherent.cleared found flag⟩

end Invariant

/-! ## A preempted OpenMP vCPU -/

/-- VM `a` with vCPU threads 7 and 8 running on two host CPUs. -/
def pairJoint : JointState Bool 2 where
  host := pairHost
  running := fun cpu => if cpu then 8 else 7
  guest := ⟨∅, boundDriver 2, fun _ => 0, fun _ => 0⟩

def pairRegistry : HostRegistry := ⟨1, Function.update (fun _ => none) 1 (some (firstBackend 2))⟩

/-- Guest thread 5 registers on vCPU 1 and is switched out and in again; then
host thread 8, which is vCPU 1, is preempted. -/
def preemption : List (JointAction Bool 2) :=
  [.guest (.switch (Fin.last 1) 5), .guest (.captureMaster (Fin.last 1)),
    .guest (.switch (Fin.last 1) 0), .guest (.switch (Fin.last 1) 5),
    .hostSwitch true 1 0 10 20]

theorem oneVm_pairHost : OneVm (vmKey [97]) (identityOf pairHost) := by
  have entry : ∀ (tid : Nat) name index, identityOf pairHost tid = some (name, index) →
      (tid = 7 ∨ tid = 8) ∧ name = vmKey [97] ∧ index = tid - 7 := by
    intro tid name index identity
    rcases Option.map_eq_some_iff.mp identity with ⟨vcpu, found, same⟩
    have known := pairHost_entry found
    rw [known.2] at same
    cases same
    exact ⟨known.1, rfl, rfl⟩
  constructor
  · intro tid name index identity
    exact (entry tid name index identity).2.1
  · intro tid other name otherName index left right
    have leftEntry := entry tid name index left
    have rightEntry := entry other otherName index right
    have offset : (tid : Nat) - 7 = other - 7 := leftEntry.2.2.symm.trans rightEntry.2.2
    rcases leftEntry.1 with rfl | rfl <;> rcases rightEntry.1 with rfl | rfl <;>
      first | rfl | cases offset
  · cases absent : identityOf pairHost 0 with
    | none => rfl
    | some pair =>
        rcases (entry 0 pair.1 pair.2 absent).1 with impossible | impossible <;> cases impossible

theorem starts_pairJoint :
    Starts pairRegistry (firstBackend 2) 2 (vmKey [97]) pairJoint where
  registered := registered_firstBackend 2
  first := rfl
  bound := guestBound_boundDriver (registered_firstBackend 2)
  oneVm := oneVm_pairHost
  once := by
    unfold RunsOnce
    decide
  unflagged _ _ found := (pairHost_vcpu found).2
  counter := ⟨_, balances_pairHost.found, rfl⟩

theorem preempted_vcpu_parked :
    ∃ final, JointRun pairRegistry pairJoint preemption final ∧
      final.host.vcpus.lookup 8 = some ⟨1, vmKey [97], 1⟩ ∧
      (∀ cpu, final.running cpu ≠ 8) ∧ readSlot pairRegistry final.guest.memory 1 = some 1 ∧
      ∃ vm, final.host.vms.lookup (vmKey [97]) = some vm ∧
        vm.phantomCount ≤ waitingOf (vmKey [97]) final := by
  have check : (exec (fun joint action => some (jointStep pairRegistry joint action)) JointGuard
      pairJoint preemption).any (fun final =>
        decide (final.host.vcpus.lookup 8 = some ⟨1, vmKey [97], 1⟩)) = true := by
    decide +kernel
  obtain ⟨final, executed, flagged⟩ := (Option.any_eq_true _ _).mp check
  have run : JointRun pairRegistry pairJoint preemption final := guardedRun_of_exec executed
  have found := of_decide_eq_true flagged
  have safe := phantom_vcpu_not_running starts_pairJoint run
  have parked := safe.1 8 _ found rfl
  exact ⟨final, run, found, parked.1, parked.2.1, safe.2⟩

end PhantomTracker.Joint
