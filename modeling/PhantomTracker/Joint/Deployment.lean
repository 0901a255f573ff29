import PhantomTracker.Foundation.Occupancy
import PhantomTracker.Guest.RunStateWord
import PhantomTracker.Host.WindowAverage
import PhantomTracker.Joint.FlaggedThreads
import PhantomTracker.Joint.H2gPage

/-!
Contract: the deployed tracker, from the OpenMP threads of the guest to the page
that the guest reads.

Owns: the machine in which guest events, complete executions of
`phantom_switch_handler` and ticks of the phantom timer take turns on one shared
region; what the tracker is for and what it can see of that, as two sets of threads
that are kept beside the machine and that no program reads; and that the flags show
what it can see in every reachable state.

Does not own: the average that a tick publishes, handlers that overlap, or VMs
whose backend is not the first one.
-/

namespace PhantomTracker.Joint

open PhantomTracker.Foundation
open PhantomTracker.Foundation.FiniteMap
open PhantomTracker.Shmem
open PhantomTracker.Host
open PhantomTracker.Guest (GuestState GuestEvent GuestGuard WordLaw guestStep registeredNext)

/-- The composed machine with the clock of the last host event, and what is
recorded of it for specification only: for each guest CPU whether its current
thread was registered after it was switched in, the threads that are stalled as far
as the tracker can see, and the threads that are preempted. -/
structure Deployment (ι : Type) (nrCpus : Nat) where
  joint : JointState ι nrCpus
  clock : Nat
  registered : Fin nrCpus → Bool
  stalled : Occupancy Host.Tid
  preempted : Occupancy Host.Tid

inductive DeploymentAction (ι : Type) (nrCpus : Nat) where
  | guest (event : GuestEvent nrCpus)
  | hostSwitch (cpu : ι) (next : Host.Tid) (prevState incomingNow outgoingNow : Nat)
  | tick (clock : TickClock) (lastIdleAvg : Option Nat)

/-- The states of a thread that could go on running. -/
def runnable (prevState : Nat) : Bool :=
  decide (prevState = taskRunning ∨ prevState = taskWaking)

/-- The region after `write_watermark`, which ignores a refused write. -/
def afterWatermark (registry : HostRegistry) (memory : Memory) : Option Watermark → Memory
  | none => memory
  | some watermark =>
      match bpfHostIvshmemH2gWrite (sharing registry memory) watermark.index
        (some (watermarkMsg watermark)) with
      | .ok after => after
      | .error _ => memory

namespace Deployment

section Machine

variable {ι : Type} {nrCpus : Nat}

/-- The thread is a vCPU whose guest CPU has the property. -/
def onGuestCpu (deployment : Deployment ι nrCpus) (property : Fin nrCpus → Bool)
    (tid : Host.Tid) : Bool :=
  (deployment.joint.host.vcpus.lookup tid).any fun vcpu =>
    if below : vcpu.vcpuIndex < nrCpus then property ⟨vcpu.vcpuIndex, below⟩ else false

/-- The thread is a vCPU, and the guest thread on it is in `omp_threads_map`. -/
def inOpenMp (deployment : Deployment ι nrCpus) (tid : Host.Tid) : Bool :=
  deployment.onGuestCpu deployment.joint.guest.runsTracked tid

/-- It has been there since it was switched in. The probes that register a thread do
not write its run-state word, so the host does not see a thread that is registered
while it runs. -/
def inKnownOpenMp (deployment : Deployment ι nrCpus) (tid : Host.Tid) : Bool :=
  deployment.onGuestCpu
    (fun cpu => deployment.joint.guest.runsTracked cpu && !deployment.registered cpu) tid

/-- The thread that leaves host CPU `cpu` is preempted in an OpenMP thread: it
could go on running. -/
def leavesPreempted (deployment : Deployment ι nrCpus) (cpu : ι) (_next : Host.Tid)
    (prevState : Nat) : Bool :=
  deployment.inOpenMp (deployment.joint.running cpu) && runnable prevState

/-- It is stalled, as far as the tracker can see: it leaves in an OpenMP thread that is
known, and it could go on running, or it makes room for a thread that is no vCPU.
The handler reads `prev_state` only for an incoming vCPU and takes a thread that
leaves for another thread to be runnable. -/
def leavesStalled (deployment : Deployment ι nrCpus) (cpu : ι) (next : Host.Tid)
    (prevState : Nat) : Bool :=
  deployment.inKnownOpenMp (deployment.joint.running cpu) &&
    (runnable prevState || (deployment.joint.host.vcpus.lookup next).isNone)

/-- A set of threads after an action, which sees all exchanges and windows. -/
def follow (deployment : Deployment ι nrCpus) (threads : Occupancy Host.Tid)
    (leaves : ι → Host.Tid → Nat → Bool) : DeploymentAction ι nrCpus → Occupancy Host.Tid
  | .guest _ => threads
  | .hostSwitch cpu next prevState incomingNow outgoingNow =>
      threads.exchange incomingNow outgoingNow next (deployment.joint.running cpu)
        (leaves cpu next prevState)
  | .tick clock _ => threads.close clock.endNow clock.startNow

def step [DecidableEq ι] (registry : HostRegistry) (key : VmKey)
    (deployment : Deployment ι nrCpus) (action : DeploymentAction ι nrCpus) :
    Deployment ι nrCpus :=
  let stalled := deployment.follow deployment.stalled deployment.leavesStalled action
  let preempted := deployment.follow deployment.preempted deployment.leavesPreempted action
  match action with
  | .guest event =>
      { joint := jointStep registry deployment.joint (.guest event)
        clock := deployment.clock
        registered := fun cpu =>
          registeredNext deployment.joint.guest cpu (deployment.registered cpu) event
        stalled := stalled
        preempted := preempted }
  | .hostSwitch cpu next prevState incomingNow outgoingNow =>
      { joint := jointStep registry deployment.joint
          (.hostSwitch cpu next prevState incomingNow outgoingNow)
        clock := outgoingNow
        registered := deployment.registered
        stalled := stalled
        preempted := preempted }
  | .tick clock lastIdleAvg =>
      let result := callbackFn clock lastIdleAvg key deployment.joint.host
      { joint := { deployment.joint with
          host := result.1
          guest := { deployment.joint.guest with
            memory := afterWatermark registry deployment.joint.guest.memory result.2 } }
        clock := clock.publishNow
        registered := deployment.registered
        stalled := stalled
        preempted := preempted }

/-- Nothing has been registered in the guest, and no thread is stalled. -/
def start (joint : JointState ι nrCpus) : Deployment ι nrCpus :=
  ⟨joint, 0, fun _ => false, .start ∅, .start ∅⟩

/-- `setup_vm_maps` gives the VM its buffers. The windows start from here. -/
def setUp (collection processing : MapId) (name : CString) (deployment : Deployment ι nrCpus) :
    Deployment ι nrCpus :=
  { deployment with
    joint := { deployment.joint with
      host := (setupVmMaps none collection processing name deployment.joint.host).1 }
    stalled := .start deployment.stalled.members
    preempted := .start deployment.preempted.members }

/-- What the schedulers of host and guest promise. -/
def Scheduled (deployment : Deployment ι nrCpus) : DeploymentAction ι nrCpus → Prop
  | .guest event =>
      JointGuard deployment.joint (.guest event) ∧ GuestGuard deployment.joint.guest event
  | .hostSwitch cpu next prevState incomingNow outgoingNow =>
      JointGuard deployment.joint (.hostSwitch cpu next prevState incomingNow outgoingNow)
  | .tick _ _ => True

/-- An OpenMP thread in which a vCPU is preempted has been registered since it was
switched in. -/
def KnownWhenPreempted (deployment : Deployment ι nrCpus) : DeploymentAction ι nrCpus → Prop
  | .hostSwitch cpu next prevState _ _ =>
      deployment.leavesPreempted cpu next prevState = true →
        deployment.inKnownOpenMp (deployment.joint.running cpu) = true
  | _ => True

/-- Every thread that counts as stalled when it leaves could go on running. -/
def NoSleepHidden (deployment : Deployment ι nrCpus) : DeploymentAction ι nrCpus → Prop
  | .hostSwitch cpu next prevState _ _ =>
      deployment.leavesStalled cpu next prevState = true →
        deployment.leavesPreempted cpu next prevState = true
  | _ => True

/-- A set that takes up fewer threads stays below. -/
theorem follow_below (deployment : Deployment ι nrCpus) {small big : Occupancy Host.Tid}
    {fewer leaves : ι → Host.Tid → Nat → Bool} (below : small.Below big)
    {action : DeploymentAction ι nrCpus}
    (weaker : ∀ cpu next prevState incomingNow outgoingNow,
      action = .hostSwitch cpu next prevState incomingNow outgoingNow →
      fewer cpu next prevState = true → leaves cpu next prevState = true) :
    (deployment.follow small fewer action).Below (deployment.follow big leaves action) := by
  cases action with
  | guest event => exact below
  | hostSwitch cpu next prevState incomingNow outgoingNow =>
      exact below.exchange _ _ _ _ (weaker cpu next prevState incomingNow outgoingNow rfl)
  | tick clock lastIdleAvg => exact below.close _ _

variable [DecidableEq ι] (registry : HostRegistry) (key : VmKey)

theorem step_stalled (deployment : Deployment ι nrCpus) (action : DeploymentAction ι nrCpus) :
    (deployment.step registry key action).stalled =
      deployment.follow deployment.stalled deployment.leavesStalled action := by
  cases action <;> rfl

theorem step_preempted (deployment : Deployment ι nrCpus) (action : DeploymentAction ι nrCpus) :
    (deployment.step registry key action).preempted =
      deployment.follow deployment.preempted deployment.leavesPreempted action := by
  cases action <;> rfl

end Machine

/-! ## The page and the slots -/

section Region

variable {nrCpus : Nat} {registry : HostRegistry} {backend : HostIvshmemBackend}

theorem g2hWrite_memory_below {guest : GuestState nrCpus} {cpu : Fin nrCpus}
    (mapped : guest.driver.MappedAt hostIvshmemG2hOffset) (msg : UInt64) {target : Nat}
    (below : target < hostIvshmemG2hOffset) :
    (Guest.g2hWrite cpu msg guest).memory target = guest.memory target := by
  unfold Guest.g2hWrite
  by_cases inside : cpu.val < nrGuestIvshmemMsgs
  · rw [guestIvshmemG2hWriteMsg_accepted mapped inside]
    exact Memory.store64_outside (Or.inl (by omega)) _
  · rw [guestIvshmemG2hWriteMsg_refused (Nat.not_lt.mp inside)]

theorem clearIfTracked_memory_below {guest : GuestState nrCpus} {cpu : Fin nrCpus}
    (mapped : guest.driver.MappedAt hostIvshmemG2hOffset) (tid : Guest.Tid) {target : Nat}
    (below : target < hostIvshmemG2hOffset) :
    (Guest.clearIfTracked cpu tid guest).memory target = guest.memory target := by
  unfold Guest.clearIfTracked
  split
  · exact g2hWrite_memory_below mapped 0 below
  · rfl

/-- The guest programs write above the host-to-guest page. -/
theorem guestStep_memory_below {guest : GuestState nrCpus}
    (mapped : guest.driver.MappedAt hostIvshmemG2hOffset) (event : GuestEvent nrCpus)
    {target : Nat} (below : target < hostIvshmemG2hOffset) :
    (guestStep guest event).memory target = guest.memory target := by
  cases event with
  | captureMaster cpu | captureWorker cpu =>
      show (Guest.captureOmpThread cpu guest).memory target = guest.memory target
      rw [Guest.captureOmpThread_memory]
  | exit cpu | exec cpu => exact clearIfTracked_memory_below mapped _ below
  | switch cpu next =>
      show (Guest.handleSwitch cpu (guest.current cpu) next guest).memory target = _
      have cleared : (Guest.clearIfTracked cpu (guest.current cpu) guest).memory target =
          guest.memory target := clearIfTracked_memory_below mapped _ below
      unfold Guest.handleSwitch
      dsimp only
      split
      · rw [g2hWrite_memory_below _ 1 below, cleared]
        rw [Guest.clearIfTracked_driver]
        exact mapped
      · exact cleared

theorem h2gMsg_congr {left right : Memory} {slot : Nat} (inside : slot < nrHostIvshmemMsgs)
    (agree : ∀ target, target < hostIvshmemG2hOffset → left target = right target) :
    h2gMsg left slot = h2gMsg right slot := by
  apply congrArg UInt64.ofNat
  apply Memory.load_congr
  intro target _ below
  apply agree
  have few : slot < 64 := inside
  unfold h2gSlot hostIvshmemH2gOffset hostIvshmemMsgSize at below
  unfold hostIvshmemG2hOffset pageSize
  omega

/-- A watermark reaches the page. -/
theorem afterWatermark_some (first : registry.devices 1 = some backend) (memory : Memory)
    {watermark : Watermark} (above : h2gFirstHistorySlot ≤ watermark.index)
    (below : watermark.index < nrHostIvshmemMsgs) :
    afterWatermark registry memory (some watermark) =
      mirrored memory watermark.index (watermarkMsg watermark) := by
  unfold afterWatermark
  dsimp only
  rw [bpfHostIvshmemH2gWrite_history first memory above below]

theorem slotsOf_mirrored (memory : Memory) {index : Nat} (below : index < nrHostIvshmemMsgs)
    (msg : UInt64) : slotsOf (mirrored memory index msg) = slotsOf memory := by
  apply slotsOf_congr
  intro target above
  have few : index < 64 := below
  unfold hostIvshmemG2hOffset hostMetadataSize pageSize at above
  unfold mirrored
  rw [Memory.store64_outside, Memory.store64_outside]
  all_goals
    unfold h2gSlot hostIvshmemH2gOffset hostMetadataSize pageSize hostIvshmemMsgSize
    first | omega | (unfold h2gLatestSlot; omega)

/-- A tick writes below the slots of the guest. -/
theorem slotsOf_afterWatermark (first : registry.devices 1 = some backend) (memory : Memory)
    (clock : TickClock) (lastIdleAvg : Option Nat) (key : VmKey) (host : HostState) :
    slotsOf (afterWatermark registry memory (callbackFn clock lastIdleAvg key host).2) =
      slotsOf memory := by
  cases published : (callbackFn clock lastIdleAvg key host).2 with
  | none => rfl
  | some watermark =>
      obtain ⟨above, below⟩ := H2gState.callbackFn_history_slot (Prod.ext rfl published)
      rw [afterWatermark_some first memory above below, slotsOf_mirrored memory below]

end Region

/-! ## What the flags show -/

/-- **The flags show the stalled threads.** -/
structure Synced {ι : Type} {nrCpus : Nat} (registry : HostRegistry) (key : VmKey)
    (deployment : Deployment ι nrCpus) : Prop where
  coherent : Coherent registry key deployment.joint
  words : ∀ cpu, WordLaw deployment.joint.guest cpu (deployment.registered cpu)
  indices : ∀ tid name index, identityOf deployment.joint.host tid = some (name, index) →
    index < nrCpus
  entry : Registered key deployment.joint.host
  shown : Shows key deployment.stalled.members deployment.joint.host

section Synced

variable {ι : Type} {nrCpus : Nat} {registry : HostRegistry} {backend : HostIvshmemBackend}
  {key : VmKey} {deployment : Deployment ι nrCpus}

/-- What the handler reads for a vCPU is whether its guest CPU is in an OpenMP
thread that has been registered since it was switched in. -/
theorem Synced.reads_iff (synced : Synced registry key deployment)
    (first : registry.devices 1 = some backend) (few : nrCpus ≤ nrGuestIvshmemMsgs)
    {tid : Host.Tid} {vcpu : VcpuT}
    (found : deployment.joint.host.vcpus.lookup tid = some vcpu) :
    readSlot registry deployment.joint.guest.memory vcpu.vcpuIndex = some 1 ↔
      deployment.inKnownOpenMp tid = true := by
  have below := synced.indices tid _ _ (identityOf_of_lookup found)
  have law := (synced.words ⟨vcpu.vcpuIndex, below⟩).word
  have word : readSlot registry deployment.joint.guest.memory vcpu.vcpuIndex = some 1 ↔
      deployment.joint.guest.runState ⟨vcpu.vcpuIndex, below⟩ = 1 := by
    rw [readSlot_eq first, if_pos (by omega), Option.some.injEq]
    show _ = (1 : UInt64).toNat ↔ _
    exact UInt64.toNat_inj
  unfold inKnownOpenMp onGuestCpu
  rw [word, law, found, Option.any_some, dif_pos below, Bool.and_eq_true, Bool.not_eq_true']

/-- What the outgoing half asks is what makes a thread stalled. -/
theorem Synced.leaves_iff (synced : Synced registry key deployment)
    (first : registry.devices 1 = some backend) (few : nrCpus ≤ nrGuestIvshmemMsgs) {cpu : ι}
    {next : Host.Tid} {prevState incomingNow outgoingNow : Nat}
    (different : next ≠ deployment.joint.running cpu) :
    let input := switchInput registry deployment.joint cpu next prevState incomingNow outgoingNow
    deployment.leavesStalled cpu next prevState = true ↔
      Leaves input (incomingSwitch input deployment.joint.host).2
        (incomingSwitch input deployment.joint.host).1 := by
  intro input
  have same : (incomingSwitch input deployment.joint.host).1.vcpus.lookup input.event.prevPid =
      deployment.joint.host.vcpus.lookup (deployment.joint.running cpu) :=
    incomingSwitch_vcpus_of_ne (Ne.symm different)
  have state : (incomingSwitch input deployment.joint.host).2 = taskRunning ∨
      (incomingSwitch input deployment.joint.host).2 = taskWaking ↔
        (runnable prevState || (deployment.joint.host.vcpus.lookup next).isNone) = true := by
    have read : (incomingSwitch input deployment.joint.host).2 =
        if (deployment.joint.host.vcpus.lookup next).isSome then prevState else 0 :=
      incomingSwitch_prevState input _
    rw [read]
    cases deployment.joint.host.vcpus.lookup next with
    | none => exact iff_of_true (Or.inl rfl) (Bool.or_true _)
    | some vcpu =>
        show prevState = taskRunning ∨ prevState = taskWaking ↔ (runnable prevState || false) = true
        rw [Bool.or_false]
        exact decide_eq_true_iff.symm
  unfold Leaves leavesStalled
  rw [same, Bool.and_eq_true, ← state]
  constructor
  · rintro ⟨openMp, runs⟩
    cases found : deployment.joint.host.vcpus.lookup (deployment.joint.running cpu) with
    | none =>
        unfold inKnownOpenMp onGuestCpu at openMp
        rw [found] at openMp
        cases openMp
    | some vcpu =>
        exact ⟨vcpu, rfl, msg_of_read ((synced.reads_iff first few found).mpr openMp), runs⟩
  · rintro ⟨vcpu, found, one, runs⟩
    exact ⟨(synced.reads_iff first few found).mp (read_of_msg one), runs⟩

/-- The two sets that the halves of a handler show, one after the other. -/
theorem Synced.shows_switch (synced : Synced registry key deployment)
    (first : registry.devices 1 = some backend) (few : nrCpus ≤ nrGuestIvshmemMsgs) {cpu : ι}
    {next : Host.Tid} (prevState incomingNow outgoingNow : Nat)
    (different : next ≠ deployment.joint.running cpu) :
    let input := switchInput registry deployment.joint cpu next prevState incomingNow outgoingNow
    Shows key (deployment.stalled.members.erase next)
        (incomingSwitch input deployment.joint.host).1 ∧
      Shows key (deployment.stalled.exchange incomingNow outgoingNow next
        (deployment.joint.running cpu) (deployment.leavesStalled cpu next prevState)).members
        (phantomSwitchHandler input deployment.joint.host) := by
  intro input
  have reads : ∀ vcpu, deployment.joint.host.vcpus.lookup input.event.nextPid = some vcpu →
      vcpu.isPhantom = 1 → input.msg vcpu = 1 :=
    fun vcpu found flag => msg_of_read (synced.coherent.parked next vcpu found flag).2
  have incoming := synced.shown.incoming reads
  exact ⟨incoming, incoming.outgoing (synced.leaves_iff first few different)⟩

variable [DecidableEq ι]

theorem Synced.guest (synced : Synced registry key deployment)
    (first : registry.devices 1 = some backend) (few : nrCpus ≤ nrGuestIvshmemMsgs)
    {event : GuestEvent nrCpus} (scheduled : deployment.Scheduled (.guest event)) :
    Synced registry key (deployment.step registry key (.guest event)) where
  coherent := synced.coherent.guest first scheduled.1
  words cpu := (synced.words cpu).step synced.coherent.mapped scheduled.2
    (cpu.isLt.trans_le few)
  indices := synced.indices
  entry := synced.entry
  shown := synced.shown

theorem Synced.hostSwitch (synced : Synced registry key deployment)
    (first : registry.devices 1 = some backend) (few : nrCpus ≤ nrGuestIvshmemMsgs) {cpu : ι}
    {next : Host.Tid} {prevState incomingNow outgoingNow : Nat}
    (scheduled : deployment.Scheduled (.hostSwitch cpu next prevState incomingNow outgoingNow)) :
    Synced registry key (deployment.step registry key
      (.hostSwitch cpu next prevState incomingNow outgoingNow)) where
  coherent := synced.coherent.hostSwitch scheduled
  words := synced.words
  indices := by
    show ∀ tid name index, identityOf (phantomSwitchHandler _ deployment.joint.host) tid = _ → _
    rw [identityOf_handler]
    exact synced.indices
  entry := (synced.entry.half (incomingSwitch_halfStep _ _)).half (outgoingSwitch_halfStep _ _ _)
  shown := (synced.shows_switch first few prevState incomingNow outgoingNow scheduled.1).2

theorem Synced.tick (synced : Synced registry key deployment)
    (first : registry.devices 1 = some backend) (clock : TickClock) (lastIdleAvg : Option Nat) :
    Synced registry key (deployment.step registry key (.tick clock lastIdleAvg)) := by
  have slots := slotsOf_afterWatermark first deployment.joint.guest.memory clock lastIdleAvg key
    deployment.joint.host
  have shown := synced.shown.tick clock lastIdleAvg
  refine ⟨⟨shown.oneVm, synced.coherent.once, synced.coherent.mapped, ?_, ?_⟩, ?_, ?_,
    synced.entry.tick clock lastIdleAvg key, shown⟩
  · intro tid vcpu found flag
    have present : deployment.joint.host.vcpus.lookup tid = some vcpu :=
      (congrArg (fun vcpus => AList.lookup tid vcpus) callbackFn_vcpus).symm.trans found
    obtain ⟨parked, reads⟩ := synced.coherent.parked tid vcpu present flag
    exact ⟨parked, (readSlot_congr first (congrFun slots _)).trans reads⟩
  · obtain ⟨vm, balances⟩ := shown.balances
    exact ⟨vm, balances.found, balances.count.le⟩
  · intro cpu
    exact (synced.words cpu).congr (congrFun slots cpu) rfl
  · intro tid name index identity
    exact synced.indices tid name index
      ((congrFun (identityOf_callbackFn clock lastIdleAvg key _) tid).symm.trans identity)

theorem Synced.step (synced : Synced registry key deployment)
    (first : registry.devices 1 = some backend) (few : nrCpus ≤ nrGuestIvshmemMsgs)
    {action : DeploymentAction ι nrCpus} (scheduled : deployment.Scheduled action) :
    Synced registry key (deployment.step registry key action) := by
  cases action with
  | guest event => exact synced.guest first few scheduled
  | hostSwitch cpu next prevState incomingNow outgoingNow =>
      exact synced.hostSwitch first few scheduled
  | tick clock lastIdleAvg => exact synced.tick first clock lastIdleAvg

omit [DecidableEq ι] in
theorem Synced.setUp (synced : Synced registry key deployment) (collection processing : MapId)
    (name : CString) : Synced registry key (deployment.setUp collection processing name) where
  coherent := ⟨synced.coherent.oneVm, synced.coherent.once, synced.coherent.mapped,
    synced.coherent.parked, synced.coherent.counts⟩
  words := synced.words
  indices := synced.indices
  entry := synced.entry
  shown := by
    obtain ⟨vm, balances⟩ := synced.shown.balances
    exact ⟨synced.shown.flags, synced.shown.oneVm,
      vm, balances.found, balances.count, balances.ceiling, balances.binary⟩

end Synced

end Deployment

end PhantomTracker.Joint
