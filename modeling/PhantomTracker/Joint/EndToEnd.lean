import PhantomTracker.Joint.Deployment

/-!
Contract: what the guest reads in the latest slot of the host-to-guest page.

Owns: the invariant that ties the number of stalled threads to the samples of the
buffers and the last mean to the page; the theorem that the guest reads the mean
number of stalled threads over the last window; and when that number is a lower or an
upper bound of the mean number of preempted threads.

Does not own: windows with more samples than a buffer has slots.
-/

namespace PhantomTracker.Joint

open PhantomTracker.Foundation
open PhantomTracker.Shmem
open PhantomTracker.Host
open PhantomTracker.Guest (GuestEvent GuestGuard)

namespace Deployment

section Invariant

variable {ι : Type} {nrCpus : Nat} {registry : HostRegistry} {backend : HostIvshmemBackend}
  {key : VmKey} {maps : Buff → MapId} {deployment : Deployment ι nrCpus}

/-- The host programs alone, with the number of stalled threads in place of the
count. -/
def serial (deployment : Deployment ι nrCpus) : Serial :=
  ⟨deployment.joint.host, deployment.clock, deployment.stalled.numbers,
    deployment.stalled.windowStart⟩

/-- The clock does not go backwards, no window has as many samples as a buffer
has slots, and `nb_vcpus` times the length of a window is below 2^63. -/
def Timely (registry : HostRegistry) (key : VmKey) (deployment : Deployment ι nrCpus) :
    DeploymentAction ι nrCpus → Prop
  | .guest _ => True
  | .hostSwitch cpu next prevState incomingNow outgoingNow =>
      SerialGuard key deployment.serial
        (.switch (switchInput registry deployment.joint cpu next prevState incomingNow outgoingNow))
  | .tick clock lastIdleAvg => SerialGuard key deployment.serial (.tick key clock lastIdleAvg)

/-- What the guest reads as the phantom average. -/
def pageAverage (deployment : Deployment ι nrCpus) : Int :=
  phantomField (h2gMsg deployment.joint.guest.memory h2gLatestSlot)

/-- **The page shows the last mean.** -/
structure Reporting (registry : HostRegistry) (key : VmKey) (maps : Buff → MapId)
    (deployment : Deployment ι nrCpus) : Prop where
  synced : Synced registry key deployment
  tracked : ∃ vm, Tracked key maps vm deployment.serial
  bounded : deployment.stalled.Bounded nrCpus
  page : ∀ mean, deployment.stalled.reported = some mean → deployment.pageAverage = mean

theorem pageAverage_congr {left right : Deployment ι nrCpus}
    (agree : ∀ target, target < hostIvshmemG2hOffset →
      left.joint.guest.memory target = right.joint.guest.memory target) :
    left.pageAverage = right.pageAverage := by
  unfold pageAverage
  rw [h2gMsg_congr (by decide) agree]

variable [DecidableEq ι]

/-- A complete handler on the deployed tracker is one on the host programs
alone. -/
theorem Synced.serial_hostSwitch (synced : Synced registry key deployment)
    (first : registry.devices 1 = some backend) (few : nrCpus ≤ nrGuestIvshmemMsgs) {cpu : ι}
    {next : Host.Tid} {prevState incomingNow outgoingNow : Nat}
    (different : next ≠ deployment.joint.running cpu) :
    deployment.serial.step key (.switch
        (switchInput registry deployment.joint cpu next prevState incomingNow outgoingNow)) =
      some (deployment.step registry key
        (.hostSwitch cpu next prevState incomingNow outgoingNow)).serial := by
  obtain ⟨incoming, outgoing⟩ :=
    synced.shows_switch first few prevState incomingNow outgoingNow different
  unfold Serial.step Serial.afterHalf serial
  dsimp only
  rw [incoming.countOf_eq, outgoing.countOf_eq]
  rfl

theorem serial_tick (clock : TickClock) (lastIdleAvg : Option Nat) :
    deployment.serial.step key (.tick key clock lastIdleAvg) =
      some (deployment.step registry key (.tick clock lastIdleAvg)).serial := by
  unfold Serial.step serial
  dsimp only
  rw [if_pos rfl]
  rfl

theorem Reporting.guest (reporting : Reporting registry key maps deployment)
    (first : registry.devices 1 = some backend) (few : nrCpus ≤ nrGuestIvshmemMsgs)
    {event : GuestEvent nrCpus} (scheduled : deployment.Scheduled (.guest event)) :
    Reporting registry key maps (deployment.step registry key (.guest event)) where
  synced := reporting.synced.guest first few scheduled
  tracked := reporting.tracked
  bounded := reporting.bounded
  page mean reported := by
    rw [← reporting.page mean reported]
    apply pageAverage_congr
    intro target below
    exact guestStep_memory_below reporting.synced.coherent.mapped event below

theorem Reporting.hostSwitch (reporting : Reporting registry key maps deployment)
    (first : registry.devices 1 = some backend) (few : nrCpus ≤ nrGuestIvshmemMsgs) {cpu : ι}
    {next : Host.Tid} {prevState incomingNow outgoingNow : Nat}
    (scheduled : deployment.Scheduled (.hostSwitch cpu next prevState incomingNow outgoingNow))
    (timely : deployment.Timely registry key
      (.hostSwitch cpu next prevState incomingNow outgoingNow)) :
    Reporting registry key maps (deployment.step registry key
      (.hostSwitch cpu next prevState incomingNow outgoingNow)) := by
  have synced := reporting.synced.hostSwitch first few scheduled
  obtain ⟨vm, tracked⟩ := reporting.tracked
  refine ⟨synced, ?_, ?_, reporting.page⟩
  · have guarded : SerialGuard key deployment.serial (.switch (switchInput registry
        deployment.joint cpu next prevState incomingNow outgoingNow)) := timely
    exact tracked.step guarded (reporting.synced.serial_hostSwitch first few scheduled.1)
  · apply Occupancy.Bounded.change
    · apply reporting.bounded.change
      exact (Finset.card_erase_le).trans reporting.bounded.members
    · exact synced.shown.card_le synced.indices

/-- A tick that closes a window writes its mean to the page. -/
theorem Reporting.pageAverage_tick (reporting : Reporting registry key maps deployment)
    (first : registry.devices 1 = some backend) (few : nrCpus ≤ nrGuestIvshmemMsgs)
    {clock : TickClock} {lastIdleAvg : Option Nat}
    (timely : deployment.Timely registry key (.tick clock lastIdleAvg)) {mean : Int}
    (reports : deployment.stalled.mean clock.endNow = some mean) :
    (deployment.step registry key (.tick clock lastIdleAvg)).pageAverage = mean := by
  obtain ⟨vm, tracked⟩ := reporting.tracked
  obtain ⟨start, opened, average⟩ := Option.map_eq_some_iff.mp reports
  obtain ⟨watermark, published, phantomAvg⟩ := tracked.average opened timely
  have sameMean : watermark.phantomAvg = mean := phantomAvg.trans average
  obtain ⟨above, below⟩ := H2gState.callbackFn_history_slot (Prod.ext rfl published)
  obtain ⟨nonneg, ceiling⟩ := reporting.bounded.mean reports
  have small : nrGuestIvshmemMsgs = 64 := rfl
  show (phantomField (h2gMsg (afterWatermark registry deployment.joint.guest.memory
    (callbackFn clock lastIdleAvg key deployment.joint.host).2) h2gLatestSlot) : Int) = mean
  rw [show (callbackFn clock lastIdleAvg key deployment.joint.host).2 = some watermark from
    published, afterWatermark_some first _ above below, h2gMsg_mirrored, if_pos (Or.inl rfl),
    (watermarkMsg_fields watermark).1, sameMean]
  omega

theorem Reporting.tick (reporting : Reporting registry key maps deployment)
    (first : registry.devices 1 = some backend) (few : nrCpus ≤ nrGuestIvshmemMsgs)
    {clock : TickClock} {lastIdleAvg : Option Nat}
    (timely : deployment.Timely registry key (.tick clock lastIdleAvg)) :
    Reporting registry key maps (deployment.step registry key (.tick clock lastIdleAvg)) where
  synced := reporting.synced.tick first clock lastIdleAvg
  tracked := by
    obtain ⟨vm, tracked⟩ := reporting.tracked
    have guarded : SerialGuard key deployment.serial (.tick key clock lastIdleAvg) := timely
    exact tracked.step guarded (serial_tick clock lastIdleAvg)
  bounded := reporting.bounded.close _ _
  page _ reported := reporting.pageAverage_tick first few timely reported

theorem Reporting.step (reporting : Reporting registry key maps deployment)
    (first : registry.devices 1 = some backend) (few : nrCpus ≤ nrGuestIvshmemMsgs)
    {action : DeploymentAction ι nrCpus} (scheduled : deployment.Scheduled action)
    (timely : deployment.Timely registry key action) :
    Reporting registry key maps (deployment.step registry key action) := by
  cases action with
  | guest event => exact reporting.guest first few scheduled
  | hostSwitch cpu next prevState incomingNow outgoingNow =>
      exact reporting.hostSwitch first few scheduled timely
  | tick clock lastIdleAvg => exact reporting.tick first few timely

end Invariant

/-! ## From registration to the page -/

/-- Where a deployment starts: `register_vm` has entered one VM and its vCPUs,
whose indices are those of the guest CPUs, and its guest driver is bound to the
first backend. -/
structure Begins {ι : Type} {nrCpus : Nat} (registry : HostRegistry)
    (backend : HostIvshmemBackend) (nbCpu : UInt32) (args : RegisterArgs)
    (joint : JointState ι nrCpus) : Prop where
  starts : Starts registry backend nbCpu (vmKey args.vmName.bytes) joint
  guest : Guest.Starts joint.guest
  few : nrCpus ≤ nrGuestIvshmemMsgs
  indices : ∀ tid name index, identityOf joint.host tid = some (name, index) → index < nrCpus
  entry : joint.host.vms.lookup (vmKey args.vmName.bytes) = some args.vm
  ceiling : entriesOf (vmKey args.vmName.bytes) joint.host.vcpus ≤ args.vm.nbVcpus
  fits : args.vmName.bytes.length ≤ maxFittingName

section Main

variable {ι : Type} {nrCpus : Nat} {registry : HostRegistry} {backend : HostIvshmemBackend}
  {nbCpu : UInt32} {args : RegisterArgs} {joint : JointState ι nrCpus} {name : CString}
  {collection processing : MapId} {deployment middle final : Deployment ι nrCpus}
  {earlier actions : List (DeploymentAction ι nrCpus)}

theorem Begins.synced (begins : Begins registry backend nbCpu args joint) :
    Synced registry (vmKey args.vmName.bytes) (start joint) where
  coherent := begins.starts.coherent
  words cpu := begins.guest.wordLaw (cpu.isLt.trans_le begins.few)
  indices := begins.indices
  entry := ⟨args.vm, begins.entry, args.vm_inRange⟩
  shown := by
    have unflagged := begins.starts.unflagged
    refine ⟨fun tid => ?_, begins.starts.oneVm, args.vm, begins.entry, ?_, begins.ceiling,
      fun tid vcpu found _ => Or.inl (unflagged tid vcpu found)⟩
    · refine iff_of_false (Finset.notMem_empty tid) ?_
      rintro ⟨vcpu, found, flag⟩
      have zero := unflagged tid vcpu found
      omega
    · have none : flaggedOf (vmKey args.vmName.bytes) joint.host.vcpus = 0 := by
        apply FiniteMap.countWhere_eq_zero
        intro tid vcpu found
        have zero := unflagged tid vcpu found
        exact decide_eq_false fun both => by omega
      show (0 : Int) = flaggedOf (vmKey args.vmName.bytes) joint.host.vcpus
      rw [none]
      rfl

/-- The first window has not been opened when the VM gets its buffers. -/
theorem Synced.reporting_setUp (synced : Synced registry (vmKey name.bytes) deployment)
    (fits : name.bytes.length ≤ maxFittingName)
    (newMaps : NewMaps collection processing deployment.joint.host) :
    Reporting registry (vmKey name.bytes) (mapOf collection processing)
      (deployment.setUp collection processing name) := by
  obtain ⟨vm, found, inRange⟩ := synced.entry
  have fitting : ∀ tid vcpu, deployment.joint.host.vcpus.lookup tid = some vcpu →
      FittingKey vcpu.vmName := by
    intro tid vcpu present
    rw [synced.shown.oneVm.named tid _ _ (identityOf_of_lookup present)]
    exact ⟨name, fits, rfl⟩
  have fresh := tracked_start fits newMaps found inRange fitting
  refine ⟨synced.setUp collection processing name, ⟨vm, fresh.collecting, fresh.exclusive,
    fresh.bounds, fun t _ => ?_, fun _ opened => ?_⟩, ?_, fun _ reported => ?_⟩
  · show (deployment.stalled.members.card : Int) = vm.phantomCount
    rw [← synced.shown.countOf_eq]
    exact countOf_of_found found
  · cases opened
  · exact Occupancy.bounded_start (synced.shown.card_le synced.indices)
  · cases reported

variable [DecidableEq ι]

/-- A run of the deployed tracker. -/
abbrev Run (registry : HostRegistry) (key : VmKey)
    (guard : Deployment ι nrCpus → DeploymentAction ι nrCpus → Prop) :
    Deployment ι nrCpus → List (DeploymentAction ι nrCpus) → Deployment ι nrCpus → Prop :=
  GuardedRun (fun deployment action => some (deployment.step registry key action)) guard

/-- Every reachable state of a deployment that has its buffers. -/
theorem Begins.reporting (begins : Begins registry backend nbCpu args joint)
    (before : Run registry (vmKey args.vmName.bytes) Scheduled (start joint) earlier middle)
    (newMaps : NewMaps collection processing middle.joint.host)
    (run : Run registry (vmKey args.vmName.bytes)
      (fun deployment action => deployment.Scheduled action ∧
        deployment.Timely registry (vmKey args.vmName.bytes) action)
      (middle.setUp collection processing args.vmName) actions final) :
    Reporting registry (vmKey args.vmName.bytes) (mapOf collection processing) final := by
  have synced : Synced registry (vmKey args.vmName.bytes) middle := by
    apply before.invariant (Synced registry (vmKey args.vmName.bytes)) _ begins.synced
    intro current action next known scheduled taken
    obtain rfl := Option.some.inj taken
    exact known.step begins.starts.first begins.few scheduled
  apply run.invariant (Reporting registry (vmKey args.vmName.bytes) (mapOf collection processing))
    _ (synced.reporting_setUp begins.fits newMaps)
  intro current action next known guarded taken
  obtain rfl := Option.some.inj taken
  exact known.step begins.starts.first begins.few guarded.1 guarded.2

/-- The preempted threads are among the stalled ones. -/
theorem preempted_below_run {key : VmKey} (below : deployment.preempted.Below deployment.stalled)
    (run : Run registry key KnownWhenPreempted deployment actions final) :
    final.preempted.Below final.stalled := by
  refine run.invariant (fun current => current.preempted.Below current.stalled) ?_ below
  intro current action next holds known taken
  obtain rfl := Option.some.inj taken
  rw [step_preempted, step_stalled]
  apply current.follow_below holds
  rintro cpu next prevState incomingNow outgoingNow rfl leaves
  have inKnown := known leaves
  unfold leavesPreempted at leaves
  rw [Bool.and_eq_true] at leaves
  unfold leavesStalled
  rw [inKnown, leaves.2]
  rfl

/-- The stalled threads are preempted. -/
theorem stalled_below_run {key : VmKey} (below : deployment.stalled.Below deployment.preempted)
    (run : Run registry key NoSleepHidden deployment actions final) :
    final.stalled.Below final.preempted := by
  refine run.invariant (fun current => current.stalled.Below current.preempted) ?_ below
  intro current action next holds visible taken
  obtain rfl := Option.some.inj taken
  rw [step_preempted, step_stalled]
  apply current.follow_below holds
  rintro cpu next prevState incomingNow outgoingNow rfl
  exact visible

end Main

/-! ## A thread that leaves in an OpenMP thread -/

/-- An executable condition that implies those on a run. -/
def check {ι : Type} [Fintype ι] [DecidableEq ι] {nrCpus : Nat} (registry : HostRegistry)
    (key : VmKey) (deployment : Deployment ι nrCpus) : DeploymentAction ι nrCpus → Bool
  | .guest event =>
      decide (JointGuard deployment.joint (.guest event)) &&
        decide (GuestGuard deployment.joint.guest event)
  | .hostSwitch cpu next prevState incomingNow outgoingNow =>
      decide (JointGuard deployment.joint
        (.hostSwitch cpu next prevState incomingNow outgoingNow)) &&
        serialCheck key deployment.serial (.switch
          (switchInput registry deployment.joint cpu next prevState incomingNow outgoingNow))
  | .tick clock lastIdleAvg => serialCheck key deployment.serial (.tick key clock lastIdleAvg)

theorem guards_of_check {ι : Type} [Fintype ι] [DecidableEq ι] {nrCpus : Nat}
    {registry : HostRegistry} {key : VmKey} {deployment : Deployment ι nrCpus}
    {action : DeploymentAction ι nrCpus} (fitting : FittingKey key)
    (checked : deployment.check registry key action = true) :
    deployment.Scheduled action ∧ deployment.Timely registry key action := by
  cases action with
  | guest event =>
      rw [check, Bool.and_eq_true] at checked
      exact ⟨⟨of_decide_eq_true checked.1, of_decide_eq_true checked.2⟩, trivial⟩
  | hostSwitch cpu next prevState incomingNow outgoingNow =>
      rw [check, Bool.and_eq_true] at checked
      have scheduled := of_decide_eq_true checked.1
      exact ⟨scheduled, serialGuard_of_check fitting checked.2⟩
  | tick clock lastIdleAvg =>
      rw [check] at checked
      exact ⟨trivial, serialGuard_of_check fitting checked⟩

instance {ι : Type} {nrCpus : Nat} (deployment : Deployment ι nrCpus) :
    DecidablePred deployment.KnownWhenPreempted
  | .hostSwitch _ _ _ _ _ => inferInstanceAs (Decidable (_ → _))
  | .guest _ | .tick _ _ => inferInstanceAs (Decidable True)

instance {ι : Type} {nrCpus : Nat} (deployment : Deployment ι nrCpus) :
    DecidablePred deployment.NoSleepHidden
  | .hostSwitch _ _ _ _ _ => inferInstanceAs (Decidable (_ → _))
  | .guest _ | .tick _ _ => inferInstanceAs (Decidable True)

theorem begins_pairJoint : Begins pairRegistry (firstBackend 2) 2 pairArgs pairJoint where
  starts := starts_pairJoint
  guest := by
    refine ⟨starts_pairJoint.coherent.mapped, rfl, fun cpu _ => ?_⟩
    exact Memory.load64_zero (hostG2hSlot cpu)
  few := by decide
  indices tid name index identity := by
    obtain ⟨vcpu, found, same⟩ := Option.map_eq_some_iff.mp identity
    obtain ⟨thread, entry⟩ := pairHost_entry found
    rw [entry] at same
    obtain ⟨_, rfl⟩ := Prod.mk.inj same
    rcases thread with rfl | rfl <;> decide
  entry := AList.lookup_insert _
  ceiling := by decide +kernel
  fits := by decide

theorem newMaps_pairJoint : NewMaps 0 1 (start pairJoint).joint.host :=
  ⟨by decide, fun _ _ registered => by cases registered⟩

/-- Guest thread 5 enters OpenMP on vCPU 1, and if it is to be known as an OpenMP thread
it is switched out and in again. Then host thread 8, which is vCPU 1, leaves in the
given state for thread 1, which is no vCPU. The timer ticks at 10 and at 40. -/
def departure (known : Bool) (prevState : Nat) : List (DeploymentAction Bool 2) :=
  [.guest (.switch (Fin.last 1) 5), .guest (.captureMaster (Fin.last 1))] ++
    (if known then [.guest (.switch (Fin.last 1) 0), .guest (.switch (Fin.last 1) 5)] else []) ++
    [.hostSwitch true 1 prevState 5 5, .tick ⟨10, 10, 10⟩ none, .tick ⟨40, 40, 40⟩ none]

/-- The runs of two vCPUs that meet all conditions. -/
abbrev PairRun : List (DeploymentAction Bool 2) → Deployment Bool 2 → Prop :=
  Run pairRegistry (vmKey [97]) (fun deployment action =>
    deployment.Scheduled action ∧ deployment.Timely pairRegistry (vmKey [97]) action)
    ((start pairJoint).setUp 0 1 pairArgs.vmName)

/-- A departure that the check admits, with what is reported at its end. -/
theorem departure_run (known : Bool) (prevState : Nat)
    (guard : Deployment Bool 2 → DeploymentAction Bool 2 → Prop)
    [∀ deployment, DecidablePred (guard deployment)] (stalled preempted : Int)
    (checked : (exec
      (fun deployment action => some (deployment.step pairRegistry (vmKey [97]) action))
      (fun deployment action =>
        deployment.check pairRegistry (vmKey [97]) action = true ∧ guard deployment action)
      ((start pairJoint).setUp 0 1 pairArgs.vmName) (departure known prevState)).any (fun final =>
        decide (final.stalled.reported = some stalled ∧
          final.preempted.reported = some preempted)) = true) :
    ∃ final, PairRun (departure known prevState) final ∧
      Run pairRegistry (vmKey [97]) guard ((start pairJoint).setUp 0 1 pairArgs.vmName)
        (departure known prevState) final ∧
      final.stalled.reported = some stalled ∧ final.preempted.reported = some preempted := by
  obtain ⟨final, executed, reached⟩ := (Option.any_eq_true _ _).mp checked
  have run := guardedRun_of_exec executed
  exact ⟨final, run.mono fun _ _ both => guards_of_check ⟨pairArgs.vmName, by decide, rfl⟩ both.1,
    run.mono fun _ _ both => both.2, of_decide_eq_true reached⟩

/-- A thread that goes to sleep in favour of a thread that is no vCPU: nothing was
preempted, and the guest reads 1. So the page overstates preemption without
`NoSleepHidden`. -/
theorem sleep_shown_as_preemption :
    ∃ final, PairRun (departure true 1) final ∧ final.preempted.reported = some 0 ∧
      final.pageAverage = 1 := by
  obtain ⟨final, run, _, stalled, preempted⟩ :=
    departure_run true 1 (fun _ _ => True) 1 0 (by decide +kernel)
  exact ⟨final, run, preempted,
    (begins_pairJoint.reporting (.nil _) newMaps_pairJoint run).page 1 stalled⟩

/-- A thread that is preempted after it was registered while it ran: the guest reads 0.
So the page understates preemption without `KnownWhenPreempted`. -/
theorem late_registration_hides_preemption :
    ∃ final, PairRun (departure false 0) final ∧ final.preempted.reported = some 1 ∧
      final.pageAverage = 0 := by
  obtain ⟨final, run, _, stalled, preempted⟩ :=
    departure_run false 0 (fun _ _ => True) 0 1 (by decide +kernel)
  exact ⟨final, run, preempted,
    (begins_pairJoint.reporting (.nil _) newMaps_pairJoint run).page 0 stalled⟩

end Deployment

end PhantomTracker.Joint
