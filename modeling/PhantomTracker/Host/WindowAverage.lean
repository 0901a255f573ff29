import PhantomTracker.Foundation.Runs
import PhantomTracker.Host.NoLostUpdate
import PhantomTracker.Host.SerialRuns

/-!
Contract: the published phantom average as the mean of the count over a window.

Owns: the invariant that the active buffer records the count since the last
tick, its preservation by handlers and ticks, and the theorem that the average
of every tick after the first one is the integral of the count over the window,
divided by its length and rounded down.

Does not own: handlers and ticks that overlap.
-/

namespace PhantomTracker.Host

open PhantomTracker.Foundation

/-! ## The conditions of a run -/

/-- Fewer samples than the capacity are in the active buffer. -/
def HasRoom (key : VmKey) (host : HostState) : Prop :=
  ∀ vm, host.vms.lookup key = some vm → vm.index vm.active < vmMapMaxEntries

/-- The clock does not go backwards and is a `__u64`, no window has as many
samples as a buffer has slots, `nb_vcpus` times the length of a window is below
2^63, and other VMs have names that fit as well. -/
def SerialGuard (key : VmKey) (serial : Serial) : SerialAction → Prop
  | .switch input =>
      serial.clock ≤ input.incomingNow ∧ input.incomingNow ≤ input.outgoingNow ∧
        input.outgoingNow < 2 ^ 64 ∧ HasRoom key (incomingSwitch input serial.host).1 ∧
        HasRoom key (phantomSwitchHandler input serial.host)
  | .tick vmName clock _ =>
      serial.clock ≤ clock.endNow ∧ clock.endNow ≤ clock.startNow ∧
        clock.startNow ≤ clock.publishNow ∧ clock.publishNow < 2 ^ 64 ∧ FittingKey vmName ∧
        ∀ vm start, vmName = key → serial.host.vms.lookup key = some vm →
          serial.windowStart = some start → vm.nbVcpus * (clock.endNow - start) < 2 ^ 63

/-! ## The invariant -/

/-- The samples below the index of the active buffer record the count since
`start`. -/
structure WindowOpen (trace : Trace Int) (clock start : Nat) (vm : VmT) (map : SampleMap) :
    Prop where
  positive : 1 ≤ vm.index vm.active
  room : vm.index vm.active < vmMapMaxEntries
  sampled : Sampled trace.valueAt map.counts map.timestamps (vm.index vm.active - 1)
  first : map.timestamps 0 = start
  recent : map.timestamps (vm.index vm.active - 1) ≤ clock
  bounds : ∀ k < vm.index vm.active, 0 ≤ map.counts k ∧ map.counts k ≤ vm.nbVcpus

structure Tracked (key : VmKey) (maps : Buff → MapId) (vm : VmT) (serial : Serial) : Prop where
  collecting : Collecting key maps vm serial.host
  exclusive : Exclusive key maps serial.host.mapRegistry
  bounds : 0 ≤ vm.phantomCount ∧ vm.phantomCount ≤ vm.nbVcpus
  settled : ∀ t, serial.clock ≤ t → serial.trace.valueAt t = vm.phantomCount
  window : ∀ start, serial.windowStart = some start →
    WindowOpen serial.trace serial.clock start vm (serial.host.sampleMaps (maps vm.active))

section Append

variable {map : SampleMap} {idx : Nat} {sample : PhantomCount}

theorem updateElem_counts_same (below : idx < map.maxEntries) :
    (map.updateElem idx sample).counts idx = sample.count :=
  congrArg PhantomCount.count (SampleMap.updateElem_slot_same below sample)

theorem updateElem_timestamps_same (below : idx < map.maxEntries) :
    (map.updateElem idx sample).timestamps idx = sample.timestamp :=
  congrArg PhantomCount.timestamp (SampleMap.updateElem_slot_same below sample)

theorem updateElem_counts_of_ne {k : Nat} (different : k ≠ idx) :
    (map.updateElem idx sample).counts k = map.counts k :=
  congrArg PhantomCount.count (SampleMap.updateElem_slot_of_ne map different sample)

theorem updateElem_timestamps_of_ne {k : Nat} (different : k ≠ idx) :
    (map.updateElem idx sample).timestamps k = map.timestamps k :=
  congrArg PhantomCount.timestamp (SampleMap.updateElem_slot_of_ne map different sample)

end Append

section Invariant

variable {key : VmKey} {maps : Buff → MapId} {vm : VmT} {serial : Serial}

/-- A sample at the end of an open window. The trace changes to its count from
its time on. -/
theorem WindowOpen.append {trace : Trace Int} {clock start now : Nat} {map : SampleMap} {count : Int}
    (window : WindowOpen trace clock start vm map) (capacity : map.maxEntries = vmMapMaxEntries)
    (later : clock ≤ now) :
    Sampled (trace.record now count).valueAt (map.updateElem (vm.index vm.active) ⟨count, now⟩).counts
      (map.updateElem (vm.index vm.active) ⟨count, now⟩).timestamps (vm.index vm.active) := by
  obtain ⟨last, next⟩ : ∃ last, vm.index vm.active = last + 1 :=
    ⟨vm.index vm.active - 1, by have := window.positive; omega⟩
  have below : last + 1 < map.maxEntries := by
    rw [capacity, ← next]
    exact window.room
  have sampled := window.sampled
  have recent := window.recent
  rw [next, Nat.add_sub_cancel] at sampled recent
  rw [next]
  refine sampled.extend (fun k within => updateElem_counts_of_ne (by omega))
    (fun k within => updateElem_timestamps_of_ne (by omega)) ?_ ?_ ?_
  · rw [updateElem_timestamps_same below]
    exact recent.trans later
  · intro t earlier
    rw [updateElem_timestamps_same below] at earlier
    rw [Trace.valueAt_record, if_neg (not_le.mpr earlier)]
  · intro t reached
    rw [updateElem_timestamps_same below] at reached
    rw [Trace.valueAt_record, if_pos reached, updateElem_counts_same below]

/-- An open window after an update of the count and the sample for it. -/
theorem WindowOpen.update {trace : Trace Int} {clock start now : Nat} {map : SampleMap} {half : Half}
    {vmAfter : VmT} (window : WindowOpen trace clock start vm map)
    (capacity : map.maxEntries = vmMapMaxEntries) (later : clock ≤ now)
    (bounds : 0 ≤ vm.phantomCount ∧ vm.phantomCount ≤ vm.nbVcpus)
    (ceiling : vmAfter.nbVcpus = vm.nbVcpus)
    (index : vmAfter.index vmAfter.active = vm.index vm.active + 1)
    (room : vmAfter.index vmAfter.active < vmMapMaxEntries) :
    WindowOpen (trace.record now (half.newCount vm)) now start vmAfter
      (map.updateElem (vm.index vm.active) ⟨half.newCount vm, now⟩) := by
  have positive := window.positive
  have below : vm.index vm.active < map.maxEntries := by
    rw [capacity]
    exact window.room
  refine ⟨by omega, room, ?_, ?_, ?_, ?_⟩
  · rw [index, Nat.add_sub_cancel]
    exact window.append capacity later
  · rw [updateElem_timestamps_of_ne (by omega)]
    exact window.first
  · rw [index, Nat.add_sub_cancel, updateElem_timestamps_same below]
  · intro k within
    rw [ceiling]
    by_cases newest : k = vm.index vm.active
    · rw [newest, updateElem_counts_same below]
      exact newCount_bounds half bounds
    · rw [updateElem_counts_of_ne newest]
      exact window.bounds k (by omega)

theorem Tracked.half (tracked : Tracked key maps vm serial) {now : Nat} {after : HostState}
    (step : HalfStep now serial.host after) (later : serial.clock ≤ now) (room : HasRoom key after) :
    ∃ vmAfter, Tracked key maps vmAfter (serial.afterHalf key now after) := by
  have shape := step.sameShape
  have collecting := tracked.collecting
  have exclusive : Exclusive key maps after.mapRegistry := by
    rw [shape.registry]
    exact tracked.exclusive
  rcases step.own collecting with ⟨found, samples⟩ | ⟨half, found, written⟩
  · have same : (serial.afterHalf key now after).trace.valueAt = serial.trace.valueAt := by
      show (serial.trace.record now (countOf key after)).valueAt = _
      rw [countOf_of_found found]
      exact Trace.valueAt_record_same fun t reached => tracked.settled t (later.trans reached)
    refine ⟨vm, collecting.of_sameShape shape found collecting.flag, exclusive, tracked.bounds,
      fun t reached => ?_, fun start opened => ?_⟩
    · rw [same]
      exact tracked.settled t (later.trans reached)
    · obtain ⟨positive, below, sampled, first, recent, bounds⟩ := tracked.window start opened
      show WindowOpen _ now start vm (after.sampleMaps (maps vm.active))
      rw [samples]
      refine ⟨positive, below, ?_, first, recent.trans later, bounds⟩
      rw [same]
      exact sampled
  · generalize updated : (vm.setCount (half.newCount vm)).setIndex vm.active
      (u32Succ (vm.index vm.active)) = vmAfter at found
    have active : vmAfter.active = vm.active := by simp [← updated]
    have ceiling : vmAfter.nbVcpus = vm.nbVcpus := by simp [← updated]
    have flag : vmAfter.isCollectxInBuff1 = vm.isCollectxInBuff1 := by simp [← updated]
    have count : vmAfter.phantomCount = half.newCount vm := by simp [← updated]
    have next : vmAfter.index vm.active = u32Succ (vm.index vm.active) := by simp [← updated]
    refine ⟨vmAfter, collecting.of_sameShape shape found (by rw [flag]; exact collecting.flag),
      exclusive, ?_, fun t reached => ?_, fun start opened => ?_⟩
    · rw [count, ceiling]
      exact newCount_bounds half tracked.bounds
    · show (serial.trace.record now (countOf key after)).valueAt t = _
      rw [countOf_of_found found, Trace.valueAt_record]
      exact if_pos reached
    · have window := tracked.window start opened
      have index : vmAfter.index vmAfter.active = vm.index vm.active + 1 := by
        rw [active, next, u32Succ_of_lt window.room]
      show WindowOpen (serial.trace.record now (countOf key after)) now start vmAfter
        (after.sampleMaps (maps vmAfter.active))
      rw [countOf_of_found found, count, active, written]
      exact window.update (collecting.capacity vm.active) later tracked.bounds ceiling index
        (room vmAfter found)

/-- A tick of another VM. -/
theorem Tracked.foreignTick (tracked : Tracked key maps vm serial) {vmName : VmKey}
    {clock : TickClock} (lastIdleAvg : Option Nat) (fitting : FittingKey vmName)
    (different : vmName ≠ key) (later : serial.clock ≤ clock.publishNow) :
    Tracked key maps vm
      { serial with
        host := (callbackFn clock lastIdleAvg vmName serial.host).1
        clock := clock.publishNow } := by
  have shape := sameShape_callbackFn clock lastIdleAvg vmName serial.host
  have collecting := tracked.collecting
  have samples := callbackFn_sampleMaps_foreign clock lastIdleAvg tracked.exclusive fitting different
  have found : (callbackFn clock lastIdleAvg vmName serial.host).1.vms.lookup key = some vm := by
    rw [callbackFn_vms_of_ne (Ne.symm different)]
    exact collecting.found
  refine ⟨collecting.of_sameShape shape found collecting.flag, ?_, tracked.bounds,
    fun t reached => tracked.settled t (later.trans reached), fun start opened => ?_⟩
  · rw [shape.registry]
    exact tracked.exclusive
  · obtain ⟨positive, below, sampled, first, recent, bounds⟩ := tracked.window start opened
    rw [samples]
    exact ⟨positive, below, sampled, first, recent.trans later, bounds⟩

/-- A tick of the VM opens the next window. -/
theorem Tracked.ownTick (tracked : Tracked key maps vm serial) {clock : TickClock}
    (lastIdleAvg : Option Nat) (begins : serial.clock ≤ clock.startNow)
    (later : clock.startNow ≤ clock.publishNow) :
    ∃ vmAfter, Tracked key maps vmAfter
      { serial with
        host := (callbackFn clock lastIdleAvg key serial.host).1
        clock := clock.publishNow
        windowStart := some clock.startNow } := by
  have shape := sameShape_callbackFn clock lastIdleAvg key serial.host
  have collecting := tracked.collecting
  obtain ⟨⟨vmAfter, found, count, ceiling, flag, active, index⟩, opened, _⟩ :=
    ownTick_callbackFn collecting clock lastIdleAvg
  have room : 0 < (serial.host.sampleMaps (maps vm.active.other)).maxEntries := by
    rw [collecting.capacity]
    decide
  have bounds : 0 ≤ vmAfter.phantomCount ∧ vmAfter.phantomCount ≤ vmAfter.nbVcpus := by
    rw [count, ceiling]
    exact tracked.bounds
  have settled : ∀ t, clock.startNow ≤ t → serial.trace.valueAt t = vmAfter.phantomCount := by
    intro t reached
    rw [count]
    exact tracked.settled t (begins.trans reached)
  refine ⟨vmAfter, collecting.of_sameShape shape found flag, ?_, bounds,
    fun t reached => settled t (later.trans reached), fun start begun => ?_⟩
  · rw [shape.registry]
    exact tracked.exclusive
  · obtain rfl : clock.startNow = start := Option.some.inj begun
    rw [active, opened]
    have one : vmAfter.index vmAfter.active = 1 := by
      rw [active]
      exact index
    refine ⟨by omega, by rw [one]; decide, ?_, updateElem_timestamps_same room, ?_, ?_⟩
    · rw [one]
      apply Sampled.single
      intro t reached
      rw [updateElem_timestamps_same room] at reached
      rw [updateElem_counts_same room, ← count]
      exact settled t reached
    · rw [one, Nat.sub_self, updateElem_timestamps_same room]
      exact later
    · intro k within
      obtain rfl : k = 0 := by omega
      rw [updateElem_counts_same room, ← count]
      exact bounds

theorem Tracked.step (tracked : Tracked key maps vm serial) {action : SerialAction} {next : Serial}
    (guarded : SerialGuard key serial action) (taken : serial.step key action = some next) :
    ∃ vmAfter, Tracked key maps vmAfter next := by
  cases action with
  | switch input =>
      obtain rfl := Option.some.inj taken
      obtain ⟨first, second, _, roomIncoming, roomOutgoing⟩ := guarded
      obtain ⟨vmIncoming, incoming⟩ :=
        tracked.half (incomingSwitch_halfStep input serial.host) first roomIncoming
      exact incoming.half (outgoingSwitch_halfStep input _ _) second roomOutgoing
  | tick vmName clock lastIdleAvg =>
      obtain rfl := Option.some.inj taken
      obtain ⟨ends, begins, publishes, _, fitting, _⟩ := guarded
      by_cases own : vmName = key
      · subst own
        rw [if_pos rfl]
        exact tracked.ownTick lastIdleAvg (ends.trans begins) publishes
      · rw [if_neg own]
        exact ⟨vm, tracked.foreignTick lastIdleAvg fitting own
          (ends.trans (begins.trans publishes))⟩

/-! ## The average of a tick -/

/-- The samples of the window that a tick closes record the count up to the end
of the window. -/
theorem Tracked.sampled_closed (tracked : Tracked key maps vm serial) {start endNow : Nat}
    (opened : serial.windowStart = some start) (ends : serial.clock ≤ endNow) :
    Sampled serial.trace.valueAt (closedWindow maps vm serial.host endNow).counts
      (closedWindow maps vm serial.host endNow).timestamps (vm.index vm.active) := by
  have unchanged : (serial.trace.record endNow vm.phantomCount).valueAt = serial.trace.valueAt :=
    Trace.valueAt_record_same fun t reached => tracked.settled t (ends.trans reached)
  rw [← unchanged]
  exact (tracked.window start opened).append (tracked.collecting.capacity vm.active) ends

theorem Tracked.closed_ends (tracked : Tracked key maps vm serial) {start : Nat} (endNow : Nat)
    (opened : serial.windowStart = some start) :
    (closedWindow maps vm serial.host endNow).timestamps 0 = start ∧
      (closedWindow maps vm serial.host endNow).timestamps (vm.index vm.active) = endNow := by
  have window := tracked.window start opened
  have positive := window.positive
  refine ⟨?_, updateElem_timestamps_same ?_⟩
  · exact (updateElem_timestamps_of_ne (by omega)).trans window.first
  · rw [tracked.collecting.capacity]
    exact window.room

theorem Tracked.window_closed (tracked : Tracked key maps vm serial) {start endNow : Nat}
    (opened : serial.windowStart = some start) (ends : serial.clock ≤ endNow)
    (representable : endNow < 2 ^ 64) (product : vm.nbVcpus * (endNow - start) < 2 ^ 63) :
    (closedWindow maps vm serial.host endNow).Window (vm.index vm.active) vm.nbVcpus := by
  have window := tracked.window start opened
  have sampled := tracked.sampled_closed opened ends
  obtain ⟨first, last⟩ := tracked.closed_ends endNow opened
  have entries : (closedWindow maps vm serial.host endNow).maxEntries = vmMapMaxEntries :=
    (SampleMap.updateElem_maxEntries _ _ _).trans (tracked.collecting.capacity vm.active)
  have counts : ∀ k < vm.index vm.active, (closedWindow maps vm serial.host endNow).counts k =
      (serial.host.sampleMaps (maps vm.active)).counts k :=
    fun k below => updateElem_counts_of_ne (by omega)
  refine ⟨?_, ?_, fun j k => sampled.time_le_time, fun k below => ?_, fun k below => ?_, ?_, ?_⟩
  · rw [entries]
    exact window.room
  · rw [entries]
    decide
  · rw [counts k below]
    exact (window.bounds k below).1
  · rw [counts k below]
    exact (window.bounds k below).2
  · rw [first, last]
    exact product
  · rw [first, last]
    omega

/-- The average of a tick that closes a window. -/
theorem Tracked.average (tracked : Tracked key maps vm serial) {start : Nat} {clock : TickClock}
    {lastIdleAvg : Option Nat} (opened : serial.windowStart = some start)
    (guarded : SerialGuard key serial (.tick key clock lastIdleAvg)) :
    ∃ watermark, (callbackFn clock lastIdleAvg key serial.host).2 = some watermark ∧
      watermark.phantomAvg = (∑ t ∈ Finset.Ico start clock.endNow, serial.trace.valueAt t) /
        ((clock.endNow - start : Nat) : Int) := by
  obtain ⟨ends, begins, publishes, representable, _, product⟩ := guarded
  have window := tracked.window_closed opened ends (by omega)
    (product vm start rfl tracked.collecting.found opened)
  have integral := (tracked.sampled_closed opened ends).integral
  obtain ⟨first, last⟩ := tracked.closed_ends clock.endNow opened
  obtain ⟨_, _, watermark, published, average⟩ :=
    ownTick_callbackFn tracked.collecting clock lastIdleAvg
  refine ⟨watermark, published, ?_⟩
  rw [average, phantomAverage_window window]
  rw [first, last] at integral ⊢
  rw [integral]
  rfl

theorem Tracked.run (tracked : Tracked key maps vm serial) {actions : List SerialAction}
    {final : Serial} (run : GuardedRun (Serial.step key) (SerialGuard key) serial actions final) :
    ∃ vmAfter, Tracked key maps vmAfter final := by
  refine run.invariant (fun serial => ∃ vmAfter, Tracked key maps vmAfter serial) ?_ ⟨vm, tracked⟩
  rintro current action next ⟨vmCurrent, known⟩ allowed taken
  exact known.step allowed taken

end Invariant

/-- A registered VM whose buffers have just been set up. -/
theorem tracked_start {name : CString} {collection processing : MapId} {host : HostState} {vm : VmT}
    (fits : name.bytes.length ≤ maxFittingName) (newMaps : NewMaps collection processing host)
    (found : host.vms.lookup (vmKey name.bytes) = some vm) (inRange : vm.InRange)
    (fitting : ∀ tid vcpu, host.vcpus.lookup tid = some vcpu → FittingKey vcpu.vmName) :
    Tracked (vmKey name.bytes) (mapOf collection processing) vm
      (Serial.start (vmKey name.bytes) (setupVmMaps none collection processing name host).1) where
  collecting := collecting_setupVmMaps fits newMaps found inRange.flag fitting
  exclusive := exclusive_setupVmMaps fits newMaps
  bounds := ⟨inRange.nonneg, inRange.ceiling⟩
  settled _ _ := countOf_of_found found
  window _ opened := by cases opened

/-- **The published average is the mean of the count over the window.** A VM is
registered and, after any handlers and ticks, gets its buffers from
`setup_vm_maps`. For every run of complete handlers and ticks from there, the
average of a tick that is not the first one of the VM is the integral of the
count from the last `count_start` to this `count_end`, divided by that length and
rounded down, and zero for a window without length. -/
theorem tick_average_eq_mean {args : RegisterArgs} {collection processing : MapId}
    {host : HostState} {earlier actions : List SerialAction} {before final : Serial} {start : Nat}
    {clock : TickClock} {lastIdleAvg : Option Nat}
    (fits : args.vmName.bytes.length ≤ maxFittingName)
    (registered : host.vms.lookup (vmKey args.vmName.bytes) = some args.vm)
    (earlierRun : GuardedRun (Serial.step (vmKey args.vmName.bytes)) (fun _ _ => True)
      (Serial.start (vmKey args.vmName.bytes) host) earlier before)
    (newMaps : NewMaps collection processing before.host)
    (fitting : ∀ tid vcpu, before.host.vcpus.lookup tid = some vcpu → FittingKey vcpu.vmName)
    (run : GuardedRun (Serial.step (vmKey args.vmName.bytes)) (SerialGuard (vmKey args.vmName.bytes))
      (Serial.start (vmKey args.vmName.bytes)
        (setupVmMaps none collection processing args.vmName before.host).1) actions final)
    (later : final.windowStart = some start)
    (guarded : SerialGuard (vmKey args.vmName.bytes) final
      (.tick (vmKey args.vmName.bytes) clock lastIdleAvg)) :
    ∃ watermark,
      (callbackFn clock lastIdleAvg (vmKey args.vmName.bytes) final.host).2 = some watermark ∧
      watermark.phantomAvg = (∑ t ∈ Finset.Ico start clock.endNow, final.trace.valueAt t) /
        ((clock.endNow - start : Nat) : Int) ∧
      (clock.endNow = start → watermark.phantomAvg = 0) := by
  have initially : Registered (vmKey args.vmName.bytes)
      (Serial.start (vmKey args.vmName.bytes) host).host := ⟨args.vm, registered, args.vm_inRange⟩
  obtain ⟨vm, found, inRange⟩ := initially.run earlierRun
  obtain ⟨vmAfter, tracked⟩ := (tracked_start fits newMaps found inRange fitting).run run
  obtain ⟨watermark, published, mean⟩ := tracked.average later guarded
  refine ⟨watermark, published, mean, fun empty => ?_⟩
  rw [mean, empty, Nat.sub_self]
  exact Int.ediv_zero _

/-! ## A window with two preemptions -/

instance (key : VmKey) (host : HostState) : Decidable (HasRoom key host) :=
  decidable_of_iff (∀ vm ∈ host.vms.lookup key, vm.index vm.active < vmMapMaxEntries) Iff.rfl

/-- An executable condition that implies the one on a run, for ticks of the VM
itself. -/
def serialCheck (key : VmKey) (serial : Serial) : SerialAction → Bool
  | .switch input =>
      decide (serial.clock ≤ input.incomingNow) && decide (input.incomingNow ≤ input.outgoingNow) &&
        decide (input.outgoingNow < 2 ^ 64) &&
        decide (HasRoom key (incomingSwitch input serial.host).1) &&
        decide (HasRoom key (phantomSwitchHandler input serial.host))
  | .tick vmName clock _ =>
      decide (serial.clock ≤ clock.endNow) && decide (clock.endNow ≤ clock.startNow) &&
        decide (clock.startNow ≤ clock.publishNow) && decide (clock.publishNow < 2 ^ 64) &&
        decide (vmName = key) &&
        decide (∀ vm ∈ serial.host.vms.lookup key, ∀ start ∈ serial.windowStart,
          vm.nbVcpus * (clock.endNow - start) < 2 ^ 63)

theorem serialGuard_of_check {key : VmKey} {serial : Serial} {action : SerialAction}
    (fitting : FittingKey key) (check : serialCheck key serial action = true) :
    SerialGuard key serial action := by
  cases action with
  | switch input =>
      simp only [serialCheck, Bool.and_eq_true, decide_eq_true_eq] at check
      obtain ⟨⟨⟨⟨first, second⟩, third⟩, fourth⟩, fifth⟩ := check
      exact ⟨first, second, third, fourth, fifth⟩
  | tick vmName clock lastIdleAvg =>
      simp only [serialCheck, Bool.and_eq_true, decide_eq_true_eq] at check
      obtain ⟨⟨⟨⟨⟨ends, begins⟩, publishes⟩, representable⟩, rfl⟩, product⟩ := check
      exact ⟨ends, begins, publishes, representable, fitting,
        fun vm start _ found opened => product vm found start opened⟩

/-- A tick at time 10, then thread 7 is preempted at time 15 and thread 8 at
time 20. -/
def pairWindow : List SerialAction :=
  [.tick (vmKey [97]) ⟨10, 10, 10⟩ none, .switch ⟨⟨7, 1, 0⟩, fun _ => some 1, 15, 15⟩,
    .switch ⟨⟨8, 2, 0⟩, fun _ => some 1, 20, 20⟩]

theorem pair_window_average :
    ∃ final watermark, GuardedRun (Serial.step (vmKey [97])) (SerialGuard (vmKey [97]))
        (Serial.start (vmKey [97]) (setupVmMaps none 0 1 pairArgs.vmName pairHost).1)
        pairWindow final ∧
      (callbackFn ⟨40, 40, 40⟩ none (vmKey [97]) final.host).2 = some watermark ∧
      ∑ t ∈ Finset.Ico 10 40, final.trace.valueAt t = 45 ∧ watermark.phantomAvg = 1 := by
  have fitting : FittingKey (vmKey [97]) := ⟨pairArgs.vmName, by decide, rfl⟩
  have check : (exec (Serial.step (vmKey [97])) (fun serial action =>
      serialCheck (vmKey [97]) serial action = true)
        (Serial.start (vmKey [97]) (setupVmMaps none 0 1 pairArgs.vmName pairHost).1)
        pairWindow).any (fun final => decide (final.windowStart = some 10) &&
          serialCheck (vmKey [97]) final (.tick (vmKey [97]) ⟨40, 40, 40⟩ none) &&
          decide (∑ t ∈ Finset.Ico 10 40, final.trace.valueAt t = 45)) = true := by
    decide +kernel
  obtain ⟨final, executed, reached⟩ := (Option.any_eq_true _ _).mp check
  have run := (guardedRun_of_exec executed).mono fun _ _ => serialGuard_of_check fitting
  simp only [Bool.and_eq_true, decide_eq_true_eq] at reached
  obtain ⟨⟨opened, allowed⟩, integral⟩ := reached
  obtain ⟨watermark, published, mean, _⟩ := @tick_average_eq_mean pairArgs 0 1 pairHost []
    pairWindow (Serial.start (vmKey [97]) pairHost) final 10 ⟨40, 40, 40⟩ none
    (by decide) (AList.lookup_insert _) (.nil _) ⟨by decide, fun _ _ registered => by cases registered⟩
    (fun tid vcpu present => (pairHost_vcpu present).1 ▸ fitting) run opened
    (serialGuard_of_check fitting allowed)
  refine ⟨final, watermark, run, published, integral, ?_⟩
  rw [mean, integral]
  rfl

end PhantomTracker.Host
