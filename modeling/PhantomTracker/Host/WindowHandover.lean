import PhantomTracker.Host.NoLostUpdate
import PhantomTracker.Host.WindowSimulation

/-!
Contract: the last sample of the active buffer against the current count.

Owns: the last sample, the theorem that it carries the current count whenever
nothing is in progress, for handlers and ticks that keep the handover order, and
a run of one handler and one tick that do not keep it.

Does not own: the journal argument behind the theorem, or what the average makes
of a wrong last sample.
-/

namespace PhantomTracker.Host

open PhantomTracker.Foundation

/-- The sample below the index of the active buffer of `vm`. -/
def lastSample (key : VmKey) (vm : VmT) (host : HostState) : Option PhantomCount :=
  (host.mapRegistry.lookup (collectionBuff vm.active key)).bind fun map =>
    (host.sampleMaps map).lookupElem (vm.index vm.active - 1)

/-- The last sample of the active buffer carries the current count. -/
def LastSampleCurrent (key : VmKey) (host : HostState) : Prop :=
  ∃ vm sample, host.vms.lookup key = some vm ∧ lastSample key vm host = some sample ∧
    sample.count = vm.phantomCount

section Handover

variable {ι : Type}

/-- No handler and no tick is in progress. -/
structure Machine.AtRest (machine : Machine ι) : Prop where
  cpus : ∀ cpu, machine.cpus cpu = .idle
  tick : machine.tick = .idle

variable {key : VmKey} {maps : Buff → MapId} {host : HostState} {vm : VmT}

theorem newest_quiet (bounded : ∀ buff, vm.index buff ≤ vmMapMaxEntries) :
    ((Machine.quiet ι host).view key maps vm).Newest vmMapMaxEntries where
  bounded := bounded
  lone _ _ _ _ appends := absurd appends Journal.not_appending_away
  current _ _ appends := absurd appends Journal.not_appending_away
  below _ _ _ _ reserved := by cases reserved
  distinct _ _ _ _ _ _ reserved := by cases reserved
  swapper := trivial
  newest started := absurd started (Nat.not_succ_le_zero 0)

/-- **No transition is lost between windows**, as long as handlers and ticks
keep the handover order: whenever nothing is in progress after a tick, the last
sample of the active buffer carries the current count. -/
theorem last_sample_current_in_order [DecidableEq ι] {actions : List (Action ι)}
    {final : Machine ι} (collecting : Collecting key maps vm host)
    (bounded : ∀ buff, vm.index buff ≤ vmMapMaxEntries)
    (run : GuardedRun (Machine.step key) (HandoverGuard key) (Machine.quiet ι host) actions final)
    (rest : final.AtRest) (started : 1 ≤ final.ticks) : LastSampleCurrent key final.host := by
  have viewed : final.Viewed key maps (Journal.Newest vmMapMaxEntries) := by
    refine run.invariant (Machine.Viewed key maps (Journal.Newest vmMapMaxEntries)) ?_
      (Machine.viewed_quiet collecting (newest_quiet bounded))
    intro machine action next known guarded taken
    refine known.step (fun journal label after newest ordered step => ?_) taken
    exact newest.step (by decide) (fun _ => u32Succ_of_lt) (ordered guarded) step
  obtain ⟨vmAfter, collectingAfter, _, newest⟩ := viewed
  have away : ∀ cpu, (final.view key maps vmAfter).writers cpu = .away := by
    intro cpu
    show writerOf key (final.cpus cpu) = .away
    rw [rest.cpus cpu]
    rfl
  have swapped : 1 ≤ (final.view key maps vmAfter).swaps := by
    show 1 ≤ swapsOf final.ticks final.tick
    rw [rest.tick]
    exact started
  obtain ⟨positive, below, current⟩ := newest.at_rest away swapped
  refine ⟨vmAfter, _, collectingAfter.found, ?_, current⟩
  unfold lastSample
  rw [buffers_lookup collectingAfter.buffered]
  refine if_pos ?_
  rw [collectingAfter.capacity]
  have : 1 ≤ vmAfter.index vmAfter.active := positive
  have : vmAfter.index vmAfter.active ≤ vmMapMaxEntries := below
  omega

end Handover

/-! ## A handler that the swap overtakes -/

/-- VM `a` with the vCPU threads 7 and 8, just registered, and its two
buffers. -/
def pairCollecting : HostState :=
  { pairHost with
    mapRegistry := ((∅ : FiniteMap VmKey MapId).insert (registryKey .one [97]) 0).insert
      (registryKey .two [97]) 1 }

/-- The ids of the two buffers. -/
def pairMaps : Buff → MapId
  | .one => 0
  | .two => 1

theorem collecting_pair :
    Collecting (vmKey [97]) pairMaps ⟨CharArray.zeroed 128, 0, 0, 0, 0, 2, 0⟩ pairCollecting where
  found := AList.lookup_insert _
  buffered := by
    have first : pairCollecting.mapRegistry.lookup (collectionBuff .one (vmKey [97])) = some 0 := by
      decide +kernel
    have second : pairCollecting.mapRegistry.lookup (collectionBuff .two (vmKey [97])) = some 1 := by
      decide +kernel
    unfold buffers
    rw [first, second]
    exact congrArg some (funext fun buff => by cases buff <;> rfl)
  apart buff := by cases buff <;> decide
  capacity _ := rfl
  flag := Or.inl rfl
  foreign _ _ _ _ present different := absurd (pairHost_vcpu present).1 different

/-- A tick taken alone, with `samples` callbacks of the fold. -/
def tickAlone (now samples : Nat) : List (Action Bool) :=
  List.replicate (11 + samples) (.tick now)

/-- The first `steps` steps of a handler, with every guest slot at 1. -/
def handlerSteps (now : Nat) (cpu : Bool) (event : SchedSwitch) (steps : Nat) :
    List (Action Bool) :=
  .switch cpu event :: List.replicate steps (.advance cpu ⟨fun _ => some 1, now⟩)

/-- A handler taken alone, for a switch that flips one flag. -/
def flipAlone (now : Nat) (cpu : Bool) (event : SchedSwitch) : List (Action Bool) :=
  handlerSteps now cpu event 7

/-- A tick loads its start sample. Then thread 7 is preempted: its handler
raises the count to 1 and chooses the buffer that is active before the swap. The
tick completes, and only then the handler appends its sample, to the buffer that
has stopped collecting. -/
def overtakenAppend : List (Action Bool) :=
  List.replicate 3 (.tick 0) ++ handlerSteps 0 false ⟨7, 1, 0⟩ 5 ++ List.replicate 8 (.tick 0) ++
    List.replicate 2 (.advance false ⟨fun _ => some 1, 0⟩)

/-- At rest after a tick, with `count` in the VM and `recorded` in its last
sample. -/
def restsWith (key : VmKey) (count recorded : Int) (machine : Machine Bool) : Bool :=
  decide (∀ cpu, machine.cpus cpu = .idle) && decide (machine.tick = .idle) &&
    decide (1 ≤ machine.ticks) &&
    ((machine.host.vms.lookup key).any fun vm => decide (vm.phantomCount = count) &&
      (lastSample key vm machine.host).any fun sample => decide (sample.count = recorded))

theorem transition_lost_out_of_order :
    ∃ final, GuardedRun (Machine.step (vmKey [97])) SchedGuard (Machine.quiet Bool pairCollecting)
        overtakenAppend final ∧ final.AtRest ∧ 1 ≤ final.ticks ∧
      (∃ vm sample, final.host.vms.lookup (vmKey [97]) = some vm ∧ vm.phantomCount = 1 ∧
        lastSample (vmKey [97]) vm final.host = some sample ∧ sample.count = 0) ∧
      ¬ LastSampleCurrent (vmKey [97]) final.host := by
  have check : (exec (Machine.step (vmKey [97])) (fun machine action =>
      schedCheck machine action = true) (Machine.quiet Bool pairCollecting) overtakenAppend).any
        (restsWith (vmKey [97]) 1 0) = true := by
    decide +kernel
  obtain ⟨final, executed, rests⟩ := (Option.any_eq_true _ _).mp check
  have run := (guardedRun_of_exec executed).mono fun _ _ => schedGuard_of_check
  simp only [restsWith, Bool.and_eq_true, decide_eq_true_eq] at rests
  obtain ⟨⟨⟨cpus, tick⟩, started⟩, values⟩ := rests
  obtain ⟨vm, found, values⟩ := (Option.any_eq_true _ _).mp values
  simp only [Bool.and_eq_true, decide_eq_true_eq] at values
  obtain ⟨count, values⟩ := values
  obtain ⟨sample, last, recorded⟩ := (Option.any_eq_true _ _).mp values
  have none : sample.count = 0 := of_decide_eq_true recorded
  refine ⟨final, run, ⟨cpus, tick⟩, started, ⟨vm, sample, found, count, last, none⟩, ?_⟩
  rintro ⟨other, otherSample, otherFound, otherLast, current⟩
  obtain rfl := Option.some.inj (found.symm.trans otherFound)
  obtain rfl := Option.some.inj (last.symm.trans otherLast)
  omega

/-- The same switch after the tick, followed by another one. -/
def inOrderAppend : List (Action Bool) :=
  tickAlone 0 0 ++ flipAlone 0 false ⟨7, 1, 0⟩ ++ flipAlone 0 true ⟨8, 2, 0⟩

theorem in_order_append_current :
    ∃ final, GuardedRun (Machine.step (vmKey [97])) (HandoverGuard (vmKey [97]))
        (Machine.quiet Bool pairCollecting) inOrderAppend final ∧ final.AtRest ∧
      1 ≤ final.ticks ∧ LastSampleCurrent (vmKey [97]) final.host := by
  have check : (exec (Machine.step (vmKey [97])) (HandoverGuard (vmKey [97]))
      (Machine.quiet Bool pairCollecting) inOrderAppend).any (fun final =>
        decide (∀ cpu, final.cpus cpu = .idle) && decide (final.tick = .idle) &&
          decide (1 ≤ final.ticks)) = true := by
    decide +kernel
  obtain ⟨final, executed, rest⟩ := (Option.any_eq_true _ _).mp check
  have run := guardedRun_of_exec executed
  simp only [Bool.and_eq_true, decide_eq_true_eq] at rest
  obtain ⟨⟨cpus, tick⟩, started⟩ := rest
  have bounded : ∀ buff, VmT.index ⟨CharArray.zeroed 128, 0, 0, 0, 0, 2, 0⟩ buff ≤
      vmMapMaxEntries := by
    intro buff
    cases buff <;> exact Nat.zero_le _
  exact ⟨final, run, ⟨cpus, tick⟩, started,
    last_sample_current_in_order collecting_pair bounded run ⟨cpus, tick⟩ started⟩

end PhantomTracker.Host
