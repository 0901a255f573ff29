import PhantomTracker.Host.Accounting

/-!
Contract: the map operations of the registration tools and the accounts of the
VMs.

Owns: the assumptions on a run of the tools, what holds of the maps while a
process stands at each of its tasks, and that a map operation made for one VM
keeps the account of every other VM and leads its own process to a task that
holds.

Does not own: the invariant of the whole machine.
-/

namespace PhantomTracker.Host

open PhantomTracker.Foundation
open PhantomTracker.Foundation.FiniteMap

/-- The next operation does not store a thread id for one VM while it is stored
for another. -/
def taskAdmissible (state : HostState) : ToolTask → Bool
  | .registerVcpus args (qmpDetail :: _) =>
      (state.vcpus.lookup qmpDetail.threadId).all fun vcpu =>
        vcpu.vmName = vmKey args.vmName.bytes
  | _ => true

/-- The assumptions on a run: VM names fit with their terminator, the ceiling
is at least the number of vCPUs in the list, and a thread id belongs to at most
one VM. -/
def admissible (machine : ToolMachine) : ToolAction → Bool
  | .beginRegister _ args =>
      args.vmName.bytes.length < vmNameLen ∧ args.vcpus.length ≤ args.nbVcpus
  | .beginCleanup _ vmName => vmName.bytes.length < vmNameLen
  | .advance pid => taskAdmissible machine.host (machine.tasks pid)
  | _ => true

/-- No process works on the VM. -/
def ToolMachine.Unclaimed (machine : ToolMachine) (vmName : CString) : Prop :=
  ∀ pid, (machine.tasks pid).vmName ≠ some vmName

/-- The tools are used in order: registrations and cleanups of one VM do not
overlap, a vCPU list names every thread once, and the stale-vCPU deletion of a
registration does not fail. -/
def Orderly (machine : ToolMachine) : ToolAction → Prop
  | .beginRegister _ args =>
      machine.Unclaimed args.vmName ∧ (args.vcpus.map QmpVcpu.threadId).Nodup
  | .beginCleanup _ vmName => machine.Unclaimed vmName
  | .fail pid =>
      match machine.tasks pid with
      | .registerScan _ => False
      | .registerDelete _ _ => False
      | _ => True
  | _ => True

/-- What holds of the maps while a process stands at a task. -/
def TaskHolds (state : HostState) : ToolTask → Prop
  | .idle => True
  | .registerScan args =>
      args.vmName.bytes.length < vmNameLen ∧ args.vcpus.length ≤ args.nbVcpus ∧
        (args.vcpus.map QmpVcpu.threadId).Nodup
  | .registerDelete args keys =>
      args.vmName.bytes.length < vmNameLen ∧ args.vcpus.length ≤ args.nbVcpus ∧
        (args.vcpus.map QmpVcpu.threadId).Nodup ∧ keys.Nodup ∧
        ∀ tid, tid ∈ keys ↔ ownedBy args.vmName state.vcpus tid = true
  | .registerVm args =>
      args.vmName.bytes.length < vmNameLen ∧ args.vcpus.length ≤ args.nbVcpus ∧
        (args.vcpus.map QmpVcpu.threadId).Nodup ∧
        ∀ tid, ownedBy args.vmName state.vcpus tid = false
  | .registerVcpus args temp =>
      args.vmName.bytes.length < vmNameLen ∧ (temp.map QmpVcpu.threadId).Nodup ∧
        (∀ qmpDetail ∈ temp, ownedBy args.vmName state.vcpus qmpDetail.threadId = false) ∧
        ∃ vm, Balances state (vmKey args.vmName.bytes) temp.length vm
  | .cleanupRegistry vmName _ => vmName.bytes.length < vmNameLen
  | .cleanupVms vmName => vmName.bytes.length < vmNameLen
  | .cleanupScan vmName => vmName.bytes.length < vmNameLen
  | .cleanupDelete vmName keys =>
      vmName.bytes.length < vmNameLen ∧ keys.Nodup ∧
        ∀ tid ∈ keys, ownedBy vmName state.vcpus tid = true

theorem TaskHolds.short {state : HostState} {task : ToolTask} {vmName : CString}
    (holds : TaskHolds state task) (works : task.vmName = some vmName) :
    vmName.bytes.length < vmNameLen := by
  cases task with
  | idle => cases works
  | registerScan args => exact Option.some.inj works ▸ holds.1
  | registerDelete args keys => exact Option.some.inj works ▸ holds.1
  | registerVm args => exact Option.some.inj works ▸ holds.1
  | registerVcpus args temp => exact Option.some.inj works ▸ holds.1
  | cleanupRegistry name buff => exact Option.some.inj works ▸ holds
  | cleanupVms name => exact Option.some.inj works ▸ holds
  | cleanupScan name => exact Option.some.inj works ▸ holds
  | cleanupDelete name keys => exact Option.some.inj works ▸ holds.1

/-- A step that keeps the account of the VM keeps what holds at the task. -/
theorem TaskHolds.of_keeps {before after : HostState} {task : ToolTask} {vmName : CString}
    (works : task.vmName = some vmName) (kept : Keeps vmName before after)
    (holds : TaskHolds before task) : TaskHolds after task := by
  cases task with
  | idle => trivial
  | registerScan args => exact holds
  | registerDelete args keys =>
      obtain rfl := Option.some.inj works
      obtain ⟨short, ceiling, distinct, nodup, stale⟩ := holds
      refine ⟨short, ceiling, distinct, nodup, fun tid => ?_⟩
      rw [kept.owned tid]
      exact stale tid
  | registerVm args =>
      obtain rfl := Option.some.inj works
      obtain ⟨short, ceiling, distinct, absent⟩ := holds
      refine ⟨short, ceiling, distinct, fun tid => ?_⟩
      rw [kept.owned tid]
      exact absent tid
  | registerVcpus args temp =>
      obtain rfl := Option.some.inj works
      obtain ⟨short, distinct, absent, vm, balances⟩ := holds
      refine ⟨short, distinct, fun qmpDetail member => ?_, kept.balances _ _ balances⟩
      rw [kept.owned]
      exact absent qmpDetail member
  | cleanupRegistry name buff => exact holds
  | cleanupVms name => exact holds
  | cleanupScan name => exact holds
  | cleanupDelete name keys =>
      obtain rfl := Option.some.inj works
      obtain ⟨short, nodup, owned⟩ := holds
      refine ⟨short, nodup, fun tid member => ?_⟩
      rw [kept.owned tid]
      exact owned tid member

section Operations

variable {state : HostState} {vmName : CString} {tid : Tid} {vcpu : VcpuT} {room : Nat} {vm : VmT}

theorem ownedBy_erase (vcpus : FiniteMap Tid VcpuT) (target tid : Tid) :
    ownedBy vmName (vcpus.erase target) tid =
      (decide (tid ≠ target) && ownedBy vmName vcpus tid) := by
  unfold ownedBy
  by_cases same : tid = target
  · subst same
    simp
  · rw [AList.lookup_erase_ne same]
    simp [same]

theorem ownedBy_insert (vcpus : FiniteMap Tid VcpuT) (target tid : Tid) (vcpu : VcpuT) :
    ownedBy vmName (vcpus.insert target vcpu) tid =
      if tid = target then decide (vcpu.vmName.text = vmName.bytes)
      else ownedBy vmName vcpus tid := by
  unfold ownedBy
  by_cases same : tid = target
  · subst same
    simp
  · rw [AList.lookup_insert_ne same, if_neg same]

/-- Deleting an entry of another VM. -/
theorem keeps_erase (short : vmName.bytes.length < vmNameLen)
    (foreign : ownedBy vmName state.vcpus tid = false) :
    Keeps vmName state { state with vcpus := state.vcpus.erase tid } where
  owned other := by
    rw [ownedBy_erase]
    by_cases same : other = tid
    · subst same
      rw [foreign, Bool.and_false]
    · simp [same]
  balances room vm balances := by
    have different : ∀ entry, state.vcpus.lookup tid = some entry →
        entry.vmName ≠ vmKey vmName.bytes :=
      fun _ found => vmName_ne_of_unowned short foreign found
    refine ⟨vm, ⟨balances.found, ?_, ?_, ?_⟩⟩
    · rw [balances.count]
      congr 1
      refine (countWhere_erase_of_not fun entry found => ?_).symm
      exact decide_eq_false fun both => different entry found both.1
    · have sameEntries : entriesOf (vmKey vmName.bytes) (state.vcpus.erase tid) =
          entriesOf (vmKey vmName.bytes) state.vcpus :=
        countWhere_erase_of_not fun entry found => decide_eq_false (different entry found)
      rw [sameEntries]
      exact balances.ceiling
    · intro other entry found own
      by_cases same : other = tid
      · subst same
        rw [AList.lookup_erase] at found
        cases found
      · rw [AList.lookup_erase_ne same] at found
        exact balances.binary other entry found own

/-- Inserting a vCPU of another VM. -/
theorem keeps_insert (absent : state.vcpus.lookup tid = none)
    (foreignText : vcpu.vmName.text ≠ vmName.bytes)
    (foreign : vcpu.vmName ≠ vmKey vmName.bytes) :
    Keeps vmName state { state with vcpus := state.vcpus.insert tid vcpu } where
  owned other := by
    rw [ownedBy_insert]
    by_cases same : other = tid
    · subst same
      rw [if_pos rfl]
      unfold ownedBy
      simp [absent, foreignText]
    · rw [if_neg same]
  balances room vm balances := by
    refine ⟨vm, ⟨balances.found, ?_, ?_, ?_⟩⟩
    · rw [balances.count]
      unfold flaggedOf
      rw [countWhere_insert_of_absent absent]
      simp [foreign]
    · have sameEntries : entriesOf (vmKey vmName.bytes) (state.vcpus.insert tid vcpu) =
          entriesOf (vmKey vmName.bytes) state.vcpus := by
        unfold entriesOf
        rw [countWhere_insert_of_absent absent]
        simp [foreign]
      rw [sameEntries]
      exact balances.ceiling
    · intro other entry found own
      by_cases same : other = tid
      · subst same
        rw [AList.lookup_insert] at found
        exact absurd (Option.some.inj found ▸ own) foreign
      · rw [AList.lookup_insert_ne same] at found
        exact balances.binary other entry found own

/-- Any change of `vms` at another key, and of the registry. -/
theorem keeps_of_vms {after : HostState} (sameVcpus : after.vcpus = state.vcpus)
    (sameVm : after.vms.lookup (vmKey vmName.bytes) = state.vms.lookup (vmKey vmName.bytes)) :
    Keeps vmName state after where
  owned tid := by rw [sameVcpus]
  balances room vm balances := by
    refine ⟨vm, ⟨?_, ?_, ?_, ?_⟩⟩
    · rw [sameVm]
      exact balances.found
    · rw [sameVcpus]
      exact balances.count
    · rw [sameVcpus]
      exact balances.ceiling
    · rw [sameVcpus]
      exact balances.binary

/-- The vCPU that `register_vm` inserts next has no entry yet. -/
theorem lookup_none_of_allowed {args : RegisterArgs} {qmpDetail : QmpVcpu}
    (short : args.vmName.bytes.length < vmNameLen)
    (unowned : ownedBy args.vmName state.vcpus qmpDetail.threadId = false)
    (allowed : ((state.vcpus.lookup qmpDetail.threadId).all fun vcpu =>
      vcpu.vmName = vmKey args.vmName.bytes) = true) :
    state.vcpus.lookup qmpDetail.threadId = none := by
  cases found : state.vcpus.lookup qmpDetail.threadId with
  | none => rfl
  | some entry =>
      rw [found] at allowed
      have own : entry.vmName = vmKey args.vmName.bytes := of_decide_eq_true allowed
      exact absurd own (vmName_ne_of_unowned short unowned found)

/-- A map operation on behalf of one VM keeps the account of every other. -/
theorem ToolTask.apply_keeps {task : ToolTask} {other : CString}
    (holds : TaskHolds state task) (allowed : taskAdmissible state task = true)
    (works : task.vmName = some other) (short : vmName.bytes.length < vmNameLen)
    (different : vmName ≠ other) : Keeps vmName state (task.apply state) := by
  have otherShort := holds.short works
  have keyDifferent : vmKey vmName.bytes ≠ vmKey other.bytes := fun same =>
    different (vmKey_injective short otherShort same)
  have bytesDifferent : other.bytes ≠ vmName.bytes := fun same =>
    keyDifferent (by rw [same])
  cases task with
  | idle => exact Keeps.refl vmName state
  | registerScan args => exact Keeps.refl vmName state
  | registerDelete args keys =>
      obtain rfl := Option.some.inj works
      cases keys with
      | nil => exact Keeps.refl vmName state
      | cons key keys =>
          have owned := (holds.2.2.2.2 key).mp (by simp)
          exact keeps_erase short (ownedBy_of_owned bytesDifferent owned)
  | registerVm args =>
      obtain rfl := Option.some.inj works
      exact keeps_of_vms rfl (AList.lookup_insert_ne keyDifferent)
  | registerVcpus args temp =>
      obtain rfl := Option.some.inj works
      cases temp with
      | nil => exact Keeps.refl vmName state
      | cons qmpDetail temp =>
          have absent := lookup_none_of_allowed otherShort
            (holds.2.2.1 qmpDetail (by simp)) allowed
          apply keeps_insert absent
          · rw [RegisterArgs.vcpu, vmKey_text otherShort]
            exact bytesDifferent
          · exact keyDifferent.symm
  | cleanupRegistry name buff => exact keeps_of_vms rfl rfl
  | cleanupVms name =>
      obtain rfl := Option.some.inj works
      exact keeps_of_vms rfl (AList.lookup_erase_ne keyDifferent)
  | cleanupScan name => exact Keeps.refl vmName state
  | cleanupDelete name keys =>
      obtain rfl := Option.some.inj works
      cases keys with
      | nil => exact Keeps.refl vmName state
      | cons key keys =>
          exact keeps_erase short (ownedBy_of_owned bytesDifferent (holds.2.2 key (by simp)))

theorem mem_keysToDelete {vcpus : FiniteMap Tid VcpuT} :
    tid ∈ keysToDelete vmName vcpus ↔ ownedBy vmName vcpus tid = true := by
  unfold keysToDelete
  rw [List.mem_filter]
  refine ⟨fun both => both.2, fun owned => ⟨?_, owned⟩⟩
  obtain ⟨entry, found, _⟩ := ownedBy_iff.mp owned
  exact AList.mem_keys.mp (AList.lookup_isSome.mp (by rw [found]; rfl))

/-- Erasing the first of the stale keys leaves the others stale. -/
theorem staleKeys_erase {key : Tid} {keys : List Tid} (nodup : (key :: keys).Nodup)
    (stale : ∀ tid, tid ∈ key :: keys ↔ ownedBy vmName state.vcpus tid = true) (tid : Tid) :
    tid ∈ keys ↔ ownedBy vmName (state.vcpus.erase key) tid = true := by
  have fresh := (List.nodup_cons.mp nodup).1
  rw [ownedBy_erase, Bool.and_eq_true, decide_eq_true_iff, ← stale tid, List.mem_cons]
  constructor
  · intro member
    exact ⟨fun same => fresh (same ▸ member), Or.inr member⟩
  · rintro ⟨other, same | member⟩
    · exact absurd same other
    · exact member

/-- A VM without entries is balanced when its `vm_t` has just been stored. -/
theorem balances_registerVm {args : RegisterArgs}
    (short : args.vmName.bytes.length < vmNameLen)
    (ceiling : args.vcpus.length ≤ args.nbVcpus)
    (unowned : ∀ tid, ownedBy args.vmName state.vcpus tid = false) :
    Balances { state with vms := state.vms.insert (vmKey args.vmName.bytes) args.vm }
      (vmKey args.vmName.bytes) args.vcpus.length args.vm := by
  have foreign : ∀ tid entry, state.vcpus.lookup tid = some entry →
      entry.vmName ≠ vmKey args.vmName.bytes :=
    fun tid _ found => vmName_ne_of_unowned short (unowned tid) found
  have noEntries : entriesOf (vmKey args.vmName.bytes) state.vcpus = 0 :=
    countWhere_eq_zero fun tid entry found => decide_eq_false (foreign tid entry found)
  have noFlags := flaggedOf_le_entriesOf (vmKey args.vmName.bytes) state.vcpus
  refine ⟨AList.lookup_insert _, ?_, ?_, ?_⟩
  · show (0 : Int) = flaggedOf (vmKey args.vmName.bytes) state.vcpus
    omega
  · show entriesOf (vmKey args.vmName.bytes) state.vcpus + args.vcpus.length ≤ args.nbVcpus
    omega
  · intro tid entry found own
    exact absurd own (foreign tid entry found)

/-- Inserting a vCPU uses up one unit of room and adds no flag. -/
theorem Balances.insertVcpu {args : RegisterArgs} {qmpDetail : QmpVcpu}
    (balances : Balances state (vmKey args.vmName.bytes) (room + 1) vm)
    (absent : state.vcpus.lookup qmpDetail.threadId = none) :
    Balances
      { state with vcpus := state.vcpus.insert qmpDetail.threadId (args.vcpu qmpDetail) }
      (vmKey args.vmName.bytes) room vm := by
  have ceiling := balances.ceiling
  refine ⟨balances.found, ?_, ?_, ?_⟩
  · rw [balances.count]
    unfold flaggedOf
    rw [countWhere_insert_of_absent absent]
    simp [RegisterArgs.vcpu]
  · have oneMore : entriesOf (vmKey args.vmName.bytes)
        (state.vcpus.insert qmpDetail.threadId (args.vcpu qmpDetail)) =
          entriesOf (vmKey args.vmName.bytes) state.vcpus + 1 := by
      unfold entriesOf
      rw [countWhere_insert_of_absent absent]
      simp [RegisterArgs.vcpu]
    rw [oneMore]
    omega
  · intro tid entry found own
    by_cases same : tid = qmpDetail.threadId
    · subst same
      rw [AList.lookup_insert] at found
      obtain rfl := Option.some.inj found
      exact Or.inl rfl
    · rw [AList.lookup_insert_ne same] at found
      exact balances.binary tid entry found own

/-- After its map operation the process stands at a task that holds. -/
theorem TaskHolds.next {task : ToolTask} (holds : TaskHolds state task)
    (allowed : taskAdmissible state task = true) :
    TaskHolds (task.apply state) (task.next state) := by
  cases task with
  | idle => trivial
  | registerScan args =>
      obtain ⟨short, ceiling, distinct⟩ := holds
      exact ⟨short, ceiling, distinct, state.vcpus.nodupKeys.filter _, fun tid => mem_keysToDelete⟩
  | registerDelete args keys =>
      obtain ⟨short, ceiling, distinct, nodup, stale⟩ := holds
      cases keys with
      | nil =>
          refine ⟨short, ceiling, distinct, fun tid => ?_⟩
          rw [Bool.eq_false_iff]
          intro owned
          cases (stale tid).mpr owned
      | cons key keys =>
          exact ⟨short, ceiling, distinct, (List.nodup_cons.mp nodup).2,
            staleKeys_erase nodup stale⟩
  | registerVm args =>
      obtain ⟨short, ceiling, distinct, unowned⟩ := holds
      exact ⟨short, distinct, fun qmpDetail _ => unowned qmpDetail.threadId, args.vm,
        balances_registerVm short ceiling unowned⟩
  | registerVcpus args temp =>
      obtain ⟨short, distinct, unowned, vm, balances⟩ := holds
      cases temp with
      | nil => trivial
      | cons qmpDetail temp =>
          have absent := lookup_none_of_allowed short (unowned qmpDetail (by simp)) allowed
          obtain ⟨fresh, distinctRest⟩ := List.nodup_cons.mp distinct
          refine ⟨short, distinctRest, fun other member => ?_, vm, balances.insertVcpu absent⟩
          show ownedBy args.vmName (state.vcpus.insert _ _) other.threadId = false
          rw [ownedBy_insert, if_neg]
          · exact unowned other (List.mem_cons_of_mem qmpDetail member)
          · intro same
            exact fresh (same ▸ List.mem_map_of_mem member)
  | cleanupRegistry name buff => cases buff <;> exact holds
  | cleanupVms name => exact holds
  | cleanupScan name =>
      exact ⟨holds, state.vcpus.nodupKeys.filter _, fun tid => mem_keysToDelete.mp⟩
  | cleanupDelete name keys =>
      obtain ⟨short, nodup, owned⟩ := holds
      cases keys with
      | nil => trivial
      | cons key keys =>
          obtain ⟨fresh, nodupRest⟩ := List.nodup_cons.mp nodup
          refine ⟨short, nodupRest, fun tid member => ?_⟩
          show ownedBy name (state.vcpus.erase key) tid = true
          have different : tid ≠ key := fun same => fresh (same ▸ member)
          rw [ownedBy_erase, owned tid (List.mem_cons_of_mem key member)]
          simp [different]

/-- The error exits that the tools' order admits keep what holds. -/
theorem TaskHolds.onFailure {machine : ToolMachine} {pid : ProcessId} {task : ToolTask}
    (holds : TaskHolds machine.host (machine.tasks pid)) (orderly : Orderly machine (.fail pid))
    (failed : (machine.tasks pid).onFailure = some task) : TaskHolds machine.host task := by
  simp only [Orderly] at orderly
  cases current : machine.tasks pid with
  | idle => rw [current] at failed; cases failed
  | registerScan args => rw [current] at orderly; cases orderly
  | registerDelete args keys => rw [current] at orderly; cases orderly
  | registerVm args =>
      rw [current] at failed
      obtain rfl := Option.some.inj failed
      trivial
  | registerVcpus args temp =>
      rw [current] at failed
      cases temp with
      | nil => cases failed
      | cons qmpDetail temp =>
          obtain rfl := Option.some.inj failed
          trivial
  | cleanupRegistry name buff =>
      rw [current] at holds failed
      cases buff <;> (obtain rfl := Option.some.inj failed; exact holds)
  | cleanupVms name =>
      rw [current] at holds failed
      obtain rfl := Option.some.inj failed
      exact holds
  | cleanupScan name =>
      rw [current] at failed
      obtain rfl := Option.some.inj failed
      trivial
  | cleanupDelete name keys =>
      rw [current] at holds failed
      cases keys with
      | nil => cases failed
      | cons key keys =>
          obtain rfl := Option.some.inj failed
          obtain ⟨short, nodup, owned⟩ := holds
          exact ⟨short, (List.nodup_cons.mp nodup).2, fun tid member =>
            owned tid (List.mem_cons_of_mem key member)⟩

end Operations

/-! ## The VM a process works on -/

theorem ToolTask.next_vmName {state : HostState} {task : ToolTask} {vmName : CString}
    (works : (task.next state).vmName = some vmName) : task.vmName = some vmName := by
  cases task with
  | idle => exact works
  | registerScan args => exact works
  | registerDelete args keys => cases keys <;> exact works
  | registerVm args => exact works
  | registerVcpus args temp =>
      cases temp with
      | nil => cases works
      | cons qmpDetail temp => exact works
  | cleanupRegistry name buff => cases buff <;> exact works
  | cleanupVms name => exact works
  | cleanupScan name => exact works
  | cleanupDelete name keys =>
      cases keys with
      | nil => cases works
      | cons key keys => exact works

theorem ToolTask.onFailure_vmName {task after : ToolTask} {vmName : CString}
    (failed : task.onFailure = some after) (works : after.vmName = some vmName) :
    task.vmName = some vmName := by
  cases task with
  | idle => cases failed
  | registerScan args => cases failed; exact works
  | registerDelete args keys =>
      cases keys with
      | nil => cases failed
      | cons key keys => cases failed; exact works
  | registerVm args => cases failed; cases works
  | registerVcpus args temp =>
      cases temp with
      | nil => cases failed
      | cons qmpDetail temp => cases failed; cases works
  | cleanupRegistry name buff => cases buff <;> (cases failed; exact works)
  | cleanupVms name => cases failed; exact works
  | cleanupScan name => cases failed; cases works
  | cleanupDelete name keys =>
      cases keys with
      | nil => cases failed
      | cons key keys => cases failed; exact works

end PhantomTracker.Host
