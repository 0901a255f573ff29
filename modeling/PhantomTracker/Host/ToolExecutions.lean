import PhantomTracker.Host.ToolTasks
import PhantomTracker.Host.VmMaps
import Mathlib.Logic.Relation

/-!
Contract: complete executions of the registration tools.

Owns: `register_vm`, `cleanup_stale_vcpus` and the map deletions of `cleanup` as
functions of the maps, with the calls of each that can fail; what they do to the
entry under a key; and that a tool process of the interleaved machine, advanced
to its end, has done the same.

Does not own: executions that overlap, `setup_vm_maps`, or the bpffs directory
that `cleanup` empties first.
-/

namespace PhantomTracker.Host

open PhantomTracker.Foundation

/-! ## The tools -/

/-- `cleanup_stale_vcpus`. It returns silently when one of its allocations
fails. -/
def cleanupStaleVcpus (allocated : Bool) (vmName : CString) (vcpus : FiniteMap Tid VcpuT) :
    FiniteMap Tid VcpuT :=
  if allocated then (keysToDelete vmName vcpus).foldl (fun left key => left.erase key) vcpus
  else vcpus

/-- The loop of `register_vm` over the list behind its dummy head. -/
def insertVcpus (args : RegisterArgs) (temp : List QmpVcpu) (vcpus : FiniteMap Tid VcpuT) :
    FiniteMap Tid VcpuT :=
  temp.foldl (fun stored qmpDetail => stored.insert qmpDetail.threadId (args.vcpu qmpDetail)) vcpus

/-- The calls of `register_vm` that can fail, in order. The last two carry the
position of the list node they are made for. -/
inductive RegisterCall where
  | mallocVm
  | getVms
  | getVcpus
  | updateVms
  | mallocVcpu (position : Nat)
  | updateVcpu (position : Nat)
deriving DecidableEq, Repr

/-- The maps when `register_vm` reaches its vCPU loop. -/
def registeredVm (allocated : Bool) (args : RegisterArgs) (state : HostState) : HostState :=
  { state with
    vcpus := cleanupStaleVcpus allocated args.vmName state.vcpus
    vms := state.vms.insert (vmKey args.vmName.bytes) args.vm }

/-- `register_vm`, with the call that fails if there is one, and whether the
allocations of `cleanup_stale_vcpus` succeed. -/
def registerVm (failing : Option RegisterCall) (allocated : Bool) (args : RegisterArgs)
    (state : HostState) : HostState × Int :=
  let stored := registeredVm allocated args state
  let upTo (count : Nat) : HostState :=
    { stored with vcpus := insertVcpus args (args.vcpus.take count) stored.vcpus }
  match failing with
  | none => (upTo args.vcpus.length, 0)
  | some .updateVms => ({ state with vcpus := stored.vcpus }, -1)
  | some (.mallocVcpu position) => (upTo position, -1)
  | some (.updateVcpu position) => (upTo position, -1)
  | some _ => (state, -1)

/-- Which calls of `cleanup` succeed. -/
structure CleanupCalls where
  getRegistry : Bool
  deleteOne : Bool
  deleteTwo : Bool
  getVms : Bool
  deleteVm : Bool
  getVcpus : Bool
  allocate : Bool
deriving DecidableEq, Repr

/-- No map operation of `cleanup` fails. -/
def CleanupCalls.working (allocate : Bool) : CleanupCalls :=
  ⟨true, true, true, true, true, true, allocate⟩

/-- `bpf_map_delete_elem`, or nothing when the call is not made or fails. -/
def deleteElem {κ : Type} {ν : Type} [DecidableEq κ] (succeeds : Bool) (key : κ)
    (map : FiniteMap κ ν) : FiniteMap κ ν :=
  if succeeds then map.erase key else map

/-- The map deletions of `cleanup`. A failure is reported and skipped. -/
def cleanup (calls : CleanupCalls) (vmName : CString) (state : HostState) : HostState :=
  { state with
    mapRegistry := deleteElem (calls.getRegistry && calls.deleteTwo)
      (registryKey .two vmName.bytes)
      (deleteElem (calls.getRegistry && calls.deleteOne) (registryKey .one vmName.bytes)
        state.mapRegistry)
    vms := deleteElem (calls.getVms && calls.deleteVm) (vmKey vmName.bytes) state.vms
    vcpus := cleanupStaleVcpus (calls.getVcpus && calls.allocate) vmName state.vcpus }

/-! ## What they do to one entry -/

section Lookup

variable {args : RegisterArgs} {vmName : CString} {vcpus : FiniteMap Tid VcpuT}

theorem cleanupStaleVcpus_lookup (allocated : Bool) (tid : Tid) :
    (cleanupStaleVcpus allocated vmName vcpus).lookup tid =
      if allocated = true ∧ ownedBy vmName vcpus tid = true then none else vcpus.lookup tid := by
  unfold cleanupStaleVcpus
  cases allocated with
  | false => simp
  | true =>
      rw [if_pos rfl, FiniteMap.lookup_foldl_erase]
      simp only [mem_keysToDelete, true_and]

/-- A scan that owns no entry deletes none. -/
theorem cleanupStaleVcpus_lookup_of_unowned (allocated : Bool) {tid : Tid}
    (unowned : ownedBy vmName vcpus tid = false) :
    (cleanupStaleVcpus allocated vmName vcpus).lookup tid = vcpus.lookup tid := by
  rw [cleanupStaleVcpus_lookup, if_neg]
  rw [unowned]
  simp

theorem insertVcpus_lookup (temp : List QmpVcpu) (tid : Tid) :
    (∃ qmpDetail ∈ temp, qmpDetail.threadId = tid ∧
        (insertVcpus args temp vcpus).lookup tid = some (args.vcpu qmpDetail)) ∨
      (∀ qmpDetail ∈ temp, qmpDetail.threadId ≠ tid) ∧
        (insertVcpus args temp vcpus).lookup tid = vcpus.lookup tid :=
  FiniteMap.lookup_foldl_insert QmpVcpu.threadId args.vcpu temp vcpus tid

theorem deleteElem_lookup {κ ν : Type} [DecidableEq κ] (succeeds : Bool) (deleted key : κ)
    (map : FiniteMap κ ν) :
    (deleteElem succeeds deleted map).lookup key =
      if succeeds = true ∧ key = deleted then none else map.lookup key := by
  unfold deleteElem
  cases succeeds with
  | false => simp
  | true =>
      by_cases same : key = deleted
      · subst same
        simp
      · simp [same, AList.lookup_erase_ne same]

end Lookup

/-! ## The processes of the interleaved machine -/

/-- The map operations of one tool process, one after the other. -/
abbrev TaskRun : HostState × ToolTask → HostState × ToolTask → Prop :=
  Relation.ReflTransGen fun before after =>
    after = (before.2.apply before.1, before.2.next before.1)

section Processes

variable (args : RegisterArgs) (vmName : CString)

theorem taskRun_registerDelete (keys : List Tid) (state : HostState) :
    TaskRun (state, .registerDelete args keys)
      ({ state with vcpus := keys.foldl (fun left key => left.erase key) state.vcpus },
        .registerVm args) := by
  induction keys generalizing state with
  | nil => exact .single rfl
  | cons key keys inductionHypothesis =>
      exact .head rfl (inductionHypothesis { state with vcpus := state.vcpus.erase key })

theorem taskRun_registerVcpus (temp : List QmpVcpu) (state : HostState) :
    TaskRun (state, .registerVcpus args temp)
      ({ state with vcpus := insertVcpus args temp state.vcpus }, .idle) := by
  induction temp generalizing state with
  | nil => exact .single rfl
  | cons qmpDetail temp inductionHypothesis =>
      exact .head rfl (inductionHypothesis
        { state with vcpus := state.vcpus.insert qmpDetail.threadId (args.vcpu qmpDetail) })

theorem taskRun_cleanupDelete (keys : List Tid) (state : HostState) :
    TaskRun (state, .cleanupDelete vmName keys)
      ({ state with vcpus := keys.foldl (fun left key => left.erase key) state.vcpus },
        .idle) := by
  induction keys generalizing state with
  | nil => exact .single rfl
  | cons key keys inductionHypothesis =>
      exact .head rfl (inductionHypothesis { state with vcpus := state.vcpus.erase key })

/-- When no call fails, `register_vm` writes its whole list. -/
theorem registerVm_none (swept : Bool) (state : HostState) :
    (registerVm none swept args state).1 =
      { registeredVm swept args state with
        vcpus := insertVcpus args args.vcpus (registeredVm swept args state).vcpus } := by
  unfold registerVm
  simp only [List.take_length]

/-- A registration process that nothing interrupts has done what `register_vm`
does. -/
theorem taskRun_registerVm (state : HostState) :
    TaskRun (state, .registerScan args) ((registerVm none true args state).1, .idle) := by
  have swept := taskRun_registerDelete args (keysToDelete args.vmName state.vcpus) state
  have stored := taskRun_registerVcpus args args.vcpus (registeredVm true args state)
  rw [registerVm_none]
  exact .head rfl (swept.trans (.head rfl stored))

/-- A cleanup process that nothing interrupts has done what `cleanup` does. -/
theorem taskRun_cleanup (state : HostState) :
    TaskRun (state, .cleanupRegistry vmName .one)
      (cleanup (.working true) vmName state, .idle) := by
  have deleted := taskRun_cleanupDelete vmName (keysToDelete vmName state.vcpus)
    { state with
      mapRegistry := (state.mapRegistry.erase (registryKey .one vmName.bytes)).erase
        (registryKey .two vmName.bytes)
      vms := state.vms.erase (vmKey vmName.bytes) }
  exact .head rfl (.head rfl (.head rfl (.head rfl deleted)))

end Processes

/-! ## One VM -/

theorem loneName_nulFree : CharArray.NulFree [97] := by decide

/-- The VM `a`, with thread 7 as its only vCPU. -/
def loneName : CString := ⟨[97], loneName_nulFree⟩

def loneArgs : RegisterArgs := ⟨[⟨0, 7⟩], loneName, loneName, 1⟩

/-- The maps after the VM has been registered with its two buffers. -/
def loneHost : HostState :=
  (setupVmMaps none 1 2 loneName (registerVm none true loneArgs emptyHost).1).1

end PhantomTracker.Host
