import PhantomTracker.Host.SwitchHandler

/-!
Contract: `register_vm`, `cleanup` and the switch handler interleaved at the
granularity of single map operations.

Owns: the programs of the two user-space tools as sequences of map operations
with their error exits, the stale-vCPU scan of `cleanup_stale_vcpus`, and the
machine in which any number of tool processes and complete executions of
`phantom_switch_handler` take turns.

Does not own: what holds along the runs of this machine, the pinning of maps
under bpffs, or the QMP query that produces the vCPU list.
-/

namespace PhantomTracker.Host

open PhantomTracker.Foundation

/-- `struct qmp_vpcu`, with the thread id as the `__u32` key it is cast to. -/
structure QmpVcpu where
  cpuIndex : Nat
  threadId : Tid
deriving DecidableEq, Repr

/-- The arguments of `register_vm`. -/
structure RegisterArgs where
  vcpus : List QmpVcpu
  vmName : CString
  qmpSocket : CString
  nbVcpus : Nat
deriving DecidableEq

namespace RegisterArgs

/-- The `vm_t` that `register_vm` stores. -/
def vm (args : RegisterArgs) : VmT where
  qmpSocket := CharArray.copyString 128 args.qmpSocket.bytes
  phantomCount := 0
  collectionBuff1Index := 0
  collectionBuff2Index := 0
  isCollectxInBuff1 := 0
  nbVcpus := args.nbVcpus
  h2gHistoryIndex := 0

/-- The `vcpu_t` that `register_vm` stores for one list node. -/
def vcpu (args : RegisterArgs) (qmpDetail : QmpVcpu) : VcpuT where
  vcpuIndex := qmpDetail.cpuIndex
  vmName := vmKey args.vmName.bytes
  isPhantom := 0

end RegisterArgs

/-- The entry under `tid` carries the name `vmName`, as `strcmp` sees it. -/
def ownedBy (vmName : CString) (vcpus : FiniteMap Tid VcpuT) (tid : Tid) : Bool :=
  (vcpus.lookup tid).any fun vcpu => vcpu.vmName.text = vmName.bytes

/-- The first loop of `cleanup_stale_vcpus`. No other process of the same VM
changes the entries of that name while it runs, so the whole scan is one
step. -/
def keysToDelete (vmName : CString) (vcpus : FiniteMap Tid VcpuT) : List Tid :=
  vcpus.keys.filter (ownedBy vmName vcpus)

/-- Where a tool process stands: the map operation it makes next. -/
inductive ToolTask where
  | idle
  | registerScan (args : RegisterArgs)
  | registerDelete (args : RegisterArgs) (keys : List Tid)
  | registerVm (args : RegisterArgs)
  | registerVcpus (args : RegisterArgs) (temp : List QmpVcpu)
  | cleanupRegistry (vmName : CString) (buff : Buff)
  | cleanupVms (vmName : CString)
  | cleanupScan (vmName : CString)
  | cleanupDelete (vmName : CString) (keys : List Tid)

namespace ToolTask

/-- The VM a process works on. -/
def vmName : ToolTask → Option CString
  | idle => none
  | registerScan args => some args.vmName
  | registerDelete args _ => some args.vmName
  | registerVm args => some args.vmName
  | registerVcpus args _ => some args.vmName
  | cleanupRegistry vmName _ => some vmName
  | cleanupVms vmName => some vmName
  | cleanupScan vmName => some vmName
  | cleanupDelete vmName _ => some vmName

/-- The effect of the next map operation on the maps. -/
def apply (state : HostState) : ToolTask → HostState
  | registerDelete _ (key :: _) => { state with vcpus := state.vcpus.erase key }
  | registerVm args =>
      { state with vms := state.vms.insert (vmKey args.vmName.bytes) args.vm }
  | registerVcpus args (qmpDetail :: _) =>
      { state with vcpus := state.vcpus.insert qmpDetail.threadId (args.vcpu qmpDetail) }
  | cleanupRegistry vmName buff =>
      { state with mapRegistry := state.mapRegistry.erase (registryKey buff vmName.bytes) }
  | cleanupVms vmName => { state with vms := state.vms.erase (vmKey vmName.bytes) }
  | cleanupDelete _ (key :: _) => { state with vcpus := state.vcpus.erase key }
  | _ => state

/-- Where the process stands after its next map operation. -/
def next (state : HostState) : ToolTask → ToolTask
  | idle => idle
  | registerScan args => registerDelete args (keysToDelete args.vmName state.vcpus)
  | registerDelete args (_ :: keys) => registerDelete args keys
  | registerDelete args [] => registerVm args
  | registerVm args => registerVcpus args args.vcpus
  | registerVcpus args (_ :: temp) => registerVcpus args temp
  | registerVcpus _ [] => idle
  | cleanupRegistry vmName .one => cleanupRegistry vmName .two
  | cleanupRegistry vmName .two => cleanupVms vmName
  | cleanupVms vmName => cleanupScan vmName
  | cleanupScan vmName => cleanupDelete vmName (keysToDelete vmName state.vcpus)
  | cleanupDelete vmName (_ :: keys) => cleanupDelete vmName keys
  | cleanupDelete _ [] => idle

/-- Where the process stands after its next operation failed. A failed
allocation in `cleanup_stale_vcpus` skips all deletions, a failed deletion is
ignored, a failed update ends `register_vm`, and `cleanup` always goes on. -/
def onFailure : ToolTask → Option ToolTask
  | registerScan args => some (registerVm args)
  | registerDelete args (_ :: keys) => some (registerDelete args keys)
  | registerVm _ => some idle
  | registerVcpus _ (_ :: _) => some idle
  | cleanupRegistry vmName .one => some (cleanupRegistry vmName .two)
  | cleanupRegistry vmName .two => some (cleanupVms vmName)
  | cleanupVms vmName => some (cleanupScan vmName)
  | cleanupScan _ => some idle
  | cleanupDelete vmName (_ :: keys) => some (cleanupDelete vmName keys)
  | _ => none

/-- The VM whose registration the next step completes. -/
def completes : ToolTask → Option CString
  | registerVcpus args [] => some args.vmName
  | _ => none

end ToolTask

/-! ## The machine -/

abbrev ProcessId := Nat

/-- The maps, the tool processes, and for each VM name whether a registration
has completed and neither a registration nor a cleanup has begun since. -/
structure ToolMachine where
  host : HostState
  tasks : ProcessId → ToolTask
  registered : CString → Bool

inductive ToolAction where
  | switch (input : SwitchInput)
  | beginRegister (pid : ProcessId) (args : RegisterArgs)
  | beginCleanup (pid : ProcessId) (vmName : CString)
  | advance (pid : ProcessId)
  | fail (pid : ProcessId)
  | kill (pid : ProcessId)

namespace ToolMachine

/-- Start a tool process. -/
def launch (machine : ToolMachine) (pid : ProcessId) (task : ToolTask) (vmName : CString) :
    Option ToolMachine :=
  match machine.tasks pid with
  | .idle => some { machine with
      tasks := Function.update machine.tasks pid task
      registered := Function.update machine.registered vmName false }
  | _ => none

/-- Record the completion of a registration. -/
def complete (registered : CString → Bool) : Option CString → CString → Bool
  | some vmName => Function.update registered vmName true
  | none => registered

def step (machine : ToolMachine) : ToolAction → Option ToolMachine
  | .switch input => some { machine with host := phantomSwitchHandler input machine.host }
  | .beginRegister pid args => machine.launch pid (.registerScan args) args.vmName
  | .beginCleanup pid vmName => machine.launch pid (.cleanupRegistry vmName .one) vmName
  | .advance pid =>
      let task := machine.tasks pid
      some {
        host := task.apply machine.host
        tasks := Function.update machine.tasks pid (task.next machine.host)
        registered := complete machine.registered task.completes }
  | .fail pid =>
      (machine.tasks pid).onFailure.map fun task =>
        { machine with tasks := Function.update machine.tasks pid task }
  | .kill pid => some { machine with tasks := Function.update machine.tasks pid .idle }

end ToolMachine

end PhantomTracker.Host
