import PhantomTracker.Foundation.Runs
import PhantomTracker.Guest.OmpThreads
import PhantomTracker.Host.Accounting
import Mathlib.Data.Fintype.Defs

/-!
Contract: guest and host composed through the shared region.

Owns: the machine in which guest events and complete executions of
`phantom_switch_handler` take turns, what the two schedulers promise, and the
protocol invariant between the two sides: a phantom vCPU does not run, and its
guest slot reads 1 until it runs again.

Does not own: handlers that overlap each other, or VMs whose backend is not the
first one.
-/

namespace PhantomTracker.Joint

open PhantomTracker.Foundation
open PhantomTracker.Foundation.FiniteMap
open PhantomTracker.Shmem
open PhantomTracker.Host
open PhantomTracker.Guest (GuestState GuestEvent guestStep)

/-- The host maps, the host thread that runs on each host CPU, and the guest.
The memory of the guest state is the region that both sides share. -/
structure JointState (ι : Type) (nrCpus : Nat) where
  host : HostState
  running : ι → Host.Tid
  guest : GuestState nrCpus

/-- The registry when the region of its first backend holds `memory`. -/
def sharing (registry : HostRegistry) (memory : Memory) : HostRegistry :=
  { registry with
    devices := Function.update registry.devices 1
      ((registry.devices 1).map fun backend => { backend with mem := some memory }) }

/-- What the handler finds in a guest slot: nothing if the read fails. -/
def readSlot (registry : HostRegistry) (memory : Memory) (index : Nat) : Option Nat :=
  match bpfHostIvshmemG2hRead (sharing registry memory) index (some 0) with
  | .ok word => some word.toNat
  | .error _ => none

inductive JointAction (ι : Type) (nrCpus : Nat) where
  | guest (event : GuestEvent nrCpus)
  | hostSwitch (cpu : ι) (next : Host.Tid) (prevState incomingNow outgoingNow : Nat)

section Machine

variable {ι : Type} {nrCpus : Nat}

/-- The input of the handler when host CPU `cpu` switches to `next`. -/
def switchInput (registry : HostRegistry) (joint : JointState ι nrCpus) (cpu : ι) (next : Host.Tid)
    (prevState incomingNow outgoingNow : Nat) : SwitchInput where
  event := ⟨joint.running cpu, next, prevState⟩
  g2hRead := readSlot registry joint.guest.memory
  incomingNow := incomingNow
  outgoingNow := outgoingNow

/-- One step of the composed machine. The next thread runs once the handler is
done. -/
def jointStep [DecidableEq ι] (registry : HostRegistry) (joint : JointState ι nrCpus) :
    JointAction ι nrCpus → JointState ι nrCpus
  | .guest event => { joint with guest := guestStep joint.guest event }
  | .hostSwitch cpu next prevState incomingNow outgoingNow =>
      { joint with
        host := phantomSwitchHandler
          (switchInput registry joint cpu next prevState incomingNow outgoingNow) joint.host
        running := Function.update joint.running cpu next }

/-- What the schedulers promise. A guest CPU takes a step only while the vCPU
with its index runs on a host CPU. The host switches between two different
threads, and a thread other than the idle one runs on at most one host CPU. -/
def JointGuard (joint : JointState ι nrCpus) : JointAction ι nrCpus → Prop
  | .guest event =>
      ∃ hostCpu, (joint.host.vcpus.lookup (joint.running hostCpu)).map VcpuT.vcpuIndex =
        some event.cpu.val
  | .hostSwitch cpu next _ _ _ =>
      next ≠ joint.running cpu ∧
        (next = 0 ∨ ∀ other, other ≠ cpu → joint.running other ≠ next)

instance [Fintype ι] [DecidableEq ι] (joint : JointState ι nrCpus)
    (action : JointAction ι nrCpus) : Decidable (JointGuard joint action) :=
  match action with
  | .guest event =>
      inferInstanceAs (Decidable (∃ hostCpu,
        (joint.host.vcpus.lookup (joint.running hostCpu)).map VcpuT.vcpuIndex =
          some event.cpu.val))
  | .hostSwitch cpu next _ _ _ =>
      inferInstanceAs (Decidable (next ≠ joint.running cpu ∧
        (next = 0 ∨ ∀ other, other ≠ cpu → joint.running other ≠ next)))

abbrev JointRun [DecidableEq ι] (registry : HostRegistry) (start : JointState ι nrCpus)
    (actions : List (JointAction ι nrCpus)) (final : JointState ι nrCpus) : Prop :=
  GuardedRun (fun joint action => some (jointStep registry joint action)) JointGuard start
    actions final

/-- The vCPUs of a VM that do not run on any host CPU. -/
def waitingOf [Fintype ι] (key : VmKey) (joint : JointState ι nrCpus) : Nat :=
  countWhere (fun tid vcpu => decide (vcpu.vmName = key ∧ ∀ cpu, joint.running cpu ≠ tid))
    joint.host.vcpus

end Machine

/-! ## Reading a slot -/

theorem readSlot_eq {registry : HostRegistry} {backend : HostIvshmemBackend}
    (first : registry.devices 1 = some backend) (memory : Memory) (index : Nat) :
    readSlot registry memory index =
      if index < nrGuestIvshmemMsgs then some (slotsOf memory index).toNat else none := by
  have device : (sharing registry memory).devices 1 = some { backend with mem := some memory } := by
    unfold sharing
    dsimp only
    rw [Function.update_self, first]
    rfl
  unfold readSlot bpfHostIvshmemG2hRead
  rw [device]
  by_cases below : index < nrGuestIvshmemMsgs
  · rw [hostIvshmemG2hRead_eq _ _ _ below, if_pos below]
  · rw [if_neg below]
    have refused : hostIvshmemG2hRead (some { backend with mem := some memory }) index (some 0) =
        .error .einval :=
      if_pos (Nat.not_lt.mp below)
    rw [refused]

theorem readSlot_congr {registry : HostRegistry} {backend : HostIvshmemBackend}
    (first : registry.devices 1 = some backend) {left right : Memory} {index : Nat}
    (same : slotsOf left index = slotsOf right index) :
    readSlot registry left index = readSlot registry right index := by
  rw [readSlot_eq first, readSlot_eq first, same]

theorem read_of_msg {input : SwitchInput} {vcpu : VcpuT} (reads : input.msg vcpu = 1) :
    input.g2hRead vcpu.vcpuIndex = some 1 := by
  unfold SwitchInput.msg at reads
  cases word : input.g2hRead vcpu.vcpuIndex with
  | none =>
      rw [word] at reads
      cases reads
  | some value =>
      rw [word] at reads
      exact congrArg some reads

theorem msg_of_read {input : SwitchInput} {vcpu : VcpuT}
    (reads : input.g2hRead vcpu.vcpuIndex = some 1) : input.msg vcpu = 1 := by
  unfold SwitchInput.msg
  rw [reads]
  rfl

end PhantomTracker.Joint
