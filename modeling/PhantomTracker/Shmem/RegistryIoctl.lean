import PhantomTracker.Foundation.Runs
import PhantomTracker.Shmem.HostDriver

/-!
Contract: `PHANT_REG` ioctls on the registry device, one after the other.

Owns: `host_registry_ioctl` around `host_register_vm`, the failures after which
the registry is what it was before the call, and the ids in use along a sequence
of ioctls that fail in no other way.

Does not own: ioctls that overlap.
-/

namespace PhantomTracker.Shmem

open PhantomTracker.Foundation

/-- `EFAULT`. -/
def Errno.efault : Errno := .other 14

/-- `EOPNOTSUPP`. -/
def Errno.eopnotsupp : Errno := .other 95

inductive IoctlCmd where
  | phantReg
  | unknown (cmd : UInt32)
deriving DecidableEq, Repr

/-- How the kernel functions called by an ioctl end. -/
structure IoctlCalls where
  copyFromUser : Bool
  host : HostCalls
  copyToUser : Bool

/-- `host_registry_ioctl`. A reply that cannot be copied back does not undo the
registration. -/
def hostRegistryIoctl (cmd : IoctlCmd) (calls : IoctlCalls) (nbCpu : UInt32)
    (registry : HostRegistry) : HostRegistry × Except Errno RegReply :=
  match cmd with
  | .unknown _ => (registry, .error .eopnotsupp)
  | .phantReg =>
      if calls.copyFromUser = false then (registry, .error .efault)
      else
        match hostRegisterVm calls.host nbCpu registry with
        | (after, .error ret) => (after, .error ret)
        | (after, .ok reply) =>
            if calls.copyToUser = false then (after, .error .efault) else (after, .ok reply)

/-- No function called by `host_ivshmem_create_static_backend` fails. -/
def HostCalls.Creates (calls : HostCalls) : Prop :=
  calls.vmallocUser = true ∧ calls.cdevAdd = none ∧ calls.deviceCreate = none

/-- A registration that gets an id either fails in the creation of its backend,
or is allocated and, once created, has its reply copied back. -/
def GivesBack (cmd : IoctlCmd) (calls : IoctlCalls) (registry : HostRegistry) : Prop :=
  cmd = .phantReg → calls.copyFromUser = true → registry.nextVmId + 1 < maxNbDevices →
    calls.host.kzalloc = true ∧ (calls.host.Creates → calls.copyToUser = true)

/-! ## How a registration ends -/

section Register

variable {calls : HostCalls} {nbCpu : UInt32} {registry : HostRegistry}

theorem create_of_creates (creates : calls.Creates) (minorNumber size : Nat) :
    hostIvshmemCreateStaticBackend calls minorNumber size =
      .ok ⟨some ((backendHeader size).write fun _ => 0), size, minorNumber⟩ := by
  unfold hostIvshmemCreateStaticBackend
  rw [if_neg (by rw [creates.1]; decide), creates.2.1, creates.2.2]

theorem create_of_not_creates (fails : ¬ calls.Creates) (minorNumber size : Nat) :
    ∃ ret, hostIvshmemCreateStaticBackend calls minorNumber size = .error ret := by
  unfold hostIvshmemCreateStaticBackend
  by_cases memory : calls.vmallocUser = false
  · exact ⟨_, if_pos memory⟩
  · rw [if_neg memory]
    cases added : calls.cdevAdd with
    | some ret => exact ⟨ret, rfl⟩
    | none =>
        cases device : calls.deviceCreate with
        | some ret => exact ⟨ret, rfl⟩
        | none => exact absurd ⟨by simpa using memory, added, device⟩ fails

theorem hostRegisterVm_of_full (full : registry.nextVmId + 1 ≥ maxNbDevices) :
    hostRegisterVm calls nbCpu registry = (registry, .error .enospc) := by
  unfold hostRegisterVm
  exact if_pos full

theorem hostRegisterVm_of_unallocated (room : registry.nextVmId + 1 < maxNbDevices)
    (fails : calls.kzalloc = false) :
    hostRegisterVm calls nbCpu registry =
      ({ registry with nextVmId := registry.nextVmId + 1 }, .error .enomem) := by
  unfold hostRegisterVm
  simp only [if_neg (Nat.not_le.mpr room), if_pos fails]

theorem hostRegisterVm_of_uncreated (nbCpu : UInt32) (room : registry.nextVmId + 1 < maxNbDevices)
    (allocated : calls.kzalloc = true) (fails : ¬ calls.Creates) :
    ∃ ret, hostRegisterVm calls nbCpu registry = (registry, .error ret) := by
  obtain ⟨ret, failed⟩ := create_of_not_creates fails (registry.nextVmId + 1) (backendSize nbCpu)
  refine ⟨ret, ?_⟩
  unfold hostRegisterVm
  simp only [if_neg (Nat.not_le.mpr room), allocated, failed]
  rfl

/-- What a new registration adds to the registry. -/
def registered (nbCpu : UInt32) (registry : HostRegistry) : HostRegistry where
  nextVmId := registry.nextVmId + 1
  devices := Function.update registry.devices (registry.nextVmId + 1)
    (some ⟨some ((backendHeader (backendSize nbCpu)).write fun _ => 0), backendSize nbCpu,
      registry.nextVmId + 1⟩)

theorem hostRegisterVm_of_created (room : registry.nextVmId + 1 < maxNbDevices)
    (allocated : calls.kzalloc = true) (creates : calls.Creates) :
    hostRegisterVm calls nbCpu registry =
      (registered nbCpu registry, .ok ⟨registry.nextVmId, backendSize nbCpu⟩) := by
  unfold hostRegisterVm
  simp only [if_neg (Nat.not_le.mpr room), allocated, create_of_creates creates]
  rfl

end Register

/-! ## A failed ioctl -/

section Ioctl

variable {cmd : IoctlCmd} {calls : IoctlCalls} {nbCpu : UInt32} {registry : HostRegistry}

/-- What an ioctl does: it leaves the registry alone, it keeps the id of a
backend that was not allocated, or it registers a VM, and then it fails exactly
when the reply is not copied back. -/
theorem hostRegistryIoctl_cases (cmd : IoctlCmd) (calls : IoctlCalls) (nbCpu : UInt32)
    (registry : HostRegistry) :
    (GivesBack cmd calls registry ∧
        ∃ ret, hostRegistryIoctl cmd calls nbCpu registry = (registry, .error ret)) ∨
      (¬ GivesBack cmd calls registry ∧ ∃ after ret,
        hostRegistryIoctl cmd calls nbCpu registry = (after, .error ret) ∧
          after.nextVmId = registry.nextVmId + 1) ∨
      GivesBack cmd calls registry ∧ registry.nextVmId + 1 < maxNbDevices ∧
        hostRegistryIoctl cmd calls nbCpu registry =
          (registered nbCpu registry, .ok ⟨registry.nextVmId, backendSize nbCpu⟩) := by
  unfold hostRegistryIoctl
  cases cmd with
  | unknown cmd => exact Or.inl ⟨(fun registers => by cases registers), _, rfl⟩
  | phantReg =>
      by_cases copied : calls.copyFromUser = false
      · refine Or.inl ⟨fun _ request => ?_, _, if_pos copied⟩
        rw [copied] at request
        cases request
      have request : calls.copyFromUser = true := by simpa using copied
      simp only [if_neg copied]
      by_cases room : registry.nextVmId + 1 < maxNbDevices
      · by_cases allocated : calls.host.kzalloc = true
        · by_cases creates : calls.host.Creates
          · simp only [hostRegisterVm_of_created room allocated creates]
            cases reply : calls.copyToUser with
            | true =>
                refine Or.inr (Or.inr ⟨fun _ _ _ => ⟨allocated, fun _ => reply⟩, room, ?_⟩)
                simp
            | false =>
                refine Or.inr (Or.inl ⟨fun givesBack => ?_, _, _, if_pos rfl, rfl⟩)
                have replied := (givesBack rfl request room).2 creates
                rw [reply] at replied
                cases replied
          · obtain ⟨ret, failed⟩ := hostRegisterVm_of_uncreated nbCpu room allocated creates
            simp only [failed]
            exact Or.inl ⟨fun _ _ _ => ⟨allocated, fun created => absurd created creates⟩, ret, rfl⟩
        · have fails : calls.host.kzalloc = false := by simpa using allocated
          simp only [hostRegisterVm_of_unallocated room fails]
          refine Or.inr (Or.inl ⟨fun givesBack => ?_, _, _, rfl, rfl⟩)
          exact allocated (givesBack rfl request room).1
      · simp only [hostRegisterVm_of_full (Nat.le_of_not_lt room)]
        exact Or.inl ⟨fun _ _ free => absurd free room, _, rfl⟩

/-- **A failed registration leaves the registry as it was**, for every registry
and every way in which the ioctl can end, if and only if it was not the
allocation of the backend or the copy of the reply that failed. -/
theorem failed_ioctl_restores_iff (cmd : IoctlCmd) (calls : IoctlCalls) (nbCpu : UInt32)
    (registry : HostRegistry) :
    (∀ after ret, hostRegistryIoctl cmd calls nbCpu registry = (after, .error ret) →
        after = registry) ↔ GivesBack cmd calls registry := by
  rcases hostRegistryIoctl_cases cmd calls nbCpu registry with
    ⟨givesBack, ret, failed⟩ | ⟨keeps, after, ret, failed, taken⟩ | ⟨givesBack, _, succeeded⟩
  · refine ⟨fun _ => givesBack, fun _ after code ended => ?_⟩
    exact (congrArg Prod.fst (failed.symm.trans ended)).symm
  · refine ⟨fun restores => ?_, fun givesBack => absurd givesBack keeps⟩
    have same := restores after ret failed
    rw [same] at taken
    omega
  · refine ⟨fun _ => givesBack, fun _ after ret failed => ?_⟩
    rw [succeeded] at failed
    cases failed

end Ioctl

/-! ## Sequences of ioctls -/

structure IoctlRequest where
  cmd : IoctlCmd
  calls : IoctlCalls
  nbCpu : UInt32

def ioctlStep (registry : HostRegistry) (request : IoctlRequest) : Option HostRegistry :=
  some (hostRegistryIoctl request.cmd request.calls request.nbCpu registry).1

/-- The registry when the module has been loaded. -/
def HostRegistry.loaded : HostRegistry := ⟨0, fun _ => none⟩

/-- Every id that was handed out belongs to a live backend. -/
structure HostRegistry.Gapless (registry : HostRegistry) : Prop where
  below : registry.nextVmId < maxNbDevices
  live : ∀ minor, (registry.devices minor).isSome ↔ 1 ≤ minor ∧ minor ≤ registry.nextVmId

theorem HostRegistry.gapless_loaded : HostRegistry.loaded.Gapless where
  below := by decide
  live minor := by
    show (none : Option HostIvshmemBackend).isSome ↔ 1 ≤ minor ∧ minor ≤ 0
    simp only [Option.isSome_none, Bool.false_eq_true, false_iff]
    omega

theorem HostRegistry.Gapless.registered {registry : HostRegistry} (gapless : registry.Gapless)
    (room : registry.nextVmId + 1 < maxNbDevices) (nbCpu : UInt32) :
    (registered nbCpu registry).Gapless where
  below := room
  live minor := by
    show (Function.update registry.devices (registry.nextVmId + 1) _ minor).isSome ↔
      1 ≤ minor ∧ minor ≤ registry.nextVmId + 1
    by_cases newest : minor = registry.nextVmId + 1
    · rw [newest, Function.update_self]
      simp
    · rw [Function.update_of_ne newest, gapless.live]
      omega

/-- Along every sequence of ioctls that give back what they take, no slot is used
up: the ids handed out are exactly those of the live backends. -/
theorem HostRegistry.Gapless.run {registry : HostRegistry} {requests : List IoctlRequest}
    (run : GuardedRun ioctlStep
      (fun registry request => GivesBack request.cmd request.calls registry) .loaded requests
      registry) : registry.Gapless := by
  refine run.invariant HostRegistry.Gapless ?_ HostRegistry.gapless_loaded
  intro before request after gapless givesBack taken
  obtain rfl := Option.some.inj taken
  rcases hostRegistryIoctl_cases request.cmd request.calls request.nbCpu before with
    ⟨_, ret, failed⟩ | ⟨keeps, _⟩ | ⟨_, room, succeeded⟩
  · rw [failed]
    exact gapless
  · exact absurd givesBack keeps
  · rw [succeeded]
    exact gapless.registered room request.nbCpu

/-! ## A reply that is not copied back -/

/-- Every kernel function succeeds but the last. -/
def lostReply : IoctlCalls := ⟨true, ⟨true, true, none, none⟩, false⟩

/-- The allocation of the backend fails. -/
def failedKzalloc : IoctlCalls := ⟨true, ⟨false, true, none, none⟩, true⟩

/-- Both failures use up the first id, and the lost reply leaves a device
behind. -/
theorem failed_ioctl_keeps_id :
    (hostRegistryIoctl .phantReg lostReply 1 .loaded).2 = .error .efault ∧
      ((hostRegistryIoctl .phantReg lostReply 1 .loaded).1.devices 1).isSome = true ∧
      (hostRegistryIoctl .phantReg failedKzalloc 1 .loaded).2 = .error .enomem ∧
      (hostRegistryIoctl .phantReg failedKzalloc 1 .loaded).1.nextVmId = 1 ∧
      ¬ ∀ after ret, hostRegistryIoctl .phantReg failedKzalloc 1 .loaded = (after, .error ret) →
        after = .loaded := by
  refine ⟨rfl, rfl, rfl, rfl, fun restores => ?_⟩
  have same := restores { HostRegistry.loaded with nextVmId := 1 } .enomem rfl
  have ids := congrArg HostRegistry.nextVmId same
  cases ids

end PhantomTracker.Shmem
