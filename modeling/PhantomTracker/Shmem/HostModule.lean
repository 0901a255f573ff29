import PhantomTracker.Foundation.Ledger
import PhantomTracker.Shmem.RegistryIoctl
import Mathlib.Algebra.BigOperators.Group.Finset.Piecewise

/-!
Contract: the host module from load to unload, with every kernel resource that it
takes.

Owns: `host_ivshmem_init` and `host_ivshmem_exit` with their unwinding, the
creation and destruction of the registry device and of the backends as far as
resources go, and the account of all resources over any number of loads, each
with any sequence of ioctls and any failures.

Does not own: the contents of the regions, or ioctls that overlap.
-/

namespace PhantomTracker.Shmem

open PhantomTracker.Foundation

/-! ## The module -/

/-- What the module takes from the kernel. The resources of a backend go by its
minor number. -/
inductive HostResource where
  | chrdevRegion
  | deviceClass
  | debugfsDir
  | registryCdev
  | registryDevice
  | backend (minor : Nat)
  | mem (minor : Nat)
  | cdev (minor : Nat)
  | device (minor : Nat)
  | blob (minor : Nat)
deriving DecidableEq, Repr

/-- Whether the pointers `dev` and `debugfs_dentry` of a backend are set. -/
structure BackendHandles where
  dev : Bool
  debugfsDentry : Bool
deriving DecidableEq, Repr

/-- The static variables of the module, and what it holds. -/
structure HostModule where
  registry : HostRegistry
  handles : Nat → BackendHandles
  registryDev : Bool
  debugfsRoot : Bool
  kernel : Ledger HostResource

/-- How the kernel functions called by `host_ivshmem_init` end. -/
structure InitCalls where
  allocChrdevRegion : Option Errno
  classCreate : Option Errno
  debugfsCreateDir : Bool
  registryCdevAdd : Option Errno
  registryDeviceCreate : Option Errno
  registerKfuncs : Option Errno

/-- An ioctl, and whether debugfs has room for the blob of a new backend. -/
structure ModuleRequest extends IoctlRequest where
  debugfsCreateBlob : Bool

namespace HostModule

/-- `host_ivshmem_create_static_backend` with what it takes and gives back. -/
def createStaticBackend (calls : HostCalls) (debugfsCreateBlob debugfsRoot : Bool)
    (minorNumber size : Nat) (kernel : Ledger HostResource) :
    Ledger HostResource × Except Errno (HostIvshmemBackend × BackendHandles) :=
  if calls.vmallocUser = false then (kernel, .error .enomem)
  else
    let allocated := kernel.acquire (.mem minorNumber)
    match calls.cdevAdd with
    | some ret => (allocated.release (.mem minorNumber), .error ret)
    | none =>
        let added := allocated.acquire (.cdev minorNumber)
        match calls.deviceCreate with
        | some ret =>
            ((added.release (.cdev minorNumber)).release (.mem minorNumber), .error ret)
        | none =>
            let created := added.acquire (.device minorNumber)
            let shown := debugfsRoot && debugfsCreateBlob
            (if shown then created.acquire (.blob minorNumber) else created,
              .ok (⟨some ((backendHeader size).write fun _ => 0), size, minorNumber⟩, ⟨true, shown⟩))

/-- `host_register_vm` with what it takes and gives back. -/
def registerVm (calls : HostCalls) (debugfsCreateBlob : Bool) (nbCpu : UInt32)
    (driver : HostModule) : HostModule × Except Errno RegReply :=
  let vmId := driver.registry.nextVmId
  let taken : HostRegistry := { driver.registry with nextVmId := vmId + 1 }
  if vmId + 1 ≥ maxNbDevices then (driver, .error .enospc)
  else if calls.kzalloc = false then ({ driver with registry := taken }, .error .enomem)
  else
    match createStaticBackend calls debugfsCreateBlob driver.debugfsRoot (vmId + 1)
        (backendSize nbCpu) (driver.kernel.acquire (.backend (vmId + 1))) with
    | (kernel, .error ret) =>
        ({ driver with kernel := kernel.release (.backend (vmId + 1)) }, .error ret)
    | (kernel, .ok (backend, handles)) =>
        ({ driver with
            registry := { taken with
              devices := Function.update taken.devices (vmId + 1) (some backend) }
            handles := Function.update driver.handles (vmId + 1) handles
            kernel := kernel },
          .ok ⟨vmId, backend.size⟩)

/-- `host_registry_ioctl` with what it takes and gives back. -/
def registryIoctl (driver : HostModule) (request : ModuleRequest) :
    HostModule × Except Errno RegReply :=
  match request.cmd with
  | .unknown _ => (driver, .error .eopnotsupp)
  | .phantReg =>
      if request.calls.copyFromUser = false then (driver, .error .efault)
      else
        match driver.registerVm request.calls.host request.debugfsCreateBlob request.nbCpu with
        | (after, .error ret) => (after, .error ret)
        | (after, .ok reply) =>
            if request.calls.copyToUser = false then (after, .error .efault) else (after, .ok reply)

end HostModule

/-- `host_ivshmem_destroy_static_backend`. -/
def hostIvshmemDestroyStaticBackend (backend : HostIvshmemBackend) (handles : BackendHandles)
    (kernel : Ledger HostResource) : Ledger HostResource :=
  let removed := if handles.debugfsDentry then kernel.release (.blob backend.minor) else kernel
  let destroyed := if handles.dev then removed.release (.device backend.minor) else removed
  let deleted := destroyed.release (.cdev backend.minor)
  if backend.mem.isSome then deleted.release (.mem backend.minor) else deleted

/-- One round of the loop of `host_destroy_registry_backend`. -/
def HostModule.destroyDevice (driver : HostModule) (index : Nat) : HostModule :=
  match driver.registry.devices index with
  | none => driver
  | some backend =>
      { driver with
        registry := { driver.registry with
          devices := Function.update driver.registry.devices index none }
        kernel := (hostIvshmemDestroyStaticBackend backend (driver.handles index)
          driver.kernel).release (.backend backend.minor) }

/-- `host_destroy_registry_backend`. It deletes the `cdev` of the registry whether or
not that was added. -/
def hostDestroyRegistryBackend (driver : HostModule) : HostModule :=
  let emptied := (List.range maxNbDevices).foldl HostModule.destroyDevice driver
  let destroyed :=
    if emptied.registryDev then
      { emptied with registryDev := false, kernel := emptied.kernel.release .registryDevice }
    else emptied
  { destroyed with kernel := destroyed.kernel.release .registryCdev }

/-- `host_create_registry_backend`. -/
def hostCreateRegistryBackend (calls : InitCalls) (driver : HostModule) :
    HostModule × Option Errno :=
  match calls.registryCdevAdd with
  | some ret => (driver, some ret)
  | none =>
      let added := driver.kernel.acquire .registryCdev
      match calls.registryDeviceCreate with
      | some ret => ({ driver with kernel := added, registryDev := false }, some ret)
      | none =>
          ({ driver with kernel := added.acquire .registryDevice, registryDev := true }, none)

/-- `host_ivshmem_exit`. The label `err_destroy_backend` of `host_ivshmem_init`
releases the same, in the same order. -/
def hostIvshmemExit (driver : HostModule) : Ledger HostResource :=
  let destroyed := hostDestroyRegistryBackend driver
  let removed :=
    if destroyed.debugfsRoot then destroyed.kernel.release .debugfsDir else destroyed.kernel
  (removed.release .deviceClass).release .chrdevRegion

/-- The static variables of a module that has just been loaded. -/
def HostModule.fresh (debugfsRoot : Bool) (kernel : Ledger HostResource) : HostModule :=
  ⟨.loaded, fun _ => ⟨false, false⟩, false, debugfsRoot, kernel⟩

/-- `host_ivshmem_init`: the loaded module, or the error with what is left behind.
The result of `class_create` is looked at after the debugfs directory has been
created, and then the numbers are given back here and once more at the label. -/
def hostIvshmemInit (calls : InitCalls) (kernel : Ledger HostResource) :
    Except (Errno × Ledger HostResource) HostModule :=
  if pageSize % hostIvshmemMsgSize ≠ 0 then .error (.einval, kernel)
  else
    match calls.allocChrdevRegion with
    | some ret => .error (ret, kernel)
    | none =>
        let numbered := kernel.acquire .chrdevRegion
        let classed :=
          if calls.classCreate.isNone then numbered.acquire .deviceClass else numbered
        -- A second directory of the same name is refused.
        let root := calls.debugfsCreateDir && decide (HostResource.debugfsDir ∉ classed.held)
        let rooted := if root then classed.acquire .debugfsDir else classed
        match calls.classCreate with
        | some ret => .error (ret, (rooted.release .chrdevRegion).release .chrdevRegion)
        | none =>
            match hostCreateRegistryBackend calls (.fresh root rooted) with
            | (driver, some ret) => .error (ret, hostIvshmemExit driver)
            | (driver, none) =>
                match calls.registerKfuncs with
                | some ret => .error (ret, hostIvshmemExit driver)
                | none => .ok driver

/-! ## What the ioctls do to the registry -/

namespace HostModule

theorem createStaticBackend_forget (calls : HostCalls) (blob root : Bool) (minorNumber size : Nat)
    (kernel : Ledger HostResource) :
    (createStaticBackend calls blob root minorNumber size kernel).2.map Prod.fst =
      hostIvshmemCreateStaticBackend calls minorNumber size := by
  unfold createStaticBackend hostIvshmemCreateStaticBackend
  split
  · rfl
  · cases calls.cdevAdd with
    | some ret => rfl
    | none => cases calls.deviceCreate <;> rfl

/-- Without its resources a registration is `host_register_vm`. -/
theorem registerVm_forget (calls : HostCalls) (blob : Bool) (nbCpu : UInt32) (driver : HostModule) :
    hostRegisterVm calls nbCpu driver.registry =
      ((driver.registerVm calls blob nbCpu).1.registry,
        (driver.registerVm calls blob nbCpu).2) := by
  have same := createStaticBackend_forget calls blob driver.debugfsRoot
    (driver.registry.nextVmId + 1) (backendSize nbCpu)
    (driver.kernel.acquire (.backend (driver.registry.nextVmId + 1)))
  unfold hostRegisterVm registerVm
  dsimp only
  split
  · rfl
  · split
    · rfl
    · rw [← same]
      generalize createStaticBackend calls blob driver.debugfsRoot _ _ _ = created
      obtain ⟨kernel, _ | ⟨backend, handles⟩⟩ := created <;> rfl

/-- Without its resources an ioctl is `host_registry_ioctl`. -/
theorem registryIoctl_forget (driver : HostModule) (request : ModuleRequest) :
    hostRegistryIoctl request.cmd request.calls request.nbCpu driver.registry =
      ((driver.registryIoctl request).1.registry, (driver.registryIoctl request).2) := by
  unfold hostRegistryIoctl registryIoctl
  cases request.cmd with
  | unknown cmd => rfl
  | phantReg =>
      dsimp only
      split
      · rfl
      · rw [registerVm_forget request.calls.host request.debugfsCreateBlob]
        generalize driver.registerVm _ _ _ = ended
        obtain ⟨after, _ | reply⟩ := ended
        · rfl
        · dsimp only
          split <;> rfl

/-! ## What the backends hold -/

/-- What belongs to a backend, in the order in which it is released. -/
def ownedBy (backend : HostIvshmemBackend) (handles : BackendHandles) : List HostResource :=
  (if handles.debugfsDentry then [HostResource.blob backend.minor] else []) ++
    (if handles.dev then [HostResource.device backend.minor] else []) ++
    HostResource.cdev backend.minor ::
      (if backend.mem.isSome then [HostResource.mem backend.minor] else []) ++
    [HostResource.backend backend.minor]

/-- What belongs to the backend at an index of `registry.devices`. -/
def ownedAt (driver : HostModule) (index : Nat) : Multiset HostResource :=
  match driver.registry.devices index with
  | none => 0
  | some backend => ↑(ownedBy backend (driver.handles index))

/-- What belongs to the backends of the registry. -/
def owned (driver : HostModule) : Multiset HostResource :=
  ∑ index ∈ Finset.range maxNbDevices, driver.ownedAt index

/-- The module holds what its backends own, on top of a base. No minor number above
the counter is in use. -/
structure Accounted (base : Ledger HostResource) (driver : HostModule) : Prop where
  kernel : driver.kernel = ⟨base.held + driver.owned, base.faults⟩
  room : driver.registry.nextVmId < maxNbDevices
  free : ∀ minor, driver.registry.nextVmId < minor → driver.registry.devices minor = none

section Create

variable {calls : HostCalls} {blob root : Bool} {minorNumber size : Nat}
  {kernel after : Ledger HostResource}

/-- A failed creation gives back what it has taken. -/
theorem createStaticBackend_error {ret : Errno}
    (failed : createStaticBackend calls blob root minorNumber size kernel = (after, .error ret)) :
    after = kernel := by
  unfold createStaticBackend at failed
  split at failed
  · cases failed
    rfl
  · dsimp only at failed
    split at failed
    · cases failed
      exact Ledger.release_acquire _ _
    · split at failed
      · cases failed
        rw [Ledger.release_acquire, Ledger.release_acquire]
      · cases failed

/-- A new backend owns what its creation took, and its struct. -/
theorem createStaticBackend_ok {backend : HostIvshmemBackend} {handles : BackendHandles}
    (created : createStaticBackend calls blob root minorNumber size
      (kernel.acquire (.backend minorNumber)) = (after, .ok (backend, handles))) :
    after = ⟨kernel.held + ↑(ownedBy backend handles), kernel.faults⟩ ∧
      handles.debugfsDentry = (root && blob) := by
  unfold createStaticBackend at created
  split at created
  · cases created
  · dsimp only at created
    split at created
    · cases created
    · split at created
      · cases created
      · cases created
        refine ⟨?_, rfl⟩
        rw [Multiset.add_comm]
        cases root && blob <;> simp [ownedBy, Ledger.acquire, ← Multiset.cons_coe]

end Create

/-- The module with a new backend at the minor number above the counter. -/
def published (driver : HostModule) (backend : HostIvshmemBackend) (handles : BackendHandles) :
    HostModule :=
  { driver with
    registry := ⟨driver.registry.nextVmId + 1,
      Function.update driver.registry.devices (driver.registry.nextVmId + 1) (some backend)⟩
    handles := Function.update driver.handles (driver.registry.nextVmId + 1) handles
    kernel := ⟨driver.kernel.held + ↑(ownedBy backend handles), driver.kernel.faults⟩ }

/-- What a registration does to the module: nothing, or it uses up an id, or it
publishes a backend. -/
theorem registerVm_cases (driver : HostModule) (calls : HostCalls) (blob : Bool)
    (nbCpu : UInt32) :
    (driver.registerVm calls blob nbCpu).1 = driver ∨
      driver.registry.nextVmId + 1 < maxNbDevices ∧
        ((driver.registerVm calls blob nbCpu).1 = { driver with
            registry := { driver.registry with nextVmId := driver.registry.nextVmId + 1 } } ∨
          ∃ backend handles, handles.debugfsDentry = (driver.debugfsRoot && blob) ∧
            (driver.registerVm calls blob nbCpu).1 = driver.published backend handles) := by
  unfold HostModule.registerVm
  dsimp only
  split
  · exact Or.inl rfl
  · rename_i full
    have room := Nat.lt_of_not_le full
    split
    · exact Or.inr ⟨room, Or.inl rfl⟩
    · split
      · rename_i after ret failed
        rw [createStaticBackend_error failed, Ledger.release_acquire]
        exact Or.inl rfl
      · rename_i after backend handles created
        obtain ⟨held, shown⟩ := createStaticBackend_ok created
        refine Or.inr ⟨room, Or.inr ⟨backend, handles, shown, ?_⟩⟩
        rw [held]
        rfl

/-- What an ioctl does to the module, a registration does. -/
theorem registryIoctl_cases (driver : HostModule) (request : ModuleRequest) :
    (driver.registryIoctl request).1 = driver ∨
      (driver.registryIoctl request).1 =
        (driver.registerVm request.calls.host request.debugfsCreateBlob request.nbCpu).1 := by
  unfold HostModule.registryIoctl
  split
  · exact Or.inl rfl
  · split
    · exact Or.inl rfl
    · refine Or.inr ?_
      split
      · rename_i failed
        rw [failed]
      · rename_i succeeded
        rw [succeeded]
        split <;> rfl

/-- The module after a sequence of ioctls. -/
def serve (driver : HostModule) (requests : List ModuleRequest) : HostModule :=
  requests.foldl (fun driver request => (driver.registryIoctl request).1) driver

/-- What every registration preserves holds after any sequence of ioctls. -/
theorem serve_invariant (holds : HostModule → Prop)
    (preserved : ∀ driver calls blob nbCpu, holds driver →
      holds (HostModule.registerVm calls blob nbCpu driver).1)
    {driver : HostModule} (initially : holds driver) (requests : List ModuleRequest) :
    holds (driver.serve requests) := by
  induction requests generalizing driver with
  | nil => exact initially
  | cons request rest inductionHypothesis =>
      have served : holds (driver.registryIoctl request).1 := by
        rcases registryIoctl_cases driver request with same | registered
        · rw [same]
          exact initially
        · rw [registered]
          exact preserved driver _ _ _ initially
      exact inductionHypothesis served

section Account

variable {base : Ledger HostResource} {driver : HostModule}

theorem ownedAt_of_none {index : Nat} (absent : driver.registry.devices index = none) :
    driver.ownedAt index = 0 := by
  unfold ownedAt
  rw [absent]

/-- A backend put in an empty place adds what it owns. -/
theorem owned_of_update {after : HostModule} {minor : Nat} (resources : Multiset HostResource)
    (inside : minor < maxNbDevices) (unused : driver.ownedAt minor = 0)
    (taken : after.ownedAt = Function.update driver.ownedAt minor resources) :
    after.owned = driver.owned + resources := by
  have member : minor ∈ Finset.range maxNbDevices := Finset.mem_range.mpr inside
  have rest := Finset.sum_sdiff (f := driver.ownedAt) (Finset.singleton_subset_iff.mpr member)
  rw [Finset.sum_singleton, unused, add_zero] at rest
  unfold owned
  rw [taken, Finset.sum_update_of_mem member, rest, add_comm]

/-- The publication of a new backend keeps the account. -/
theorem Accounted.published (accounted : driver.Accounted base)
    (room : driver.registry.nextVmId + 1 < maxNbDevices) (backend : HostIvshmemBackend)
    (handles : BackendHandles) : (driver.published backend handles).Accounted base := by
  refine ⟨?_, room, ?_⟩
  · have unused := ownedAt_of_none (accounted.free _ (Nat.lt_succ_self _))
    rw [owned_of_update ↑(ownedBy backend handles) room unused, ← add_assoc]
    · show Ledger.mk _ _ = _
      rw [accounted.kernel]
    · funext index
      by_cases here : index = driver.registry.nextVmId + 1
      · rw [here, Function.update_self]
        simp only [ownedAt, HostModule.published, Function.update_self]
      · rw [Function.update_of_ne here]
        simp only [ownedAt, HostModule.published, Function.update_of_ne here]
  · intro minor later
    have different : minor ≠ driver.registry.nextVmId + 1 := Nat.ne_of_gt later
    exact (Function.update_of_ne different _ _).trans
      (accounted.free minor (Nat.lt_of_succ_lt later))

/-- A registration keeps the account. -/
theorem Accounted.registerVm (accounted : driver.Accounted base) (calls : HostCalls)
    (blob : Bool) (nbCpu : UInt32) : (driver.registerVm calls blob nbCpu).1.Accounted base := by
  rcases registerVm_cases driver calls blob nbCpu with
    same | ⟨room, used | ⟨backend, handles, -, added⟩⟩
  · rw [same]
    exact accounted
  · rw [used]
    exact ⟨accounted.kernel, room, fun minor later =>
      accounted.free minor (Nat.lt_of_succ_lt later)⟩
  · rw [added]
    exact accounted.published room backend handles

/-! ## Unloading -/

/-- A backend that is destroyed and freed gives back all it owns. -/
theorem release_destroyed (backend : HostIvshmemBackend) (handles : BackendHandles)
    (kernel : Ledger HostResource) :
    (hostIvshmemDestroyStaticBackend backend handles kernel).release (.backend backend.minor) =
      kernel.releaseAll (ownedBy backend handles) := by
  obtain ⟨dev, dentry⟩ := handles
  obtain ⟨mem, size, minor⟩ := backend
  cases dev <;> cases dentry <;> cases mem <;>
    simp [hostIvshmemDestroyStaticBackend, ownedBy, Ledger.releaseAll]

theorem destroyDevice_ownedAt {index other : Nat} (different : other ≠ index) :
    (driver.destroyDevice index).ownedAt other = driver.ownedAt other := by
  unfold destroyDevice
  split
  · rfl
  · simp only [ownedAt, Function.update_of_ne different]

theorem destroyDevice_kernel {index : Nat}
    (kernel : driver.kernel = ⟨base.held + driver.ownedAt index, base.faults⟩) :
    (driver.destroyDevice index).kernel = base := by
  unfold ownedAt at kernel
  unfold destroyDevice
  cases found : driver.registry.devices index with
  | none =>
      rw [found] at kernel
      rw [kernel, add_zero]
  | some backend =>
      rw [found] at kernel
      show Ledger.release _ (hostIvshmemDestroyStaticBackend _ _ _) = _
      rw [release_destroyed, kernel]
      exact Ledger.releaseAll_add base.held base.faults _

/-- The loop of `host_destroy_registry_backend` gives back what the backends at its
indices own. -/
theorem destroyDevices_kernel {indices : List Nat} (distinct : indices.Nodup)
    (kernel : driver.kernel = ⟨base.held + (indices.map driver.ownedAt).sum, base.faults⟩) :
    (indices.foldl destroyDevice driver).kernel = base := by
  induction indices generalizing driver with
  | nil =>
      rw [List.foldl_nil, kernel]
      simp
  | cons index rest inductionHypothesis =>
      obtain ⟨absent, distinct⟩ := List.nodup_cons.mp distinct
      apply inductionHypothesis distinct
      have others : rest.map (driver.destroyDevice index).ownedAt = rest.map driver.ownedAt := by
        apply List.map_congr_left
        intro other member
        exact destroyDevice_ownedAt fun same => absent (same ▸ member)
      rw [others]
      apply destroyDevice_kernel
      rw [kernel, List.map_cons, List.sum_cons, add_comm (driver.ownedAt index), add_assoc]

theorem destroyDevices_static (indices : List Nat) :
    (indices.foldl destroyDevice driver).registryDev = driver.registryDev ∧
      (indices.foldl destroyDevice driver).debugfsRoot = driver.debugfsRoot := by
  induction indices generalizing driver with
  | nil => exact ⟨rfl, rfl⟩
  | cons index rest inductionHypothesis =>
      have same : (driver.destroyDevice index).registryDev = driver.registryDev ∧
          (driver.destroyDevice index).debugfsRoot = driver.debugfsRoot := by
        unfold destroyDevice
        split <;> exact ⟨rfl, rfl⟩
      rw [List.foldl_cons]
      exact ⟨inductionHypothesis.1.trans same.1, inductionHypothesis.2.trans same.2⟩

/-- Destroying the registry releases what its backends own, and its own device. -/
theorem Accounted.destroyed (accounted : driver.Accounted base) :
    (hostDestroyRegistryBackend driver).kernel =
        (if driver.registryDev then base.release .registryDevice else base).release
          .registryCdev ∧
      (hostDestroyRegistryBackend driver).debugfsRoot = driver.debugfsRoot := by
  have kernel : ((List.range maxNbDevices).foldl destroyDevice driver).kernel = base :=
    destroyDevices_kernel List.nodup_range accounted.kernel
  have static := @destroyDevices_static driver (List.range maxNbDevices)
  unfold hostDestroyRegistryBackend
  generalize (List.range maxNbDevices).foldl destroyDevice driver = emptied at kernel static
  dsimp only
  rw [static.1, ← static.2, kernel]
  split <;> simp only [kernel, and_self]

/-- What unloading leaves of the base. -/
theorem Accounted.exit (accounted : driver.Accounted base) :
    hostIvshmemExit driver =
      let destroyed : Ledger HostResource :=
        (if driver.registryDev then base.release .registryDevice else base).release .registryCdev
      let removed := if driver.debugfsRoot then destroyed.release .debugfsDir else destroyed
      (removed.release .deviceClass).release .chrdevRegion := by
  unfold hostIvshmemExit
  dsimp only
  rw [accounted.destroyed.1, accounted.destroyed.2]

theorem accounted_loaded (registryDev root : Bool) (base : Ledger HostResource) :
    Accounted base ⟨.loaded, fun _ => ⟨false, false⟩, registryDev, root, base⟩ where
  kernel := by
    have nothing : owned ⟨.loaded, fun _ => ⟨false, false⟩, registryDev, root, base⟩ = 0 :=
      Finset.sum_eq_zero fun _ _ => rfl
    rw [nothing, add_zero]
  room := by
    show 0 < maxNbDevices
    decide
  free _ _ := rfl

/-- A registration leaves the static variables alone. -/
theorem registerVm_static (driver : HostModule) (calls : HostCalls) (blob : Bool)
    (nbCpu : UInt32) :
    (driver.registerVm calls blob nbCpu).1.registryDev = driver.registryDev ∧
      (driver.registerVm calls blob nbCpu).1.debugfsRoot = driver.debugfsRoot := by
  rcases registerVm_cases driver calls blob nbCpu with
    same | ⟨-, used | ⟨backend, handles, -, added⟩⟩
  · rw [same]
    exact ⟨rfl, rfl⟩
  · rw [used]
    exact ⟨rfl, rfl⟩
  · rw [added]
    exact ⟨rfl, rfl⟩

/-- Any sequence of ioctls keeps the account and the static variables. -/
theorem Accounted.serve (accounted : driver.Accounted base) (requests : List ModuleRequest) :
    (driver.serve requests).Accounted base ∧
      (driver.serve requests).registryDev = driver.registryDev ∧
      (driver.serve requests).debugfsRoot = driver.debugfsRoot := by
  refine serve_invariant (fun after => after.Accounted base ∧
    after.registryDev = driver.registryDev ∧ after.debugfsRoot = driver.debugfsRoot) ?_
    ⟨accounted, rfl, rfl⟩ requests
  rintro after calls blob nbCpu ⟨accounted, device, directory⟩
  have static := registerVm_static after calls blob nbCpu
  exact ⟨accounted.registerVm calls blob nbCpu, static.1.trans device, static.2.trans directory⟩

end Account

end HostModule

/-! ## The lives of the module -/

/-- A load, the ioctls that it serves if it succeeds, and the unload. -/
structure ModuleLife where
  calls : InitCalls
  requests : List ModuleRequest

/-- What a life leaves behind. -/
def ModuleLife.run (life : ModuleLife) (kernel : Ledger HostResource) : Ledger HostResource :=
  match hostIvshmemInit life.calls kernel with
  | .error (_, left) => left
  | .ok driver => hostIvshmemExit (driver.serve life.requests)

/-- The life leaves its debugfs directory behind: it gets its device numbers and the
directory, but no class. -/
def ModuleLife.leaksDir (life : ModuleLife) : Bool :=
  life.calls.allocChrdevRegion.isNone && life.calls.classCreate.isSome &&
    life.calls.debugfsCreateDir

/-- What a life releases without holding it. -/
def ModuleLife.wrongReleases (life : ModuleLife) : Multiset HostResource :=
  if life.calls.allocChrdevRegion.isSome then 0
  else if life.calls.classCreate.isSome then {.chrdevRegion}
  else if life.calls.registryCdevAdd.isSome then {.registryCdev}
  else 0

section Lives

variable {kernel : Ledger HostResource}

/-- What a load holds once it has its class and, if it can, its directory. -/
def classLedger (root : Bool) (kernel : Ledger HostResource) : Ledger HostResource :=
  if root then ((kernel.acquire .chrdevRegion).acquire .deviceClass).acquire .debugfsDir
  else (kernel.acquire .chrdevRegion).acquire .deviceClass

/-- What a load holds once its registry is added, with or without its device. -/
def registryLedger (root registryDev : Bool) (kernel : Ledger HostResource) :
    Ledger HostResource :=
  if registryDev then ((classLedger root kernel).acquire .registryCdev).acquire .registryDevice
  else (classLedger root kernel).acquire .registryCdev

/-- Unloading a module whose registry was added gives everything back. -/
theorem exit_of_registry {root registryDev : Bool} {driver : HostModule}
    (accounted : driver.Accounted (registryLedger root registryDev kernel))
    (device : driver.registryDev = registryDev) (directory : driver.debugfsRoot = root) :
    hostIvshmemExit driver = kernel := by
  rw [accounted.exit, device, directory]
  cases registryDev <;> cases root <;> simp [registryLedger, classLedger]

/-- Unloading a module whose registry was not added deletes a `cdev` that is not
there. -/
theorem exit_of_unregistered {root : Bool} {driver : HostModule}
    (accounted : driver.Accounted (classLedger root kernel))
    (device : driver.registryDev = false) (directory : driver.debugfsRoot = root)
    (absent : HostResource.registryCdev ∉ kernel.held) :
    hostIvshmemExit driver = ⟨kernel.held, .registryCdev ::ₘ kernel.faults⟩ := by
  rw [accounted.exit, device, directory]
  cases root <;> simp [classLedger, Ledger.acquire, Ledger.release, absent]

/-- A load without class gives its numbers back twice and keeps its directory. -/
theorem release_numbers_twice (root : Bool) (absent : HostResource.chrdevRegion ∉ kernel.held) :
    (((if root then (kernel.acquire .chrdevRegion).acquire .debugfsDir
        else kernel.acquire .chrdevRegion).release .chrdevRegion).release .chrdevRegion) =
      ⟨if root then .debugfsDir ::ₘ kernel.held else kernel.held,
        .chrdevRegion ::ₘ kernel.faults⟩ := by
  cases root <;> simp [Ledger.acquire, Ledger.release, absent]

/-- How a load ends that has got its class. -/
theorem hostIvshmemInit_of_class {calls : InitCalls} (region : calls.allocChrdevRegion = none)
    (classCreate : calls.classCreate = none) (absent : HostResource.registryCdev ∉ kernel.held) :
    (calls.registryCdevAdd.isSome = true ∧ ∃ ret, hostIvshmemInit calls kernel =
        .error (ret, ⟨kernel.held, .registryCdev ::ₘ kernel.faults⟩)) ∨
      (calls.registryCdevAdd.isSome = false ∧
        ∃ ret, hostIvshmemInit calls kernel = .error (ret, kernel)) ∨
      calls.registryCdevAdd.isSome = false ∧
        ∃ root, (root = true → HostResource.debugfsDir ∉ kernel.held) ∧
          hostIvshmemInit calls kernel = .ok ⟨.loaded, fun _ => ⟨false, false⟩, true, root,
            registryLedger root true kernel⟩ := by
  have multiple : ¬pageSize % hostIvshmemMsgSize ≠ 0 := by decide
  obtain ⟨root, unlisted, reduced⟩ : ∃ root, (root = true → HostResource.debugfsDir ∉ kernel.held) ∧
      hostIvshmemInit calls kernel =
        match hostCreateRegistryBackend calls (.fresh root (classLedger root kernel)) with
        | (driver, some ret) => .error (ret, hostIvshmemExit driver)
        | (driver, none) =>
            match calls.registerKfuncs with
            | some ret => .error (ret, hostIvshmemExit driver)
            | none => .ok driver := by
    unfold hostIvshmemInit
    rw [if_neg multiple, region, classCreate]
    refine ⟨_, ?_, rfl⟩
    intro created
    have unlisted := of_decide_eq_true (Bool.and_eq_true_iff.mp created).2
    exact fun member => unlisted (Multiset.mem_cons_of_mem (Multiset.mem_cons_of_mem member))
  rw [reduced]
  unfold hostCreateRegistryBackend
  cases calls.registryCdevAdd with
  | some ret =>
      refine Or.inl ⟨rfl, ret, congrArg (fun left => Except.error (ret, left)) ?_⟩
      exact exit_of_unregistered
        (HostModule.accounted_loaded false root (classLedger root kernel)) rfl rfl absent
  | none =>
      refine Or.inr ?_
      cases calls.registryDeviceCreate with
      | some ret =>
          refine Or.inl ⟨rfl, ret, congrArg (fun left => Except.error (ret, left)) ?_⟩
          exact exit_of_registry
            (HostModule.accounted_loaded false root (registryLedger root false kernel)) rfl rfl
      | none =>
          cases calls.registerKfuncs with
          | some ret =>
              refine Or.inl ⟨rfl, ret, congrArg (fun left => Except.error (ret, left)) ?_⟩
              exact exit_of_registry
                (HostModule.accounted_loaded true root (registryLedger root true kernel)) rfl rfl
          | none => exact Or.inr ⟨rfl, root, unlisted, rfl⟩

/-- A load that gets no class. -/
theorem hostIvshmemInit_of_unclassed {calls : InitCalls} {ret : Errno}
    (region : calls.allocChrdevRegion = none) (classCreate : calls.classCreate = some ret)
    (absent : HostResource.chrdevRegion ∉ kernel.held) :
    hostIvshmemInit calls kernel = .error (ret,
      ⟨if calls.debugfsCreateDir && decide (HostResource.debugfsDir ∉ kernel.held) then
          .debugfsDir ::ₘ kernel.held else kernel.held,
        .chrdevRegion ::ₘ kernel.faults⟩) := by
  have multiple : ¬pageSize % hostIvshmemMsgSize ≠ 0 := by decide
  unfold hostIvshmemInit
  rw [if_neg multiple, region, classCreate]
  dsimp only [Option.isNone]
  rw [if_neg Bool.false_ne_true, release_numbers_twice _ absent]
  simp [Ledger.acquire]

/-- A load that succeeds has its numbers and its class. -/
theorem class_of_loaded {calls : InitCalls} {driver : HostModule}
    (loaded : hostIvshmemInit calls kernel = .ok driver) :
    calls.allocChrdevRegion = none ∧ calls.classCreate = none := by
  unfold hostIvshmemInit at loaded
  split at loaded
  · cases loaded
  · split at loaded
    · cases loaded
    · rename_i region
      refine ⟨region, ?_⟩
      dsimp only at loaded
      split at loaded
      · cases loaded
      · rename_i classCreate
        exact classCreate

/-- A life on top of what earlier lives have left. -/
theorem ModuleLife.run_eq (life : ModuleLife)
    (left : ∀ resource ∈ kernel.held, resource = .debugfsDir) :
    life.run kernel =
      ⟨if life.leaksDir && decide (HostResource.debugfsDir ∉ kernel.held) then
          .debugfsDir ::ₘ kernel.held else kernel.held,
        life.wrongReleases + kernel.faults⟩ := by
  have numbers : HostResource.chrdevRegion ∉ kernel.held := fun member => by
    cases left _ member
  have registry : HostResource.registryCdev ∉ kernel.held := fun member => by
    cases left _ member
  unfold ModuleLife.run leaksDir wrongReleases
  cases region : life.calls.allocChrdevRegion with
  | some ret => simp [hostIvshmemInit, region, show pageSize % hostIvshmemMsgSize = 0 by decide]
  | none =>
      cases classCreate : life.calls.classCreate with
      | some ret =>
          rw [hostIvshmemInit_of_unclassed region classCreate numbers]
          simp
      | none =>
          rcases hostIvshmemInit_of_class region classCreate registry with
            ⟨unadded, ret, ended⟩ | ⟨added, ret, ended⟩ | ⟨added, root, -, ended⟩
          · rw [ended, unadded]
            simp
          · rw [ended, added]
            simp
          · have loaded := HostModule.accounted_loaded true root (registryLedger root true kernel)
            obtain ⟨served, device, directory⟩ := loaded.serve life.requests
            rw [ended, added]
            simp [exit_of_registry served device directory]

/-- What a sequence of lives leaves behind. -/
def livesRun (lives : List ModuleLife) (kernel : Ledger HostResource) : Ledger HostResource :=
  lives.foldl (fun kernel life => life.run kernel) kernel

/-- Once the directory has been left behind, lives add only to the wrong releases. -/
theorem livesRun_of_leaked (lives : List ModuleLife) (faults : Multiset HostResource) :
    livesRun lives ⟨{.debugfsDir}, faults⟩ =
      ⟨{.debugfsDir}, (lives.map ModuleLife.wrongReleases).sum + faults⟩ := by
  induction lives generalizing faults with
  | nil => simp [livesRun]
  | cons life rest inductionHypothesis =>
      have here := @ModuleLife.run_eq ⟨{.debugfsDir}, faults⟩ life fun resource member =>
        Multiset.mem_singleton.mp member
      simp only [Multiset.mem_singleton, not_true_eq_false, decide_false, Bool.and_false,
        Bool.false_eq_true, if_false] at here
      show livesRun rest (life.run _) = _
      rw [here, inductionHypothesis, List.map_cons, List.sum_cons]
      congr 1
      rw [← add_assoc, add_comm life.wrongReleases]

theorem livesRun_eq (lives : List ModuleLife) (faults : Multiset HostResource) :
    livesRun lives ⟨0, faults⟩ =
      ⟨if lives.any ModuleLife.leaksDir then {.debugfsDir} else 0,
        (lives.map ModuleLife.wrongReleases).sum + faults⟩ := by
  induction lives generalizing faults with
  | nil => simp [livesRun]
  | cons life rest inductionHypothesis =>
      have here := @ModuleLife.run_eq ⟨0, faults⟩ life fun resource member =>
        absurd member (Multiset.notMem_zero resource)
      have sum : ((life :: rest).map ModuleLife.wrongReleases).sum + faults =
          (rest.map ModuleLife.wrongReleases).sum + (life.wrongReleases + faults) := by
        rw [List.map_cons, List.sum_cons, ← add_assoc, add_comm life.wrongReleases]
      show livesRun rest (life.run _) = _
      rw [sum, List.any_cons, here]
      cases leaks : life.leaksDir with
      | true =>
          simp only [Multiset.notMem_zero, not_false_eq_true, decide_true, Bool.and_true, if_true,
            Bool.true_or]
          exact livesRun_of_leaked rest _
      | false =>
          simp only [Bool.false_and, Bool.false_eq_true, if_false, Bool.false_or]
          exact inductionHypothesis _

/-- **The account of the module over all its lives.** After any number of loads, each
with any failures of the kernel, any ioctls if it succeeds and an unload, nothing
that the module took is left but one debugfs directory, and that exactly when
`class_create` has failed in a load that got its directory. What it has released
without holding it are the device numbers, once for every failed `class_create`,
and the `cdev` of the registry, once for every failed `cdev_add`. -/
theorem module_lives_account (lives : List ModuleLife) :
    livesRun lives ⟨0, 0⟩ =
      ⟨if lives.any ModuleLife.leaksDir then {.debugfsDir} else 0,
        (lives.map ModuleLife.wrongReleases).sum⟩ := by
  rw [livesRun_eq, add_zero]

/-! ## A directory left behind -/

namespace HostModule

/-- No backend is shown in debugfs. -/
def Hidden (driver : HostModule) : Prop :=
  driver.debugfsRoot = false ∧ ∀ minor, (driver.handles minor).debugfsDentry = false

theorem Hidden.registerVm {driver : HostModule} (hidden : driver.Hidden) (calls : HostCalls)
    (blob : Bool) (nbCpu : UInt32) : (driver.registerVm calls blob nbCpu).1.Hidden := by
  rcases registerVm_cases driver calls blob nbCpu with
    same | ⟨-, used | ⟨backend, handles, shown, added⟩⟩
  · rw [same]
    exact hidden
  · rw [used]
    exact hidden
  · rw [hidden.1, Bool.false_and] at shown
    rw [added]
    refine ⟨hidden.1, fun minor => ?_⟩
    show (Function.update driver.handles _ handles minor).debugfsDentry = false
    by_cases here : minor = driver.registry.nextVmId + 1
    · rw [here, Function.update_self]
      exact shown
    · rw [Function.update_of_ne here]
      exact hidden.2 minor

end HostModule

/-- **One failed `class_create` hides every later region.** After a load that failed
so and got its directory, no later load, however many there are in between and
whatever it registers, shows any region in debugfs. -/
theorem failed_class_hides_regions {lives : List ModuleLife} {calls : InitCalls}
    {driver : HostModule} (leaked : lives.any ModuleLife.leaksDir = true)
    (loaded : hostIvshmemInit calls (livesRun lives ⟨0, 0⟩) = .ok driver)
    (requests : List ModuleRequest) (minor : Nat) :
    ((driver.serve requests).handles minor).debugfsDentry = false := by
  have left := livesRun_eq lives 0
  rw [leaked, if_pos rfl] at left
  rw [left] at loaded
  obtain ⟨region, classCreate⟩ := class_of_loaded loaded
  have absent : HostResource.registryCdev ∉ ({.debugfsDir} : Multiset HostResource) := by decide
  rcases @hostIvshmemInit_of_class ⟨{.debugfsDir}, _⟩ calls region classCreate absent with
    ⟨-, ret, ended⟩ | ⟨-, ret, ended⟩ | ⟨-, root, unlisted, ended⟩
  · rw [ended] at loaded
    cases loaded
  · rw [ended] at loaded
    cases loaded
  · rw [ended] at loaded
    obtain rfl := Except.ok.inj loaded
    have rootless : root = false :=
      Bool.eq_false_iff.mpr fun rooted => unlisted rooted (Multiset.mem_singleton_self _)
    have hidden : ∀ held, HostModule.Hidden ⟨.loaded, fun _ => ⟨false, false⟩, true, root, held⟩ :=
      fun _ => ⟨rootless, fun _ => rfl⟩
    exact (HostModule.serve_invariant HostModule.Hidden
      (fun _ calls blob nbCpu hidden => hidden.registerVm calls blob nbCpu) (hidden _)
      requests).2 minor

/-- A load in which everything succeeds. -/
def goodLoad : InitCalls := ⟨none, none, true, none, none, none⟩

/-- A load in which only `class_create` fails. -/
def classlessLife : ModuleLife := ⟨⟨none, some .enomem, true, none, none, none⟩, []⟩

/-- The region that a good load registers afterwards has no blob, although debugfs
has room for one. -/
theorem region_hidden_after_failed_class :
    ∃ driver, hostIvshmemInit goodLoad (livesRun [classlessLife] ⟨0, 0⟩) = .ok driver ∧
      ((driver.serve [⟨⟨.phantReg, ⟨true, ⟨true, true, none, none⟩, true⟩, 4⟩, true⟩]).handles
        1).debugfsDentry = false := by
  have loads : ∀ kernel, ∃ driver, hostIvshmemInit goodLoad kernel = .ok driver :=
    fun kernel => ⟨_, rfl⟩
  obtain ⟨driver, loaded⟩ := loads (livesRun [classlessLife] ⟨0, 0⟩)
  exact ⟨driver, loaded, failed_class_hides_regions rfl loaded _ 1⟩

end Lives

end PhantomTracker.Shmem
