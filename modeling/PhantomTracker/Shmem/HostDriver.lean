import PhantomTracker.Shmem.Layout
import Mathlib.Data.Nat.Log
import Mathlib.Logic.Function.Basic

/-!
Contract: the host driver, which creates one shared-memory region for each
registered VM.

Owns: `host_register_vm` with its failure paths, the size and the header of a
new region, the two accessors `host_ivshmem_h2g_write_msg` and
`host_ivshmem_g2h_read`, and the facts about a new region that the guest driver
relies on.

Does not own: registrations that overlap, or the character devices.

Kernel functions that can fail are parameters: `HostCalls` says how each of
them ends.
-/

namespace PhantomTracker.Shmem

open PhantomTracker.Foundation

/-- `HOST_METADATA_SIZE`. -/
def hostMetadataSize : Nat := pageSize

/-- `HOST_IVSHMEM_H2G_OFFSET`. -/
def hostIvshmemH2gOffset : Nat := hostMetadataSize

/-- `HOST_IVSHMEM_G2H_OFFSET`. -/
def hostIvshmemG2hOffset : Nat := hostMetadataSize + pageSize

/-- `struct host_ivshmem_backend`, without the device and debugfs handles. -/
structure HostIvshmemBackend where
  mem : Option Memory
  size : Nat
  minor : Nat

/-- `struct host_registry`. -/
structure HostRegistry where
  nextVmId : Nat
  devices : Nat → Option HostIvshmemBackend

/-- How the kernel functions called by a registration end. The two allocations
succeed or fail, the other two return an error code or succeed. -/
structure HostCalls where
  kzalloc : Bool
  vmallocUser : Bool
  cdevAdd : Option Errno
  deviceCreate : Option Errno

def divRoundUp (n d : Nat) : Nat := (n + d - 1) / d

/-- `roundup_pow_of_two`: the least power of two that is not below its
argument. -/
def roundupPowOfTwo (n : Nat) : Nat := 2 ^ Nat.clog 2 n

/-- `nb_pages` of `host_register_vm`. -/
def nbPages (nbCpu : UInt32) : Nat :=
  hostNbMetadataPages + 1 + divRoundUp (nbCpu.toNat * hostIvshmemMsgSize) pageSize

/-- The size of the region for a VM with `nb_cpu` vCPUs. -/
def backendSize (nbCpu : UInt32) : Nat := roundupPowOfTwo (nbPages nbCpu * pageSize)

/-- The header of a region of the given size. -/
def backendHeader (size : Nat) : IvshmemHeader where
  magic := pvschedMagic
  version := pvschedVersion
  latestSlot := UInt32.ofNat h2gLatestSlot
  h2gPageOffset := UInt64.ofNat hostIvshmemH2gOffset
  h2gPageSize := UInt64.ofNat pageSize
  g2hPageOffset := UInt64.ofNat hostIvshmemG2hOffset
  g2hPageSize := UInt64.ofNat (size - hostIvshmemG2hOffset)

/-- `host_ivshmem_create_static_backend`: zero-filled memory with a header. A
failure after the allocation frees the memory again. -/
def hostIvshmemCreateStaticBackend (calls : HostCalls) (minorNumber size : Nat) :
    Except Errno HostIvshmemBackend :=
  if calls.vmallocUser = false then .error .enomem
  else
    match calls.cdevAdd, calls.deviceCreate with
    | some ret, _ => .error ret
    | none, some ret => .error ret
    | none, none =>
        .ok ⟨some ((backendHeader size).write fun _ => 0), size, minorNumber⟩

/-- The fields of the request that `host_register_vm` fills in. -/
structure RegReply where
  vmId : Nat
  size : Nat
deriving DecidableEq, Repr

/-- `host_register_vm`. Only the failure of the backend and a full registry
give the id back; a failed `kzalloc` keeps it. -/
def hostRegisterVm (calls : HostCalls) (nbCpu : UInt32) (registry : HostRegistry) :
    HostRegistry × Except Errno RegReply :=
  let vmId := registry.nextVmId
  let taken : HostRegistry := { registry with nextVmId := vmId + 1 }
  if vmId + 1 ≥ maxNbDevices then (registry, .error .enospc)
  else if calls.kzalloc = false then (taken, .error .enomem)
  else
    match hostIvshmemCreateStaticBackend calls (vmId + 1) (backendSize nbCpu) with
    | .error ret => (registry, .error ret)
    | .ok backend =>
        ({ taken with devices := Function.update taken.devices (vmId + 1) (some backend) },
          .ok ⟨vmId, backend.size⟩)

/-- The memory behind a backend pointer that may be null. -/
def backendMem (backend : Option HostIvshmemBackend) : Option Memory :=
  backend.bind HostIvshmemBackend.mem

/-- `host_ivshmem_h2g_write_msg`: the region afterwards. -/
def hostIvshmemH2gWriteMsg (backend : Option HostIvshmemBackend) (index : Nat)
    (hgMsg : Option UInt64) : Except Errno Memory :=
  match backendMem backend, hgMsg with
  | none, _ => .error .enodev
  | some _, none => .error .einval
  | some memory, some msg =>
      if index = h2gLatestSlot ∨ index ≥ nrHostIvshmemMsgs then .error .einval
      else
        .ok ((memory.store64 (hostIvshmemH2gOffset + index * hostIvshmemMsgSize) msg).store64
          (hostIvshmemH2gOffset + h2gLatestSlot * hostIvshmemMsgSize) msg)

/-- `bpf_host_ivshmem_h2g_write`, which always writes to the backend of the first
registered VM. -/
def bpfHostIvshmemH2gWrite (registry : HostRegistry) (index : Nat) (hgMsg : Option UInt64) :
    Except Errno Memory :=
  hostIvshmemH2gWriteMsg (registry.devices 1) index hgMsg

/-- Address of a guest-to-host slot in the host's view of the region. -/
def hostG2hSlot (index : Nat) : Nat := hostIvshmemG2hOffset + index * guestIvshmemMsgSize

/-- `host_ivshmem_g2h_read`: the message left in the caller's buffer, which is
`none` for a null pointer. -/
def hostIvshmemG2hRead (backend : Option HostIvshmemBackend) (index : Nat)
    (msg : Option UInt64) : Except Errno UInt64 :=
  match backendMem backend with
  | none => .error .enodev
  | some memory =>
      if index ≥ nrGuestIvshmemMsgs then .error .einval
      else
        match msg with
        | none => .error .einval
        | some _ => .ok (memory.load64 (hostG2hSlot index))

/-- `bpf_host_ivshmem_g2h_read`, which always reads the backend of the first
registered VM. -/
def bpfHostIvshmemG2hRead (registry : HostRegistry) (index : Nat) (msg : Option UInt64) :
    Except Errno UInt64 :=
  hostIvshmemG2hRead (registry.devices 1) index msg

/-! ## A new region -/

theorem le_roundupPowOfTwo (n : Nat) : n ≤ roundupPowOfTwo n :=
  Nat.le_pow_clog (by decide) n

theorem roundupPowOfTwo_lt {n : Nat} (large : 1 < n) : roundupPowOfTwo n < 2 * n := by
  have exponent : Nat.clog 2 n = (Nat.clog 2 n).pred + 1 :=
    (Nat.succ_pred_eq_of_pos (Nat.clog_pos (by decide) large)).symm
  have half : 2 ^ (Nat.clog 2 n).pred < n := Nat.pow_pred_clog_lt_self (by decide) large
  unfold roundupPowOfTwo
  rw [exponent, Nat.pow_succ]
  omega

/-- A power of two above a smaller one is a multiple of it. -/
theorem pow_dvd_roundupPowOfTwo {k n : Nat} (large : 2 ^ k ≤ n) : 2 ^ k ∣ roundupPowOfTwo n := by
  have power : 2 ^ k ≤ 2 ^ Nat.clog 2 n := large.trans (le_roundupPowOfTwo n)
  exact Nat.pow_dvd_pow 2 ((Nat.pow_le_pow_iff_right (by decide)).mp power)

theorem g2hOffset_le_backendSize (nbCpu : UInt32) : hostIvshmemG2hOffset ≤ backendSize nbCpu := by
  have pages : 2 ≤ nbPages nbCpu := by
    unfold nbPages hostNbMetadataPages
    omega
  calc hostIvshmemG2hOffset = 2 * pageSize := by decide
    _ ≤ nbPages nbCpu * pageSize := Nat.mul_le_mul_right pageSize pages
    _ ≤ backendSize nbCpu := le_roundupPowOfTwo _

/-- The region has a guest-to-host slot for every vCPU of the request. -/
theorem hostG2hSlot_le_backendSize {nbCpu : UInt32} {index : Nat} (vcpu : index < nbCpu.toNat) :
    hostG2hSlot index + guestIvshmemMsgSize ≤ backendSize nbCpu := by
  have pages : hostG2hSlot index + guestIvshmemMsgSize ≤ nbPages nbCpu * pageSize := by
    unfold hostG2hSlot hostIvshmemG2hOffset hostMetadataSize guestIvshmemMsgSize nbPages divRoundUp
      hostNbMetadataPages hostIvshmemMsgSize pageSize
    omega
  exact Nat.le_trans pages (le_roundupPowOfTwo _)

/-- No 32-bit `nb_cpu` makes the size leave the 64-bit range. -/
theorem backendSize_lt (nbCpu : UInt32) : backendSize nbCpu < 2 ^ 64 := by
  have below := nbCpu.toNat_lt
  have pages : nbPages nbCpu * pageSize ≤ 2 ^ 39 := by
    unfold nbPages divRoundUp hostNbMetadataPages hostIvshmemMsgSize pageSize
    omega
  have exponent : Nat.clog 2 (nbPages nbCpu * pageSize) ≤ 39 :=
    Nat.clog_le_of_le_pow pages
  calc backendSize nbCpu ≤ 2 ^ 39 := Nat.pow_le_pow_right (by decide) exponent
    _ < 2 ^ 64 := by decide

/-- A backend that `host_register_vm` created for a VM with `nb_cpu` vCPUs and
left in the registry. -/
def RegisteredBackend (nbCpu : UInt32) (backend : HostIvshmemBackend) : Prop :=
  ∃ calls before after reply, hostRegisterVm calls nbCpu before = (after, .ok reply) ∧
    after.devices (reply.vmId + 1) = some backend

theorem hostIvshmemCreateStaticBackend_ok {calls : HostCalls} {minorNumber size : Nat}
    {backend : HostIvshmemBackend}
    (created : hostIvshmemCreateStaticBackend calls minorNumber size = .ok backend) :
    backend = ⟨some ((backendHeader size).write fun _ => 0), size, minorNumber⟩ := by
  unfold hostIvshmemCreateStaticBackend at created
  split at created
  · cases created
  · split at created
    · cases created
    · cases created
    · exact (Except.ok.inj created).symm

/-- What a registration leaves in the registry. -/
theorem RegisteredBackend.region {nbCpu : UInt32} {backend : HostIvshmemBackend}
    (registered : RegisteredBackend nbCpu backend) :
    backend.mem = some ((backendHeader (backendSize nbCpu)).write fun _ => 0) ∧
      backend.size = backendSize nbCpu := by
  rcases registered with ⟨calls, before, after, reply, accepted, published⟩
  unfold hostRegisterVm at accepted
  simp only at accepted
  split at accepted
  · cases accepted
  · split at accepted
    · cases accepted
    · split at accepted
      · cases accepted
      · rename_i created
        cases accepted
        dsimp only at published
        rw [Function.update_self] at published
        have shape := hostIvshmemCreateStaticBackend_ok created
        rw [← Option.some.inj published, shape]
        exact ⟨rfl, rfl⟩

end PhantomTracker.Shmem
