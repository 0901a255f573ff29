import PhantomTracker.Shmem.Layout

/-!
Contract: the guest driver, which binds to the region behind BAR 2 and writes
guest messages into it.

Owns: the checks of `guest_ivshmem_probe` in their order, the device that it
publishes, and `guest_ivshmem_g2h_write_msg`.

Does not own: the host that laid out the region, or the removal of a device.

Addresses are offsets from the start of the BAR. Kernel functions that can fail
are parameters: `GuestCalls` says how each of them ends.
-/

namespace PhantomTracker.Shmem

open PhantomTracker.Foundation

/-- `GUEST_IVSHMEM_METADATA_OFFSET`. -/
def guestIvshmemMetadataOffset : Nat := 0

/-- `GUEST_IVSHMEM_METADATA_SIZE`. -/
def guestIvshmemMetadataSize : Nat := pageSize

/-- BAR 2 of the PCI device: whether it is a memory resource, its physical
address, its length, and the memory behind it. -/
structure PciBar where
  isMem : Bool
  start : Nat
  len : Nat
  memory : Memory

/-- `struct guest_ivshmem_device`, without the PCI and character device
handles. `g2hPage` is `none` for a null pointer. -/
structure GuestIvshmemDevice where
  g2hPage : Option Nat
  size : Nat
  h2gPhyPage : Nat
  h2gPageSize : Nat
  metadataPhyPage : Nat
deriving DecidableEq, Repr

/-- The globals of the driver: the published device, and how often
`guest_ivshmem_lock` was taken more than it was released. -/
structure GuestDriver where
  published : Option GuestIvshmemDevice
  lockDepth : Int
deriving DecidableEq, Repr

/-- How the kernel functions called by a probe end. The allocation and the two
mappings succeed or fail, the other two return an error code or succeed. -/
structure GuestCalls where
  kzalloc : Bool
  pciEnableDevice : Option Errno
  pciRequestRegion : Option Errno
  iomapMetadata : Bool
  iomapG2h : Bool

/-- No kernel function fails. -/
def GuestCalls.working : GuestCalls := ⟨true, none, none, true, true⟩

/-- Whether `pci_iomap_range` maps anything: it refuses an offset that is not
below the length of the BAR. -/
def pciIomapRange (bar : PciBar) (offset : Nat) : Bool := decide (offset < bar.len)

/-- The two mappings of a probe end as `pci_iomap_range` does. -/
structure GuestCalls.Ranged (calls : GuestCalls) (bar : PciBar) : Prop where
  metadata : calls.iomapMetadata = pciIomapRange bar guestIvshmemMetadataOffset
  g2h : calls.iomapG2h = pciIomapRange bar (IvshmemHeader.read bar.memory).g2hPageOffset.toNat

/-- The device that a probe sets up for an accepted header. -/
def mappedDevice (bar : PciBar) (hdr : IvshmemHeader) : GuestIvshmemDevice where
  g2hPage := some hdr.g2hPageOffset.toNat
  size := bar.len
  h2gPhyPage := bar.start + hdr.h2gPageOffset.toNat
  h2gPageSize := hdr.h2gPageSize.toNat
  metadataPhyPage := bar.start + guestIvshmemMetadataOffset

/-- The checks of the header and the mapping of the guest-to-host pages. The
sum of offset and size is a 64-bit sum. -/
def probeHeader (calls : GuestCalls) (bar : PciBar) (hdr : IvshmemHeader) :
    Except Errno GuestIvshmemDevice :=
  if hdr.magic ≠ pvschedMagic ∨ hdr.version ≠ pvschedVersion then .error .einval
  else if hdr.h2gPageOffset.toNat ≠ guestIvshmemMetadataOffset + guestIvshmemMetadataSize then
    .error .einval
  else if bar.len < (hdr.g2hPageOffset + hdr.g2hPageSize).toNat then .error .einval
  else if calls.iomapG2h = false then .error .enomem
  else .ok (mappedDevice bar hdr)

/-- `guest_ivshmem_probe` up to the publication of the device. Every failure
releases what was acquired before it. -/
def probeDevice (calls : GuestCalls) (bar : PciBar) : Except Errno GuestIvshmemDevice :=
  if calls.kzalloc = false then .error .enomem
  else
    match calls.pciEnableDevice with
    | some ret => .error ret
    | none =>
        if bar.isMem = false then .error .enodev
        else if bar.len < guestIvshmemMetadataSize then .error .einval
        else
          match calls.pciRequestRegion with
          | some ret => .error ret
          | none =>
              if calls.iomapMetadata = false then .error .enomem
              else probeHeader calls bar (IvshmemHeader.read bar.memory)

/-- `guest_ivshmem_probe`. A second device takes the branch that reports
`-EBUSY`, but that branch does not leave the function: it releases the lock a
second time and the second device is published. -/
def guestIvshmemProbe (calls : GuestCalls) (bar : PciBar) (driver : GuestDriver) :
    GuestDriver × Except Errno Unit :=
  match probeDevice calls bar with
  | .error ret => (driver, .error ret)
  | .ok guest =>
      let busyUnlock : Int := if driver.published.isSome then 1 else 0
      (⟨some guest, driver.lockDepth + 1 - busyUnlock - 1⟩, .ok ())

/-- `guest_ivshmem_g2h_write_msg`: the memory behind the BAR afterwards. -/
def guestIvshmemG2hWriteMsg (driver : GuestDriver) (index : Nat) (ghMsg : Option UInt64)
    (memory : Memory) : Except Errno Memory :=
  match ghMsg with
  | none => .error .einval
  | some msg =>
      if index ≥ nrGuestIvshmemMsgs then .error .einval
      else
        match driver.published with
        | none => .error .enodev
        | some guest =>
            match guest.g2hPage with
            | none => .error .eio
            | some g2hPage =>
                .ok (memory.store64 (g2hPage + index * guestIvshmemMsgSize) msg)

/-- The driver has published a device whose guest-to-host pages start at
`base`. -/
def GuestDriver.MappedAt (driver : GuestDriver) (base : Nat) : Prop :=
  ∃ guest, driver.published = some guest ∧ guest.g2hPage = some base

section Write

variable {driver : GuestDriver} {base index : Nat} {memory : Memory}

theorem guestIvshmemG2hWriteMsg_accepted (mapped : driver.MappedAt base)
    (below : index < nrGuestIvshmemMsgs) (msg : UInt64) :
    guestIvshmemG2hWriteMsg driver index (some msg) memory =
      .ok (memory.store64 (base + index * guestIvshmemMsgSize) msg) := by
  rcases mapped with ⟨guest, published, page⟩
  unfold guestIvshmemG2hWriteMsg
  simp only [if_neg (Nat.not_le.mpr below), published, page]

theorem guestIvshmemG2hWriteMsg_refused (above : nrGuestIvshmemMsgs ≤ index)
    (ghMsg : Option UInt64) :
    guestIvshmemG2hWriteMsg driver index ghMsg memory = .error .einval := by
  unfold guestIvshmemG2hWriteMsg
  cases ghMsg with
  | none => rfl
  | some msg => exact if_pos above

end Write

/-! ## What a probe accepts -/

/-- What a header has passed whose device is mapped. -/
structure HeaderPassed (calls : GuestCalls) (bar : PciBar) (hdr : IvshmemHeader)
    (guest : GuestIvshmemDevice) : Prop where
  magic : hdr.magic = pvschedMagic
  version : hdr.version = pvschedVersion
  adjacent : hdr.h2gPageOffset.toNat = guestIvshmemMetadataOffset + guestIvshmemMetadataSize
  fits : (hdr.g2hPageOffset + hdr.g2hPageSize).toNat ≤ bar.len
  iomapG2h : calls.iomapG2h = true
  mapped : guest = mappedDevice bar hdr

theorem probeHeader_ok {calls : GuestCalls} {bar : PciBar} {hdr : IvshmemHeader}
    {guest : GuestIvshmemDevice} (accepted : probeHeader calls bar hdr = .ok guest) :
    HeaderPassed calls bar hdr guest := by
  unfold probeHeader at accepted
  split at accepted
  · cases accepted
  split at accepted
  · cases accepted
  split at accepted
  · cases accepted
  split at accepted
  · cases accepted
  rename_i known adjacent fits iomapG2h
  rw [not_or, not_not, not_not] at known
  exact ⟨known.1, known.2, not_not.mp adjacent, Nat.not_lt.mp fits,
    Bool.of_not_eq_false iomapG2h, (Except.ok.inj accepted).symm⟩

/-- What a probe has passed that gets to its header. -/
structure RegionPassed (calls : GuestCalls) (bar : PciBar) : Prop where
  kzalloc : calls.kzalloc = true
  pciEnableDevice : calls.pciEnableDevice = none
  isMem : bar.isMem = true
  metadata : guestIvshmemMetadataSize ≤ bar.len
  pciRequestRegion : calls.pciRequestRegion = none
  iomapMetadata : calls.iomapMetadata = true

theorem probeDevice_ok {calls : GuestCalls} {bar : PciBar} {guest : GuestIvshmemDevice}
    (accepted : probeDevice calls bar = .ok guest) :
    RegionPassed calls bar ∧
      HeaderPassed calls bar (IvshmemHeader.read bar.memory) guest := by
  unfold probeDevice at accepted
  split at accepted
  · cases accepted
  split at accepted
  · cases accepted
  split at accepted
  · cases accepted
  split at accepted
  · cases accepted
  split at accepted
  · cases accepted
  split at accepted
  · cases accepted
  rename_i allocated _ enabled isMem large _ requested mapped
  exact ⟨⟨Bool.of_not_eq_false allocated, enabled, Bool.of_not_eq_false isMem,
    Nat.not_lt.mp large, requested, Bool.of_not_eq_false mapped⟩, probeHeader_ok accepted⟩

/-- When no kernel function fails, a probe accepts every header that passes the
checks. -/
theorem probeDevice_accepts {bar : PciBar} {hdr : IvshmemHeader} (isMem : bar.isMem = true)
    (metadata : guestIvshmemMetadataSize ≤ bar.len) (header : IvshmemHeader.read bar.memory = hdr)
    (magic : hdr.magic = pvschedMagic) (version : hdr.version = pvschedVersion)
    (adjacent : hdr.h2gPageOffset.toNat = guestIvshmemMetadataOffset + guestIvshmemMetadataSize)
    (fits : (hdr.g2hPageOffset + hdr.g2hPageSize).toNat ≤ bar.len) :
    probeDevice .working bar = .ok (mappedDevice bar hdr) := by
  have checked : probeHeader .working bar hdr = .ok (mappedDevice bar hdr) := by
    unfold probeHeader GuestCalls.working
    rw [if_neg (by simp [magic, version]), if_neg (absurd adjacent),
      if_neg (Nat.not_lt.mpr fits), if_neg (by decide)]
  unfold probeDevice GuestCalls.working
  simp only [isMem, if_neg (Nat.not_lt.mpr metadata), header]
  exact checked

/-- A probe that succeeds publishes a device mapped where the header says. -/
theorem guestIvshmemProbe_ok {calls : GuestCalls} {bar : PciBar} {before after : GuestDriver}
    (probed : guestIvshmemProbe calls bar before = (after, .ok ())) :
    after.MappedAt (IvshmemHeader.read bar.memory).g2hPageOffset.toNat := by
  unfold guestIvshmemProbe at probed
  split at probed
  · cases probed
  · rename_i guest accepted
    cases probed
    have shape := (probeDevice_ok accepted).2.mapped
    exact ⟨guest, rfl, congrArg GuestIvshmemDevice.g2hPage shape⟩

end PhantomTracker.Shmem
