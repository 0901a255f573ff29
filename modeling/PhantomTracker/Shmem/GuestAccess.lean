import PhantomTracker.Shmem.RegionLayout

/-!
Contract: the bytes of the BAR that a bound guest driver writes or maps.

Owns: the accesses of `guest_ivshmem_g2h_write_msg`, `guest_ivshmem_mmap` with its
64-bit arithmetic, and the headers for which the checks of `guest_ivshmem_probe`
keep both inside the BAR and away from the region of the other direction.

Does not own: what is read through the mapping.

Physical addresses and `resource_size_t` have 64 bits. The character device of the
driver maps the device that the driver has published.
-/

namespace PhantomTracker.Shmem

open PhantomTracker.Foundation

/-! ## Guest writes -/

/-- The access of `guest_ivshmem_g2h_write_msg` that does not return an error, as
an offset in the BAR. -/
def guestIvshmemG2hWriteAccesses (driver : GuestDriver) (index : Nat) (ghMsg : Option UInt64) :
    Except Errno (List Access) :=
  match ghMsg with
  | none => .error .einval
  | some msg =>
      if index ≥ nrGuestIvshmemMsgs then .error .einval
      else
        match driver.published with
        | none => .error .enodev
        | some guest =>
            match guest.g2hPage with
            | none => .error .eio
            | some g2hPage => .ok [.store (g2hPage + index * guestIvshmemMsgSize) msg]

/-- A guest write is the replay of its accesses. -/
theorem guestIvshmemG2hWriteMsg_eq_replay (driver : GuestDriver) (index : Nat)
    (ghMsg : Option UInt64) (memory : Memory) :
    guestIvshmemG2hWriteMsg driver index ghMsg memory =
      (guestIvshmemG2hWriteAccesses driver index ghMsg).map (Access.replay memory) := by
  unfold guestIvshmemG2hWriteMsg guestIvshmemG2hWriteAccesses
  cases ghMsg with
  | none => rfl
  | some msg =>
      dsimp only
      split_ifs
      · rfl
      · cases driver.published with
        | none => rfl
        | some guest =>
            dsimp only
            cases guest.g2hPage <;> rfl

theorem guestIvshmemG2hWriteAccesses_ok {driver : GuestDriver} {base index : Nat}
    {ghMsg : Option UInt64} {trace : List Access} (mapped : driver.MappedAt base)
    (accepted : guestIvshmemG2hWriteAccesses driver index ghMsg = .ok trace) {access : Access}
    (member : access ∈ trace) :
    index < nrGuestIvshmemMsgs ∧ access.addr = base + index * guestIvshmemMsgSize := by
  rcases mapped with ⟨guest, published, page⟩
  unfold guestIvshmemG2hWriteAccesses at accepted
  cases ghMsg with
  | none => cases accepted
  | some msg =>
      dsimp only at accepted
      split_ifs at accepted with above
      simp only [published, page] at accepted
      cases accepted
      exact ⟨Nat.not_le.mp above, List.mem_singleton.mp member ▸ rfl⟩

/-- The last accepted index of a mapped driver is written. -/
theorem guestIvshmemG2hWriteAccesses_last {driver : GuestDriver} {base : Nat}
    (mapped : driver.MappedAt base) :
    guestIvshmemG2hWriteAccesses driver (nrGuestIvshmemMsgs - 1) (some 0) =
      .ok [.store (base + (nrGuestIvshmemMsgs - 1) * guestIvshmemMsgSize) 0] := by
  rcases mapped with ⟨guest, published, page⟩
  unfold guestIvshmemG2hWriteAccesses
  dsimp only
  rw [if_neg (by decide)]
  simp only [published, page]

/-! ## `guest_ivshmem_mmap` -/

/-- `PAGE_SHIFT`. -/
def pageShift : Nat := 12

/-- The fields of `struct vm_area_struct` that `guest_ivshmem_mmap` reads. -/
structure VmArea where
  vmStart : UInt64
  vmEnd : UInt64
  vmPgoff : UInt64
deriving DecidableEq, Repr

/-- `vma_pages`. -/
def vmaPages (vma : VmArea) : Nat := (vma.vmEnd - vma.vmStart).toNat >>> pageShift

/-- The physical pages that `remap_pfn_range` is told to map. -/
structure PfnRange where
  pfn : Nat
  size : Nat
deriving DecidableEq, Repr

/-- `guest_ivshmem_mmap`, where `remapPfnRange` is the error that
`remap_pfn_range` returns, if any. -/
def guestIvshmemMmap (remapPfnRange : Option Errno) (guest : GuestIvshmemDevice) (vma : VmArea) :
    Except Errno PfnRange :=
  let totalSize := sizeT (guestIvshmemMetadataSize + guest.h2gPageSize)
  let offset := sizeT (vma.vmPgoff.toNat <<< pageShift)
  let len := sizeT (vmaPages vma * pageSize)
  if offset ≥ totalSize ∨ len > totalSize - offset then .error .einval
  else
    match remapPfnRange with
    | some status => .error status
    | none => .ok ⟨sizeT (guest.metadataPhyPage + offset) >>> pageShift, len⟩

/-- The physical bytes of a mapping. -/
def PfnRange.bytes (range : PfnRange) : Set Nat := byteRange (range.pfn * pageSize) range.size

/-- A memory BAR starts at a page boundary and ends inside the physical address
space. -/
structure PciBar.Placed (bar : PciBar) : Prop where
  aligned : pageSize ∣ bar.start
  inSpace : bar.start + bar.len ≤ 2 ^ 64

/-- The physical bytes of a BAR. -/
def PciBar.physical (bar : PciBar) : Set Nat := byteRange bar.start bar.len

/-- The guest-to-host region as physical bytes. -/
def PciBar.physicalG2h (bar : PciBar) : Set Nat :=
  byteRange (bar.start + (IvshmemHeader.read bar.memory).g2hPageOffset.toNat)
    (IvshmemHeader.read bar.memory).g2hPageSize.toNat

/-- The end of the last page that `guest_ivshmem_mmap` gives out: the whole pages
of the 64-bit sum of the metadata size and the size of the host-to-guest region. -/
def mmapEnd (hdr : IvshmemHeader) : Nat :=
  sizeT (guestIvshmemMetadataSize + hdr.h2gPageSize.toNat) / pageSize * pageSize

section Mmap

variable {bar : PciBar} {hdr : IvshmemHeader} {vma : VmArea}

/-- A page of a placed BAR has the frame number of its physical address. -/
theorem pfn_of_offset (placed : bar.Placed) {offset : Nat} (whole : pageSize ∣ offset)
    (inside : offset < bar.len) :
    sizeT (bar.start + offset) >>> pageShift * pageSize = bar.start + offset := by
  have space := placed.inSpace
  rw [sizeT_of_lt (by omega), Nat.shiftRight_eq_div_pow]
  exact Nat.div_mul_cancel (Nat.dvd_add placed.aligned whole)

/-- What an accepted `mmap` maps: whole pages from an offset in the BAR on that
end at `mmapEnd` at the latest. -/
theorem guestIvshmemMmap_ok {remapPfnRange : Option Errno} {range : PfnRange}
    (accepted : guestIvshmemMmap remapPfnRange (mappedDevice bar hdr) vma = .ok range) :
    ∃ offset, pageSize ∣ offset ∧ offset + range.size ≤ mmapEnd hdr ∧
      range.pfn = sizeT (bar.start + offset) >>> pageShift := by
  unfold guestIvshmemMmap at accepted
  dsimp only at accepted
  split_ifs at accepted with refused
  cases remapPfnRange with
  | some status => cases accepted
  | none =>
      cases accepted
      refine ⟨sizeT (vma.vmPgoff.toNat <<< pageShift), ?_, ?_, rfl⟩
      · rw [Nat.shiftLeft_eq]
        unfold sizeT pageShift pageSize
        omega
      · rw [Nat.shiftLeft_eq] at *
        unfold mmapEnd mappedDevice sizeT pageShift pageSize at *
        dsimp only at *
        omega

/-- Any page below `mmapEnd` can be mapped alone. -/
theorem guestIvshmemMmap_page {offset : Nat} (below : offset < mmapEnd hdr) :
    guestIvshmemMmap none (mappedDevice bar hdr) ⟨0, 4096, UInt64.ofNat (offset / pageSize)⟩ =
      .ok ⟨sizeT (bar.start + offset / pageSize * pageSize) >>> pageShift, pageSize⟩ := by
  have small : offset < 2 ^ 64 := by
    unfold mmapEnd sizeT pageSize at below
    omega
  have page : sizeT ((UInt64.ofNat (offset / pageSize)).toNat <<< pageShift) =
      offset / pageSize * pageSize := by
    rw [UInt64.toNat_ofNat_of_lt' (by
      show offset / pageSize < 2 ^ 64
      exact Nat.lt_of_le_of_lt (Nat.div_le_self _ _) small), Nat.shiftLeft_eq]
    exact sizeT_of_lt (Nat.lt_of_le_of_lt (Nat.div_mul_le_self _ _) small)
  have one : sizeT (vmaPages ⟨0, 4096, UInt64.ofNat (offset / pageSize)⟩ * pageSize) = pageSize := by
    show sizeT ((4096 - 0 : UInt64).toNat >>> pageShift * pageSize) = pageSize
    decide
  unfold guestIvshmemMmap
  dsimp only
  rw [page, one, if_neg]
  · rfl
  · unfold mmapEnd mappedDevice pageSize at *
    dsimp only
    omega

end Mmap

/-! ## Headers that keep the guest in its region -/

/-- Every accepted guest write stays inside the header's guest-to-host region and
the BAR, and every accepted `mmap` inside the BAR and below that region. -/
structure GuestAccessesInside (bar : PciBar) (driver : GuestDriver) : Prop where
  writes : ∀ (index : UInt32) (ghMsg : Option UInt64) (trace : List Access),
    guestIvshmemG2hWriteAccesses driver index.toNat ghMsg = .ok trace →
    ∀ access ∈ trace,
      access.bytes ⊆ (IvshmemHeader.read bar.memory).g2hRegion ∩ Set.Ico 0 bar.len
  maps : ∀ (guest : GuestIvshmemDevice) (remapPfnRange : Option Errno) (vma : VmArea)
    (range : PfnRange), driver.published = some guest →
    guestIvshmemMmap remapPfnRange guest vma = .ok range →
    range.bytes ⊆ bar.physical ∧ Disjoint range.bytes bar.physicalG2h

/-- The bytes up to the end of the last word that a guest write can reach. -/
def g2hWriteEnd : Nat := (nrGuestIvshmemMsgs - 1) * guestIvshmemMsgSize + 8

/-- The header leaves room for the accesses: the region and the BAR hold the words
of a whole page of slots, and the pages given out by `mmap` end below the region. -/
structure IvshmemHeader.LeavesRoom (hdr : IvshmemHeader) (barLen : Nat) : Prop where
  region : g2hWriteEnd ≤ hdr.g2hPageSize.toNat
  bar : hdr.g2hPageOffset.toNat + g2hWriteEnd ≤ barLen
  mmap : mmapEnd hdr ≤ hdr.g2hPageOffset.toNat

section Validation

variable {calls : GuestCalls} {bar : PciBar} {before after : GuestDriver}

/-- A probe that succeeds publishes the device of the BAR, and the guest-to-host
region starts inside the BAR. -/
theorem guestIvshmemProbe_published (ranged : calls.Ranged bar)
    (probed : guestIvshmemProbe calls bar before = (after, .ok ())) :
    after.published = some (mappedDevice bar (IvshmemHeader.read bar.memory)) ∧
      (IvshmemHeader.read bar.memory).g2hPageOffset.toNat < bar.len := by
  unfold guestIvshmemProbe at probed
  cases outcome : probeDevice calls bar with
  | error ret =>
      rw [outcome] at probed
      cases probed
  | ok guest =>
      rw [outcome] at probed
      cases probed
      have header := (probeDevice_ok outcome).2
      have mapped := header.iomapG2h
      rw [ranged.g2h] at mapped
      exact ⟨congrArg some header.mapped, of_decide_eq_true mapped⟩

/-- Room for the writes is needed: the last index is always accepted. -/
theorem GuestAccessesInside.room (inside : GuestAccessesInside bar after)
    (mapped : after.MappedAt (IvshmemHeader.read bar.memory).g2hPageOffset.toNat) :
    g2hWriteEnd ≤ (IvshmemHeader.read bar.memory).g2hPageSize.toNat ∧
      (IvshmemHeader.read bar.memory).g2hPageOffset.toNat + g2hWriteEnd ≤ bar.len := by
  have touched := inside.writes 63 (some 0) _ (guestIvshmemG2hWriteAccesses_last mapped) _
    (List.mem_singleton.mpr rfl)
  have nonempty : ∀ start, start < start + 8 := by omega
  have region := (Set.Ico_subset_Ico_iff (nonempty _)).mp (touched.trans Set.inter_subset_left)
  have whole := (Set.Ico_subset_Ico_iff (nonempty _)).mp (touched.trans Set.inter_subset_right)
  unfold g2hWriteEnd
  dsimp only [Access.addr] at region whole
  omega

/-- Room below the region is needed: otherwise the page in which the region starts
can be mapped. -/
theorem GuestAccessesInside.mmapEnd_le (inside : GuestAccessesInside bar after)
    (placed : bar.Placed)
    (published : after.published = some (mappedDevice bar (IvshmemHeader.read bar.memory)))
    (start : (IvshmemHeader.read bar.memory).g2hPageOffset.toNat < bar.len)
    (nonempty : 0 < (IvshmemHeader.read bar.memory).g2hPageSize.toNat) :
    mmapEnd (IvshmemHeader.read bar.memory) ≤
      (IvshmemHeader.read bar.memory).g2hPageOffset.toNat := by
  by_contra above
  rw [Nat.not_le] at above
  have mapped := inside.maps _ none _ _ published (guestIvshmemMmap_page above)
  apply Set.disjoint_left.mp mapped.2
  · unfold PfnRange.bytes
    rw [pfn_of_offset placed (Nat.dvd_mul_left _ _)
      (Nat.lt_of_le_of_lt (Nat.div_mul_le_self _ _) start)]
    -- The first byte of the region lies in its own page.
    show bar.start + (IvshmemHeader.read bar.memory).g2hPageOffset.toNat ∈ _
    dsimp only
    unfold byteRange pageSize
    constructor <;> omega
  · unfold PciBar.physicalG2h byteRange
    constructor <;> omega

/-- **The guest's validation of a header is sufficient** exactly for the headers
that leave room: a probe checks none of the three conditions. -/
theorem guest_validation_sufficient_iff (placed : bar.Placed) (ranged : calls.Ranged bar)
    (probed : guestIvshmemProbe calls bar before = (after, .ok ())) :
    GuestAccessesInside bar after ↔ (IvshmemHeader.read bar.memory).LeavesRoom bar.len := by
  have mapped := guestIvshmemProbe_ok probed
  obtain ⟨published, start⟩ := guestIvshmemProbe_published ranged probed
  constructor
  · intro inside
    have writes := inside.room mapped
    have positive : 0 < g2hWriteEnd := by decide
    exact ⟨writes.1, writes.2,
      inside.mmapEnd_le placed published start (Nat.lt_of_lt_of_le positive writes.1)⟩
  · intro room
    constructor
    · intro index ghMsg trace accepted access member
      obtain ⟨below, addr⟩ := guestIvshmemG2hWriteAccesses_ok mapped accepted member
      have region := room.region
      have whole := room.bar
      unfold Access.bytes IvshmemHeader.g2hRegion byteRange
      rw [addr]
      unfold g2hWriteEnd nrGuestIvshmemMsgs pageSize guestIvshmemMsgSize at *
      exact Set.subset_inter (Set.Ico_subset_Ico (by omega) (by omega))
        (Set.Ico_subset_Ico (by omega) (by omega))
    · intro guest remapPfnRange vma range found accepted
      have same : guest = mappedDevice bar (IvshmemHeader.read bar.memory) :=
        Option.some.inj (found.symm.trans published)
      rw [same] at accepted
      obtain ⟨offset, whole, bounded, frame⟩ := guestIvshmemMmap_ok accepted
      have below := room.mmap
      have bytes : range.bytes = Set.Ico (bar.start + offset) (bar.start + offset + range.size) := by
        unfold PfnRange.bytes byteRange
        rw [frame, pfn_of_offset placed whole (by omega)]
      rw [bytes]
      constructor
      · exact Set.Ico_subset_Ico (by omega) (by omega)
      · unfold PciBar.physicalG2h byteRange
        rw [Set.Ico_disjoint_Ico]
        omega

end Validation

/-- Every header of a region with a vCPU leaves room. -/
theorem backendHeader_leavesRoom {nbCpu : UInt32} (positive : 1 ≤ nbCpu.toNat) :
    (backendHeader (backendSize nbCpu)).LeavesRoom (backendSize nbCpu) := by
  have room := g2hPage_le_backendSize positive
  have words : g2hWriteEnd ≤ pageSize := by decide
  constructor
  · rw [backendHeader_g2hSize]
    omega
  · rw [backendHeader_g2hOffset]
    omega
  · unfold mmapEnd
    rw [backendHeader_h2gSize, backendHeader_g2hOffset]
    decide

/-- The driver bound to the region of a VM with one vCPU stays inside it. -/
theorem single_vcpu_guest_inside :
    guestIvshmemProbe .working (newBar 1) ⟨none, 0⟩ = (boundDriver 1, .ok ()) ∧
      GuestAccessesInside (newBar 1) (boundDriver 1) := by
  have probed := guestIvshmemProbe_newBar 1
  have header : IvshmemHeader.read (newBar 1).memory = backendHeader (backendSize 1) :=
    IvshmemHeader.read_write _ _
  have placed : (newBar 1).Placed := ⟨Nat.dvd_zero _, by decide⟩
  have ranged : GuestCalls.working.Ranged (newBar 1) := by
    refine ⟨by decide, ?_⟩
    rw [header, backendHeader_g2hOffset]
    decide
  refine ⟨probed, (guest_validation_sufficient_iff placed ranged probed).mpr ?_⟩
  rw [header]
  exact backendHeader_leavesRoom (by decide)

/-- A header whose guest-to-host region has a single slot and whose host-to-guest
region ends behind the start of the other one. -/
def crampedHeader : IvshmemHeader := ⟨pvschedMagic, pvschedVersion, 0, 4096, 8192, 8192, 64⟩

def crampedBar : PciBar := ⟨true, 0, 16384, crampedHeader.write fun _ => 0⟩

/-- A probe accepts the cramped header. Index 63 then writes outside the
guest-to-host region, and page 2 of the mapping is the page of that region. -/
theorem cramped_header_accepted :
    crampedBar.Placed ∧ GuestCalls.working.Ranged crampedBar ∧
      guestIvshmemProbe .working crampedBar ⟨none, 0⟩ =
        (⟨some (mappedDevice crampedBar crampedHeader), 0⟩, .ok ()) ∧
      guestIvshmemG2hWriteAccesses ⟨some (mappedDevice crampedBar crampedHeader), 0⟩ 63 (some 0) =
        .ok [.store 12224 0] ∧
      12224 ∉ crampedHeader.g2hRegion ∧
      guestIvshmemMmap none (mappedDevice crampedBar crampedHeader) ⟨0, 4096, 2⟩ =
        .ok ⟨2, 4096⟩ ∧
      8192 ∈ PfnRange.bytes ⟨2, 4096⟩ ∩ crampedBar.physicalG2h ∧
      ¬ GuestAccessesInside crampedBar ⟨some (mappedDevice crampedBar crampedHeader), 0⟩ := by
  have header : IvshmemHeader.read crampedBar.memory = crampedHeader :=
    IvshmemHeader.read_write _ _
  have accepted : probeDevice .working crampedBar = .ok (mappedDevice crampedBar crampedHeader) :=
    probeDevice_accepts rfl (by decide) header rfl rfl (by decide) (by decide)
  have mapped : GuestDriver.MappedAt ⟨some (mappedDevice crampedBar crampedHeader), 0⟩
      (IvshmemHeader.read crampedBar.memory).g2hPageOffset.toNat := by
    rw [header]
    exact ⟨_, rfl, rfl⟩
  refine ⟨⟨Nat.dvd_zero _, by decide⟩, ⟨by decide, ?_⟩, ?_, by decide, ?_, by decide, ?_, ?_⟩
  · rw [header]
    decide
  · unfold guestIvshmemProbe
    rw [accepted]
    rfl
  · exact fun inside => absurd inside.2 (by decide)
  · unfold PciBar.physicalG2h
    rw [header]
    exact ⟨⟨by decide, by decide⟩, ⟨by decide, by decide⟩⟩
  · intro inside
    have region := (inside.room mapped).1
    rw [header] at region
    exact absurd region (by decide)

end PhantomTracker.Shmem
