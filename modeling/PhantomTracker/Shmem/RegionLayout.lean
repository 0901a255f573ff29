import PhantomTracker.Shmem.GuestLifecycle
import Mathlib.Algebra.Group.Int.Defs
import Mathlib.Order.CompletePartialOrder
import Mathlib.Order.Interval.Set.Disjoint
import Mathlib.Order.Interval.Set.LinearOrder

/-!
Contract: the parts of a registered region, as the host lays them out and as the
guest checks them.

Owns: the size of a region as `host_register_vm` computes it with the integer
types of C, that this computation is exact for every number of vCPUs, the
metadata page and the two message regions as sets of bytes, and that the guest
driver accepts the header of every region with a vCPU.

Does not own: which bytes the drivers touch later on.
-/

namespace PhantomTracker.Shmem

open PhantomTracker.Foundation

/-! ## The size with the types of C -/

/-- A `size_t` result of exact value `value`. -/
def sizeT (value : Nat) : Nat := value % 2 ^ 64

/-- An `int` that a value is assigned to. -/
def cInt (value : Int) : Int := value.bmod (2 ^ 32)

/-- `req->nb_cpu * HOST_IVSHMEM_MSG_SIZE`. The size of a struct is a `size_t`, so
the 32-bit `nb_cpu` is widened before the product. -/
def machineG2hBytes (nbCpu : UInt32) : Nat := sizeT (nbCpu.toNat * hostIvshmemMsgSize)

/-- `DIV_ROUND_UP` of two `size_t` values. -/
def machineDivRoundUp (n d : Nat) : Nat := sizeT (sizeT (n + d) + (2 ^ 64 - 1)) / d

/-- The `int nb_pages` of `host_register_vm`. -/
def machineNbPages (nbCpu : UInt32) : Int :=
  cInt (sizeT (hostNbMetadataPages + 1 + machineDivRoundUp (machineG2hBytes nbCpu) pageSize))

/-- `nb_pages * PVSCHED_IVSHMEM_PAGE_SIZE`. The page size is an `unsigned long`,
so `nb_pages` is converted before the product. -/
def machineBytes (nbCpu : UInt32) : Nat :=
  sizeT ((machineNbPages nbCpu % 2 ^ 64).toNat * pageSize)

/-- The `size` that `host_register_vm` stores in the new backend. -/
def machineBackendSize (nbCpu : UInt32) : Nat := sizeT (roundupPowOfTwo (machineBytes nbCpu))

/-- No step of the size computation leaves the range of its type. -/
structure SizeExact (nbCpu : UInt32) : Prop where
  g2hBytes : machineG2hBytes nbCpu = nbCpu.toNat * hostIvshmemMsgSize
  nbPages : machineNbPages nbCpu = nbPages nbCpu
  bytes : machineBytes nbCpu = Shmem.nbPages nbCpu * pageSize
  size : machineBackendSize nbCpu = backendSize nbCpu

theorem sizeT_of_lt {value : Nat} (below : value < 2 ^ 64) : sizeT value = value :=
  Nat.mod_eq_of_lt below

theorem machineDivRoundUp_eq {n d : Nat} (positive : 0 < d) (below : n + d < 2 ^ 64) :
    machineDivRoundUp n d = divRoundUp n d := by
  have dividend : sizeT (sizeT (n + d) + (2 ^ 64 - 1)) = n + d - 1 := by
    unfold sizeT
    omega
  unfold machineDivRoundUp divRoundUp
  rw [dividend]

/-- The pages of the largest request fit an `int`. -/
theorem nbPages_le (nbCpu : UInt32) : nbPages nbCpu ≤ 2 ^ 26 + 2 := by
  have below := nbCpu.toNat_lt
  unfold nbPages divRoundUp hostNbMetadataPages hostIvshmemMsgSize pageSize
  omega

theorem sizeExact (nbCpu : UInt32) : SizeExact nbCpu := by
  have request := nbCpu.toNat_lt
  have few := nbPages_le nbCpu
  have product : machineG2hBytes nbCpu = nbCpu.toNat * hostIvshmemMsgSize := by
    apply sizeT_of_lt
    unfold hostIvshmemMsgSize
    omega
  have pages : machineNbPages nbCpu = nbPages nbCpu := by
    unfold machineNbPages
    rw [product, machineDivRoundUp_eq (by decide) (by
      unfold hostIvshmemMsgSize pageSize
      omega)]
    change cInt (sizeT (nbPages nbCpu)) = _
    rw [sizeT_of_lt (by omega)]
    exact Int.bmod_eq_of_le (by omega) (by omega)
  have bytes : machineBytes nbCpu = nbPages nbCpu * pageSize := by
    unfold machineBytes
    rw [pages, Int.emod_eq_of_lt (by omega) (by omega), Int.toNat_natCast]
    apply sizeT_of_lt
    unfold pageSize
    omega
  refine ⟨product, pages, bytes, ?_⟩
  unfold machineBackendSize
  rw [bytes]
  exact sizeT_of_lt (backendSize_lt nbCpu)

/-! ## The regions of a header -/

/-- The bytes of a region that starts at `offset`. -/
def byteRange (offset size : Nat) : Set Nat := Set.Ico offset (offset + size)

def metadataRegion : Set Nat := byteRange guestIvshmemMetadataOffset guestIvshmemMetadataSize

namespace IvshmemHeader

variable (hdr : IvshmemHeader)

/-- The host-to-guest region that a header describes. The end of a region is an
exact sum, also where a 64-bit sum wraps. -/
def h2gRegion : Set Nat := byteRange hdr.h2gPageOffset.toNat hdr.h2gPageSize.toNat

/-- The guest-to-host region that a header describes. -/
def g2hRegion : Set Nat := byteRange hdr.g2hPageOffset.toNat hdr.g2hPageSize.toNat

/-- Offsets and sizes are whole pages. -/
structure PageAligned : Prop where
  h2gOffset : pageSize ∣ hdr.h2gPageOffset.toNat
  h2gSize : pageSize ∣ hdr.h2gPageSize.toNat
  g2hOffset : pageSize ∣ hdr.g2hPageOffset.toNat
  g2hSize : pageSize ∣ hdr.g2hPageSize.toNat

/-- The metadata page and the two regions partition the first `size` bytes. -/
structure Partitions (size : Nat) : Prop where
  metadataH2g : Disjoint metadataRegion hdr.h2gRegion
  metadataG2h : Disjoint metadataRegion hdr.g2hRegion
  h2gG2h : Disjoint hdr.h2gRegion hdr.g2hRegion
  cover : metadataRegion ∪ hdr.h2gRegion ∪ hdr.g2hRegion = Set.Ico 0 size

end IvshmemHeader

/-! ## The regions of a new backend -/

section Backend

variable {nbCpu : UInt32}

theorem backendHeader_h2gOffset (size : Nat) :
    (backendHeader size).h2gPageOffset.toNat = pageSize := by
  show (UInt64.ofNat hostIvshmemH2gOffset).toNat = pageSize
  decide

theorem backendHeader_h2gSize (size : Nat) :
    (backendHeader size).h2gPageSize.toNat = pageSize := by
  show (UInt64.ofNat pageSize).toNat = pageSize
  decide

theorem backendHeader_g2hOffset (size : Nat) :
    (backendHeader size).g2hPageOffset.toNat = hostIvshmemG2hOffset := by
  show (UInt64.ofNat hostIvshmemG2hOffset).toNat = hostIvshmemG2hOffset
  decide

theorem backendHeader_h2gRegion (size : Nat) :
    (backendHeader size).h2gRegion = Set.Ico pageSize (2 * pageSize) := by
  unfold IvshmemHeader.h2gRegion byteRange
  rw [backendHeader_h2gOffset, backendHeader_h2gSize, ← Nat.two_mul]

theorem backendHeader_g2hSize (nbCpu : UInt32) :
    (backendHeader (backendSize nbCpu)).g2hPageSize.toNat =
      backendSize nbCpu - hostIvshmemG2hOffset := by
  have small := backendSize_lt nbCpu
  show (UInt64.ofNat _).toNat = _
  rw [UInt64.toNat_ofNat_of_lt']
  exact Nat.lt_of_le_of_lt (Nat.sub_le _ _) small

theorem backendHeader_g2hRegion (nbCpu : UInt32) :
    (backendHeader (backendSize nbCpu)).g2hRegion =
      Set.Ico (2 * pageSize) (backendSize nbCpu) := by
  have large := g2hOffset_le_backendSize nbCpu
  unfold IvshmemHeader.g2hRegion byteRange
  rw [backendHeader_g2hSize, backendHeader_g2hOffset, Nat.add_sub_of_le large]
  rfl

theorem backendHeader_partitions (nbCpu : UInt32) :
    (backendHeader (backendSize nbCpu)).Partitions (backendSize nbCpu) := by
  have large : 2 * pageSize ≤ backendSize nbCpu := g2hOffset_le_backendSize nbCpu
  have metadata : metadataRegion = Set.Ico 0 pageSize := by
    unfold metadataRegion byteRange guestIvshmemMetadataOffset guestIvshmemMetadataSize
    rw [Nat.zero_add]
  constructor
  · rw [metadata, backendHeader_h2gRegion]
    exact Set.Ico_disjoint_Ico_same
  · rw [metadata, backendHeader_g2hRegion, Set.Ico_disjoint_Ico]
    exact (Nat.min_le_left _ _).trans ((by decide : pageSize ≤ 2 * pageSize).trans
      (Nat.le_max_right _ _))
  · rw [backendHeader_h2gRegion, backendHeader_g2hRegion]
    exact Set.Ico_disjoint_Ico_same
  · rw [metadata, backendHeader_h2gRegion, backendHeader_g2hRegion,
      Set.Ico_union_Ico_eq_Ico (by decide) (by decide), Set.Ico_union_Ico_eq_Ico (by decide) large]

theorem pageSize_dvd_backendSize (nbCpu : UInt32) : pageSize ∣ backendSize nbCpu := by
  apply pow_dvd_roundupPowOfTwo (k := 12)
  exact Nat.le_mul_of_pos_left pageSize (by unfold nbPages hostNbMetadataPages; omega)

theorem backendHeader_pageAligned (nbCpu : UInt32) :
    (backendHeader (backendSize nbCpu)).PageAligned where
  h2gOffset := (backendHeader_h2gOffset _).symm ▸ Nat.dvd_refl pageSize
  h2gSize := (backendHeader_h2gSize _).symm ▸ Nat.dvd_refl pageSize
  g2hOffset := by
    rw [backendHeader_g2hOffset]
    decide
  g2hSize := by
    rw [backendHeader_g2hSize]
    exact Nat.dvd_sub (pageSize_dvd_backendSize nbCpu) (by decide)

theorem slot_subset_g2hRegion {index : Nat} (vcpu : index < nbCpu.toNat) :
    byteRange (hostG2hSlot index) guestIvshmemMsgSize ⊆
      (backendHeader (backendSize nbCpu)).g2hRegion := by
  rw [backendHeader_g2hRegion]
  apply Set.Ico_subset_Ico
  · exact Nat.le_add_right hostIvshmemG2hOffset _
  · exact hostG2hSlot_le_backendSize vcpu

/-- A region with a vCPU has room above the fixed pages. -/
theorem g2hPage_le_backendSize (positive : 1 ≤ nbCpu.toNat) :
    hostIvshmemG2hOffset + pageSize ≤ backendSize nbCpu := by
  have pages : 3 ≤ nbPages nbCpu := by
    unfold nbPages divRoundUp hostNbMetadataPages hostIvshmemMsgSize pageSize
    omega
  calc hostIvshmemG2hOffset + pageSize = 3 * pageSize := by decide
    _ ≤ nbPages nbCpu * pageSize := Nat.mul_le_mul_right pageSize pages
    _ ≤ backendSize nbCpu := le_roundupPowOfTwo _

/-- A BAR that exposes the header of a region with a vCPU, on a machine where
nothing fails but a mapping beyond the BAR, has everything that a probe asks
for. -/
theorem probeDevice_of_backendHeader {calls : GuestCalls} {bar : PciBar} (positive : 1 ≤ nbCpu.toNat)
    (kzalloc : calls.kzalloc = true) (enabled : calls.pciEnableDevice = none)
    (requested : calls.pciRequestRegion = none) (ranged : calls.Ranged bar)
    (isMem : bar.isMem = true) (length : bar.len = backendSize nbCpu)
    (header : IvshmemHeader.read bar.memory = backendHeader (backendSize nbCpu)) :
    probeDevice calls bar = .ok (mappedDevice bar (backendHeader (backendSize nbCpu))) := by
  have room : hostIvshmemG2hOffset + pageSize ≤ bar.len := by
    rw [length]
    exact g2hPage_le_backendSize positive
  have metadata : calls.iomapMetadata = true := by
    rw [ranged.metadata]
    exact decide_eq_true (Nat.lt_of_lt_of_le (by decide) room)
  have g2h : calls.iomapG2h = true := by
    rw [ranged.g2h, header, backendHeader_g2hOffset]
    exact decide_eq_true (Nat.lt_of_lt_of_le (by decide) room)
  have working : calls = .working := by
    cases calls
    simp_all [GuestCalls.working]
  rw [working]
  apply probeDevice_accepts isMem (Nat.le_trans (by decide) room) header rfl rfl
  · exact backendHeader_h2gOffset _
  · rw [length]
    exact Nat.le_of_eq (backendHeader_end nbCpu)

end Backend

/-! ## Host and guest agree -/

/-- What host and guest agree on for a region of `size` bytes that was registered
for `nb_cpu` vCPUs and carries the header `hdr`. -/
structure LayoutAgrees (nbCpu : UInt32) (size : Nat) (hdr : IvshmemHeader) : Prop where
  exact : SizeExact nbCpu ∧ size = machineBackendSize nbCpu
  powerOfTwo : ∃ k, size = 2 ^ k
  tight : nbPages nbCpu * pageSize ≤ size ∧ size < 2 * (nbPages nbCpu * pageSize)
  aligned : hdr.PageAligned
  partitions : hdr.Partitions size
  slots : ∀ i, i < nbCpu.toNat → byteRange (hostG2hSlot i) guestIvshmemMsgSize ⊆ hdr.g2hRegion
  accepted : ∀ (calls : GuestCalls) (bar : PciBar) (driver : GuestDriver),
    calls.kzalloc = true → calls.pciEnableDevice = none → calls.pciRequestRegion = none →
    calls.Ranged bar → bar.isMem = true → bar.len = size → IvshmemHeader.read bar.memory = hdr →
    (guestIvshmemProbe calls bar driver).2 = .ok ()

/-- **Host layout and guest validation agree.** The region of every VM with a
vCPU has an exact size that is a power of two and wastes less than half of its
pages, its header splits it into aligned parts with a slot for every vCPU, and
the guest driver accepts it. -/
theorem registered_layout_agrees {nbCpu : UInt32} {backend : HostIvshmemBackend} {created : Memory}
    (positive : 1 ≤ nbCpu.toNat) (registered : RegisteredBackend nbCpu backend)
    (present : backend.mem = some created) :
    LayoutAgrees nbCpu backend.size (IvshmemHeader.read created) := by
  have pages : 1 < nbPages nbCpu * pageSize := by
    unfold nbPages hostNbMetadataPages pageSize
    omega
  rw [registered.header present fun _ _ => rfl, registered.region.2]
  exact {
    exact := ⟨sizeExact nbCpu, (sizeExact nbCpu).size.symm⟩
    powerOfTwo := ⟨_, rfl⟩
    tight := ⟨le_roundupPowOfTwo _, roundupPowOfTwo_lt pages⟩
    aligned := backendHeader_pageAligned nbCpu
    partitions := backendHeader_partitions nbCpu
    slots := fun _ vcpu => slot_subset_g2hRegion vcpu
    accepted := by
      intro calls bar driver kzalloc enabled requested ranged isMem length header
      unfold guestIvshmemProbe
      rw [probeDevice_of_backendHeader positive kzalloc enabled requested ranged isMem length header]
  }

/-- The layout of the largest possible request: 2 ^ 32 - 1 vCPUs. -/
theorem largest_request_layout :
    RegisteredBackend 0xffffffff (firstBackend 0xffffffff) ∧
      LayoutAgrees 0xffffffff (firstBackend 0xffffffff).size
        (IvshmemHeader.read
          ((backendHeader (backendSize 0xffffffff)).write fun _ => 0)) :=
  ⟨registered_firstBackend _,
    registered_layout_agrees (by decide) (registered_firstBackend _) rfl⟩

end PhantomTracker.Shmem
