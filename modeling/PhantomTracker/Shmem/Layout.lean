import PhantomTracker.Foundation.ByteMemory

/-!
Contract: the layout of a shared-memory region, as `pvsched.h` and
`pvsched_shmem.h` describe it to both drivers.

Owns: the message and page constants, the error codes that the drivers return,
the metadata header and its place in memory, and that a header is read back as
it was written.

Does not own: who writes the header and who checks it.
-/

namespace PhantomTracker.Shmem

open PhantomTracker.Foundation

/-- `PVSCHED_IVSHMEM_PAGE_SIZE`, which both modules define as `PAGE_SIZE`. -/
def pageSize : Nat := 4096

/-- `sizeof(struct hg_message)`: one word and seven words of padding. -/
def hostIvshmemMsgSize : Nat := 64

/-- `sizeof(struct gh_message)`: one word and seven words of padding. -/
def guestIvshmemMsgSize : Nat := 64

/-- `NR_HOST_IVSHMEM_MSGS`. -/
def nrHostIvshmemMsgs : Nat := pageSize / hostIvshmemMsgSize

/-- `NR_GUEST_IVSHMEM_MSGS`. -/
def nrGuestIvshmemMsgs : Nat := pageSize / guestIvshmemMsgSize

/-- `H2G_LATEST_SLOT`. -/
def h2gLatestSlot : Nat := 0

/-- `H2G_FIRST_HISTORY_SLOT`. -/
def h2gFirstHistorySlot : Nat := 1

/-- `PVSCHED_MAGIC`. -/
def pvschedMagic : UInt32 := 0x4856534D

/-- `PVSCHED_VERSION`. -/
def pvschedVersion : UInt32 := 1

/-- `MAX_NB_DEVICES`. -/
def maxNbDevices : Nat := 256

/-- `HOST_NB_METADATA_PAGES`. -/
def hostNbMetadataPages : Nat := 1

inductive Errno where
  | eio
  | enomem
  | ebusy
  | enodev
  | einval
  | enospc
  /-- A code that the drivers pass on from a kernel function. -/
  | other (code : Nat)
deriving DecidableEq, Repr

/-- `struct ivshmem_header`. -/
structure IvshmemHeader where
  magic : UInt32
  version : UInt32
  latestSlot : UInt32
  h2gPageOffset : UInt64
  h2gPageSize : UInt64
  g2hPageOffset : UInt64
  g2hPageSize : UInt64
deriving DecidableEq, Repr

namespace IvshmemHeader

/-- Store a header at the start of a region. The compiler pads the three
32-bit fields to a multiple of eight bytes. -/
def write (header : IvshmemHeader) (memory : Memory) : Memory :=
  ((((((memory.store32 0 header.magic).store32 4 header.version).store32 8
    header.latestSlot).store64 16 header.h2gPageOffset).store64 24
    header.h2gPageSize).store64 32 header.g2hPageOffset).store64 40 header.g2hPageSize

/-- `memcpy_fromio(&hdr, metadata_page, sizeof(hdr))`. -/
def read (memory : Memory) : IvshmemHeader where
  magic := memory.load32 0
  version := memory.load32 4
  latestSlot := memory.load32 8
  h2gPageOffset := memory.load64 16
  h2gPageSize := memory.load64 24
  g2hPageOffset := memory.load64 32
  g2hPageSize := memory.load64 40

theorem read_write (header : IvshmemHeader) (memory : Memory) :
    read (header.write memory) = header := by
  unfold read write
  simp (disch := omega) only [Memory.load32_store32, Memory.load64_store64,
    Memory.load32_store32_disjoint, Memory.load32_store64_disjoint,
    Memory.load64_store64_disjoint]

/-- A header is determined by the bytes of the metadata page. -/
theorem read_congr {left right : Memory}
    (agree : ∀ target, target < pageSize → left target = right target) :
    read left = read right := by
  have field32 : ∀ addr, addr + 4 ≤ pageSize → left.load32 addr = right.load32 addr :=
    fun addr inside => congrArg UInt32.ofNat
      (Memory.load_congr fun target _ below => agree target (by omega))
  have field64 : ∀ addr, addr + 8 ≤ pageSize → left.load64 addr = right.load64 addr :=
    fun addr inside => congrArg UInt64.ofNat
      (Memory.load_congr fun target _ below => agree target (by omega))
  unfold read
  rw [field32 0 (by decide), field32 4 (by decide), field32 8 (by decide),
    field64 16 (by decide), field64 24 (by decide), field64 32 (by decide),
    field64 40 (by decide)]

end IvshmemHeader

end PhantomTracker.Shmem
