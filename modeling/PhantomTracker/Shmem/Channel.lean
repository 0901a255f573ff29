import PhantomTracker.Shmem.GuestDriver
import PhantomTracker.Shmem.HostDriver

/-!
Contract: the guest-to-host channel, from a guest write to the host read of the
same slot.

Owns: when a guest driver is bound to a registered region, the region under any
sequence of guest and host messages, the array of slots that this region
implements, and the round trip of a message through the channel.

Does not own: what the messages mean, or the programs that send them.
-/

namespace PhantomTracker.Shmem

open PhantomTracker.Foundation

/-! ## The slots of a region -/

/-- The word of each guest-to-host slot. The padding of a slot is never read. -/
def slotsOf (memory : Memory) (index : Nat) : UInt64 := memory.load64 (hostG2hSlot index)

/-- Storing into one slot is updating one element of the array of slots. -/
theorem slotsOf_store64 (memory : Memory) (index : Nat) (msg : UInt64) :
    slotsOf (memory.store64 (hostG2hSlot index) msg) =
      Function.update (slotsOf memory) index msg := by
  funext other
  by_cases same : other = index
  · subst same
    rw [Function.update_self]
    exact Memory.load64_store64 memory _ msg
  · rw [Function.update_of_ne same]
    apply Memory.load64_store64_disjoint
    unfold hostG2hSlot guestIvshmemMsgSize
    omega

/-- Bytes below the guest-to-host pages do not belong to a slot. -/
theorem slotsOf_congr {left right : Memory}
    (agree : ∀ target, hostIvshmemG2hOffset ≤ target → left target = right target) :
    slotsOf left = slotsOf right := by
  funext index
  apply congrArg UInt64.ofNat
  apply Memory.load_congr
  intro target above _
  apply agree
  unfold hostG2hSlot at above
  omega

theorem hostIvshmemG2hRead_eq (backend : HostIvshmemBackend) (memory : Memory) (buffer : UInt64)
    {index : Nat} (below : index < nrGuestIvshmemMsgs) :
    hostIvshmemG2hRead (some { backend with mem := some memory }) index (some buffer) =
      .ok (slotsOf memory index) :=
  if_neg (Nat.not_le.mpr below)

/-! ## A bound guest driver -/

/-- The guest driver probed a BAR that exposes the region of `backend`. Nothing
rewrites the metadata page of a region, so it is the one the host created. -/
def GuestBound (backend : HostIvshmemBackend) (driver : GuestDriver) : Prop :=
  ∃ calls bar before created, guestIvshmemProbe calls bar before = (driver, .ok ()) ∧
    backend.mem = some created ∧ bar.len = backend.size ∧
    ∀ target, target < pageSize → bar.memory target = created target

section Bound

variable {nbCpu : UInt32} {backend : HostIvshmemBackend} {driver : GuestDriver}

/-- The header that a bound driver has read is the one the host wrote. -/
theorem RegisteredBackend.header (registered : RegisteredBackend nbCpu backend)
    {created memory : Memory} (present : backend.mem = some created)
    (agree : ∀ target, target < pageSize → memory target = created target) :
    IvshmemHeader.read memory = backendHeader (backendSize nbCpu) := by
  have region := registered.region.1
  rw [present] at region
  rw [IvshmemHeader.read_congr agree, Option.some.inj region]
  exact IvshmemHeader.read_write _ _

/-- Host and guest agree on where the guest-to-host pages start. -/
theorem GuestBound.mapped (registered : RegisteredBackend nbCpu backend)
    (bound : GuestBound backend driver) : driver.MappedAt hostIvshmemG2hOffset := by
  rcases bound with ⟨calls, bar, before, created, probed, present, _, agree⟩
  have mapped := guestIvshmemProbe_ok probed
  rw [registered.header present agree] at mapped
  exact mapped

/-- The end of the guest-to-host pages, as the guest computes it with 64-bit
arithmetic, is the size of the region. -/
theorem backendHeader_end (nbCpu : UInt32) :
    ((backendHeader (backendSize nbCpu)).g2hPageOffset +
      (backendHeader (backendSize nbCpu)).g2hPageSize).toNat = backendSize nbCpu := by
  have large := g2hOffset_le_backendSize nbCpu
  have small := backendSize_lt nbCpu
  unfold backendHeader
  simp only [UInt64.toNat_add, UInt64.toNat_ofNat']
  omega

/-- The BAR that exposes a region as the host has created it. -/
def newBar (nbCpu : UInt32) : PciBar :=
  ⟨true, 0, backendSize nbCpu, (backendHeader (backendSize nbCpu)).write fun _ => 0⟩

/-- The driver after its first probe has bound that BAR. -/
def boundDriver (nbCpu : UInt32) : GuestDriver :=
  ⟨some (mappedDevice (newBar nbCpu) (backendHeader (backendSize nbCpu))), 0⟩

theorem guestIvshmemProbe_newBar (nbCpu : UInt32) :
    guestIvshmemProbe .working (newBar nbCpu) ⟨none, 0⟩ = (boundDriver nbCpu, .ok ()) := by
  have metadata : guestIvshmemMetadataSize ≤ (newBar nbCpu).len :=
    Nat.le_trans (by decide) (g2hOffset_le_backendSize nbCpu)
  have fits : ((backendHeader (backendSize nbCpu)).g2hPageOffset +
      (backendHeader (backendSize nbCpu)).g2hPageSize).toNat ≤ (newBar nbCpu).len :=
    Nat.le_of_eq (backendHeader_end nbCpu)
  have accepted := probeDevice_accepts rfl metadata (IvshmemHeader.read_write _ _) rfl rfl rfl fits
  unfold guestIvshmemProbe
  rw [accepted]
  rfl

/-- When no kernel function fails, the driver binds to every region that the
host registers. -/
theorem guestBound_boundDriver (registered : RegisteredBackend nbCpu backend) :
    GuestBound backend (boundDriver nbCpu) :=
  ⟨.working, newBar nbCpu, ⟨none, 0⟩, _, guestIvshmemProbe_newBar nbCpu, registered.region.1,
    registered.region.2.symm, fun _ _ => rfl⟩

end Bound

/-! ## Runs of the region -/

inductive RegionEvent where
  | guestWrite (index : Nat) (msg : UInt64)
  | hostWrite (index : Nat) (msg : UInt64)
deriving DecidableEq, Repr

/-- The region after one message. A refused message leaves it alone. -/
def regionStep (backend : HostIvshmemBackend) (driver : GuestDriver) (memory : Memory) :
    RegionEvent → Memory
  | .guestWrite index msg =>
      match guestIvshmemG2hWriteMsg driver index (some msg) memory with
      | .ok after => after
      | .error _ => memory
  | .hostWrite index msg =>
      match hostIvshmemH2gWriteMsg (some { backend with mem := some memory }) index (some msg) with
      | .ok after => after
      | .error _ => memory

def regionRun (backend : HostIvshmemBackend) (driver : GuestDriver) (memory : Memory)
    (events : List RegionEvent) : Memory :=
  events.foldl (regionStep backend driver) memory

theorem regionRun_append_cons (backend : HostIvshmemBackend) (driver : GuestDriver)
    (memory : Memory) (earlier later : List RegionEvent) (event : RegionEvent) :
    regionRun backend driver memory (earlier ++ event :: later) =
      regionRun backend driver
        (regionStep backend driver (regionRun backend driver memory earlier) event) later := by
  unfold regionRun
  rw [List.foldl_append, List.foldl_cons]

section Region

variable {backend : HostIvshmemBackend} {driver : GuestDriver} {memory : Memory} {index : Nat}

/-- A host message touches only the host-to-guest page. -/
theorem slotsOf_hostWrite (backend : HostIvshmemBackend) (driver : GuestDriver) (memory : Memory)
    (index : Nat) (msg : UInt64) :
    slotsOf (regionStep backend driver memory (.hostWrite index msg)) = slotsOf memory := by
  unfold regionStep hostIvshmemH2gWriteMsg backendMem
  by_cases refused : index = h2gLatestSlot ∨ index ≥ nrHostIvshmemMsgs
  · simp only [Option.bind_some, if_pos refused]
  · simp only [Option.bind_some, if_neg refused]
    apply slotsOf_congr
    intro target above
    have inside : index < 64 := Nat.not_le.mp (not_or.mp refused).2
    unfold hostIvshmemG2hOffset hostMetadataSize pageSize at above
    rw [Memory.store64_outside, Memory.store64_outside]
    all_goals
      unfold hostIvshmemH2gOffset hostMetadataSize pageSize hostIvshmemMsgSize
      first | omega | (unfold h2gLatestSlot; omega)

/-- A guest message that the driver accepts updates its slot. -/
theorem slotsOf_guestWrite (mapped : driver.MappedAt hostIvshmemG2hOffset)
    (below : index < nrGuestIvshmemMsgs) (msg : UInt64) :
    slotsOf (regionStep backend driver memory (.guestWrite index msg)) =
      Function.update (slotsOf memory) index msg := by
  simp only [regionStep, guestIvshmemG2hWriteMsg_accepted mapped below msg]
  exact slotsOf_store64 memory index msg

/-- A message for another slot leaves a slot alone, whether it is accepted or
not. -/
theorem slotsOf_regionStep_of_ne (mapped : driver.MappedAt hostIvshmemG2hOffset)
    {event : RegionEvent} (elsewhere : ∀ msg, event ≠ .guestWrite index msg) :
    slotsOf (regionStep backend driver memory event) index = slotsOf memory index := by
  cases event with
  | hostWrite target msg => rw [slotsOf_hostWrite]
  | guestWrite target msg =>
      have different : index ≠ target := by
        intro same
        subst same
        exact elsewhere msg rfl
      by_cases below : target < nrGuestIvshmemMsgs
      · rw [slotsOf_guestWrite mapped below, Function.update_of_ne different]
      · simp only [regionStep, guestIvshmemG2hWriteMsg_refused (Nat.not_lt.mp below)]

theorem slotsOf_regionRun_of_ne (mapped : driver.MappedAt hostIvshmemG2hOffset)
    {events : List RegionEvent} (elsewhere : ∀ msg, .guestWrite index msg ∉ events) :
    slotsOf (regionRun backend driver memory events) index = slotsOf memory index := by
  induction events generalizing memory with
  | nil => rfl
  | cons event rest inductionHypothesis =>
      have here : ∀ msg, event ≠ .guestWrite index msg := by
        intro msg same
        exact elsewhere msg (same ▸ List.mem_cons_self)
      have later : ∀ msg, .guestWrite index msg ∉ rest := by
        intro msg member
        exact elsewhere msg (List.mem_cons_of_mem event member)
      show slotsOf (regionRun backend driver (regionStep backend driver memory event) rest) index =
        slotsOf memory index
      rw [inductionHypothesis later, slotsOf_regionStep_of_ne mapped here]

end Region

/-! ## The round trip -/

/-- The channel works for the vCPU with the given index, whatever the region
holds and whichever messages were sent before. -/
structure RoundTrip (backend : HostIvshmemBackend) (driver : GuestDriver) (index : Nat) :
    Prop where
  /-- The region has a slot for the vCPU. -/
  inRegion : hostG2hSlot index + guestIvshmemMsgSize ≤ backend.size
  /-- The guest driver accepts the write. -/
  accepted : ∀ start events msg,
    ∃ after, guestIvshmemG2hWriteMsg driver index (some msg)
      (regionRun backend driver start events) = .ok after
  /-- A host read returns the last value that the guest wrote. -/
  readsLast : ∀ start earlier msg later buffer, (∀ other, .guestWrite index other ∉ later) →
    hostIvshmemG2hRead
      (some { backend with
        mem := some (regionRun backend driver start
          (earlier ++ .guestWrite index msg :: later)) })
      index (some buffer) = .ok msg
  /-- The write changes no byte of another slot. -/
  otherSlots : ∀ memory msg after,
    guestIvshmemG2hWriteMsg driver index (some msg) memory = .ok after →
      ∀ other offset, other ≠ index → offset < guestIvshmemMsgSize →
        after (hostG2hSlot other + offset) = memory (hostG2hSlot other + offset)
  /-- The write changes no byte of the metadata and host-to-guest pages. -/
  lowerPages : ∀ memory msg after,
    guestIvshmemG2hWriteMsg driver index (some msg) memory = .ok after →
      ∀ target, target < hostIvshmemG2hOffset → after target = memory target

section RoundTrip

variable {nbCpu : UInt32} {backend : HostIvshmemBackend} {driver : GuestDriver} {index : Nat}

theorem roundTrip_of_mapped (inRegion : hostG2hSlot index + guestIvshmemMsgSize ≤ backend.size)
    (mapped : driver.MappedAt hostIvshmemG2hOffset) (below : index < nrGuestIvshmemMsgs) :
    RoundTrip backend driver index where
  inRegion := inRegion
  accepted _ _ msg := ⟨_, guestIvshmemG2hWriteMsg_accepted mapped below msg⟩
  readsLast start earlier msg later buffer elsewhere := by
    rw [hostIvshmemG2hRead_eq _ _ _ below, regionRun_append_cons,
      slotsOf_regionRun_of_ne mapped elsewhere, slotsOf_guestWrite mapped below,
      Function.update_self]
  otherSlots memory msg after written other offset different inside := by
    rw [guestIvshmemG2hWriteMsg_accepted mapped below] at written
    rw [← Except.ok.inj written]
    apply Memory.store64_outside
    unfold hostG2hSlot guestIvshmemMsgSize
    unfold guestIvshmemMsgSize at inside
    omega
  lowerPages memory msg after written target low := by
    rw [guestIvshmemG2hWriteMsg_accepted mapped below] at written
    rw [← Except.ok.inj written]
    apply Memory.store64_outside
    omega

theorem not_roundTrip_of_refused (above : nrGuestIvshmemMsgs ≤ index) :
    ¬ RoundTrip backend driver index := by
  intro works
  rcases works.accepted (fun _ => 0) [] 0 with ⟨after, accepted⟩
  rw [guestIvshmemG2hWriteMsg_refused above] at accepted
  cases accepted

/-- **The channel serves the vCPUs of the first guest-to-host page.** The
region is sized for every vCPU of the request, but both drivers bound the index
by the messages of a single page. -/
theorem round_trip_iff_first_page (registered : RegisteredBackend nbCpu backend)
    (bound : GuestBound backend driver) (vcpu : index < nbCpu.toNat) :
    RoundTrip backend driver index ↔ index < nrGuestIvshmemMsgs := by
  constructor
  · intro works
    apply Nat.not_le.mp
    intro above
    exact not_roundTrip_of_refused above works
  · intro below
    have inRegion : hostG2hSlot index + guestIvshmemMsgSize ≤ backend.size := by
      rw [registered.region.2]
      exact hostG2hSlot_le_backendSize vcpu
    exact roundTrip_of_mapped inRegion (GuestBound.mapped registered bound) below

end RoundTrip

/-- The first backend of an empty registry, when no kernel function fails. -/
def firstBackend (nbCpu : UInt32) : HostIvshmemBackend :=
  ⟨some ((backendHeader (backendSize nbCpu)).write fun _ => 0), backendSize nbCpu, 1⟩

theorem registered_firstBackend (nbCpu : UInt32) :
    RegisteredBackend nbCpu (firstBackend nbCpu) :=
  ⟨⟨true, true, none, none⟩, ⟨0, fun _ => none⟩, _, _, rfl, rfl⟩

/-- The last vCPU of a VM with 64 vCPUs has a working channel. -/
theorem last_of_first_page_round_trip :
    GuestBound (firstBackend 64) (boundDriver 64) ∧
      RoundTrip (firstBackend 64) (boundDriver 64) 63 := by
  have registered := registered_firstBackend 64
  have bound := guestBound_boundDriver registered
  have vcpu : 63 < (64 : UInt32).toNat := by decide
  exact ⟨bound, (round_trip_iff_first_page registered bound vcpu).mpr (by decide)⟩

/-- In a VM with 65 vCPUs the region has a slot for vCPU 64, but the guest
driver refuses to write it and the host refuses to read it. -/
theorem second_page_refused :
    RegisteredBackend 65 (firstBackend 65) ∧ GuestBound (firstBackend 65) (boundDriver 65) ∧
      64 < (65 : UInt32).toNat ∧
      hostG2hSlot 64 + guestIvshmemMsgSize ≤ (firstBackend 65).size ∧
      (∀ msg memory,
        guestIvshmemG2hWriteMsg (boundDriver 65) 64 (some msg) memory = .error .einval) ∧
      (∀ buffer, hostIvshmemG2hRead (some (firstBackend 65)) 64 (some buffer) = .error .einval) ∧
      ¬ RoundTrip (firstBackend 65) (boundDriver 65) 64 := by
  have registered := registered_firstBackend 65
  refine ⟨registered, guestBound_boundDriver registered, by decide,
    hostG2hSlot_le_backendSize (by decide), ?_, ?_, not_roundTrip_of_refused (by decide)⟩
  · intro msg memory
    exact guestIvshmemG2hWriteMsg_refused (by decide) (some msg)
  · intro buffer
    rfl

end PhantomTracker.Shmem
