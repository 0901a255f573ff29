import PhantomTracker.Shmem.RegionLayout

/-!
Contract: the bytes of a region that the host accessors touch.

Owns: the accesses of `host_ivshmem_h2g_write_msg` and `host_ivshmem_g2h_read` in
order, that replaying them is what the two functions do, and the backends whose
accessors stay inside the regions of their header.

Does not own: the accesses of the guest.
-/

namespace PhantomTracker.Shmem

open PhantomTracker.Foundation

/-! ## The accesses of the accessors -/

/-- The accesses of `host_ivshmem_h2g_write_msg` that does not return an error:
the history slot, then the latest slot. -/
def hostIvshmemH2gWriteAccesses (backend : Option HostIvshmemBackend) (index : Nat)
    (hgMsg : Option UInt64) : Except Errno (List Access) :=
  match backendMem backend, hgMsg with
  | none, _ => .error .enodev
  | some _, none => .error .einval
  | some _, some msg =>
      if index = h2gLatestSlot ∨ index ≥ nrHostIvshmemMsgs then .error .einval
      else
        .ok [.store (hostIvshmemH2gOffset + index * hostIvshmemMsgSize) msg,
          .store (hostIvshmemH2gOffset + h2gLatestSlot * hostIvshmemMsgSize) msg]

/-- The access of `host_ivshmem_g2h_read` that does not return an error. -/
def hostIvshmemG2hReadAccesses (backend : Option HostIvshmemBackend) (index : Nat)
    (msg : Option UInt64) : Except Errno (List Access) :=
  match backendMem backend with
  | none => .error .enodev
  | some _ =>
      if index ≥ nrGuestIvshmemMsgs then .error .einval
      else
        match msg with
        | none => .error .einval
        | some _ => .ok [.load (hostG2hSlot index)]

section Replay

variable (backend : HostIvshmemBackend) (memory : Memory) (index : Nat) (msg : Option UInt64)

/-- A host write is the replay of its accesses. -/
theorem hostIvshmemH2gWriteMsg_eq_replay :
    hostIvshmemH2gWriteMsg (some { backend with mem := some memory }) index msg =
      (hostIvshmemH2gWriteAccesses (some { backend with mem := some memory }) index msg).map
        (Access.replay memory) := by
  unfold hostIvshmemH2gWriteMsg hostIvshmemH2gWriteAccesses
  cases msg with
  | none => rfl
  | some word =>
      dsimp only [backendMem, Option.bind_some]
      split_ifs <;> rfl

/-- A host read returns what its accesses observe. -/
theorem hostIvshmemG2hRead_eq_observe :
    (hostIvshmemG2hRead (some { backend with mem := some memory }) index msg).map (fun word => [word]) =
      (hostIvshmemG2hReadAccesses (some { backend with mem := some memory }) index msg).map
        (List.filterMap (Access.observe memory)) := by
  unfold hostIvshmemG2hRead hostIvshmemG2hReadAccesses
  dsimp only [backendMem, Option.bind_some]
  split_ifs
  · rfl
  · cases msg <;> rfl

end Replay

section Spec

variable {backend : Option HostIvshmemBackend} {index : Nat} {msg : Option UInt64}
  {trace : List Access}

theorem hostIvshmemH2gWriteAccesses_ok
    (accepted : hostIvshmemH2gWriteAccesses backend index msg = .ok trace) {access : Access}
    (member : access ∈ trace) :
    ∃ slot, slot < nrHostIvshmemMsgs ∧
      access.addr = hostIvshmemH2gOffset + slot * hostIvshmemMsgSize := by
  unfold hostIvshmemH2gWriteAccesses at accepted
  split at accepted
  · cases accepted
  · cases accepted
  · split at accepted
    · cases accepted
    · rename_i valid
      cases accepted
      rcases List.mem_cons.mp member with history | rest
      · exact ⟨index, Nat.not_le.mp (not_or.mp valid).2, history ▸ rfl⟩
      · exact ⟨h2gLatestSlot, by decide, List.mem_singleton.mp rest ▸ rfl⟩

theorem hostIvshmemG2hReadAccesses_ok
    (accepted : hostIvshmemG2hReadAccesses backend index msg = .ok trace) {access : Access}
    (member : access ∈ trace) :
    index < nrGuestIvshmemMsgs ∧ access.addr = hostG2hSlot index := by
  unfold hostIvshmemG2hReadAccesses at accepted
  split at accepted
  · cases accepted
  · split at accepted
    · cases accepted
    · rename_i below
      split at accepted
      · cases accepted
      · cases accepted
        exact ⟨Nat.not_le.mp below, List.mem_singleton.mp member ▸ rfl⟩

end Spec

/-! ## Accesses inside the backend -/

/-- Whatever the region holds by now, every access of a host accessor to the
backend stays inside its memory, writes stay in the host-to-guest page and reads
in the guest-to-host region of the header. -/
structure HostAccessesInside (backend : HostIvshmemBackend) (hdr : IvshmemHeader) : Prop where
  writes : ∀ (memory : Memory) (index : UInt32) (msg : Option UInt64) (trace : List Access),
    hostIvshmemH2gWriteAccesses (some { backend with mem := some memory }) index.toNat msg =
      .ok trace →
    ∀ access ∈ trace, access.bytes ⊆ hdr.h2gRegion ∩ Set.Ico 0 backend.size
  reads : ∀ (memory : Memory) (index : UInt32) (msg : Option UInt64) (trace : List Access),
    hostIvshmemG2hReadAccesses (some { backend with mem := some memory }) index.toNat msg =
      .ok trace →
    ∀ access ∈ trace, access.bytes ⊆ hdr.g2hRegion ∩ Set.Ico 0 backend.size

/-- The slots of a page are inside it. -/
theorem slot_bytes_subset {access : Access} {base slot stop : Nat}
    (below : slot < pageSize / hostIvshmemMsgSize)
    (addr : access.addr = base + slot * hostIvshmemMsgSize) (page : base + pageSize ≤ stop) :
    access.bytes ⊆ Set.Ico base stop := by
  unfold Access.bytes
  rw [addr]
  unfold pageSize hostIvshmemMsgSize at *
  exact Set.Ico_subset_Ico (by omega) (by omega)

section Registered

variable {nbCpu : UInt32} {backend : HostIvshmemBackend} {created : Memory}

theorem hostAccessesInside_of_positive (positive : 1 ≤ nbCpu.toNat)
    (size : backend.size = backendSize nbCpu) :
    HostAccessesInside backend (backendHeader (backendSize nbCpu)) := by
  have room := g2hPage_le_backendSize positive
  have whole : Set.Ico hostIvshmemH2gOffset (2 * pageSize) ⊆ Set.Ico 0 backend.size := by
    rw [size]
    exact Set.Ico_subset_Ico (Nat.zero_le _) (Nat.le_trans (by decide) room)
  constructor
  · intro memory index msg trace accepted access member
    obtain ⟨slot, below, addr⟩ := hostIvshmemH2gWriteAccesses_ok accepted member
    have page : access.bytes ⊆ Set.Ico hostIvshmemH2gOffset (2 * pageSize) :=
      slot_bytes_subset below addr (by decide)
    rw [backendHeader_h2gRegion]
    exact Set.subset_inter page (page.trans whole)
  · intro memory index msg trace accepted access member
    obtain ⟨below, addr⟩ := hostIvshmemG2hReadAccesses_ok accepted member
    have region : access.bytes ⊆ Set.Ico hostIvshmemG2hOffset (backendSize nbCpu) :=
      slot_bytes_subset below addr room
    rw [backendHeader_g2hRegion, size]
    exact Set.subset_inter region
      (region.trans (Set.Ico_subset_Ico (Nat.zero_le _) le_rfl))

/-- A region without vCPUs ends where its guest-to-host slots start. -/
theorem backendSize_zero : backendSize 0 = hostIvshmemG2hOffset := by decide

/-- The host reads slot 0 of any backend, also where it does not exist. -/
theorem not_hostAccessesInside_zero {hdr : IvshmemHeader} (size : backend.size = backendSize 0) :
    ¬ HostAccessesInside backend hdr := by
  intro inside
  have touched := inside.reads (fun _ => 0) 0 (some 0) _ rfl _ (List.mem_singleton.mpr rfl)
  have first : hostIvshmemG2hOffset ∈ Set.Ico 0 backend.size :=
    (touched ⟨le_rfl, by decide⟩).2
  rw [size, backendSize_zero] at first
  exact Nat.lt_irrefl _ first.2

/-- **Host accesses stay inside the backend** of a VM exactly when it was
registered with a vCPU. -/
theorem host_accesses_inside_iff (registered : RegisteredBackend nbCpu backend)
    (present : backend.mem = some created) :
    HostAccessesInside backend (IvshmemHeader.read created) ↔ 1 ≤ nbCpu.toNat := by
  have size := registered.region.2
  constructor
  · intro inside
    by_contra none
    have zero : nbCpu = 0 := UInt32.toNat_inj.mp (by
      show nbCpu.toNat = 0
      omega)
    rw [zero] at size
    exact not_hostAccessesInside_zero size inside
  · intro positive
    rw [registered.header present fun _ _ => rfl]
    exact hostAccessesInside_of_positive positive size

end Registered

/-- The backend of a VM with one vCPU. -/
theorem single_vcpu_accesses_inside :
    RegisteredBackend 1 (firstBackend 1) ∧
      HostAccessesInside (firstBackend 1)
        (IvshmemHeader.read ((backendHeader (backendSize 1)).write fun _ => 0)) :=
  ⟨registered_firstBackend 1,
    (host_accesses_inside_iff (registered_firstBackend 1) rfl).mpr (by decide)⟩

/-- A request for no vCPUs is accepted. Its backend has two pages, and a read of
slot 0 touches the eight bytes after them. -/
theorem empty_vm_read_outside :
    RegisteredBackend 0 (firstBackend 0) ∧ (firstBackend 0).size = 8192 ∧
      hostIvshmemG2hReadAccesses (some (firstBackend 0)) 0 (some 0) = .ok [.load 8192] ∧
      ¬ HostAccessesInside (firstBackend 0)
        (IvshmemHeader.read ((backendHeader (backendSize 0)).write fun _ => 0)) :=
  ⟨registered_firstBackend 0, by decide, rfl, not_hostAccessesInside_zero rfl⟩

end PhantomTracker.Shmem
