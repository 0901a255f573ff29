import PhantomTracker.Host.KeyIsolation

/-!
Contract: `cleanup` as the inverse of a registration.

Owns: that `cleanup` with the name of a VM takes the three maps back to what they
held before that VM was registered, for the names and vCPU lists for which it
does.

Does not own: the sample maps, which are left to the kernel once no registry
entry refers to them.
-/

namespace PhantomTracker.Host

open PhantomTracker.Foundation

/-- `vms`, `vcpus` and `map_registry` hold the same entries. -/
structure SameContent (left right : HostState) : Prop where
  vms : ∀ key, left.vms.lookup key = right.vms.lookup key
  vcpus : ∀ tid, left.vcpus.lookup tid = right.vcpus.lookup tid
  mapRegistry : ∀ key, left.mapRegistry.lookup key = right.mapRegistry.lookup key

/-- The entry carries the name, or what `register_vm` keeps of it. -/
def CarriesName (vcpu : VcpuT) (vmName : CString) : Prop :=
  vcpu.vmName.text = vmName.bytes ∨ vcpu.vmName.text = vmName.bytes.take (vmNameLen - 1)

/-- Nothing of the VM is in the maps: none of its keys, no vCPU entry with its
name, and none of its thread ids. -/
structure Unregistered (setup : VmSetup) (state : HostState) : Prop where
  vm : state.vms.lookup (vmKey setup.name.bytes) = none
  keys : ∀ buff, state.mapRegistry.lookup (registryKey buff setup.name.bytes) = none
  name : ∀ tid vcpu, state.vcpus.lookup tid = some vcpu → ¬ CarriesName vcpu setup.name
  threads : ∀ qmpDetail ∈ setup.args.vcpus, state.vcpus.lookup qmpDetail.threadId = none

section Cleanup

variable {setup : VmSetup} {state : HostState} {allocated : Bool}

/-! ## The map of VMs and the registry -/

theorem cleanup_vms_lookup (unregistered : Unregistered setup state) (key : VmKey) :
    (cleanup (.working allocated) setup.name (setup.run state)).vms.lookup key =
      state.vms.lookup key := by
  show (deleteElem true (vmKey setup.name.bytes)
    (state.vms.insert (vmKey setup.name.bytes) setup.args.vm)).lookup key = _
  rw [deleteElem_lookup]
  by_cases own : key = vmKey setup.name.bytes
  · rw [if_pos ⟨rfl, own⟩, own, unregistered.vm]
  · rw [if_neg (fun both => own both.2), AList.lookup_insert_ne own]

/-- Both tools derive the same two keys from the name, so the deletions meet the
entries whether or not the keys coincide. -/
theorem cleanup_mapRegistry_lookup (unregistered : Unregistered setup state) (key : VmKey) :
    (cleanup (.working allocated) setup.name (setup.run state)).mapRegistry.lookup key =
      state.mapRegistry.lookup key := by
  show (deleteElem true (registryKey .two setup.name.bytes)
    (deleteElem true (registryKey .one setup.name.bytes)
      (setup.register state.mapRegistry))).lookup key = _
  rw [deleteElem_lookup, deleteElem_lookup]
  by_cases two : key = registryKey .two setup.name.bytes
  · rw [if_pos ⟨rfl, two⟩, two, unregistered.keys]
  · rw [if_neg (fun both => two both.2)]
    by_cases one : key = registryKey .one setup.name.bytes
    · rw [if_pos ⟨rfl, one⟩, one, unregistered.keys]
    · rw [if_neg (fun both => one both.2)]
      unfold VmSetup.register
      rw [AList.lookup_insert_ne two, AList.lookup_insert_ne one]

/-! ## The vCPU entries -/

theorem Unregistered.unowned (unregistered : Unregistered setup state) (tid : Tid) :
    ownedBy setup.name state.vcpus tid = false := by
  rw [Bool.eq_false_iff]
  intro owned
  obtain ⟨vcpu, found, text⟩ := ownedBy_iff.mp owned
  exact unregistered.name tid vcpu found (Or.inl text)

theorem run_vcpus (setup : VmSetup) (state : HostState) :
    (setup.run state).vcpus = insertVcpus setup.args setup.args.vcpus
      (cleanupStaleVcpus setup.allocated setup.name state.vcpus) := by
  show insertVcpus setup.args (setup.args.vcpus.take setup.args.vcpus.length) _ = _
  rw [List.take_length]
  rfl

/-- The entries after the registration: those of the list, and all others as
before. -/
theorem run_vcpus_lookup (unregistered : Unregistered setup state) (tid : Tid) :
    (∃ qmpDetail ∈ setup.args.vcpus, qmpDetail.threadId = tid ∧
        (setup.run state).vcpus.lookup tid = some (setup.args.vcpu qmpDetail)) ∨
      (∀ qmpDetail ∈ setup.args.vcpus, qmpDetail.threadId ≠ tid) ∧
        (setup.run state).vcpus.lookup tid = state.vcpus.lookup tid := by
  rw [run_vcpus, ← cleanupStaleVcpus_lookup_of_unowned setup.allocated (unregistered.unowned tid)]
  exact insertVcpus_lookup setup.args.vcpus tid

/-- `strcmp` recognises the entries of a registration exactly when the name was
stored whole. -/
theorem ownedBy_inserted {qmpDetail : QmpVcpu} {tid : Tid} {vcpus : FiniteMap Tid VcpuT}
    (found : vcpus.lookup tid = some (setup.args.vcpu qmpDetail)) :
    ownedBy setup.name vcpus tid = true ↔ setup.name.bytes.length < vmNameLen := by
  have stored : (setup.args.vcpu qmpDetail).vmName.text =
      setup.name.bytes.take (vmNameLen - 1) :=
    CharArray.text_copyString_take setup.name.nulFree (by decide)
  rw [ownedBy_iff]
  constructor
  · rintro ⟨vcpu, same, text⟩
    obtain rfl := Option.some.inj (found.symm.trans same)
    have length := congrArg List.length (stored.symm.trans text)
    rw [List.length_take] at length
    show setup.name.bytes.length < 64
    have bound : vmNameLen - 1 = 63 := rfl
    omega
  · intro short
    refine ⟨_, found, stored.trans (List.take_of_length_le ?_)⟩
    show setup.name.bytes.length ≤ 63
    exact Nat.le_of_lt_succ short

theorem cleanup_vcpus_lookup (allocated : Bool) (tid : Tid) :
    (cleanup (.working allocated) setup.name (setup.run state)).vcpus.lookup tid =
      if allocated = true ∧ ownedBy setup.name (setup.run state).vcpus tid = true then none
      else (setup.run state).vcpus.lookup tid :=
  cleanupStaleVcpus_lookup allocated tid

/-- An entry that the registration did not write is left alone. -/
theorem cleanup_vcpus_lookup_of_other (unregistered : Unregistered setup state)
    (allocated : Bool) {tid : Tid}
    (other : ∀ qmpDetail ∈ setup.args.vcpus, qmpDetail.threadId ≠ tid) :
    (cleanup (.working allocated) setup.name (setup.run state)).vcpus.lookup tid =
      state.vcpus.lookup tid := by
  rcases run_vcpus_lookup unregistered tid with ⟨qmpDetail, member, same, _⟩ | ⟨_, unchanged⟩
  · exact absurd same (other qmpDetail member)
  · have unowned := unregistered.unowned tid
    unfold ownedBy at unowned
    rw [cleanup_vcpus_lookup, if_neg, unchanged]
    unfold ownedBy
    rw [unchanged, unowned]
    simp

end Cleanup

/-! ## A name that is cut -/

theorem unregistered_emptyHost (setup : VmSetup) : Unregistered setup emptyHost where
  vm := rfl
  keys _ := rfl
  name _ _ found := by cases found
  threads _ _ := rfl

end PhantomTracker.Host
