import PhantomTracker.Host.Registration

/-!
Contract: the phantom counter of a registered VM counts its flagged vCPUs.

Owns: the accounting predicate, its inductive strengthening, and what one
complete execution of the handler does to the account of every VM.

Does not own: the map operations of the tools, or handlers that overlap each
other.
-/

namespace PhantomTracker.Host

open PhantomTracker.Foundation
open PhantomTracker.Foundation.FiniteMap

def entriesOf (key : VmKey) (vcpus : FiniteMap Tid VcpuT) : Nat :=
  countWhere (fun _ vcpu => vcpu.vmName = key) vcpus

/-- The number of vCPUs of a VM whose `is_phantom` is 1. -/
def flaggedOf (key : VmKey) (vcpus : FiniteMap Tid VcpuT) : Nat :=
  countWhere (fun _ vcpu => vcpu.vmName = key ∧ vcpu.isPhantom = 1) vcpus

/-- **The accounting predicate.** The counter is the number of flagged vCPUs,
and neither clamp would swallow the next transition of any vCPU. -/
def Accounted (state : HostState) (key : VmKey) : Prop :=
  ∃ vm, state.vms.lookup key = some vm ∧
    vm.phantomCount = flaggedOf key state.vcpus ∧
    ∀ tid vcpu, state.vcpus.lookup tid = some vcpu → vcpu.vmName = key →
      (vcpu.isPhantom = 1 → atomicDecIfPos vm.phantomCount = vm.phantomCount - 1) ∧
      (vcpu.isPhantom = 0 →
        atomicIncIfLtCeil vm.phantomCount vm.nbVcpus = vm.phantomCount + 1)

/-- The inductive strengthening: there is room under the ceiling for `room`
further vCPUs. -/
structure Balances (state : HostState) (key : VmKey) (room : Nat) (vm : VmT) : Prop where
  found : state.vms.lookup key = some vm
  count : vm.phantomCount = flaggedOf key state.vcpus
  ceiling : entriesOf key state.vcpus + room ≤ vm.nbVcpus
  binary : ∀ tid vcpu, state.vcpus.lookup tid = some vcpu → vcpu.vmName = key →
    vcpu.isPhantom = 0 ∨ vcpu.isPhantom = 1

section Balances

variable {state : HostState} {key : VmKey} {room : Nat} {vm : VmT} {tid : Tid} {vcpu : VcpuT}

theorem flaggedOf_le_entriesOf (key : VmKey) (vcpus : FiniteMap Tid VcpuT) :
    flaggedOf key vcpus ≤ entriesOf key vcpus := by
  apply countWhere_le_of_imp
  intro _ vcpu flagged
  have both := of_decide_eq_true flagged
  exact decide_eq_true both.1

theorem Balances.count_pos (balances : Balances state key room vm)
    (found : state.vcpus.lookup tid = some vcpu) (own : vcpu.vmName = key)
    (flag : vcpu.isPhantom = 1) : 0 < vm.phantomCount := by
  have positive : 0 < flaggedOf key state.vcpus :=
    countWhere_pos found (decide_eq_true ⟨own, flag⟩)
  have count := balances.count
  omega

theorem Balances.count_lt (balances : Balances state key room vm)
    (found : state.vcpus.lookup tid = some vcpu) (own : vcpu.vmName = key)
    (flag : vcpu.isPhantom = 0) : vm.phantomCount < vm.nbVcpus := by
  have below : flaggedOf key state.vcpus < entriesOf key state.vcpus := by
    apply countWhere_lt_of_imp _ found (decide_eq_true own)
    · exact decide_eq_false fun both => by omega
    · intro _ other flagged
      exact decide_eq_true (of_decide_eq_true flagged).1
  have count := balances.count
  have ceiling := balances.ceiling
  omega

theorem Balances.accounted (balances : Balances state key room vm) : Accounted state key := by
  refine ⟨vm, balances.found, balances.count,
    fun tid vcpu found own => ⟨fun flag => ?_, fun flag => ?_⟩⟩
  · have positive := balances.count_pos found own flag
    exact if_neg (by omega)
  · have below := balances.count_lt found own flag
    exact if_neg (by omega)

end Balances

/-! ## What a step leaves of another VM -/

/-- A step keeps the account of a VM: the same threads carry its name, and a
balanced counter stays balanced. -/
structure Keeps (vmName : CString) (before after : HostState) : Prop where
  owned : ∀ tid, ownedBy vmName after.vcpus tid = ownedBy vmName before.vcpus tid
  balances : ∀ room vm, Balances before (vmKey vmName.bytes) room vm →
    ∃ vmAfter, Balances after (vmKey vmName.bytes) room vmAfter

theorem Keeps.refl (vmName : CString) (state : HostState) : Keeps vmName state state :=
  ⟨fun _ => rfl, fun _ vm balances => ⟨vm, balances⟩⟩

theorem Keeps.trans {vmName : CString} {first second third : HostState}
    (left : Keeps vmName first second) (right : Keeps vmName second third) :
    Keeps vmName first third where
  owned tid := (right.owned tid).trans (left.owned tid)
  balances room vm balances := by
    obtain ⟨vmMiddle, balancesMiddle⟩ := left.balances room vm balances
    exact right.balances room vmMiddle balancesMiddle

theorem ownedBy_iff {vmName : CString} {vcpus : FiniteMap Tid VcpuT} {tid : Tid} :
    ownedBy vmName vcpus tid = true ↔
      ∃ vcpu, vcpus.lookup tid = some vcpu ∧ vcpu.vmName.text = vmName.bytes := by
  unfold ownedBy
  cases vcpus.lookup tid <;> simp

/-- No entry has two owners. -/
theorem ownedBy_of_owned {vmName other : CString} {vcpus : FiniteMap Tid VcpuT} {tid : Tid}
    (different : other.bytes ≠ vmName.bytes) (owned : ownedBy other vcpus tid = true) :
    ownedBy vmName vcpus tid = false := by
  rw [Bool.eq_false_iff]
  intro alsoOwned
  obtain ⟨entry, found, text⟩ := ownedBy_iff.mp owned
  obtain ⟨sameEntry, foundAgain, otherText⟩ := ownedBy_iff.mp alsoOwned
  obtain rfl := Option.some.inj (found.symm.trans foundAgain)
  exact different (text.symm.trans otherText)

/-- A short name is read back from the key that is derived from it. -/
theorem vmKey_text {vmName : CString} (short : vmName.bytes.length < vmNameLen) :
    (vmKey vmName.bytes).text = vmName.bytes :=
  CharArray.text_copyString vmName.nulFree short

/-- An entry that a VM does not own carries another name. -/
theorem vmName_ne_of_unowned {vmName : CString} {vcpus : FiniteMap Tid VcpuT} {tid : Tid}
    {entry : VcpuT} (short : vmName.bytes.length < vmNameLen)
    (unowned : ownedBy vmName vcpus tid = false) (found : vcpus.lookup tid = some entry) :
    entry.vmName ≠ vmKey vmName.bytes := by
  intro same
  have owned := ownedBy_iff.mpr ⟨entry, found, same ▸ vmKey_text short⟩
  rw [unowned] at owned
  cases owned

theorem vmKey_injective {left right : CString} (leftShort : left.bytes.length < vmNameLen)
    (rightShort : right.bytes.length < vmNameLen)
    (same : vmKey left.bytes = vmKey right.bytes) : left = right := by
  have sameBytes : left.bytes = right.bytes :=
    CharArray.copyString_injective left.nulFree right.nulFree leftShort rightShort same
  cases left
  cases right
  cases sameBytes
  rfl

section Half

variable {before after : HostState} {key : VmKey} {room : Nat} {vm : VmT}

/-- Flipping a flag of the VM moves the number of flagged vCPUs the way the
half moves the counter. -/
theorem flaggedOf_flip {half : Half} {vcpus : FiniteMap Tid VcpuT} {tid : Tid} {vcpu : VcpuT}
    (found : vcpus.lookup tid = some vcpu) (flag : vcpu.isPhantom = half.expected)
    (own : vcpu.vmName = key) :
    flaggedOf key (vcpus.insert tid { vcpu with isPhantom := half.desired }) + half.expected =
      flaggedOf key vcpus + half.desired := by
  have moved := countWhere_insert_add_hit
    (fun _ vcpu => decide (vcpu.vmName = key ∧ vcpu.isPhantom = 1)) vcpus tid
    { vcpu with isPhantom := half.desired }
  rw [hit_of_lookup found] at moved
  have old : (decide (vcpu.vmName = key ∧ vcpu.isPhantom = 1)).toNat = half.expected := by
    rw [flag, own]
    cases half <;> simp [Half.expected]
  have new : (decide (vcpu.vmName = key ∧ half.desired = 1)).toNat = half.desired := by
    rw [own]
    cases half <;> simp [Half.desired]
  simp only [old, new] at moved
  exact moved

theorem Balances.newCount (balances : Balances before key room vm) {half : Half} {tid : Tid}
    {vcpu : VcpuT} (found : before.vcpus.lookup tid = some vcpu)
    (flag : vcpu.isPhantom = half.expected) (own : vcpu.vmName = key) :
    half.newCount vm + half.expected = vm.phantomCount + half.desired := by
  cases half with
  | incoming =>
      have positive := balances.count_pos found own flag
      show atomicDecIfPos vm.phantomCount + 1 = vm.phantomCount + 0
      rw [atomicDecIfPos, if_neg (by omega)]
      omega
  | outgoing =>
      have below := balances.count_lt found own flag
      show atomicIncIfLtCeil vm.phantomCount vm.nbVcpus + 0 = vm.phantomCount + 1
      rw [atomicIncIfLtCeil, if_neg (by omega)]
      omega

/-- The flags of a VM are 0 or 1 after a half has stored one of them. -/
theorem binary_insert_desired {vcpus : FiniteMap Tid VcpuT}
    (binary : ∀ tid vcpu, vcpus.lookup tid = some vcpu → vcpu.vmName = key →
      vcpu.isPhantom = 0 ∨ vcpu.isPhantom = 1) (half : Half) (tid : Tid) (vcpu : VcpuT)
    (other : Tid) (entry : VcpuT)
    (present : (vcpus.insert tid { vcpu with isPhantom := half.desired }).lookup other =
      some entry) (own : entry.vmName = key) : entry.isPhantom = 0 ∨ entry.isPhantom = 1 := by
  by_cases same : other = tid
  · subst same
    rw [AList.lookup_insert] at present
    obtain rfl := Option.some.inj present
    cases half with
    | incoming => exact Or.inl rfl
    | outgoing => exact Or.inr rfl
  · rw [AList.lookup_insert_ne same] at present
    exact binary other entry present own

/-- Each half of the handler keeps every counter balanced. -/
theorem Balances.halfStep {now : Nat} (step : HalfStep now before after)
    (balances : Balances before key room vm) :
    ∃ vmAfter, Balances after key room vmAfter := by
  cases step with
  | stay => exact ⟨vm, balances⟩
  | @flip half tid vcpu found flag =>
      have sameEntries :
          entriesOf key (before.vcpus.insert tid { vcpu with isPhantom := half.desired }) =
            entriesOf key before.vcpus :=
        countWhere_insert_of_same found rfl
      have binary := binary_insert_desired balances.binary half tid vcpu
      by_cases own : vcpu.vmName = key
      · have foundVm : before.vms.lookup vcpu.vmName = some vm := own ▸ balances.found
        obtain ⟨vmAfter, foundAfter, count, ceiling, _⟩ :=
          switchHalf_vms_own half now tid foundVm
        have moved := flaggedOf_flip found flag own
        have countMoved := balances.newCount found flag own
        have counted := balances.count
        have room := balances.ceiling
        refine ⟨vmAfter, ⟨own ▸ foundAfter, ?_, ?_, ?_⟩⟩
        · rw [switchHalf_vcpus, count]
          omega
        · rw [switchHalf_vcpus, sameEntries, ceiling]
          exact room
        · rw [switchHalf_vcpus]
          exact binary
      · have sameFlagged :
            flaggedOf key (before.vcpus.insert tid { vcpu with isPhantom := half.desired }) =
              flaggedOf key before.vcpus := by
          apply countWhere_insert_of_same found
          simp [own]
        refine ⟨vm, ⟨?_, ?_, ?_, ?_⟩⟩
        · rw [switchHalf_vms_of_ne (Ne.symm own)]
          exact balances.found
        · rw [switchHalf_vcpus, sameFlagged]
          exact balances.count
        · rw [switchHalf_vcpus, sameEntries]
          exact balances.ceiling
        · rw [switchHalf_vcpus]
          exact binary

theorem HalfStep.keeps {now : Nat} (step : HalfStep now before after) (vmName : CString) :
    Keeps vmName before after where
  owned tid := by
    cases step with
    | stay => rfl
    | @flip half target vcpu found flag =>
        rw [switchHalf_vcpus]
        unfold ownedBy
        by_cases same : tid = target
        · subst same
          rw [AList.lookup_insert, found]
          rfl
        · rw [AList.lookup_insert_ne same]
  balances _ _ balances := balances.halfStep step

end Half

theorem phantomSwitchHandler_keeps (input : SwitchInput) (state : HostState)
    (vmName : CString) : Keeps vmName state (phantomSwitchHandler input state) :=
  phantomSwitchHandler_preserves (Keeps vmName state)
    (fun _ _ _ step kept => kept.trans (step.keeps vmName)) input (Keeps.refl vmName state)

end PhantomTracker.Host
