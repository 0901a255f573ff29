import PhantomTracker.Host.StaleScan

/-!
Contract: what the deletions of `cleanup_stale_vcpus` do to the entries of other
VMs.

Owns: the invariant under which every deletion meets an entry of its own VM, the
run in which a key that was collected twice costs another VM its entry, and walks
that meet no key twice.

Does not own: what the walk collects.
-/

namespace PhantomTracker.Host

open PhantomTracker.Foundation

namespace ScanState

/-! ## Deletions that spare other VMs -/

section Sparing

variable {bucket : Tid → Nat} {vmName : CString} {state next : ScanState bucket}

/-- The scan has deleted entries of its VM only, and each key that it still has to
delete is one of them. -/
structure Spares (vmName : CString) (state : ScanState bucket) : Prop where
  own : ∀ vcpu ∈ state.deleted, vcpu.vmName.text = vmName.bytes
  left : ∃ keys, state.pc = .delete keys ∧ keys.Nodup ∧
    ∀ key ∈ keys, ownedBy vmName state.table.vcpus key = true

theorem Spares.delete (spares : state.Spares vmName) {key : Tid} {keys : List Tid}
    (stands : state.pc = .delete (key :: keys)) :
    (state.afterDelete key keys).Spares vmName := by
  obtain ⟨all, standsAt, nodup, owned⟩ := spares.left
  obtain rfl : all = key :: keys := ScanPc.delete.inj (standsAt.symm.trans stands)
  obtain ⟨fresh, nodupRest⟩ := List.nodup_cons.mp nodup
  refine ⟨fun vcpu member => ?_, keys, rfl, nodupRest, fun other member => ?_⟩
  · rcases List.mem_append.mp member with here | earlier
    · obtain ⟨entry, found, text⟩ := ownedBy_iff.mp (owned key List.mem_cons_self)
      rw [found] at here
      rw [List.mem_singleton.mp here]
      exact text
    · exact spares.own vcpu earlier
  · show ownedBy vmName (state.table.vcpus.erase key) other = true
    rw [ownedBy_erase, owned other (List.mem_cons_of_mem _ member), Bool.and_true,
      decide_eq_true_eq]
    rintro rfl
    exact fresh member

theorem Spares.step (spares : state.Spares vmName) {action : ScanAction}
    (apart : state.Apart vmName action) (effect : Effect vmName state action next) :
    next.Spares vmName := by
  obtain ⟨keys, standsAt, nodup, owned⟩ := spares.left
  cases effect with
  | fetch cursor stands => cases standsAt.symm.trans stands
  | collect key reallocated stands own => cases standsAt.symm.trans stands
  | pass key reallocated stands foreign => cases standsAt.symm.trans stands
  | delete key keys stands => exact spares.delete stands
  | other action table changed =>
      refine ⟨spares.own, keys, standsAt, nodup, fun key member => ?_⟩
      rw [(unnoticed_otherCall apart changed).owned]
      exact owned key member

theorem Spares.run (spares : state.Spares vmName) {more : List ScanAction}
    {final : ScanState bucket} (run : ScanRun vmName (Apart vmName) state more final) :
    final.Spares vmName := by
  apply run.invariant (Spares vmName) _ spares
  intro current action after known apart taken
  exact known.step apart (effect_step taken)

/-- The scan can delete an entry of another VM. -/
def CanLose (vmName : CString) (state : ScanState bucket) : Prop :=
  ∃ more final, ScanRun vmName (Apart vmName) state more final ∧
    ∃ vcpu ∈ final.deleted, vcpu.vmName.text ≠ vmName.bytes

theorem step_deleteElem (vmName : CString) {key : Tid} {keys : List Tid}
    (stands : state.pc = .delete (key :: keys)) :
    state.step vmName .deleteElem = some (state.afterDelete key keys) := by
  unfold step
  simp only [stands]

/-- A key whose entry now belongs to another VM is deleted all the same. -/
theorem canLose_of_foreign {keys : List Tid} {key : Tid} {vcpu : VcpuT}
    (stands : state.pc = .delete keys) (member : key ∈ keys)
    (found : state.table.vcpus.lookup key = some vcpu)
    (foreign : vcpu.vmName.text ≠ vmName.bytes) : state.CanLose vmName := by
  induction keys generalizing state with
  | nil => cases member
  | cons first rest inductionHypothesis =>
      have deleted := step_deleteElem vmName stands
      by_cases here : key = first
      · subst here
        refine ⟨[.deleteElem], _, .cons trivial deleted (.nil _), vcpu, ?_, foreign⟩
        unfold afterDelete
        rw [found]
        exact List.mem_append_left _ List.mem_cons_self
      · have later := (List.mem_cons.mp member).resolve_left here
        have standsAfter : (state.afterDelete first rest).pc = .delete rest := rfl
        obtain ⟨more, final, run, lost⟩ :=
          inductionHypothesis standsAfter later ((AList.lookup_erase_ne here).trans found)
        exact ⟨.deleteElem :: more, final, .cons trivial deleted run, lost⟩

/-- There is an entry of another VM. -/
theorem exists_foreign (vmName : CString) : ∃ vcpu : VcpuT, vcpu.vmName.text ≠ vmName.bytes := by
  by_cases empty : vmName.bytes = []
  · refine ⟨⟨0, vmKey [97], 0⟩, ?_⟩
    rw [empty]
    decide
  · exact ⟨⟨0, vmKey [], 0⟩, Ne.symm empty⟩

/-- Between two deletions of one key another VM can store it. -/
theorem canLose_of_repeated (vmName : CString) {keys : List Tid} (stands : state.pc = .delete keys)
    (repeated : ¬ keys.Nodup) : state.CanLose vmName := by
  induction keys generalizing state with
  | nil => exact absurd List.nodup_nil repeated
  | cons first rest inductionHypothesis =>
      have deleted := step_deleteElem vmName stands
      by_cases again : first ∈ rest
      · obtain ⟨vcpu, foreign⟩ := exists_foreign vmName
        have apart : ownedBy vmName (state.table.vcpus.erase first) first = false := by
          rw [ownedBy_erase, decide_eq_false (fun different => different rfl), Bool.false_and]
        let stored : ScanState bucket :=
          { state.afterDelete first rest with
            table := (state.table.deleteElem first).updateElem first vcpu }
        have standsAfter : stored.pc = .delete rest := rfl
        obtain ⟨more, final, run, lost⟩ :=
          canLose_of_foreign standsAfter again (AList.lookup_insert _) foreign
        exact ⟨.deleteElem :: .otherUpdate first vcpu :: more, final,
          .cons trivial deleted (.cons ⟨apart, foreign⟩ rfl run), lost⟩
      · have repeatedRest : ¬ rest.Nodup := fun nodup =>
          repeated (List.nodup_cons.mpr ⟨again, nodup⟩)
        have standsAfter : (state.afterDelete first rest).pc = .delete rest := rfl
        obtain ⟨more, final, run, lost⟩ := inductionHypothesis standsAfter repeatedRest
        exact ⟨.deleteElem :: more, final, .cons trivial deleted run, lost⟩

end Sparing

/-! ## Walks that meet no key twice -/

section Distinct

variable {bucket : Tid → Nat} {vmName : CString} {state next : ScanState bucket}

/-- While the scan walks, other programs only add entries. -/
def OnlyAdds (state : ScanState bucket) : ScanAction → Prop
  | .otherUpdate tid _ => state.table.vcpus.lookup tid = none
  | .otherDelete _ => False
  | _ => True

/-- The collected keys are behind the walk, each of them once. -/
structure Distinct (state : ScanState bucket) : Prop where
  nodup : state.keysToDelete.Nodup
  passed : ∀ pc, state.pc = .walk pc → ∀ tid ∈ state.keysToDelete, state.table.order.Passed pc tid

theorem Distinct.getNextKey (distinct : state.Distinct) {cursor : Option Tid}
    (stands : state.pc = .walk (.fetch cursor)) :
    (state.afterFetch (state.table.order.advance cursor)).Distinct := by
  have passed : ∀ tid ∈ state.keysToDelete,
      state.table.order.Passed (state.table.order.advance cursor) tid :=
    fun tid member => (distinct.passed _ stands tid member).advance
  cases reached : state.table.order.advance cursor with
  | finished => exact ⟨distinct.nodup, nofun⟩
  | fetch cursor | visit key =>
      rw [reached] at passed
      refine ⟨distinct.nodup, fun pc standsAt => ?_⟩
      cases standsAt
      exact passed

theorem Distinct.lookupElem (distinct : state.Distinct) {key : Tid} (reallocated : Bool)
    (stands : state.pc = .walk (.visit key))
    (owns : ownedBy vmName state.table.vcpus key = true) :
    (state.collect key reallocated).Distinct := by
  have passed := distinct.passed _ stands
  have fresh : key ∉ state.keysToDelete := fun member => (passed key member).ne rfl
  have nodup : (state.keysToDelete ++ [key]).Nodup := by
    rw [List.nodup_append_comm]
    exact List.nodup_cons.mpr ⟨fresh, distinct.nodup⟩
  have passedAfter : ∀ tid ∈ state.keysToDelete ++ [key],
      state.table.order.Passed (.fetch (some key)) tid := by
    intro tid member
    refine ⟨VcpuTable.mem_order_of_owned owns, ?_⟩
    rcases List.mem_append.mp member with earlier | here
    · exact Or.inr (passed tid earlier)
    · exact Or.inl (List.mem_singleton.mp here)
  unfold collect
  split
  · split
    · refine ⟨nodup, fun pc standsAt => ?_⟩
      cases standsAt
      exact passedAfter
    · exact ⟨distinct.nodup, nofun⟩
  · refine ⟨nodup, fun pc standsAt => ?_⟩
    cases standsAt
    exact passedAfter

theorem Distinct.pass (distinct : state.Distinct) {key : Tid}
    (stands : state.pc = .walk (.visit key)) :
    Distinct { state with pc := .walk (.fetch (some key)) } := by
  refine ⟨distinct.nodup, fun pc standsAt tid member => ?_⟩
  cases standsAt
  have sequence : [tid, key].Sublist state.table.order.keys := distinct.passed _ stands tid member
  exact ⟨sequence.subset (List.mem_cons_of_mem _ List.mem_cons_self), Or.inr sequence⟩

theorem passed_otherCall {action : ScanAction} {after : VcpuTable bucket}
    (onlyAdds : state.OnlyAdds action) (changed : state.table.otherCall action = some after)
    {pc : WalkPc Tid} {key : Tid} (passed : state.table.order.Passed pc key) :
    after.order.Passed pc key := by
  cases action with
  | otherUpdate tid vcpu =>
      obtain rfl := Option.some.inj changed
      apply passed.insert
      rw [state.table.keyed, show state.table.vcpus.lookup tid = none from onlyAdds]
      decide
  | otherDelete tid => exact onlyAdds.elim
  | handlerFlag tid isPhantom =>
      obtain rfl := Option.some.inj changed
      rw [VcpuTable.setFlag_order]
      exact passed
  | getNextKey | lookupElem _ | deleteElem => cases changed

theorem Distinct.step (distinct : state.Distinct) {action : ScanAction}
    (onlyAdds : state.OnlyAdds action) (effect : Effect vmName state action next) :
    next.Distinct := by
  cases effect with
  | fetch cursor stands => exact distinct.getNextKey stands
  | collect key reallocated stands own => exact distinct.lookupElem reallocated stands own
  | pass key reallocated stands foreign => exact distinct.pass stands
  | delete key keys stands => exact ⟨distinct.nodup, nofun⟩
  | other action table changed =>
      exact ⟨distinct.nodup, fun pc stands key member =>
        passed_otherCall onlyAdds changed (distinct.passed pc stands key member)⟩

end Distinct

/-! ## The scan -/

section Main

variable {bucket : Tid → Nat} {vmName : CString} {table : VcpuTable bucket}
  {actions : List ScanAction} {state : ScanState bucket}

/-- **When the deletions spare other VMs.** Let other programs leave the entries of the
VM alone and store none for it, during the walk and after it. At the end of a walk no
entry of another VM can be deleted, whatever they do to the entries of other VMs, if and
only if the walk has collected no key twice; and it has collected none twice if they
have only added entries while it lasted. -/
theorem deletions_spare_others_iff
    (run : ScanRun vmName (Apart vmName) (start table) actions state)
    (ended : state.pc = .delete state.keysToDelete) :
    ((∀ more final, ScanRun vmName (Apart vmName) state more final →
      ∀ vcpu ∈ final.deleted, vcpu.vmName.text = vmName.bytes) ↔ state.keysToDelete.Nodup) ∧
    (ScanRun vmName OnlyAdds (start table) actions state → state.keysToDelete.Nodup) := by
  refine ⟨⟨fun safe => ?_, fun nodup more final further => ?_⟩, fun gentle => ?_⟩
  · by_contra repeated
    obtain ⟨more, final, further, vcpu, lost, foreign⟩ :=
      canLose_of_repeated vmName ended repeated
    exact foreign (safe more final further vcpu lost)
  · have deleting := (sound_run run).deleting _ ended
    obtain ⟨same, none⟩ := deleting.begun.resolve_left (lt_irrefl _)
    have spares : state.Spares vmName := by
      refine ⟨fun vcpu member => ?_, _, ended, nodup, fun key member => ?_⟩
      · rw [none] at member
        cases member
      · rw [same]
        exact (deleting.collected key).mp member
    exact (spares.run further).own
  · have distinct : state.Distinct := by
      apply gentle.invariant Distinct _ ⟨List.nodup_nil, fun _ _ _ member => by cases member⟩
      intro current action after known onlyAdds taken
      exact known.step onlyAdds (effect_step taken)
    exact distinct.nodup

end Main

/-- After the walk that has started again, VM `b` can store thread 2 between the two
deletions and lose it. -/
theorem restarted_walk_endangers :
    ∃ state, ScanRun loneName (Apart loneName) (start neighbours) restartedWalk state ∧
      state.keysToDelete = [2, 2] ∧
      ¬ ∀ more final, ScanRun loneName (Apart loneName) state more final →
        ∀ vcpu ∈ final.deleted, vcpu.vmName.text = loneName.bytes := by
  obtain ⟨state, run, stands, twice⟩ := restarted_run
  have ended : state.pc = .delete state.keysToDelete := by
    rw [stands, twice]
  refine ⟨state, run, twice, fun safe => ?_⟩
  have nodup := (deletions_spare_others_iff run ended).1.mp safe
  rw [twice] at nodup
  exact absurd nodup (by decide)

end ScanState

end PhantomTracker.Host
