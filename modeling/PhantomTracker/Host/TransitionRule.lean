import PhantomTracker.Host.SwitchHandler

/-!
Contract: the documented rule for the outgoing vCPU against what
`phantom_switch_handler` does.

Owns: the rule (a vCPU that was running an OpenMP thread and was preempted
becomes phantom, and only such a vCPU does), the condition on the event and on
the maps under which one execution of the handler follows it, and the
equivalence of the two.

Does not own: the rule for the incoming vCPU.

The handler departs from the rule in two ways. When the incoming task is not a
registered vCPU the local `prev_state` still holds 0, which is `TASK_RUNNING`,
so a vCPU that goes to sleep is taken for a preempted one. When the active
buffer has no slot left the sample is dropped.
-/

namespace PhantomTracker.Host

open PhantomTracker.Foundation

/-- `prev_state` of a task that was preempted and did not go to sleep. -/
def Preempted (prevState : Nat) : Prop :=
  prevState = taskRunning ∨ prevState = taskWaking

instance (prevState : Nat) : Decidable (Preempted prevState) := by
  unfold Preempted
  infer_instance

/-- The premise of the rule: the guest slot of the vCPU reads 1 and the event
says that its thread was preempted. -/
def SwitchInput.PreemptsOpenMp (input : SwitchInput) (vcpu : VcpuT) : Prop :=
  input.msg vcpu = 1 ∧ Preempted input.event.prevState

/-- The conclusion of the rule, from the maps as the outgoing half finds them
to the maps after the handler. -/
structure BecomesPhantom (input : SwitchInput) (vcpu : VcpuT) (before after : HostState) :
    Prop where
  flagSet : after.vcpus.lookup input.event.prevPid = some { vcpu with isPhantom := 1 }
  countIncremented : ∀ vm, before.vms.lookup vcpu.vmName = some vm →
    ∃ vmAfter, after.vms.lookup vcpu.vmName = some vmAfter ∧
      vmAfter.phantomCount =
        if vm.phantomCount < vm.nbVcpus then vm.phantomCount + 1 else vm.phantomCount
  sampleAppended : ∀ vm map, before.vms.lookup vcpu.vmName = some vm →
    before.mapRegistry.lookup (collectionBuff vm.active vcpu.vmName) = some map →
    ∃ vmAfter, after.vms.lookup vcpu.vmName = some vmAfter ∧
      vmAfter.index vm.active = u32Succ (vm.index vm.active) ∧
      (after.sampleMaps map).lookupElem (vm.index vm.active) =
        some ⟨vmAfter.phantomCount, input.outgoingNow⟩ ∧
      ∀ other, other ≠ vm.index vm.active →
        (after.sampleMaps map).slot other = (before.sampleMaps map).slot other

/-- **The transition rule for the outgoing vCPU.** A registered vCPU that is not
phantom becomes phantom exactly when the premise holds; otherwise the outgoing
half changes nothing. When the incoming task is not a vCPU of the same VM, the
VM entry that the outgoing half finds is the one before the event, so the
effect does not depend on the incoming task. -/
def OutgoingRule (input : SwitchInput) (state : HostState) : Prop :=
  ∀ vcpu, state.vcpus.lookup input.event.prevPid = some vcpu → vcpu.isPhantom = 0 →
    (input.PreemptsOpenMp vcpu →
      BecomesPhantom input vcpu (incomingSwitch input state).1
        (phantomSwitchHandler input state)) ∧
    (¬ input.PreemptsOpenMp vcpu →
      phantomSwitchHandler input state = (incomingSwitch input state).1) ∧
    ((∀ next, state.vcpus.lookup input.event.nextPid = some next →
        next.vmName ≠ vcpu.vmName) →
      (incomingSwitch input state).1.vms.lookup vcpu.vmName = state.vms.lookup vcpu.vmName)

/-- The incoming task is a phantom vCPU of the VM `key` whose guest slot reads
1, so the incoming half appends a sample of its own to that VM's buffer. -/
def incomingAppends (input : SwitchInput) (state : HostState) (key : VmKey) : Bool :=
  match state.vcpus.lookup input.event.nextPid with
  | some next => decide (next.vmName = key ∧ input.msg next = 1 ∧ next.isPhantom = 1)
  | none => false

/-- The slot of the active buffer that the outgoing half reserves. -/
def outgoingSlot (input : SwitchInput) (state : HostState) (key : VmKey) (vm : VmT) : Nat :=
  if incomingAppends input state key then u32Succ (vm.index vm.active)
  else vm.index vm.active

/-- The condition under which the handler follows the rule. It only constrains
events that switch out a registered vCPU which is not phantom and whose guest
slot reads 1: if the vCPU was preempted the slot it reserves in an existing
active buffer exists, and if it went to sleep the incoming task is a registered
vCPU. -/
def RuleCondition (input : SwitchInput) (state : HostState) : Prop :=
  ∀ vcpu, state.vcpus.lookup input.event.prevPid = some vcpu → vcpu.isPhantom = 0 →
    input.msg vcpu = 1 →
    (Preempted input.event.prevState →
      ∀ vm map, state.vms.lookup vcpu.vmName = some vm →
        state.mapRegistry.lookup (collectionBuff vm.active vcpu.vmName) = some map →
        outgoingSlot input state vcpu.vmName vm < (state.sampleMaps map).maxEntries) ∧
    (¬ Preempted input.event.prevState →
      (state.vcpus.lookup input.event.nextPid).isSome)

/-! ## The state that the outgoing half finds -/

section Incoming

variable {input : SwitchInput} {state : HostState}

theorem incomingSwitch_mapRegistry :
    (incomingSwitch input state).1.mapRegistry = state.mapRegistry := by
  have step := incomingSwitch_halfStep input state
  generalize (incomingSwitch input state).1 = after at step
  cases step with
  | stay => rfl
  | flip => exact switchHalf_mapRegistry

theorem switchHalf_maxEntries {half : Half} {now : Nat} {tid : Tid} {vcpu : VcpuT}
    (map : MapId) :
    ((switchHalf half now tid vcpu state).sampleMaps map).maxEntries =
      (state.sampleMaps map).maxEntries := by
  cases found : state.vms.lookup vcpu.vmName with
  | none => rw [switchHalf_of_absent found]
  | some vm =>
      cases buffered : state.mapRegistry.lookup (collectionBuff vm.active vcpu.vmName) with
      | none => rw [switchHalf_of_unbuffered found buffered]
      | some written =>
          rw [switchHalf_of_buffered found buffered]
          exact SampleMap.update_maxEntries _ _ _ _ map

theorem incomingSwitch_maxEntries (map : MapId) :
    ((incomingSwitch input state).1.sampleMaps map).maxEntries =
      (state.sampleMaps map).maxEntries := by
  have step := incomingSwitch_halfStep input state
  generalize (incomingSwitch input state).1 = after at step
  cases step with
  | stay => rfl
  | flip => exact switchHalf_maxEntries map

/-- The incoming half touches only the VM of the incoming vCPU. -/
theorem incomingSwitch_vms_of_ne {key : VmKey}
    (different : ∀ next, state.vcpus.lookup input.event.nextPid = some next →
      next.vmName ≠ key) :
    (incomingSwitch input state).1.vms.lookup key = state.vms.lookup key := by
  unfold incomingSwitch
  cases found : state.vcpus.lookup input.event.nextPid with
  | none => rfl
  | some next =>
      by_cases fires : input.msg next = 1 ∧ next.isPhantom = Half.incoming.expected
      · simp only [if_pos fires]
        exact switchHalf_vms_of_ne (different next found).symm
      · simp only [if_neg fires]

/-- The VM entry that the outgoing half finds: the same active buffer, and the
index past a sample of the incoming half if there was one. -/
theorem incomingSwitch_vms_buffered (input : SwitchInput) {key : VmKey} {vm : VmT} {map : MapId}
    (found : state.vms.lookup key = some vm)
    (buffered : state.mapRegistry.lookup (collectionBuff vm.active key) = some map) :
    ∃ before, (incomingSwitch input state).1.vms.lookup key = some before ∧
      before.active = vm.active ∧
      before.index before.active = outgoingSlot input state key vm := by
  unfold incomingSwitch outgoingSlot incomingAppends
  cases registered : state.vcpus.lookup input.event.nextPid with
  | none => exact ⟨vm, found, rfl, rfl⟩
  | some next =>
      by_cases fires : input.msg next = 1 ∧ next.isPhantom = Half.incoming.expected
      · simp only [if_pos fires]
        by_cases same : next.vmName = key
        · subst same
          rw [switchHalf_of_buffered found buffered]
          refine ⟨_, AList.lookup_insert _, by simp, ?_⟩
          rw [if_pos (by exact decide_eq_true ⟨rfl, fires.1, fires.2⟩)]
          simp
        · rw [if_neg (by simp [same])]
          refine ⟨vm, ?_, rfl, rfl⟩
          rw [switchHalf_vms_of_ne (Ne.symm same), found]
      · simp only [if_neg fires]
        rw [if_neg (by
          intro appends
          exact fires (of_decide_eq_true appends).2)]
        exact ⟨vm, found, rfl, rfl⟩

/-- The incoming half creates no VM entry. -/
theorem incomingSwitch_vms_of_absent {key : VmKey} (absent : state.vms.lookup key = none) :
    (incomingSwitch input state).1.vms.lookup key = none := by
  have step := incomingSwitch_halfStep input state
  generalize (incomingSwitch input state).1 = after at step
  cases step with
  | stay => exact absent
  | @flip half tid vcpu _ _ =>
      by_cases same : key = vcpu.vmName
      · subst same
        rw [switchHalf_of_absent absent]
        exact absent
      · rw [switchHalf_vms_of_ne same, absent]

/-- The incoming half keeps the buffer selection of every VM. -/
theorem incomingSwitch_vms_active {key : VmKey} {vm before : VmT}
    (found : state.vms.lookup key = some vm)
    (foundBefore : (incomingSwitch input state).1.vms.lookup key = some before) :
    before.active = vm.active := by
  have step := incomingSwitch_halfStep input state
  generalize (incomingSwitch input state).1 = after at step foundBefore
  cases step with
  | stay =>
      rw [found] at foundBefore
      rw [Option.some.inj foundBefore]
  | @flip half tid vcpu _ _ =>
      by_cases same : key = vcpu.vmName
      · subst same
        obtain ⟨other, otherFound, _, _, sameFlag⟩ :=
          switchHalf_vms_own half input.incomingNow tid found
        rw [foundBefore] at otherFound
        rw [Option.some.inj otherFound]
        unfold VmT.active
        rw [sameFlag]
      · rw [switchHalf_vms_of_ne same, found] at foundBefore
        rw [Option.some.inj foundBefore]

/-- The outgoing half tests the event's `prev_state` when the incoming task is
a registered vCPU. -/
theorem incomingSwitch_prevState_of_registered
    (registered : (state.vcpus.lookup input.event.nextPid).isSome) :
    (incomingSwitch input state).2 = input.event.prevState := by
  rw [incomingSwitch_prevState, if_pos registered]

/-- The outgoing half tests 0 when the incoming task is not registered. -/
theorem incomingSwitch_prevState_of_unregistered
    (unregistered : state.vcpus.lookup input.event.nextPid = none) :
    (incomingSwitch input state).2 = taskRunning := by
  rw [incomingSwitch_prevState, unregistered]
  rfl

end Incoming

/-! ## The rule and its condition -/

section Rule

variable {input : SwitchInput} {state : HostState} {vcpu : VcpuT}

private theorem handler_of_fires
    (different : input.event.prevPid ≠ input.event.nextPid)
    (found : state.vcpus.lookup input.event.prevPid = some vcpu)
    (unflagged : vcpu.isPhantom = 0) (reads : input.msg vcpu = 1)
    (preempted : Preempted (incomingSwitch input state).2) :
    phantomSwitchHandler input state =
      switchHalf .outgoing input.outgoingNow input.event.prevPid vcpu
        (incomingSwitch input state).1 := by
  have foundBefore :
      (incomingSwitch input state).1.vcpus.lookup input.event.prevPid = some vcpu := by
    rw [incomingSwitch_vcpus_of_ne different, found]
  unfold phantomSwitchHandler outgoingSwitch
  simp only [foundBefore]
  exact if_pos ⟨reads, preempted, unflagged⟩

private theorem handler_of_quiet
    (different : input.event.prevPid ≠ input.event.nextPid)
    (found : state.vcpus.lookup input.event.prevPid = some vcpu)
    (quiet : ¬ (input.msg vcpu = 1 ∧ Preempted (incomingSwitch input state).2)) :
    phantomSwitchHandler input state = (incomingSwitch input state).1 := by
  have foundBefore :
      (incomingSwitch input state).1.vcpus.lookup input.event.prevPid = some vcpu := by
    rw [incomingSwitch_vcpus_of_ne different, found]
  unfold phantomSwitchHandler outgoingSwitch
  simp only [foundBefore]
  refine if_neg fun fires => quiet ⟨fires.1, fires.2.1⟩

/-- Flipping the outgoing vCPU meets the rule's conclusion as long as the
active buffer has room. -/
theorem becomesPhantom_switchHalf {before : HostState}
    (room : ∀ vm map, before.vms.lookup vcpu.vmName = some vm →
      before.mapRegistry.lookup (collectionBuff vm.active vcpu.vmName) = some map →
      vm.index vm.active < (before.sampleMaps map).maxEntries) :
    BecomesPhantom input vcpu before
      (switchHalf .outgoing input.outgoingNow input.event.prevPid vcpu before) where
  flagSet := by
    rw [switchHalf_vcpus]
    exact AList.lookup_insert _
  countIncremented := by
    intro vm found
    obtain ⟨vmAfter, foundAfter, count, _⟩ :=
      switchHalf_vms_own .outgoing input.outgoingNow input.event.prevPid found
    refine ⟨vmAfter, foundAfter, ?_⟩
    rw [count]
    simp only [Half.newCount, atomicIncIfLtCeil]
    by_cases below : vm.phantomCount < vm.nbVcpus
    · rw [if_pos below, if_neg (by omega)]
    · rw [if_neg below, if_pos (by omega)]
  sampleAppended := by
    intro vm map found buffered
    have below := room vm map found buffered
    rw [switchHalf_of_buffered found buffered]
    refine ⟨_, AList.lookup_insert _, VmT.setIndex_index _ _ _, ?_, ?_⟩
    · simp only [Function.update_self, VmT.setIndex_phantomCount, VmT.setCount_phantomCount]
      unfold SampleMap.lookupElem
      rw [if_pos (by rw [SampleMap.updateElem_maxEntries]; exact below),
        SampleMap.updateElem_slot_same below]
    · intro other different
      simp only [Function.update_self]
      exact SampleMap.updateElem_slot_of_ne _ different _

/-- A handler that follows the rule at an event meets the condition there. -/
theorem ruleCondition_of_outgoingRule
    (different : input.event.prevPid ≠ input.event.nextPid)
    (rule : OutgoingRule input state) : RuleCondition input state := by
  intro vcpu found unflagged reads
  obtain ⟨becomes, stays, _⟩ := rule vcpu found unflagged
  refine ⟨fun preempted vm map vmFound buffered => ?_, fun asleep => ?_⟩
  · obtain ⟨before, foundBefore, sameActive, sameIndex⟩ :=
      incomingSwitch_vms_buffered input vmFound buffered
    have appended := (becomes ⟨reads, preempted⟩).sampleAppended before map foundBefore
      (by rw [incomingSwitch_mapRegistry, sameActive]; exact buffered)
    obtain ⟨vmAfter, _, _, stored, _⟩ := appended
    rw [sameIndex] at stored
    unfold SampleMap.lookupElem at stored
    by_contra full
    have sameEntries :
        ((phantomSwitchHandler input state).sampleMaps map).maxEntries =
          (state.sampleMaps map).maxEntries := by
      apply phantomSwitchHandler_preserves fun current =>
        (current.sampleMaps map).maxEntries = (state.sampleMaps map).maxEntries
      · intro now first second step same
        cases step with
        | stay => exact same
        | flip => rw [switchHalf_maxEntries]; exact same
      · rfl
    rw [if_neg (by rw [sameEntries]; exact full)] at stored
    cases stored
  · -- A sleeping vCPU and an unregistered incoming task: the handler still flips.
    by_contra unregistered
    have absent : state.vcpus.lookup input.event.nextPid = none := by
      simpa using unregistered
    have local0 := incomingSwitch_prevState_of_unregistered absent
    have fires := handler_of_fires different found unflagged reads
      (by rw [local0]; exact Or.inl rfl)
    have unchanged := stays (fun due => asleep due.2)
    have flagAfter : (phantomSwitchHandler input state).vcpus.lookup input.event.prevPid =
        some { vcpu with isPhantom := 1 } := by
      rw [fires, switchHalf_vcpus]
      exact AList.lookup_insert _
    rw [unchanged, incomingSwitch_vcpus_of_ne different, found] at flagAfter
    have sameFlag : vcpu.isPhantom = 1 :=
      congrArg VcpuT.isPhantom (Option.some.inj flagAfter)
    omega

/-- Under the condition the handler follows the rule. -/
theorem outgoingRule_of_ruleCondition
    (different : input.event.prevPid ≠ input.event.nextPid)
    (condition : RuleCondition input state) : OutgoingRule input state := by
  intro vcpu found unflagged
  refine ⟨fun due => ?_, fun notDue => ?_, incomingSwitch_vms_of_ne⟩
  · obtain ⟨reads, preempted⟩ := due
    have preemptedLocal : Preempted (incomingSwitch input state).2 := by
      cases registered : state.vcpus.lookup input.event.nextPid with
      | none =>
          rw [incomingSwitch_prevState_of_unregistered registered]
          exact Or.inl rfl
      | some next =>
          rw [incomingSwitch_prevState_of_registered (by rw [registered]; rfl)]
          exact preempted
    rw [handler_of_fires different found unflagged reads preemptedLocal]
    apply becomesPhantom_switchHalf
    intro before map foundBefore buffered
    rw [incomingSwitch_maxEntries]
    rw [incomingSwitch_mapRegistry] at buffered
    cases vmFound : state.vms.lookup vcpu.vmName with
    | none =>
        rw [incomingSwitch_vms_of_absent vmFound] at foundBefore
        cases foundBefore
    | some vm =>
        rw [incomingSwitch_vms_active vmFound foundBefore] at buffered
        obtain ⟨other, otherFound, _, sameIndex⟩ :=
          incomingSwitch_vms_buffered input vmFound buffered
        rw [foundBefore] at otherFound
        obtain rfl := Option.some.inj otherFound
        rw [sameIndex]
        exact (condition vcpu found unflagged reads).1 preempted vm map vmFound buffered
  · apply handler_of_quiet different found
    rintro ⟨reads, preemptedLocal⟩
    have asleep : ¬ Preempted input.event.prevState := fun preempted =>
      notDue ⟨reads, preempted⟩
    have registered := (condition vcpu found unflagged reads).2 asleep
    rw [incomingSwitch_prevState_of_registered registered] at preemptedLocal
    exact asleep preemptedLocal

/-- **The handler follows the rule exactly under the condition.** -/
theorem outgoingRule_iff_ruleCondition (input : SwitchInput) (state : HostState)
    (different : input.event.prevPid ≠ input.event.nextPid) :
    OutgoingRule input state ↔ RuleCondition input state :=
  ⟨ruleCondition_of_outgoingRule different, outgoingRule_of_ruleCondition different⟩

end Rule

/-! ## A sleeping vCPU taken for a preempted one -/

/-- VM `a` with two vCPUs, threads 7 and 8, and no sample buffers. -/
def sleeperVm : VmT :=
  ⟨CharArray.zeroed 128, 0, 0, 0, 0, 2, 0⟩

def sleeperVcpu (index : Nat) : VcpuT := ⟨index, vmKey [97], 0⟩

def sleeperState : HostState where
  vms := (∅ : FiniteMap VmKey VmT).insert (vmKey [97]) sleeperVm
  vcpus := ((∅ : FiniteMap Tid VcpuT).insert 8 (sleeperVcpu 1)).insert 7 (sleeperVcpu 0)
  mapRegistry := ∅
  sampleMaps := fun _ => SampleMap.fresh vmMapMaxEntries

/-- Thread 7 leaves with `prev_state` 1 (interruptible sleep) for thread
`nextPid`, while every guest slot reads 1. -/
def sleeperInput (nextPid : Tid) : SwitchInput :=
  ⟨⟨7, nextPid, 1⟩, fun _ => some 1, 100, 200⟩

theorem sleeperState_lookup : sleeperState.vcpus.lookup 7 = some (sleeperVcpu 0) :=
  AList.lookup_insert _

/-- When the incoming task is not a vCPU the sleeping vCPU becomes phantom. -/
theorem sleeping_vcpu_breaks_rule :
    (sleeperInput 9).event.prevPid ≠ (sleeperInput 9).event.nextPid ∧
      ¬ Preempted (sleeperInput 9).event.prevState ∧
      (phantomSwitchHandler (sleeperInput 9) sleeperState).vcpus.lookup 7 =
        some { sleeperVcpu 0 with isPhantom := 1 } ∧
      ¬ OutgoingRule (sleeperInput 9) sleeperState := by
  refine ⟨by decide, by decide, by rfl, fun rule => ?_⟩
  have condition := ruleCondition_of_outgoingRule (by decide) rule
  have registered := (condition (sleeperVcpu 0) sleeperState_lookup rfl rfl).2 (by decide)
  exact absurd registered (by decide)

/-- When the incoming task is the other vCPU the rule is followed. -/
theorem sleeping_vcpu_meets_rule_when_next_registered :
    (sleeperInput 8).event.prevPid ≠ (sleeperInput 8).event.nextPid ∧
      OutgoingRule (sleeperInput 8) sleeperState := by
  refine ⟨by decide, (outgoingRule_iff_ruleCondition _ _ (by decide)).mpr ?_⟩
  intro vcpu _ _ _
  refine ⟨fun preempted => absurd preempted (by decide), fun _ => by decide⟩

end PhantomTracker.Host
