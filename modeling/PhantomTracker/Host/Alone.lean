import PhantomTracker.Host.Concurrent
import Mathlib.Logic.Relation

/-!
Contract: the concurrent machine and the complete executions describe the same
handler.

Owns: the theorem that a handler whose steps no other step interrupts has the
effect of `phantom_switch_handler`.

Does not own: what holds when steps interleave, or the steps of a tick.

The two descriptions write the maps a different number of times: an update loop
that is stopped by its bound writes nothing, while the complete execution
writes the entry back. So the maps agree on every lookup, and need not store
their entries in the same order.
-/

namespace PhantomTracker.Host

open PhantomTracker.Foundation

/-! ## Maps that agree on every lookup -/

/-- Two states of the maps that no program can tell apart. -/
structure HostState.Agrees (left right : HostState) : Prop where
  vms : ∀ key, left.vms.lookup key = right.vms.lookup key
  vcpus : ∀ tid, left.vcpus.lookup tid = right.vcpus.lookup tid
  mapRegistry : left.mapRegistry = right.mapRegistry
  sampleMaps : left.sampleMaps = right.sampleMaps

namespace HostState.Agrees

variable {first left right third : HostState}

theorem refl (state : HostState) : state.Agrees state :=
  ⟨fun _ => rfl, fun _ => rfl, rfl, rfl⟩

theorem trans (before : first.Agrees left) (after : left.Agrees third) : first.Agrees third where
  vms key := (before.vms key).trans (after.vms key)
  vcpus tid := (before.vcpus tid).trans (after.vcpus tid)
  mapRegistry := before.mapRegistry.trans after.mapRegistry
  sampleMaps := before.sampleMaps.trans after.sampleMaps

theorem setVm (agree : left.Agrees right) (vmName : VmKey) (vm : VmT) :
    (left.setVm vmName vm).Agrees (right.setVm vmName vm) :=
  ⟨FiniteMap.lookup_insert_congr agree.vms vmName vm, agree.vcpus, agree.mapRegistry,
    agree.sampleMaps⟩

theorem setFlag (agree : left.Agrees right) (tid : Tid) (vcpu : VcpuT) (value : Nat) :
    (left.setFlag tid vcpu value).Agrees (right.setFlag tid vcpu value) :=
  ⟨agree.vms, FiniteMap.lookup_insert_congr agree.vcpus tid _, agree.mapRegistry,
    agree.sampleMaps⟩

theorem putSample (agree : left.Agrees right) (map : MapId) (idx : Nat) (sample : PhantomCount) :
    (left.putSample map idx sample).Agrees (right.putSample map idx sample) := by
  refine ⟨agree.vms, agree.vcpus, agree.mapRegistry, ?_⟩
  unfold HostState.putSample
  rw [agree.sampleMaps]

/-- Writing back the entry of a VM changes nothing that a program can see. -/
theorem setVm_self {state : HostState} {vmName : VmKey} {vm : VmT}
    (found : state.vms.lookup vmName = some vm) : state.Agrees (state.setVm vmName vm) :=
  ⟨fun key => (FiniteMap.lookup_insert_self found key).symm, fun _ => rfl, rfl, rfl⟩

end HostState.Agrees

/-- `recordSample` as the writes of the concurrent machine. -/
theorem recordSample_of_buffered {now : Nat} {vmName : VmKey} {vm : VmT} {state : HostState}
    {map : MapId} (buffered : state.mapRegistry.lookup (collectionBuff vm.active vmName) = some map) :
    recordSample now vmName vm state =
      (state.setVm vmName (vm.setIndex vm.active (u32Succ (vm.index vm.active)))).putSample map
        (vm.index vm.active) ⟨vm.phantomCount, now⟩ := by
  unfold recordSample
  rw [buffered]
  rfl

theorem recordSample_of_unbuffered {now : Nat} {vmName : VmKey} {vm : VmT} {state : HostState}
    (unbuffered : state.mapRegistry.lookup (collectionBuff vm.active vmName) = none) :
    recordSample now vmName vm state = state.setVm vmName vm := by
  unfold recordSample
  rw [unbuffered]
  rfl

section Agrees

variable {left right : HostState}

theorem HostState.Agrees.recordSample (agree : left.Agrees right) (now : Nat) (vmName : VmKey)
    (vm : VmT) : (recordSample now vmName vm left).Agrees (recordSample now vmName vm right) := by
  cases buffered : right.mapRegistry.lookup (collectionBuff vm.active vmName) with
  | none =>
      rw [recordSample_of_unbuffered buffered, recordSample_of_unbuffered (by
        rw [agree.mapRegistry]
        exact buffered)]
      exact agree.setVm vmName vm
  | some map =>
      rw [recordSample_of_buffered buffered, recordSample_of_buffered (by
        rw [agree.mapRegistry]
        exact buffered)]
      exact (agree.setVm vmName _).putSample map _ _

/-- What is recorded overwrites the entry of the VM. -/
theorem recordSample_setVm (now : Nat) (vmName : VmKey) (vm earlier : VmT) (state : HostState) :
    recordSample now vmName vm (state.setVm vmName earlier) = recordSample now vmName vm state := by
  unfold recordSample HostState.setVm
  simp only [AList.insert_insert]

theorem HostState.Agrees.switchHalf (agree : left.Agrees right) (half : Half) (now : Nat)
    (tid : Tid) (vcpu : VcpuT) :
    (switchHalf half now tid vcpu left).Agrees (switchHalf half now tid vcpu right) := by
  have flagged := agree.setFlag tid vcpu half.desired
  have sameVm := agree.vms vcpu.vmName
  unfold Host.switchHalf
  simp only [sameVm]
  split
  · exact flagged.recordSample now vcpu.vmName _
  · exact flagged

end Agrees

/-! ## One half of a handler -/

/-- Uninterrupted steps of one CPU, all with the same page and clock. -/
abbrev AloneRun (env : Env) : HostState × CpuPc → HostState × CpuPc → Prop :=
  Relation.ReflTransGen fun before after => cpuStep env before.1 before.2 = some after

/-- What a half does as a whole: the maps, and the locals it leaves. -/
def halfEffect (env : Env) (host : HostState) (locals : Locals) : HostState × Locals :=
  match host.vcpus.lookup locals.subject with
  | none => (host, locals)
  | some vcpu =>
      if env.msg vcpu = 1 ∧ locals.loadPrevState.eligible = true ∧
          vcpu.isPhantom = locals.half.expected then
        (switchHalf locals.half env.now locals.subject vcpu host, locals.loadPrevState)
      else (host, locals.loadPrevState)

section Half

variable (env : Env) (locals : Locals) {host : HostState} {vmName : VmKey} {vm : VmT}

theorem cpuStep_update (found : host.vms.lookup vmName = some vm) (pc : UpdatePc) :
    cpuStep env host (.update locals vmName pc) =
      some (updateStep env host locals vmName vm pc) := by
  simp only [cpuStep, found, Option.map_some]

/-- The update loop succeeds at its first attempt, or its bound stops it. -/
theorem count_alone (found : host.vms.lookup vmName = some vm) :
    ∃ middle, AloneRun env (host, .update locals vmName (.load 0))
        (middle, .update locals vmName (.choose (locals.half.newCount vm))) ∧
      middle.Agrees (host.setVm vmName (vm.setCount (locals.half.newCount vm))) := by
  have loaded := cpuStep_update env locals found (.load 0)
  rw [Half.newCount_eq]
  cases clamps : locals.half.clamps vm vm.phantomCount with
  | true =>
      simp only [updateStep, clamps, if_true] at loaded
      exact ⟨host, .single loaded, .setVm_self found⟩
  | false =>
      simp only [updateStep, clamps, Bool.false_eq_true, if_false] at loaded
      have swapped := cpuStep_update env locals found
        (.swap 0 vm.phantomCount)
      simp only [updateStep, if_true] at swapped
      exact ⟨_, .head loaded (.single swapped), .refl _⟩

/-- Choosing the buffer, reserving a slot and writing it. -/
theorem append_alone (found : host.vms.lookup vmName = some vm) :
    ∃ after, AloneRun env (host, .update locals vmName (.choose vm.phantomCount))
        (after, locals.finish) ∧ after.Agrees (recordSample env.now vmName vm host) := by
  have chosen := cpuStep_update env locals found (.choose vm.phantomCount)
  have reserved := cpuStep_update env locals found
    (.reserve vm.phantomCount vm.active)
  cases buffered : host.mapRegistry.lookup (collectionBuff vm.active vmName) with
  | none =>
      simp only [updateStep, buffered] at reserved
      rw [recordSample_of_unbuffered buffered]
      exact ⟨host, .head chosen (.single reserved), .setVm_self found⟩
  | some map =>
      simp only [updateStep, buffered] at reserved
      rw [recordSample_of_buffered buffered]
      have stored : (host.setVm vmName (vm.setIndex vm.active
          (u32Succ (vm.index vm.active)))).vms.lookup vmName = some _ :=
        AList.lookup_insert _
      have written := cpuStep_update env locals stored
        (.write vm.phantomCount vm.active map (vm.index vm.active))
      exact ⟨_, .head chosen (.head reserved (.single written)), .refl _⟩

theorem update_alone (found : host.vms.lookup vmName = some vm) :
    ∃ after, AloneRun env (host, .update locals vmName (.load 0)) (after, locals.finish) ∧
      after.Agrees (recordSample env.now vmName (vm.setCount (locals.half.newCount vm)) host) := by
  rcases count_alone env locals found with ⟨middle, counted, agree⟩
  have present : middle.vms.lookup vmName = some (vm.setCount (locals.half.newCount vm)) :=
    (agree.vms vmName).trans (AList.lookup_insert _)
  rcases append_alone env locals present with ⟨after, appended, recorded⟩
  refine ⟨after, counted.trans appended, recorded.trans ?_⟩
  have overwritten := agree.recordSample env.now vmName (vm.setCount (locals.half.newCount vm))
  rw [recordSample_setVm] at overwritten
  exact overwritten

/-- Uninterrupted, a half does what it does as a whole. -/
theorem half_alone (host : HostState) :
    ∃ after, AloneRun env (host, .enter locals)
        (after, (halfEffect env host locals).2.finish) ∧
      after.Agrees (halfEffect env host locals).1 := by
  have entered : cpuStep env host (.enter locals) = some (enterStep env host locals) := rfl
  unfold enterStep at entered
  unfold halfEffect
  cases found : host.vcpus.lookup locals.subject with
  | none =>
      simp only [found] at entered
      exact ⟨host, .single entered, .refl host⟩
  | some vcpu =>
      simp only [found, Locals.loadPrevState_half, Locals.loadPrevState_subject] at entered
      by_cases fires : env.msg vcpu = 1 ∧ locals.loadPrevState.eligible = true ∧
          vcpu.isPhantom = locals.half.expected
      · simp only [if_pos fires] at entered ⊢
        cases foundVm : host.vms.lookup vcpu.vmName with
        | none =>
            simp only [foundVm, Option.isSome_none, Bool.false_eq_true, if_false] at entered
            rw [switchHalf_of_absent foundVm]
            exact ⟨_, .single entered, .refl _⟩
        | some vm =>
            simp only [foundVm, Option.isSome_some, if_true] at entered
            have present : (host.setFlag locals.subject vcpu
                locals.half.desired).vms.lookup vcpu.vmName = some vm := foundVm
            rcases update_alone env locals.loadPrevState present with ⟨after, updated, agree⟩
            refine ⟨after, .head entered updated, ?_⟩
            rw [Locals.loadPrevState_half] at agree
            unfold switchHalf
            simp only [foundVm]
            exact agree
      · simp only [if_neg fires] at entered ⊢
        exact ⟨host, .single entered, .refl host⟩

theorem halfEffect_agrees {left right : HostState} (agree : left.Agrees right) :
    (halfEffect env left locals).1.Agrees (halfEffect env right locals).1 := by
  have sameVcpu := agree.vcpus locals.subject
  unfold halfEffect
  rw [sameVcpu]
  split
  · exact agree
  · split
    · exact agree.switchHalf _ _ _ _
    · exact agree

end Half

/-! ## A whole handler -/

section Handler

variable (input : SwitchInput) (state : HostState)

/-- What the steps of the incoming half read. -/
def SwitchInput.incomingEnv : Env := ⟨input.g2hRead, input.incomingNow⟩

/-- What the steps of the outgoing half read. -/
def SwitchInput.outgoingEnv : Env := ⟨input.g2hRead, input.outgoingNow⟩

theorem halfEffect_incoming :
    halfEffect input.incomingEnv state ⟨input.event, .incoming, 0⟩ =
      ((incomingSwitch input state).1, ⟨input.event, .incoming, (incomingSwitch input state).2⟩) := by
  unfold halfEffect incomingSwitch
  simp only [Locals.subject]
  cases state.vcpus.lookup input.event.nextPid with
  | none => rfl
  | some vcpu =>
      simp only [Locals.loadPrevState, Locals.eligible, true_and]
      by_cases fires : input.msg vcpu = 1 ∧ vcpu.isPhantom = Half.incoming.expected
      · have fires' : input.incomingEnv.msg vcpu = 1 ∧
            vcpu.isPhantom = Half.incoming.expected := fires
        simp only [if_pos fires, if_pos fires']
        rfl
      · have silent : ¬ (input.incomingEnv.msg vcpu = 1 ∧
            vcpu.isPhantom = Half.incoming.expected) := fires
        simp only [if_neg fires, if_neg silent]

theorem halfEffect_half (env : Env) (locals : Locals) :
    (halfEffect env state locals).2.half = locals.half := by
  unfold halfEffect
  split
  · rfl
  · split <;> exact locals.loadPrevState_half

theorem halfEffect_outgoing (prevState : Nat) :
    (halfEffect input.outgoingEnv state ⟨input.event, .outgoing, prevState⟩).1 =
      outgoingSwitch input prevState state := by
  unfold halfEffect outgoingSwitch
  simp only [Locals.subject]
  cases state.vcpus.lookup input.event.prevPid with
  | none => rfl
  | some vcpu =>
      have parked : (Locals.loadPrevState ⟨input.event, .outgoing, prevState⟩).eligible = true ↔
          (prevState = taskRunning ∨ prevState = taskWaking) := decide_eq_true_iff
      by_cases fires : input.msg vcpu = 1 ∧ (prevState = taskRunning ∨ prevState = taskWaking) ∧
          vcpu.isPhantom = Half.outgoing.expected
      · have fires' := And.imp_right (And.imp_left parked.mpr) fires
        exact (congrArg Prod.fst (if_pos fires')).trans (if_pos fires).symm
      · have silent := mt (And.imp_right (And.imp_left parked.mp)) fires
        exact (congrArg Prod.fst (if_neg silent)).trans (if_neg fires).symm

/-- Uninterrupted, the steps of a handler lead from its entry to its return,
and to the maps that `phantom_switch_handler` leaves. -/
theorem handler_alone :
    ∃ middle pc after, AloneRun input.incomingEnv (state, .enter ⟨input.event, .incoming, 0⟩)
        (middle, pc) ∧
      AloneRun input.outgoingEnv (middle, pc) (after, .idle) ∧
      after.Agrees (phantomSwitchHandler input state) := by
  rcases half_alone input.incomingEnv ⟨input.event, .incoming, 0⟩ state with
    ⟨middle, entered, agree⟩
  rw [halfEffect_incoming] at entered agree
  rcases half_alone input.outgoingEnv
    ⟨input.event, .outgoing, (incomingSwitch input state).2⟩ middle with ⟨after, left, agreeAfter⟩
  have returned : (halfEffect input.outgoingEnv middle
      ⟨input.event, .outgoing, (incomingSwitch input state).2⟩).2.finish = .idle := by
    unfold Locals.finish
    rw [halfEffect_half]
  rw [returned] at left
  refine ⟨middle, _, after, entered, left, agreeAfter.trans ?_⟩
  have same := halfEffect_agrees input.outgoingEnv
    ⟨input.event, .outgoing, (incomingSwitch input state).2⟩ agree
  rw [halfEffect_outgoing input (incomingSwitch input state).1] at same
  exact same

end Handler

end PhantomTracker.Host
