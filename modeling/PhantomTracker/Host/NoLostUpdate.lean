import PhantomTracker.Foundation.Census
import PhantomTracker.Foundation.Runs
import PhantomTracker.Host.Accounting
import PhantomTracker.Host.Concurrent

/-!
Contract: concurrent handlers lose no counter update.

Owns: the number of handlers between their flag and their counter, the
scheduler's guarantee, the invariant that relates counter, flags and handlers in
flight, and its consequences: no clamp is taken, and the counter is exact
whenever no handler runs.

Does not own: the samples the handlers append.
-/

namespace PhantomTracker.Host

open PhantomTracker.Foundation
open PhantomTracker.Foundation.FiniteMap

def SchedSwitch.Involves (event : SchedSwitch) (tid : Tid) : Prop :=
  event.prevPid = tid ∨ event.nextPid = tid

theorem Locals.event_involves_subject (locals : Locals) :
    locals.event.Involves locals.subject := by
  unfold Locals.subject
  split
  · exact Or.inr rfl
  · exact Or.inl rfl

/-- The flag is flipped and the counter not yet updated. -/
def UpdatePc.pending : UpdatePc → Bool
  | .load _ => true
  | .swap _ _ => true
  | .reload => true
  | _ => false

def CpuPc.pending (half : Half) (key : VmKey) : CpuPc → Bool
  | .update locals vmName pc => decide (locals.half = half ∧ vmName = key) && pc.pending
  | _ => false

def CpuPc.subject : CpuPc → Tid
  | .idle => 0
  | .enter locals => locals.subject
  | .update locals _ _ => locals.subject

section Pending

variable {half : Half} {key : VmKey}

theorem CpuPc.pending_iff {pc : CpuPc} :
    pc.pending half key = true ↔
      ∃ locals update, pc = .update locals key update ∧ locals.half = half ∧
        update.pending = true := by
  cases pc with
  | idle => simp [CpuPc.pending]
  | enter locals => simp [CpuPc.pending]
  | update locals vmName update =>
      simp only [CpuPc.pending, Bool.and_eq_true, decide_eq_true_eq, CpuPc.update.injEq]
      constructor
      · rintro ⟨⟨sameHalf, rfl⟩, waits⟩
        exact ⟨locals, update, ⟨rfl, rfl, rfl⟩, sameHalf, waits⟩
      · rintro ⟨_, _, ⟨rfl, rfl, rfl⟩, sameHalf, waits⟩
        exact ⟨⟨sameHalf, rfl⟩, waits⟩

@[simp] theorem Locals.finish_pending (locals : Locals) :
    locals.finish.pending half key = false := by
  unfold Locals.finish
  split <;> rfl

theorem Locals.finish_event {locals : Locals} {event : SchedSwitch}
    (running : locals.finish.event = some event) : event = locals.event := by
  unfold Locals.finish at running
  split at running
  · exact (Option.some.inj running).symm
  · cases running

end Pending

/-- The number of vCPUs of a VM whose `is_phantom` is `value`. -/
def withFlag (key : VmKey) (value : Nat) (vcpus : FiniteMap Tid VcpuT) : Nat :=
  countWhere (fun _ vcpu => vcpu.vmName = key ∧ vcpu.isPhantom = value) vcpus

/-- Unflagged and flagged vCPUs are vCPUs of the VM. -/
theorem flaggedOf_add_unflagged (key : VmKey) (vcpus : FiniteMap Tid VcpuT) :
    flaggedOf key vcpus + withFlag key 0 vcpus ≤ entriesOf key vcpus := by
  have split := countWhere_split (fun _ (vcpu : VcpuT) => decide (vcpu.vmName = key))
    (fun _ vcpu => decide (vcpu.isPhantom = 1)) vcpus
  have flagged : flaggedOf key vcpus =
      countWhere (fun _ (vcpu : VcpuT) =>
        decide (vcpu.vmName = key) && decide (vcpu.isPhantom = 1)) vcpus := by
    unfold flaggedOf
    simp only [Bool.decide_and]
  have unflagged : withFlag key 0 vcpus ≤
      countWhere (fun _ (vcpu : VcpuT) =>
        decide (vcpu.vmName = key) && !decide (vcpu.isPhantom = 1)) vcpus := by
    apply countWhere_le_of_imp
    intro _ vcpu holds
    obtain ⟨own, flag⟩ := of_decide_eq_true holds
    simp [own, flag]
  unfold entriesOf
  omega

/-! ## The scheduler's guarantee -/

section Machine

variable {ι : Type}

/-- Two events of the same vCPU thread do not overlap, and no retry loop uses
up its attempts. -/
def SchedGuard (machine : Machine ι) : Action ι → Prop
  | .switch _ event =>
      ∀ cpu other, (machine.cpus cpu).event = some other →
        ∀ tid, (machine.host.vcpus.lookup tid).isSome → event.Involves tid →
          ¬ other.Involves tid
  | .advance cpu _ =>
      ∀ locals vmName attempt old vm,
        machine.cpus cpu = .update locals vmName (.swap attempt old) →
        ¬ attempt + 1 < maxAttempts → machine.host.vms.lookup vmName = some vm →
        vm.phantomCount = old
  | .tick _ => True

variable [Fintype ι]

/-- **The invariant.** The counter lags behind the flags by the handlers that
are between the two. -/
structure Counted (key : VmKey) (host : HostState) (cpus : ι → CpuPc) : Prop where
  counter : ∃ vm, host.vms.lookup key = some vm ∧
    vm.phantomCount + census (CpuPc.pending .outgoing key) cpus =
      flaggedOf key host.vcpus + census (CpuPc.pending .incoming key) cpus ∧
    entriesOf key host.vcpus ≤ vm.nbVcpus
  binary : ∀ tid vcpu, host.vcpus.lookup tid = some vcpu → vcpu.vmName = key →
    vcpu.isPhantom = 0 ∨ vcpu.isPhantom = 1
  owner : ∀ cpu locals update, cpus cpu = .update locals key update →
    update.pending = true →
    ∃ vcpu, host.vcpus.lookup locals.subject = some vcpu ∧ vcpu.vmName = key ∧
      vcpu.isPhantom = locals.half.desired
  retrying : ∀ cpu locals, cpus cpu ≠ .update locals key .reload
  disjoint : ∀ first second event other tid, (cpus first).event = some event →
    (cpus second).event = some other → (host.vcpus.lookup tid).isSome →
    event.Involves tid → other.Involves tid → first = second

section Bounds

variable {key : VmKey} {host : HostState} {cpus : ι → CpuPc}

/-- The handlers in flight of one half own distinct vCPUs of the VM, whose
flags already hold the new value. -/
theorem Counted.census_le (counted : Counted key host cpus) (half : Half) :
    census (CpuPc.pending half key) cpus ≤
      withFlag key half.desired host.vcpus := by
  have owns : ∀ cpu, (cpus cpu).pending half key = true →
      ∃ vcpu event, host.vcpus.lookup (cpus cpu).subject = some vcpu ∧
        vcpu.vmName = key ∧ vcpu.isPhantom = half.desired ∧
        (cpus cpu).event = some event ∧ event.Involves (cpus cpu).subject := by
    intro cpu waits
    obtain ⟨locals, update, current, rfl, updateWaits⟩ := CpuPc.pending_iff.mp waits
    obtain ⟨vcpu, found, own, flag⟩ := counted.owner cpu locals update current updateWaits
    rw [current]
    exact ⟨vcpu, locals.event, found, own, flag, rfl, locals.event_involves_subject⟩
  apply census_le_countWhere CpuPc.subject
  · intro cpu waits
    obtain ⟨vcpu, _, found, own, flag, _⟩ := owns cpu waits
    exact ⟨vcpu, found, decide_eq_true ⟨own, flag⟩⟩
  · intro left right leftWaits rightWaits same
    obtain ⟨vcpu, event, found, _, _, running, involved⟩ := owns left leftWaits
    obtain ⟨_, other, _, _, _, otherRunning, otherInvolved⟩ := owns right rightWaits
    rw [← same] at otherInvolved
    exact counted.disjoint left right event other _ running otherRunning
      (by rw [found]; rfl) involved otherInvolved

/-- A handler about to load the counter finds it inside the bounds. -/
theorem Counted.passes (counted : Counted key host cpus) {vm : VmT} {cpu : ι} {locals : Locals}
    {update : UpdatePc} (found : host.vms.lookup key = some vm)
    (current : cpus cpu = .update locals key update) (waits : update.pending = true) :
    locals.half.clamps vm vm.phantomCount = false := by
  obtain ⟨other, otherFound, balance, ceiling⟩ := counted.counter
  rw [found] at otherFound
  obtain rfl := Option.some.inj otherFound
  have inFlight : 0 < census (CpuPc.pending locals.half key) cpus :=
    census_pos cpu (CpuPc.pending_iff.mpr ⟨locals, update, current, rfl, waits⟩)
  have raised : census (CpuPc.pending .outgoing key) cpus ≤
      flaggedOf key host.vcpus := counted.census_le .outgoing
  have lowered : census (CpuPc.pending .incoming key) cpus ≤
      withFlag key 0 host.vcpus := counted.census_le .incoming
  have partition := flaggedOf_add_unflagged key host.vcpus
  cases side : locals.half with
  | incoming =>
      rw [side] at inFlight
      simp only [Half.clamps, decide_eq_false_iff_not]
      omega
  | outgoing =>
      rw [side] at inFlight
      simp only [Half.clamps, decide_eq_false_iff_not]
      omega

end Bounds

/-! ## Steps that leave counter and flags alone -/

/-- A step keeps the flags and the counter of the VM. -/
structure SameCounts (key : VmKey) (before after : HostState) : Prop where
  vcpus : after.vcpus = before.vcpus
  counter : ∀ vm, before.vms.lookup key = some vm →
    ∃ vmAfter, after.vms.lookup key = some vmAfter ∧
      vmAfter.phantomCount = vm.phantomCount ∧ vmAfter.nbVcpus = vm.nbVcpus

omit [Fintype ι] in
theorem SameCounts.refl (key : VmKey) (host : HostState) : SameCounts key host host :=
  ⟨rfl, fun vm found => ⟨vm, found, rfl, rfl⟩⟩

theorem sameCounts_setVm {host : HostState} {vmName : VmKey} {vm vmAfter : VmT} (key : VmKey)
    (found : host.vms.lookup vmName = some vm) (count : vmAfter.phantomCount = vm.phantomCount)
    (ceiling : vmAfter.nbVcpus = vm.nbVcpus) : SameCounts key host (host.setVm vmName vmAfter) where
  vcpus := rfl
  counter other otherFound := by
    by_cases same : key = vmName
    · subst same
      rw [found] at otherFound
      obtain rfl := Option.some.inj otherFound
      exact ⟨vmAfter, AList.lookup_insert _, count, ceiling⟩
    · exact ⟨other, (AList.lookup_insert_ne same).trans otherFound, rfl, rfl⟩

theorem sameCounts_putSample (key : VmKey) (host : HostState) (map : MapId) (idx : Nat)
    (sample : PhantomCount) : SameCounts key host (host.putSample map idx sample) :=
  ⟨rfl, fun vm found => ⟨vm, found, rfl, rfl⟩⟩

theorem swapFrom_nbVcpus (vm : VmT) (old : Buff) :
    (vm.swapFrom old).nbVcpus = vm.nbVcpus := by
  cases old <;> (simp only [VmT.swapFrom]; split <;> rfl)

/-- No step of a tick changes the flags or the counter. -/
theorem sameCounts_tickStep {host : HostState} {timerKey : VmKey} {vm : VmT} (key : VmKey)
    (now : Nat) (found : host.vms.lookup timerKey = some vm) (maps : Buff → MapId) (pc : TickPc) :
    SameCounts key host (tickStep now host timerKey vm maps pc).1 := by
  cases pc with
  | openNew old countEnd countStart => exact sameCounts_putSample key host _ _ _
  | reset old countEnd => exact sameCounts_setVm key found (by simp) (by simp)
  | swap old countEnd =>
      exact sameCounts_setVm key found (swapFrom_phantomCount vm old) (swapFrom_nbVcpus vm old)
  | reserve old countEnd => exact sameCounts_setVm key found (by simp) (by simp)
  | writeEnd old countEnd endIdx => exact sameCounts_putSample key host _ _ _
  | fold old k ctx =>
      simp only [tickStep]
      split <;> exact SameCounts.refl key host
  | publish avg => exact sameCounts_setVm key found rfl rfl
  | _ => exact SameCounts.refl key host

variable [DecidableEq ι] {key : VmKey} {host : HostState} {cpus : ι → CpuPc}

omit [Fintype ι] in
/-- The event of a CPU after one of them has moved within its event. -/
theorem event_of_update {cpu other : ι} {pc : CpuPc} {event : SchedSwitch}
    (within : ∀ event, pc.event = some event → (cpus cpu).event = some event)
    (running : (Function.update cpus cpu pc other).event = some event) :
    (cpus other).event = some event := by
  rcases update_cases (fun pc : CpuPc => pc.event = some event) running with
    ⟨rfl, own⟩ | ⟨_, unmoved⟩
  · exact within event own
  · exact unmoved

/-- No handler retries after a CPU has moved elsewhere. -/
theorem Counted.retrying_update (counted : Counted key host cpus) {cpu : ι} {pc : CpuPc}
    (retries : ∀ locals, pc ≠ .update locals key .reload) (other : ι) (locals : Locals) :
    Function.update cpus cpu pc other ≠ .update locals key .reload := by
  intro current
  rcases update_cases (· = CpuPc.update locals key .reload) current with ⟨_, own⟩ | ⟨_, unmoved⟩
  · exact retries locals own
  · exact counted.retrying other locals unmoved

/-- Handlers stay apart when a CPU moves within its event and no entry comes or goes. -/
theorem Counted.disjoint_update (counted : Counted key host cpus) {after : HostState} {cpu : ι}
    {pc : CpuPc} (within : ∀ event, pc.event = some event → (cpus cpu).event = some event)
    (entries : ∀ tid, (after.vcpus.lookup tid).isSome = (host.vcpus.lookup tid).isSome)
    (first second : ι) (event other : SchedSwitch) (tid : Tid)
    (running : (Function.update cpus cpu pc first).event = some event)
    (otherRunning : (Function.update cpus cpu pc second).event = some other)
    (registered : (after.vcpus.lookup tid).isSome) (involved : event.Involves tid)
    (otherInvolved : other.Involves tid) : first = second := by
  rw [entries] at registered
  exact counted.disjoint first second event other tid (event_of_update within running)
    (event_of_update within otherRunning) registered involved otherInvolved

/-- A CPU moves within its event and stays on the same side of its counter
update, and the maps keep flags and counter. -/
theorem Counted.move (counted : Counted key host cpus) {after : HostState} {cpu : ι} {pc : CpuPc}
    (same : SameCounts key host after)
    (sameSide : ∀ half, pc.pending half key = (cpus cpu).pending half key)
    (within : ∀ event, pc.event = some event → (cpus cpu).event = some event)
    (origin : ∀ locals update, pc = .update locals key update → update.pending = true →
      ∃ before, cpus cpu = .update locals key before ∧ before.pending = true)
    (retries : ∀ locals, pc ≠ .update locals key .reload) :
    Counted key after (Function.update cpus cpu pc) where
  counter := by
    obtain ⟨vm, found, balance, ceiling⟩ := counted.counter
    obtain ⟨vmAfter, foundAfter, count, sameCeiling⟩ := same.counter vm found
    refine ⟨vmAfter, foundAfter, ?_, ?_⟩
    · rw [census_update_of_same (sameSide .outgoing), census_update_of_same (sameSide .incoming),
        same.vcpus, count]
      exact balance
    · rw [same.vcpus, sameCeiling]
      exact ceiling
  binary := by
    rw [same.vcpus]
    exact counted.binary
  owner other locals update current waits := by
    rw [same.vcpus]
    rcases update_cases (· = CpuPc.update locals key update) current with ⟨rfl, own⟩ | ⟨_, unmoved⟩
    · obtain ⟨before, earlier, waited⟩ := origin locals update own waits
      exact counted.owner other locals before earlier waited
    · exact counted.owner other locals update unmoved waits
  retrying := counted.retrying_update retries
  disjoint := counted.disjoint_update within fun _ => by rw [same.vcpus]

/-! ## The two steps that matter -/

theorem lookup_setFlag_isSome {tid other : Tid} {vcpu : VcpuT} {value : Nat}
    (found : host.vcpus.lookup tid = some vcpu) :
    ((host.setFlag tid vcpu value).vcpus.lookup other).isSome =
      (host.vcpus.lookup other).isSome := by
  show ((host.vcpus.insert tid { vcpu with isPhantom := value }).lookup other).isSome = _
  by_cases same : other = tid
  · subst same
    rw [AList.lookup_insert, found]
    rfl
  · rw [AList.lookup_insert_ne same]

/-- Where a half stands after flipping the flag of `vcpu`: before its counter
update, or past it if the VM has no entry and so is not the one counted. -/
def FlipsTo (key : VmKey) (locals : Locals) (vcpu : VcpuT) (pc : CpuPc) : Prop :=
  (∃ after, pc = .update after vcpu.vmName (.load 0) ∧ after.half = locals.half ∧
    after.subject = locals.subject) ∨
  (vcpu.vmName ≠ key ∧ ∀ after update, pc ≠ .update after key update)

omit [DecidableEq ι] [Fintype ι] in
/-- Flags and handlers in flight move together. -/
theorem flaggedOf_setFlag {locals : Locals} {vcpu : VcpuT} {pc : CpuPc}
    (found : host.vcpus.lookup locals.subject = some vcpu)
    (flag : vcpu.isPhantom = locals.half.expected) (shape : FlipsTo key locals vcpu pc) :
    flaggedOf key (host.setFlag locals.subject vcpu locals.half.desired).vcpus +
        (pc.pending .incoming key).toNat =
      flaggedOf key host.vcpus + (pc.pending .outgoing key).toNat := by
  by_cases own : vcpu.vmName = key
  · subst own
    obtain ⟨after, rfl, sameHalf, _⟩ := shape.resolve_right fun foreign => foreign.1 rfl
    have moved : flaggedOf vcpu.vmName
        (host.setFlag locals.subject vcpu locals.half.desired).vcpus + locals.half.expected =
          flaggedOf vcpu.vmName host.vcpus + locals.half.desired :=
      flaggedOf_flip found flag rfl
    have lowered : (CpuPc.pending .incoming vcpu.vmName
        (.update after vcpu.vmName (.load 0))).toNat = locals.half.expected := by
      simp only [CpuPc.pending, sameHalf, UpdatePc.pending]
      cases locals.half <;> simp [Half.expected]
    have raised : (CpuPc.pending .outgoing vcpu.vmName
        (.update after vcpu.vmName (.load 0))).toNat = locals.half.desired := by
      simp only [CpuPc.pending, sameHalf, UpdatePc.pending]
      cases locals.half <;> simp [Half.desired]
    rw [lowered, raised]
    exact moved
  · have sameFlagged : flaggedOf key
        (host.setFlag locals.subject vcpu locals.half.desired).vcpus =
          flaggedOf key host.vcpus :=
      countWhere_insert_of_same found (by simp [own])
    have quietPc : ∀ half, pc.pending half key = false := by
      intro half
      rcases shape with ⟨after, rfl, _⟩ | ⟨_, elsewhere⟩
      · simp [CpuPc.pending, own]
      · rw [Bool.eq_false_iff]
        intro waits
        obtain ⟨after, update, same, _⟩ := CpuPc.pending_iff.mp waits
        exact elsewhere after update same
    rw [sameFlagged, quietPc, quietPc]

omit [DecidableEq ι] in
/-- No other handler in flight is about the vCPU of a handler that has just begun. -/
theorem Counted.elsewhere (counted : Counted key host cpus) {cpu other : ι}
    {locals others : Locals} {vcpu : VcpuT} {update : UpdatePc}
    (current : cpus cpu = .enter locals) (found : host.vcpus.lookup locals.subject = some vcpu)
    (different : other ≠ cpu) (runs : cpus other = .update others key update) :
    others.subject ≠ locals.subject := by
  intro same
  apply different
  apply counted.disjoint other cpu others.event locals.event locals.subject
  · rw [runs]
    rfl
  · rw [current]
    rfl
  · rw [found]
    rfl
  · exact same ▸ others.event_involves_subject
  · exact locals.event_involves_subject

/-- The compare-and-swap on a flag. -/
theorem Counted.flip (counted : Counted key host cpus) {cpu : ι} {locals : Locals} {vcpu : VcpuT}
    {pc : CpuPc} (current : cpus cpu = .enter locals)
    (found : host.vcpus.lookup locals.subject = some vcpu)
    (flag : vcpu.isPhantom = locals.half.expected)
    (within : ∀ event, pc.event = some event → event = locals.event)
    (shape : FlipsTo key locals vcpu pc) :
    Counted key (host.setFlag locals.subject vcpu locals.half.desired)
      (Function.update cpus cpu pc) where
  counter := by
    obtain ⟨vm, foundVm, balance, ceiling⟩ := counted.counter
    have sameEntries : entriesOf key
        (host.setFlag locals.subject vcpu locals.half.desired).vcpus =
          entriesOf key host.vcpus := countWhere_insert_of_same found rfl
    have idleSide : ∀ half, (cpus cpu).pending half key = false := by
      intro half
      rw [current]
      rfl
    have outgoing := census_update (CpuPc.pending .outgoing key) cpus cpu pc
    have incoming := census_update (CpuPc.pending .incoming key) cpus cpu pc
    rw [idleSide] at outgoing incoming
    simp only [Bool.toNat_false, Nat.add_zero] at outgoing incoming
    have moved := flaggedOf_setFlag found flag shape
    refine ⟨vm, foundVm, ?_, by rw [sameEntries]; exact ceiling⟩
    rw [outgoing, incoming]
    omega
  binary := binary_insert_desired counted.binary locals.half locals.subject vcpu
  owner other others update runs waits := by
    rcases update_cases (· = CpuPc.update others key update) runs with ⟨_, own⟩ | ⟨moved, unmoved⟩
    · rcases shape with ⟨after, rfl, sameHalf, sameSubject⟩ | ⟨_, elsewherePc⟩
      · obtain ⟨rfl, sameName, _⟩ := CpuPc.update.inj own
        rw [sameSubject, sameHalf]
        exact ⟨_, AList.lookup_insert _, sameName, rfl⟩
      · exact absurd own (elsewherePc others update)
    · have different := counted.elsewhere current found moved unmoved
      obtain ⟨entry, present, sameName, flagged⟩ := counted.owner other others update unmoved waits
      exact ⟨entry, (AList.lookup_insert_ne different).trans present, sameName, flagged⟩
  retrying := by
    apply counted.retrying_update
    intro others own
    rcases shape with ⟨after, rfl, _⟩ | ⟨_, elsewherePc⟩
    · cases own
    · exact elsewherePc others _ own
  disjoint := by
    apply counted.disjoint_update _ fun _ => lookup_setFlag_isSome found
    intro event runs
    rw [current, within event runs]
    rfl

/-- The compare-and-swap on the counter takes the handler out of flight. -/
theorem Counted.swap (counted : Counted key host cpus) {cpu : ι} {locals : Locals} {vmName : VmKey}
    {vm : VmT} {attempt : Nat}
    (current : cpus cpu = .update locals vmName (.swap attempt vm.phantomCount))
    (found : host.vms.lookup vmName = some vm) :
    Counted key (host.setVm vmName (vm.setCount (locals.half.bump vm.phantomCount)))
      (Function.update cpus cpu
        (.update locals vmName (.choose (locals.half.bump vm.phantomCount)))) := by
  refine ⟨?_, counted.binary, ?_, ?_, ?_⟩
  · obtain ⟨other, otherFound, balance, ceiling⟩ := counted.counter
    have outgoing := census_update (CpuPc.pending .outgoing key) cpus cpu
      (.update locals vmName (.choose (locals.half.bump vm.phantomCount)))
    have incoming := census_update (CpuPc.pending .incoming key) cpus cpu
      (.update locals vmName (.choose (locals.half.bump vm.phantomCount)))
    rw [current] at outgoing incoming
    simp only [CpuPc.pending, UpdatePc.pending, Bool.and_true, Bool.and_false,
      Bool.toNat_false, Nat.add_zero] at outgoing incoming
    by_cases own : vmName = key
    · subst own
      rw [found] at otherFound
      obtain rfl := Option.some.inj otherFound
      refine ⟨_, AList.lookup_insert _, ?_, ceiling⟩
      show locals.half.bump vm.phantomCount + _ = (flaggedOf vmName host.vcpus : Int) + _
      cases side : locals.half <;> rw [side] at outgoing incoming <;>
        simp [Half.bump] at outgoing incoming ⊢ <;> omega
    · refine ⟨other, (AList.lookup_insert_ne (Ne.symm own)).trans otherFound, ?_, ceiling⟩
      simp only [own, and_false, decide_false, Bool.toNat_false, Nat.add_zero]
        at outgoing incoming
      rw [outgoing, incoming]
      exact balance
  · intro other others update runs waits
    rcases update_cases (· = CpuPc.update others key update) runs with ⟨_, own⟩ | ⟨_, unmoved⟩
    · cases own
      cases waits
    · exact counted.owner other others update unmoved waits
  · apply counted.retrying_update
    intro others own
    cases own
  · apply counted.disjoint_update _ fun _ => rfl
    intro event runs
    rw [current]
    exact runs

/-! ## Steps and runs -/

theorem finish_ne_update (locals after : Locals) (vmName : VmKey) (update : UpdatePc) :
    locals.finish ≠ .update after vmName update := by
  unfold Locals.finish
  split <;> exact fun same => by cases same

/-- A handler that is not in flight moves on, and the maps keep flags and
counter. -/
theorem Counted.pass (counted : Counted key host cpus) {after : HostState} {cpu : ι} {pc : CpuPc}
    (same : SameCounts key host after)
    (before : ∀ half, (cpus cpu).pending half key = false)
    (quiet : ∀ half, pc.pending half key = false)
    (within : ∀ event, pc.event = some event → (cpus cpu).event = some event) :
    Counted key after (Function.update cpus cpu pc) := by
  have settled : ∀ locals update, pc = .update locals key update → update.pending ≠ true := by
    intro locals update shape waits
    have flight := quiet locals.half
    rw [CpuPc.pending_iff.mpr ⟨locals, update, shape, rfl, waits⟩] at flight
    cases flight
  refine counted.move same (fun half => by rw [quiet, before]) within ?_ ?_
  · intro locals update shape waits
    exact absurd waits (settled locals update shape)
  · intro locals shape
    exact settled locals .reload shape rfl

/-- A handler goes on with its counter update. -/
theorem Counted.goOn (counted : Counted key host cpus) {cpu : ι} {locals : Locals}
    {vmName : VmKey} {before next : UpdatePc} (current : cpus cpu = .update locals vmName before)
    (waited : before.pending = true) (waits : next.pending = true) (retries : next ≠ .reload) :
    Counted key host (Function.update cpus cpu (.update locals vmName next)) := by
  refine counted.move (SameCounts.refl key host) ?_ (fun _ runs => by rw [current]; exact runs)
    ?_ ?_
  · intro half
    rw [current, CpuPc.pending, CpuPc.pending, waited, waits]
  · intro _ _ shape _
    cases shape
    exact ⟨before, current, waited⟩
  · intro _ shape
    exact retries (CpuPc.update.inj shape).2.2

/-- A handler of another VM, or one whose counter update is over, takes its next step. -/
theorem Counted.passUpdate (counted : Counted key host cpus) {after : HostState} {cpu : ι}
    {locals : Locals} {vmName : VmKey} {before next : UpdatePc}
    (current : cpus cpu = .update locals vmName before) (same : SameCounts key host after)
    (elsewhere : vmName ≠ key ∨ before.pending = false ∧ next.pending = false) :
    Counted key after (Function.update cpus cpu (.update locals vmName next)) := by
  refine counted.pass same ?_ ?_ (fun _ runs => by rw [current]; exact runs)
  · intro half
    rw [current, CpuPc.pending]
    rcases elsewhere with foreign | ended
    · simp [foreign]
    · simp [ended.1]
  · intro half
    rw [CpuPc.pending]
    rcases elsewhere with foreign | ended
    · simp [foreign]
    · simp [ended.2]

/-- A handler whose counter update is over finishes its half. -/
theorem Counted.passFinish (counted : Counted key host cpus) {after : HostState} {cpu : ι}
    {locals : Locals} {vmName : VmKey} {before : UpdatePc}
    (current : cpus cpu = .update locals vmName before) (same : SameCounts key host after)
    (ended : before.pending = false) :
    Counted key after (Function.update cpus cpu locals.finish) := by
  refine counted.pass same ?_ (fun _ => locals.finish_pending) ?_
  · intro half
    rw [current, CpuPc.pending, ended, Bool.and_false]
  · intro event runs
    rw [current, Locals.finish_event runs]
    rfl

theorem Counted.cpuStep (counted : Counted key host cpus) {after : HostState} {cpu : ι}
    {pc : CpuPc} (step : CpuStep host (cpus cpu) after pc)
    (attempts : ∀ locals vmName attempt old vm,
      cpus cpu = .update locals vmName (.swap attempt old) → ¬ attempt + 1 < maxAttempts →
      host.vms.lookup vmName = some vm → vm.phantomCount = old) :
    Counted key after (Function.update cpus cpu pc) := by
  generalize current : cpus cpu = before at step
  cases step with
  | skip locals passed event half =>
      refine counted.pass (SameCounts.refl key host) (fun _ => by rw [current]; rfl)
        (fun _ => passed.finish_pending) ?_
      intro running runs
      rw [current, Locals.finish_event runs, event]
      rfl
  | @flip locals passed vcpu vm event half found flag foundVm =>
      have sameSubject : passed.subject = locals.subject := by
        simp only [Locals.subject, half, event]
      refine counted.flip current found flag ?_ (Or.inl ⟨passed, rfl, half, sameSubject⟩)
      intro running runs
      exact (Option.some.inj runs).symm.trans event
  | @flipAlone locals passed vcpu event half found flag absent =>
      refine counted.flip current found flag ?_ (Or.inr ⟨?_, ?_⟩)
      · intro running runs
        exact (Locals.finish_event runs).trans event
      · intro own
        obtain ⟨vm, foundVm, _⟩ := counted.counter
        rw [own, foundVm] at absent
        cases absent
      · exact fun passedAfter update => finish_ne_update passed passedAfter key update
  | @clamp locals vmName vm attempt found clamps =>
      -- In the VM that is counted the bound test passes.
      have foreign : vmName ≠ key := by
        rintro rfl
        rw [counted.passes found current rfl] at clamps
        cases clamps
      exact counted.passUpdate current (SameCounts.refl key host) (Or.inl foreign)
  | load attempt found passes => exact counted.goOn current rfl rfl (fun same => by cases same)
  | swap attempt found => exact counted.swap current found
  | retry found moved below => exact counted.goOn current rfl rfl (fun same => by cases same)
  | exhaust found moved last => exact absurd (attempts _ _ _ _ _ current last found) moved
  | @reload locals vmName vm found =>
      have foreign : vmName ≠ key := by
        rintro rfl
        exact counted.retrying cpu locals current
      exact counted.passUpdate current (SameCounts.refl key host) (Or.inl foreign)
  | choose newCount found =>
      exact counted.passUpdate current (SameCounts.refl key host) (Or.inr ⟨rfl, rfl⟩)
  | unbuffered newCount absent =>
      exact counted.passFinish current (SameCounts.refl key host) rfl
  | reserve newCount found buffered =>
      exact counted.passUpdate current (sameCounts_setVm key found (by simp) (by simp))
        (Or.inr ⟨rfl, rfl⟩)
  | write locals vmName newCount buff map idx now =>
      exact counted.passFinish current (sameCounts_putSample key host map idx _) rfl

theorem Counted.switch (counted : Counted key host cpus) {cpu : ι} {event : SchedSwitch}
    (idle : cpus cpu = .idle)
    (apart : ∀ cpu other, (cpus cpu).event = some other →
      ∀ tid, (host.vcpus.lookup tid).isSome → event.Involves tid → ¬ other.Involves tid) :
    Counted key host (Function.update cpus cpu (.enter ⟨event, .incoming, 0⟩)) := by
  have idleSide : ∀ half, (cpus cpu).pending half key = false := by
    intro half
    rw [idle]
    rfl
  refine ⟨?_, counted.binary, ?_, ?_, ?_⟩
  · obtain ⟨vm, found, balance, ceiling⟩ := counted.counter
    refine ⟨vm, found, ?_, ceiling⟩
    rw [census_update_of_same (idleSide .outgoing).symm,
      census_update_of_same (idleSide .incoming).symm]
    exact balance
  · intro other locals update runs waits
    rcases update_cases (· = CpuPc.update locals key update) runs with ⟨_, own⟩ | ⟨_, unmoved⟩
    · cases own
    · exact counted.owner other locals update unmoved waits
  · intro other locals runs
    rcases update_cases (· = CpuPc.update locals key .reload) runs with ⟨_, own⟩ | ⟨_, unmoved⟩
    · cases own
    · exact counted.retrying other locals unmoved
  · intro first second firstEvent secondEvent tid runs otherRuns registered involved otherInvolved
    rcases update_cases (fun pc : CpuPc => pc.event = some firstEvent) runs with
      ⟨firstNew, starts⟩ | ⟨_, firstRuns⟩ <;>
    rcases update_cases (fun pc : CpuPc => pc.event = some secondEvent) otherRuns with
      ⟨secondNew, otherStarts⟩ | ⟨_, secondRuns⟩
    · rw [firstNew, secondNew]
    · obtain rfl := Option.some.inj starts
      exact absurd otherInvolved (apart second secondEvent secondRuns tid registered involved)
    · obtain rfl := Option.some.inj otherStarts
      exact absurd involved (apart first firstEvent firstRuns tid registered otherInvolved)
    · exact counted.disjoint first second firstEvent secondEvent tid firstRuns secondRuns registered
        involved otherInvolved

omit [DecidableEq ι] in
theorem Counted.of_sameCounts (counted : Counted key host cpus) {after : HostState}
    (same : SameCounts key host after) : Counted key after cpus where
  counter := by
    obtain ⟨vm, found, balance, ceiling⟩ := counted.counter
    obtain ⟨vmAfter, foundAfter, count, sameCeiling⟩ := same.counter vm found
    exact ⟨vmAfter, foundAfter, by rw [same.vcpus, count]; exact balance,
      by rw [same.vcpus, sameCeiling]; exact ceiling⟩
  binary := by rw [same.vcpus]; exact counted.binary
  owner := by rw [same.vcpus]; exact counted.owner
  retrying := counted.retrying
  disjoint := by rw [same.vcpus]; exact counted.disjoint

/-- Every step of the machine preserves the invariant. -/
theorem Counted.step {timerKey : VmKey} {machine next : Machine ι} {action : Action ι}
    (counted : Counted key machine.host machine.cpus) (allowed : SchedGuard machine action)
    (taken : machine.step timerKey action = some next) : Counted key next.host next.cpus := by
  cases action with
  | switch cpu event =>
      obtain ⟨idle, rfl⟩ := Machine.step_switch taken
      exact counted.switch idle allowed
  | advance cpu env =>
      obtain ⟨after, pc, step, rfl⟩ := Machine.step_advance taken
      exact counted.cpuStep step allowed
  | tick now =>
      obtain ⟨vm, maps, found, _, sameHost, _, sameCpus, _⟩ := Machine.step_tick taken
      rw [sameHost, sameCpus]
      exact counted.of_sameCounts (sameCounts_tickStep key now found maps machine.tick)

omit [DecidableEq ι] in
theorem counted_quiet {vm : VmT} (balances : Balances host key 0 vm) :
    Counted key host (Machine.quiet ι host).cpus where
  counter := by
    have none : ∀ half, census (CpuPc.pending half key) (Machine.quiet ι host).cpus = 0 :=
      fun half => census_eq_zero fun _ => rfl
    refine ⟨vm, balances.found, ?_, balances.ceiling⟩
    rw [none, none, balances.count]
  binary := balances.binary
  owner _ _ _ runs := by cases runs
  retrying _ _ runs := by cases runs
  disjoint _ _ _ _ _ runs := by cases runs

/-- **No update is lost.** Along every run of concurrent handlers and ticks the
counter is the number of flagged vCPUs, less the handlers that have set a flag
and not yet incremented, plus those that have cleared one and not yet
decremented. No handler finds the counter at a bound, and the counter is exact
whenever no handler is in progress. -/
theorem counter_lags_handlers_in_flight {timerKey : VmKey} {vm : VmT} {actions : List (Action ι)}
    {final : Machine ι} (balances : Balances host key 0 vm)
    (run : GuardedRun (Machine.step timerKey) SchedGuard (Machine.quiet ι host) actions final) :
    ∃ vmAfter, final.host.vms.lookup key = some vmAfter ∧
      vmAfter.phantomCount = (flaggedOf key final.host.vcpus : Int) -
        census (CpuPc.pending .outgoing key) final.cpus +
        census (CpuPc.pending .incoming key) final.cpus ∧
      (∀ cpu locals attempt, final.cpus cpu = .update locals key (.load attempt) →
        locals.half.clamps vmAfter vmAfter.phantomCount = false) ∧
      ((∀ cpu, final.cpus cpu = .idle) →
        vmAfter.phantomCount = flaggedOf key final.host.vcpus) := by
  have counted : Counted key final.host final.cpus :=
    run.invariant (fun machine => Counted key machine.host machine.cpus)
      (fun _ _ _ counted allowed taken => counted.step allowed taken) (counted_quiet balances)
  obtain ⟨vmAfter, found, balance, _⟩ := counted.counter
  refine ⟨vmAfter, found, by omega, ?_, ?_⟩
  · intro cpu locals attempt runs
    exact counted.passes found runs rfl
  · intro idle
    have none : ∀ half, census (CpuPc.pending half key) final.cpus = 0 :=
      fun half => census_eq_zero fun cpu => by rw [idle cpu]; rfl
    rw [none, none] at balance
    omega

/-- An executable condition that implies the scheduler's guarantee: no thread at
all is in two events, and no handler is at its last attempt. -/
def schedCheck (machine : Machine ι) : Action ι → Bool
  | .switch _ event =>
      decide (∀ cpu, ((machine.cpus cpu).event.all fun other =>
        decide (event.prevPid ≠ other.prevPid ∧ event.prevPid ≠ other.nextPid ∧
          event.nextPid ≠ other.prevPid ∧ event.nextPid ≠ other.nextPid)) = true)
  | .advance cpu _ =>
      match machine.cpus cpu with
      | .update _ _ (.swap attempt _) => attempt + 1 < maxAttempts
      | _ => true
  | .tick _ => true

omit [DecidableEq ι] in
theorem schedGuard_of_check {machine : Machine ι} {action : Action ι}
    (check : schedCheck machine action = true) : SchedGuard machine action := by
  cases action with
  | switch cpu event =>
      intro other otherEvent running tid _ involved otherInvolved
      have apart := of_decide_eq_true check other
      rw [running] at apart
      obtain ⟨first, second, third, fourth⟩ := of_decide_eq_true apart
      rcases involved with rfl | rfl <;> rcases otherInvolved with same | same
      · exact first same.symm
      · exact second same.symm
      · exact third same.symm
      · exact fourth same.symm
  | advance cpu env =>
      intro locals vmName attempt old vm runs last _
      simp only [schedCheck, runs] at check
      exact absurd (of_decide_eq_true check) last
  | tick now => trivial

end Machine

/-! ## Two handlers in flight -/

theorem nulFree_pairName : CharArray.NulFree [97] := by decide

theorem nulFree_pairSocket : CharArray.NulFree [] := by decide

/-- VM `a` with two vCPUs. -/
def pairArgs : RegisterArgs :=
  ⟨[⟨0, 7⟩, ⟨1, 8⟩], ⟨[97], nulFree_pairName⟩, ⟨[], nulFree_pairSocket⟩, 2⟩

/-- VM `a` with the unflagged vCPU threads 7 and 8 and no buffers. -/
def pairHost : HostState where
  vms := (∅ : FiniteMap VmKey VmT).insert (vmKey [97]) ⟨CharArray.zeroed 128, 0, 0, 0, 0, 2, 0⟩
  vcpus := ((∅ : FiniteMap Tid VcpuT).insert 8 ⟨1, vmKey [97], 0⟩).insert 7 ⟨0, vmKey [97], 0⟩
  mapRegistry := ∅
  sampleMaps := fun _ => SampleMap.fresh vmMapMaxEntries

/-- The entries of the pair are those of threads 7 and 8. -/
theorem pairHost_entry {tid : Tid} {vcpu : VcpuT} (found : pairHost.vcpus.lookup tid = some vcpu) :
    (tid = 7 ∨ tid = 8) ∧ vcpu = ⟨tid - 7, vmKey [97], 0⟩ := by
  by_cases seven : tid = 7
  · subst seven
    rw [show pairHost.vcpus.lookup 7 = some ⟨0, vmKey [97], 0⟩ from AList.lookup_insert _] at found
    exact ⟨Or.inl rfl, (Option.some.inj found).symm⟩
  · by_cases eight : tid = 8
    · subst eight
      rw [show pairHost.vcpus.lookup 8 = some ⟨1, vmKey [97], 0⟩ from
        (AList.lookup_insert_ne seven).trans (AList.lookup_insert _)] at found
      exact ⟨Or.inr rfl, (Option.some.inj found).symm⟩
    · rw [show pairHost.vcpus.lookup tid = none from
        (AList.lookup_insert_ne seven).trans ((AList.lookup_insert_ne eight).trans rfl)] at found
      cases found

theorem pairHost_vcpu {tid : Tid} {vcpu : VcpuT} (found : pairHost.vcpus.lookup tid = some vcpu) :
    vcpu.vmName = vmKey [97] ∧ vcpu.isPhantom = 0 := by
  rw [(pairHost_entry found).2]
  exact ⟨rfl, rfl⟩

theorem balances_pairHost : Balances pairHost (vmKey [97]) 0
    ⟨CharArray.zeroed 128, 0, 0, 0, 0, 2, 0⟩ where
  found := AList.lookup_insert _
  count := by decide +kernel
  ceiling := by decide +kernel
  binary tid vcpu found _ := Or.inl (pairHost_vcpu found).2

/-- Threads 7 and 8 are preempted on two CPUs, and both handlers stop between
flag and counter. -/
def pairRun : List (Action Bool) :=
  let env : Env := ⟨fun _ => some 1, 0⟩
  [.switch false ⟨7, 1, 0⟩, .switch true ⟨8, 2, 0⟩, .advance false env, .advance true env,
    .advance false env, .advance true env]

theorem pair_in_flight :
    ∃ final, GuardedRun (Machine.step (vmKey [97])) SchedGuard (Machine.quiet Bool pairHost)
        pairRun final ∧ flaggedOf (vmKey [97]) final.host.vcpus = 2 ∧
      ∃ vm, final.host.vms.lookup (vmKey [97]) = some vm ∧
        vm.phantomCount = 2 - census (CpuPc.pending .outgoing (vmKey [97])) final.cpus +
          census (CpuPc.pending .incoming (vmKey [97])) final.cpus := by
  have check : (exec (Machine.step (vmKey [97])) (fun machine action =>
      schedCheck machine action = true) (Machine.quiet Bool pairHost) pairRun).any
        (fun final => flaggedOf (vmKey [97]) final.host.vcpus = 2) = true := by
    decide +kernel
  obtain ⟨final, executed, flagged⟩ := (Option.any_eq_true _ _).mp check
  have run := (guardedRun_of_exec executed).mono fun _ _ => schedGuard_of_check
  have flaggedTwo : flaggedOf (vmKey [97]) final.host.vcpus = 2 := of_decide_eq_true flagged
  obtain ⟨vm, found, count, _⟩ := counter_lags_handlers_in_flight balances_pairHost run
  rw [flaggedTwo] at count
  exact ⟨final, run, flaggedTwo, vm, found, count⟩

end PhantomTracker.Host
