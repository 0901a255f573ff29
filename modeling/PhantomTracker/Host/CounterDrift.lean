import PhantomTracker.Foundation.CasTally
import PhantomTracker.Host.CounterRange

/-!
Contract: how far `phantom_count` is from the flags when retry loops give up.

Owns: the machine with a tally of the calls on one counter, the count that the
flags and the handlers in flight call for, the bound of the counter's distance
from it by the calls that gave up, and the bound of these by the successful
updates of other CPUs.

Does not own: the range of the counter, which needs no assumption at all, and
runs in which no call gives up, where the counter is exact.
-/

namespace PhantomTracker.Host

open PhantomTracker.Foundation
open PhantomTracker.Foundation.FiniteMap

/-! ## The tallied machine -/

/-- The machine together with what the calls on one counter have come to. -/
structure Tallied (ι : Type) where
  machine : Machine ι
  tally : CasLoop.Tally Half

section Machine

variable {ι : Type}

/-- The tally of the calls on the counter of `key` after an action. -/
def tallyAfter (key : VmKey) (machine : Machine ι) (tally : CasLoop.Tally Half) :
    Action ι → CasLoop.Tally Half
  | .advance cpu _ => tally.record (countOf key machine.host) ((machine.cpus cpu).call key)
  | _ => tally

def Tallied.quiet (ι : Type) (host : HostState) : Tallied ι := ⟨Machine.quiet ι host, ⟨0, []⟩⟩

/-- Two events of the same vCPU thread do not overlap. -/
def EventsApart (tallied : Tallied ι) : Action ι → Prop
  | .switch _ event =>
      ∀ cpu other, (tallied.machine.cpus cpu).event = some other →
        ∀ tid, (tallied.machine.host.vcpus.lookup tid).isSome → event.Involves tid →
          ¬ other.Involves tid
  | _ => True

variable [DecidableEq ι]

def Tallied.step (timerKey key : VmKey) (tallied : Tallied ι) (action : Action ι) :
    Option (Tallied ι) :=
  (tallied.machine.step timerKey action).map fun next =>
    ⟨next, tallyAfter key tallied.machine tallied.tally action⟩

/-! ## Failed attempts are paid for by others -/

variable {key : VmKey} {host after : HostState} {cpus : ι → CpuPc} {cpu : ι} {pc : CpuPc} {vm : VmT}

theorem CpuPc.call_eq_reload {half : Half} (stands : pc.call key = .reload half) :
    ∃ locals, pc = .update locals key .reload := by
  cases pc with
  | idle => cases stands
  | enter locals => cases stands
  | update locals vmName update =>
      by_cases own : vmName = key
      · subst own
        rw [CpuPc.call_own rfl] at stands
        cases update with
        | reload => exact ⟨locals, rfl⟩
        | _ => cases stands
      · rw [CpuPc.call_foreign own] at stands
        cases stands

/-- What is kept along every run: the VM stays, and the failed attempts on its
counter are charged to the successful ones. -/
structure Paid [Fintype ι] (key : VmKey) (nbVcpus : Nat) (tallied : Tallied ι) : Prop where
  vm : ∃ vm, tallied.machine.host.vms.lookup key = some vm ∧ vm.nbVcpus = nbVcpus
  charged : (counterLoop nbVcpus).Charged (countOf key tallied.machine.host)
    (fun cpu => (tallied.machine.cpus cpu).call key) tallied.tally

/-- The calls on a counter after one CPU has moved. -/
theorem calls_update (key : VmKey) (cpus : ι → CpuPc) (cpu : ι) (pc : CpuPc) :
    (fun other => (Function.update cpus cpu pc other).call key) =
      Function.update (fun other => (cpus other).call key) cpu (pc.call key) := by
  funext other
  exact Function.apply_update (fun _ => CpuPc.call key) cpus cpu pc other

theorem Paid.step [Fintype ι] {timerKey : VmKey} {nbVcpus : Nat} {tallied next : Tallied ι}
    {action : Action ι} (paid : Paid key nbVcpus tallied)
    (taken : tallied.step timerKey key action = some next) : Paid key nbVcpus next := by
  obtain ⟨machine, moved, rfl⟩ := Option.map_eq_some_iff.mp taken
  obtain ⟨vm, found, rfl⟩ := paid.vm
  have charged := paid.charged
  cases action with
  | switch cpu event =>
      obtain ⟨idle, rfl⟩ := Machine.step_switch moved
      refine ⟨⟨vm, found, rfl⟩, ?_⟩
      show CasLoop.Charged _ _ (fun other =>
        (Function.update tallied.machine.cpus cpu _ other : CpuPc).call key) _
      rw [calls_update]
      exact charged.move (Nat.zero_le _)
  | advance cpu env =>
      obtain ⟨after, pc, step, rfl⟩ := Machine.step_advance moved
      refine ⟨step.ceiling found, ?_⟩
      show CasLoop.Charged _ (countOf key after) (fun other =>
        (Function.update tallied.machine.cpus cpu pc other : CpuPc).call key)
        (CasLoop.Tally.record _ _ _)
      rw [calls_update]
      exact charged.step (step.loopMove found)
  | tick now =>
      obtain ⟨vmHere, maps, foundHere, _, sameHost, _, sameCpus, _⟩ := Machine.step_tick moved
      have counts := sameCounts_tickStep key now foundHere maps tallied.machine.tick
      rw [← sameHost] at counts
      obtain ⟨vmAfter, foundAfter, count, ceiling⟩ := counts.counter vm found
      refine ⟨⟨vmAfter, foundAfter, ceiling⟩, ?_⟩
      show CasLoop.Charged _ (countOf key machine.host) (fun cpu => (machine.cpus cpu).call key) _
      rw [sameCpus, countOf_of_found foundAfter, count, ← countOf_of_found found]
      exact charged

/-- **A call gives up only under contention.** Along every run of handlers and
ticks on `n` CPUs, whatever the scheduler does, each call of `atomic_dec_if_pos`
or `atomic_inc_if_lt_ceil` that gives up uses its 24 attempts on counter updates
of other CPUs: 24 times the calls that gave up is at most `n - 1` times the
updates that succeeded. -/
theorem giveUps_le_swaps [Fintype ι] {timerKey : VmKey} {actions : List (Action ι)}
    {final : Tallied ι} (found : host.vms.lookup key = some vm)
    (run : GuardedRun (Tallied.step timerKey key) (fun _ _ => True) (Tallied.quiet ι host)
      actions final) :
    maxAttempts * final.tally.giveUps.length ≤ (Fintype.card ι - 1) * final.tally.swaps := by
  have paid : Paid key vm.nbVcpus final :=
    run.invariant (Paid key vm.nbVcpus) (fun _ _ _ kept _ taken => kept.step taken)
      ⟨⟨vm, found, rfl⟩, CasLoop.charged_start _ _ fun _ => rfl⟩
  exact paid.charged.giveUps_le

/-! ## Handlers in flight -/

section Flight

variable {half : Half}

theorem CpuPc.event_of_pending (waits : pc.pending half key = true) :
    ∃ event, pc.event = some event ∧ event.Involves pc.subject := by
  obtain ⟨locals, update, rfl, _⟩ := CpuPc.pending_iff.mp waits
  exact ⟨locals.event, rfl, locals.event_involves_subject⟩

/-- Each handler in flight has flipped the flag of a vCPU of the VM that no
other handler is about. -/
structure InFlight (key : VmKey) (host : HostState) (cpus : ι → CpuPc) : Prop where
  owner : ∀ half cpu, (cpus cpu).pending half key = true →
    ∃ vcpu, host.vcpus.lookup (cpus cpu).subject = some vcpu ∧ vcpu.vmName = key ∧
      vcpu.isPhantom = half.desired
  disjoint : ∀ first second event other tid, (cpus first).event = some event →
    (cpus second).event = some other → (host.vcpus.lookup tid).isSome →
    event.Involves tid → other.Involves tid → first = second

omit [DecidableEq ι] in
theorem InFlight.census_le [Fintype ι] (flight : InFlight key host cpus) (half : Half) :
    census (CpuPc.pending half key) cpus ≤ withFlag key half.desired host.vcpus := by
  apply census_le_countWhere CpuPc.subject
  · intro cpu waits
    obtain ⟨vcpu, found, own, flag⟩ := flight.owner half cpu waits
    exact ⟨vcpu, found, decide_eq_true ⟨own, flag⟩⟩
  · intro left right leftWaits rightWaits same
    obtain ⟨vcpu, found, _⟩ := flight.owner half left leftWaits
    obtain ⟨event, running, involved⟩ := CpuPc.event_of_pending leftWaits
    obtain ⟨other, otherRunning, otherInvolved⟩ := CpuPc.event_of_pending rightWaits
    rw [← same] at otherInvolved
    exact flight.disjoint left right event other _ running otherRunning (by rw [found]; rfl)
      involved otherInvolved

/-- A step stays within the event of its CPU. -/
theorem CpuStep.within {before : CpuPc} {event : SchedSwitch}
    (step : CpuStep host before after pc) (runs : pc.event = some event) :
    before.event = some event := by
  cases step with
  | skip locals passed sameEvent => rw [Locals.finish_event runs, sameEvent]; rfl
  | flip sameEvent => rw [← runs]; exact congrArg some sameEvent.symm
  | flipAlone sameEvent => rw [Locals.finish_event runs, sameEvent]; rfl
  | unbuffered => rw [Locals.finish_event runs]; rfl
  | write => rw [Locals.finish_event runs]; rfl
  | _ => exact runs

/-- A step flips the flag of the vCPU that its CPU has just looked up, or it
leaves the flags alone and takes no other handler into flight. -/
theorem CpuStep.flags {before : CpuPc} (found : host.vms.lookup key = some vm)
    (step : CpuStep host before after pc) :
    (after.vcpus = host.vcpus ∧ ∀ half, pc.pending half key = true →
      before.pending half key = true ∧ pc.subject = before.subject) ∨
    ∃ locals vcpu, before = .enter locals ∧ host.vcpus.lookup locals.subject = some vcpu ∧
      vcpu.isPhantom = locals.half.expected ∧
      after = host.setFlag locals.subject vcpu locals.half.desired ∧
      FlipsTo key locals vcpu pc := by
  have finished : ∀ (locals : Locals) half, locals.finish.pending half key = true → False := by
    intro locals half waits
    rw [locals.finish_pending] at waits
    cases waits
  have settled : ∀ (locals : Locals) (vmName : VmKey) (update : UpdatePc) half,
      update.pending = false → (CpuPc.update locals vmName update).pending half key = true →
        False := by
    intro locals vmName update half ended waits
    rw [CpuPc.pending, ended, Bool.and_false] at waits
    cases waits
  cases step with
  | skip locals passed => exact Or.inl ⟨rfl, fun half waits => (finished passed half waits).elim⟩
  | @flip locals passed vcpu vmHere event side foundVcpu flag =>
      refine Or.inr ⟨locals, vcpu, rfl, foundVcpu, flag, rfl, Or.inl ⟨passed, rfl, side, ?_⟩⟩
      simp only [Locals.subject, side, event]
  | @flipAlone locals passed vcpu event side foundVcpu flag absent =>
      refine Or.inr ⟨locals, vcpu, rfl, foundVcpu, flag, rfl, Or.inr ⟨?_, ?_⟩⟩
      · intro own
        rw [own, found] at absent
        cases absent
      · exact fun passedAfter update => finish_ne_update passed passedAfter key update
  | clamp | swap | reload | choose | reserve =>
      exact Or.inl ⟨rfl, fun half waits => (settled _ _ _ half rfl waits).elim⟩
  | load | retry | exhaust => exact Or.inl ⟨rfl, fun half waits => ⟨waits, rfl⟩⟩
  | unbuffered | write => exact Or.inl ⟨rfl, fun half waits => (finished _ half waits).elim⟩

/-- Every step of a CPU keeps the handlers in flight apart. -/
theorem InFlight.cpuStep (flight : InFlight key host cpus) (found : host.vms.lookup key = some vm)
    (step : CpuStep host (cpus cpu) after pc) :
    InFlight key after (Function.update cpus cpu pc) where
  owner half other waits := by
    by_cases same : other = cpu
    · subst same
      rw [Function.update_self] at waits ⊢
      rcases step.flags found with ⟨flags, kept⟩ | ⟨locals, vcpu, _, _, _, rfl, shape⟩
      · obtain ⟨waited, subject⟩ := kept half waits
        rw [flags, subject]
        exact flight.owner half other waited
      · obtain ⟨passed, update, runs, side, _⟩ := CpuPc.pending_iff.mp waits
        rcases shape with ⟨passedHere, rfl, sameHalf, sameSubject⟩ | ⟨_, elsewhere⟩
        · obtain ⟨rfl, own, _⟩ := CpuPc.update.inj runs
          refine ⟨{ vcpu with isPhantom := locals.half.desired }, ?_, own, ?_⟩
          · rw [CpuPc.subject, sameSubject]
            exact AList.lookup_insert _
          · rw [← sameHalf, side]
        · exact absurd runs (elsewhere passed update)
    · rw [Function.update_of_ne same] at waits ⊢
      obtain ⟨entry, present, own, flagged⟩ := flight.owner half other waits
      rcases step.flags found with ⟨flags, _⟩ | ⟨locals, vcpu, enters, foundVcpu, _, rfl, _⟩
      · rw [flags]
        exact ⟨entry, present, own, flagged⟩
      · have different : (cpus other).subject ≠ locals.subject := by
          intro sameSubject
          obtain ⟨event, running, involved⟩ := CpuPc.event_of_pending waits
          exact same (flight.disjoint other cpu event locals.event locals.subject running
            (by rw [enters]; rfl) (by rw [foundVcpu]; rfl) (sameSubject ▸ involved)
            locals.event_involves_subject)
        exact ⟨entry, (AList.lookup_insert_ne different).trans present, own, flagged⟩
  disjoint first second event other tid runs otherRuns registered involved otherInvolved := by
    have entries : (after.vcpus.lookup tid).isSome = (host.vcpus.lookup tid).isSome := by
      rcases step.flags found with ⟨flags, _⟩ | ⟨locals, vcpu, _, foundVcpu, _, rfl, _⟩
      · rw [flags]
      · exact lookup_setFlag_isSome foundVcpu
    rw [entries] at registered
    exact flight.disjoint first second event other tid
      (event_of_update (fun _ => step.within) runs)
      (event_of_update (fun _ => step.within) otherRuns) registered involved otherInvolved

theorem InFlight.switch (flight : InFlight key host cpus) {event : SchedSwitch}
    (apart : ∀ cpu other, (cpus cpu).event = some other →
      ∀ tid, (host.vcpus.lookup tid).isSome → event.Involves tid → ¬ other.Involves tid) :
    InFlight key host (Function.update cpus cpu (.enter ⟨event, .incoming, 0⟩)) where
  owner half other waits := by
    by_cases same : other = cpu
    · subst same
      rw [Function.update_self] at waits
      cases waits
    · rw [Function.update_of_ne same] at waits ⊢
      exact flight.owner half other waits
  disjoint first second firstEvent secondEvent tid runs otherRuns registered involved
      otherInvolved := by
    rcases update_cases (fun pc : CpuPc => pc.event = some firstEvent) runs with
      ⟨firstNew, starts⟩ | ⟨_, firstRuns⟩ <;>
    rcases update_cases (fun pc : CpuPc => pc.event = some secondEvent) otherRuns with
      ⟨secondNew, otherStarts⟩ | ⟨_, secondRuns⟩
    · rw [firstNew, secondNew]
    · obtain rfl := Option.some.inj starts
      exact absurd otherInvolved (apart second secondEvent secondRuns tid registered involved)
    · obtain rfl := Option.some.inj otherStarts
      exact absurd involved (apart first firstEvent firstRuns tid registered otherInvolved)
    · exact flight.disjoint first second firstEvent secondEvent tid firstRuns secondRuns registered
        involved otherInvolved

end Flight

/-! ## The drift -/

section Drift

variable [Fintype ι]

/-- The count that the flags call for: those set, less the handlers that have
set one and not yet incremented, plus those that have cleared one and not yet
decremented. -/
def idealCount (key : VmKey) (host : HostState) (cpus : ι → CpuPc) : Int :=
  flaggedOf key host.vcpus - census (CpuPc.pending .outgoing key) cpus +
    census (CpuPc.pending .incoming key) cpus

theorem idealCount_same (flags : after.vcpus = host.vcpus)
    (sameSide : ∀ half, pc.pending half key = (cpus cpu).pending half key) :
    idealCount key after (Function.update cpus cpu pc) = idealCount key host cpus := by
  unfold idealCount
  rw [flags, census_update_of_same (sameSide .outgoing), census_update_of_same (sameSide .incoming)]

/-- Flags and handlers in flight move together. -/
theorem idealCount_flip {locals : Locals} {vcpu : VcpuT} (current : cpus cpu = .enter locals)
    (found : host.vcpus.lookup locals.subject = some vcpu)
    (flag : vcpu.isPhantom = locals.half.expected) (shape : FlipsTo key locals vcpu pc) :
    idealCount key (host.setFlag locals.subject vcpu locals.half.desired)
      (Function.update cpus cpu pc) = idealCount key host cpus := by
  have idleSide : ∀ half, (cpus cpu).pending half key = false := by
    intro half
    rw [current]
    rfl
  have outgoing := census_update (CpuPc.pending .outgoing key) cpus cpu pc
  have incoming := census_update (CpuPc.pending .incoming key) cpus cpu pc
  rw [idleSide, Bool.toNat_false] at outgoing incoming
  have moved := flaggedOf_setFlag found flag shape
  unfold idealCount
  omega

/-- A handler that leaves its loop takes one unit with it, whether or not the
counter has moved. -/
theorem idealCount_settle {locals : Locals} {update : UpdatePc} (flags : after.vcpus = host.vcpus)
    (current : cpus cpu = .update locals key update) (waits : update.pending = true)
    (done : ∀ half, pc.pending half key = false) :
    idealCount key after (Function.update cpus cpu pc) =
      locals.half.bump (idealCount key host cpus) := by
  have outgoing := census_update (CpuPc.pending .outgoing key) cpus cpu pc
  have incoming := census_update (CpuPc.pending .incoming key) cpus cpu pc
  rw [done, current] at outgoing incoming
  unfold idealCount
  rw [flags]
  cases side : locals.half <;> simp [CpuPc.pending, side, waits] at outgoing incoming <;>
    simp only [Half.bump] <;> omega

omit [DecidableEq ι] in
/-- What a handler in flight is about to make of the ideal count is a number of
vCPUs of the VM. -/
theorem InFlight.bump_bounds {locals : Locals} {update : UpdatePc} (flight : InFlight key host cpus)
    (current : cpus cpu = .update locals key update) (waits : update.pending = true) :
    0 ≤ locals.half.bump (idealCount key host cpus) ∧
      locals.half.bump (idealCount key host cpus) ≤ entriesOf key host.vcpus := by
  have inFlight : 0 < census (CpuPc.pending locals.half key) cpus :=
    census_pos cpu (CpuPc.pending_iff.mpr ⟨locals, update, current, rfl, waits⟩)
  have raised : census (CpuPc.pending .outgoing key) cpus ≤ flaggedOf key host.vcpus :=
    flight.census_le .outgoing
  have lowered : census (CpuPc.pending .incoming key) cpus ≤ withFlag key 0 host.vcpus :=
    flight.census_le .incoming
  have partition := flaggedOf_add_unflagged key host.vcpus
  unfold idealCount
  cases side : locals.half <;> rw [side] at inFlight <;> simp only [Half.bump] <;> omega

/-- **The invariant.** The counter is below the ideal count by at most the
increments that gave up, and above it by at most the decrements that did. -/
structure CounterDrifts (key : VmKey) (host : HostState) (cpus : ι → CpuPc) (giveUps : List Half) :
    Prop where
  counter : ∃ vm, host.vms.lookup key = some vm ∧ entriesOf key host.vcpus ≤ vm.nbVcpus ∧
    idealCount key host cpus - giveUps.count .outgoing ≤ vm.phantomCount ∧
    vm.phantomCount ≤ idealCount key host cpus + giveUps.count .incoming
  flight : InFlight key host cpus

variable {giveUps : List Half}

omit [DecidableEq ι] in
/-- A step that leaves the counter and the ideal count alone. -/
theorem CounterDrifts.keep {cpusAfter : ι → CpuPc} (drifts : CounterDrifts key host cpus giveUps)
    (same : SameCounts key host after) (ideal : idealCount key after cpusAfter =
      idealCount key host cpus) (flight : InFlight key after cpusAfter) :
    CounterDrifts key after cpusAfter giveUps := by
  obtain ⟨vm, found, ceiling, low, high⟩ := drifts.counter
  obtain ⟨vmAfter, foundAfter, count, sameCeiling⟩ := same.counter vm found
  refine ⟨⟨vmAfter, foundAfter, ?_, ?_, ?_⟩, flight⟩
  · rw [same.vcpus, sameCeiling]
    exact ceiling
  · rw [ideal, count]
    exact low
  · rw [ideal, count]
    exact high

omit [DecidableEq ι] in
/-- A flag that is flipped leaves the counter and the ideal count alone. -/
theorem CounterDrifts.flip {cpusAfter : ι → CpuPc} {tid : Tid} {vcpu : VcpuT} {value : Nat}
    (drifts : CounterDrifts key host cpus giveUps) (found : host.vcpus.lookup tid = some vcpu)
    (ideal : idealCount key (host.setFlag tid vcpu value) cpusAfter = idealCount key host cpus)
    (flight : InFlight key (host.setFlag tid vcpu value) cpusAfter) :
    CounterDrifts key (host.setFlag tid vcpu value) cpusAfter giveUps := by
  obtain ⟨vm, foundVm, ceiling, low, high⟩ := drifts.counter
  have sameEntries : entriesOf key (host.setFlag tid vcpu value).vcpus =
      entriesOf key host.vcpus := countWhere_insert_of_same found rfl
  exact ⟨⟨vm, foundVm, by rw [sameEntries]; exact ceiling, by rw [ideal]; exact low,
    by rw [ideal]; exact high⟩, flight⟩

/-- A handler leaves its loop, with the counter inside the bounds around what it
makes of the ideal count. -/
theorem CounterDrifts.settle {locals : Locals} {update : UpdatePc} {vmAfter : VmT} {newCount : Int}
    {giveUpsAfter : List Half} (drifts : CounterDrifts key host cpus giveUps)
    (current : cpus cpu = .update locals key update) (waits : update.pending = true)
    (found : host.vms.lookup key = some vm) (flags : after.vcpus = host.vcpus)
    (foundAfter : after.vms.lookup key = some vmAfter)
    (sameCeiling : vmAfter.nbVcpus = vm.nbVcpus)
    (flight : InFlight key after (Function.update cpus cpu (.update locals key (.choose newCount))))
    (low : locals.half.bump (idealCount key host cpus) - giveUpsAfter.count .outgoing ≤
      vmAfter.phantomCount)
    (high : vmAfter.phantomCount ≤
      locals.half.bump (idealCount key host cpus) + giveUpsAfter.count .incoming) :
    CounterDrifts key after (Function.update cpus cpu (.update locals key (.choose newCount)))
      giveUpsAfter := by
  obtain ⟨vmHere, foundHere, ceiling, _⟩ := drifts.counter
  obtain rfl := Option.some.inj (found.symm.trans foundHere)
  have ideal : idealCount key after (Function.update cpus cpu (.update locals key (.choose newCount)))
      = locals.half.bump (idealCount key host cpus) :=
    idealCount_settle flags current waits fun _ => Bool.and_false _
  refine ⟨⟨vmAfter, foundAfter, ?_, ?_, ?_⟩, flight⟩
  · rw [flags, sameCeiling]
    exact ceiling
  · rw [ideal]
    exact low
  · rw [ideal]
    exact high

omit [DecidableEq ι] [Fintype ι] in
/-- The handlers in flight after the step of a handler that is about another VM,
or on the same side of its loop before and after. -/
theorem pending_update {locals : Locals} {vmName : VmKey} {before next : UpdatePc}
    (current : cpus cpu = .update locals vmName before)
    (sameSide : vmName = key → next.pending = before.pending) (half : Half) :
    (CpuPc.update locals vmName next).pending half key = (cpus cpu).pending half key := by
  rw [current, CpuPc.pending, CpuPc.pending]
  by_cases own : vmName = key
  · rw [sameSide own]
  · simp [own]

omit [DecidableEq ι] [Fintype ι] in
theorem pending_finish {locals : Locals} {vmName : VmKey} {before : UpdatePc}
    (current : cpus cpu = .update locals vmName before) (ended : before.pending = false)
    (half : Half) : locals.finish.pending half key = (cpus cpu).pending half key := by
  rw [current, CpuPc.pending, ended, Bool.and_false, locals.finish_pending]

/-- The bound test is passed by a counter inside the bounds around the ideal
count, or the handler brings the ideal count nearer to the counter. -/
theorem CounterDrifts.clamp {locals : Locals} {attempt : Nat}
    (drifts : CounterDrifts key host cpus giveUps)
    (current : cpus cpu = .update locals key (.load attempt))
    (found : host.vms.lookup key = some vm)
    (clamps : locals.half.clamps vm vm.phantomCount = true)
    (flight : InFlight key host (Function.update cpus cpu
      (.update locals key (.choose vm.phantomCount)))) :
    CounterDrifts key host (Function.update cpus cpu (.update locals key (.choose vm.phantomCount)))
      giveUps := by
  obtain ⟨vmHere, foundHere, ceiling, low, high⟩ := drifts.counter
  obtain rfl := Option.some.inj (found.symm.trans foundHere)
  have bounds := drifts.flight.bump_bounds current rfl
  have atBound : ∀ side, locals.half = side → side.clamps vm vm.phantomCount = true :=
    fun _ same => same ▸ clamps
  refine drifts.settle current rfl found rfl found rfl flight ?_ ?_
  · cases side : locals.half with
    | incoming =>
        rw [Half.bump]
        omega
    | outgoing =>
        have full : vm.phantomCount ≥ vm.nbVcpus := of_decide_eq_true (atBound _ side)
        rw [side] at bounds
        omega
  · cases side : locals.half with
    | incoming =>
        have empty : vm.phantomCount ≤ 0 := of_decide_eq_true (atBound _ side)
        rw [side] at bounds
        omega
    | outgoing =>
        rw [Half.bump]
        omega

theorem CounterDrifts.cpuStep (drifts : CounterDrifts key host cpus giveUps)
    (step : CpuStep host (cpus cpu) after pc)
    (retries : ∀ locals, cpus cpu ≠ .update locals key .reload) :
    CounterDrifts key after (Function.update cpus cpu pc) giveUps := by
  obtain ⟨vm, found, ceiling, low, high⟩ := drifts.counter
  have flight := drifts.flight.cpuStep found step
  have unmoved : ∀ {next : CpuPc}, (∀ half, next.pending half key = (cpus cpu).pending half key) →
      InFlight key host (Function.update cpus cpu next) →
        CounterDrifts key host (Function.update cpus cpu next) giveUps := fun sameSide =>
    drifts.keep (SameCounts.refl key host) (idealCount_same rfl sameSide)
  generalize current : cpus cpu = before at step
  cases step with
  | skip locals passed =>
      apply unmoved _ flight
      intro half
      rw [current, passed.finish_pending]
      rfl
  | @flip locals passed vcpu vmHere event side foundVcpu flag =>
      have sameSubject : passed.subject = locals.subject := by
        simp only [Locals.subject, side, event]
      exact drifts.flip foundVcpu (idealCount_flip current foundVcpu flag
        (Or.inl ⟨passed, rfl, side, sameSubject⟩)) flight
  | @flipAlone locals passed vcpu event side foundVcpu flag absent =>
      have foreign : vcpu.vmName ≠ key := by
        intro own
        rw [own, found] at absent
        cases absent
      exact drifts.flip foundVcpu (idealCount_flip current foundVcpu flag
        (Or.inr ⟨foreign, fun passedAfter update => finish_ne_update passed passedAfter key update⟩))
        flight
  | @clamp locals vmName vmHere attempt foundHere clamps =>
      by_cases own : vmName = key
      · subst own
        exact drifts.clamp current foundHere clamps flight
      · exact unmoved (pending_update current fun same => absurd same own) flight
  | load attempt foundHere passes => exact unmoved (pending_update current fun _ => rfl) flight
  | @swap locals vmName vmHere attempt foundHere =>
      by_cases own : vmName = key
      · subst own
        obtain rfl := Option.some.inj (found.symm.trans foundHere)
        refine drifts.settle current rfl found rfl (AList.lookup_insert _) rfl flight ?_ ?_
        · show _ ≤ locals.half.bump vm.phantomCount
          cases locals.half <;> simp only [Half.bump] <;> omega
        · show locals.half.bump vm.phantomCount ≤ _
          cases locals.half <;> simp only [Half.bump] <;> omega
      · refine drifts.keep ⟨rfl, fun other otherFound => ⟨other, ?_, rfl, rfl⟩⟩
          (idealCount_same rfl (pending_update current fun same => absurd same own)) flight
        exact (AList.lookup_insert_ne (Ne.symm own)).trans otherFound
  | retry foundHere moved below => exact unmoved (pending_update current fun _ => rfl) flight
  | exhaust foundHere moved last => exact unmoved (pending_update current fun _ => rfl) flight
  | @reload locals vmName vmHere foundHere =>
      refine unmoved (pending_update current ?_) flight
      rintro rfl
      exact absurd current (retries locals)
  | choose newCount foundHere => exact unmoved (pending_update current fun _ => rfl) flight
  | unbuffered newCount absent => exact unmoved (pending_finish current rfl) flight
  | reserve newCount foundHere buffered =>
      exact drifts.keep (sameCounts_setVm key foundHere (by simp) (by simp))
        (idealCount_same rfl (pending_update current fun _ => rfl)) flight
  | write locals vmName newCount buff map idx now =>
      exact drifts.keep (sameCounts_putSample key host map idx _)
        (idealCount_same rfl (pending_finish current rfl)) flight

/-- A call that gives up leaves its unit undone. -/
theorem CounterDrifts.giveUp {locals : Locals} (drifts : CounterDrifts key host cpus giveUps)
    (step : CpuStep host (cpus cpu) after pc) (current : cpus cpu = .update locals key .reload) :
    CounterDrifts key after (Function.update cpus cpu pc) (locals.half :: giveUps) := by
  obtain ⟨vm, found, _, low, high⟩ := drifts.counter
  have flight := drifts.flight.cpuStep found step
  rw [current] at step
  cases step with
  | reload foundHere =>
      refine drifts.settle current rfl found rfl found rfl flight ?_ ?_
      · cases locals.half <;> simp [Half.bump] <;> omega
      · cases locals.half <;> simp [Half.bump] <;> omega

theorem CounterDrifts.advance (drifts : CounterDrifts key host cpus giveUps)
    (step : CpuStep host (cpus cpu) after pc) {tally : CasLoop.Tally Half}
    (sofar : tally.giveUps = giveUps) (value : Int) :
    CounterDrifts key after (Function.update cpus cpu pc)
      (tally.record value ((cpus cpu).call key)).giveUps := by
  by_cases reloads : ∃ locals, cpus cpu = .update locals key .reload
  · obtain ⟨locals, current⟩ := reloads
    have gaveUp := drifts.giveUp step current
    rw [current, CpuPc.call_own rfl]
    show CounterDrifts _ _ _ (locals.half :: tally.giveUps)
    rw [sofar]
    exact gaveUp
  · have retries : ∀ locals, cpus cpu ≠ .update locals key .reload := fun locals current =>
      reloads ⟨locals, current⟩
    have same : (tally.record value ((cpus cpu).call key)).giveUps = giveUps := by
      rw [CasLoop.Tally.record_giveUps, sofar]
      intro half stands
      obtain ⟨locals, current⟩ := CpuPc.call_eq_reload stands
      exact retries locals current
    rw [same]
    exact drifts.cpuStep step retries

theorem CounterDrifts.step {timerKey : VmKey} {tallied next : Tallied ι} {action : Action ι}
    (drifts : CounterDrifts key tallied.machine.host tallied.machine.cpus tallied.tally.giveUps)
    (allowed : EventsApart tallied action)
    (taken : tallied.step timerKey key action = some next) :
    CounterDrifts key next.machine.host next.machine.cpus next.tally.giveUps := by
  obtain ⟨machine, moved, rfl⟩ := Option.map_eq_some_iff.mp taken
  cases action with
  | switch cpu event =>
      obtain ⟨idle, rfl⟩ := Machine.step_switch moved
      refine drifts.keep (SameCounts.refl key _) (idealCount_same rfl fun half => ?_)
        (drifts.flight.switch allowed)
      rw [idle]
      rfl
  | advance cpu env =>
      obtain ⟨after, pc, step, rfl⟩ := Machine.step_advance moved
      exact drifts.advance step rfl _
  | tick now =>
      obtain ⟨vm, maps, found, _, sameHost, _, sameCpus, _⟩ := Machine.step_tick moved
      have counts := sameCounts_tickStep key now found maps tallied.machine.tick
      rw [← sameHost] at counts
      show CounterDrifts key machine.host machine.cpus tallied.tally.giveUps
      rw [sameCpus]
      refine drifts.keep counts ?_ ⟨?_, ?_⟩
      · unfold idealCount
        rw [counts.vcpus]
      · rw [counts.vcpus]
        exact drifts.flight.owner
      · rw [counts.vcpus]
        exact drifts.flight.disjoint

omit [DecidableEq ι] in
theorem counterDrifts_quiet (balances : Balances host key 0 vm) :
    CounterDrifts key host (Machine.quiet ι host).cpus [] where
  counter := by
    have none : ∀ half, census (CpuPc.pending half key) (Machine.quiet ι host).cpus = 0 :=
      fun half => census_eq_zero fun _ => rfl
    have count := balances.count
    refine ⟨vm, balances.found, balances.ceiling, ?_, ?_⟩ <;> unfold idealCount <;>
      rw [none, none] <;> simp [count]
  flight := by
    constructor
    · intro half cpu waits
      cases waits
    · intro first second event other tid runs
      cases runs

/-- **Lost updates are bounded by the calls that give up.** Start from a host whose
counter is the number of flagged vCPUs of the VM, with no more entries than
`nb_vcpus` and no handler in progress. Along every run of handlers and ticks from
there in which two events of one vCPU do not overlap, the counter is below the count
that the flags and the handlers in flight call for by at most the increments that
gave up, and above it by at most the decrements that did: a counter at one of its
bounds never adds to the error. When no handler is in progress this bounds the
distance from the number of flagged vCPUs. -/
theorem counter_within_giveUps {timerKey : VmKey} {actions : List (Action ι)} {final : Tallied ι}
    (balances : Balances host key 0 vm)
    (run : GuardedRun (Tallied.step timerKey key) EventsApart (Tallied.quiet ι host)
      actions final) :
    ∃ vmAfter, final.machine.host.vms.lookup key = some vmAfter ∧
      idealCount key final.machine.host final.machine.cpus -
          final.tally.giveUps.count .outgoing ≤ vmAfter.phantomCount ∧
      vmAfter.phantomCount ≤ idealCount key final.machine.host final.machine.cpus +
          final.tally.giveUps.count .incoming ∧
      ((∀ cpu, final.machine.cpus cpu = .idle) →
        (flaggedOf key final.machine.host.vcpus : Int) - final.tally.giveUps.count .outgoing ≤
            vmAfter.phantomCount ∧
          vmAfter.phantomCount ≤ (flaggedOf key final.machine.host.vcpus : Int) +
            final.tally.giveUps.count .incoming) := by
  have drifts : CounterDrifts key final.machine.host final.machine.cpus final.tally.giveUps :=
    run.invariant (fun tallied : Tallied ι =>
      CounterDrifts key tallied.machine.host tallied.machine.cpus tallied.tally.giveUps)
      (fun _ _ _ kept allowed taken => kept.step allowed taken) (counterDrifts_quiet balances)
  obtain ⟨vmAfter, found, _, low, high⟩ := drifts.counter
  refine ⟨vmAfter, found, low, high, fun idle => ?_⟩
  have none : ∀ half, census (CpuPc.pending half key) final.machine.cpus = 0 :=
    fun half => census_eq_zero fun cpu => by rw [idle cpu]; rfl
  unfold idealCount at low high
  rw [none, none] at low high
  omega

end Drift

/-- An executable condition that implies that events do not overlap: no thread
at all is in two events. -/
def apartCheck [Fintype ι] (tallied : Tallied ι) : Action ι → Bool
  | .switch cpu event => schedCheck tallied.machine (.switch cpu event)
  | _ => true

omit [DecidableEq ι] in
theorem eventsApart_of_check [Fintype ι] {tallied : Tallied ι} {action : Action ι}
    (check : apartCheck tallied action = true) : EventsApart tallied action := by
  cases action with
  | switch cpu event =>
      have sched : schedCheck tallied.machine (.switch cpu event) = true := check
      exact schedGuard_of_check sched
  | advance cpu env => trivial
  | tick now => trivial

end Machine

/-! ## A lost increment -/

/-- Thread 7 is preempted on one CPU. Each time its handler has loaded the
counter, the other CPU preempts thread 8 or resumes it, 24 times in all. -/
def contendedRun : List (Action Bool) :=
  let env : Env := ⟨fun _ => some 1, 0⟩
  let round (event : SchedSwitch) : List (Action Bool) :=
    .advance false env :: .switch true event ::
      (List.replicate 6 (.advance true env) ++ [.advance false env])
  [.switch false ⟨7, 1, 0⟩, .advance false env, .advance false env] ++
    (List.replicate 12 (round ⟨8, 2, 0⟩ ++ round ⟨2, 8, 0⟩)).flatten ++
    List.replicate 3 (.advance false env)

theorem exists_contendedRun :
    ∃ final, GuardedRun (Tallied.step (vmKey [97]) (vmKey [97])) EventsApart
        (Tallied.quiet Bool pairHost) contendedRun final ∧
      final.tally.giveUps = [.outgoing] ∧ flaggedOf (vmKey [97]) final.machine.host.vcpus = 1 ∧
      countOf (vmKey [97]) final.machine.host = 0 ∧ ∀ cpu, final.machine.cpus cpu = .idle := by
  have check : (exec (Tallied.step (vmKey [97]) (vmKey [97])) (fun tallied action =>
      apartCheck tallied action = true) (Tallied.quiet Bool pairHost) contendedRun).any
        (fun final => decide (final.tally.giveUps = [.outgoing] ∧
          flaggedOf (vmKey [97]) final.machine.host.vcpus = 1 ∧
          countOf (vmKey [97]) final.machine.host = 0 ∧
          ∀ cpu, final.machine.cpus cpu = .idle)) = true := by
    decide +kernel
  obtain ⟨final, executed, holds⟩ := (Option.any_eq_true _ _).mp check
  exact ⟨final, (guardedRun_of_exec executed).mono fun _ _ => eventsApart_of_check,
    of_decide_eq_true holds⟩

/-- The bound on the counter is attained: the increment for thread 7 is lost. -/
theorem lost_increment :
    ∃ final, GuardedRun (Tallied.step (vmKey [97]) (vmKey [97])) EventsApart
        (Tallied.quiet Bool pairHost) contendedRun final ∧
      final.tally.giveUps = [.outgoing] ∧ flaggedOf (vmKey [97]) final.machine.host.vcpus = 1 ∧
      ∃ vm, final.machine.host.vms.lookup (vmKey [97]) = some vm ∧
        (1 : Int) - 1 ≤ vm.phantomCount ∧ vm.phantomCount ≤ 1 ∧ vm.phantomCount = 0 := by
  obtain ⟨final, run, gaveUp, flagged, count, idle⟩ := exists_contendedRun
  obtain ⟨vm, found, _, _, quiet⟩ := counter_within_giveUps balances_pairHost run
  have bounds := quiet idle
  rw [gaveUp, flagged] at bounds
  rw [countOf_of_found found] at count
  exact ⟨final, run, gaveUp, flagged, vm, found, bounds.1, bounds.2, count⟩

/-- One call gave up, so the other CPU has updated the counter at least 24 times. -/
theorem contended_swaps :
    ∃ final, GuardedRun (Tallied.step (vmKey [97]) (vmKey [97])) (fun _ _ => True)
        (Tallied.quiet Bool pairHost) contendedRun final ∧
      final.tally.giveUps.length = 1 ∧ 24 ≤ final.tally.swaps := by
  obtain ⟨final, apart, gaveUp, _⟩ := exists_contendedRun
  have run : GuardedRun (Tallied.step (vmKey [97]) (vmKey [97])) (fun _ _ => True)
      (Tallied.quiet Bool pairHost) contendedRun final := apart.mono fun _ _ _ => trivial
  have length : final.tally.giveUps.length = 1 := by rw [gaveUp]; rfl
  have paid := giveUps_le_swaps balances_pairHost.found run
  rw [length, Fintype.card_bool] at paid
  refine ⟨final, run, length, ?_⟩
  unfold maxAttempts at paid
  omega

end PhantomTracker.Host
