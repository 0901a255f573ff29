import PhantomTracker.Foundation.CasLoop
import PhantomTracker.Host.NoLostUpdate
import PhantomTracker.Host.SerialRuns

/-!
Contract: the range of `phantom_count` under any race.

Owns: `atomic_dec_if_pos` and `atomic_inc_if_lt_ceil` as operations of a retry
loop, the projection of the interleaved handlers and ticks to that loop, and the
range of the counter, of every value the two functions return and of every sample
that a handler or a tick records.

Does not own: whether the counter is exact, which the handlers in flight decide.

Nothing here is assumed about the scheduler: several handlers for one vCPU may
race, and a loop may give up after its last attempt.
-/

namespace PhantomTracker.Host

open PhantomTracker.Foundation

/-! ## The two update functions as one loop -/

/-- The updates of a counter with `nb_vcpus` as its ceiling. -/
def counterLoop (nbVcpus : Nat) : CasLoop Half Int where
  stops
    | .incoming, old => old ≤ 0
    | .outgoing, old => old ≥ nbVcpus
  update := Half.bump
  attempts := maxAttempts

def InCounterRange (nbVcpus : Nat) (count : Int) : Prop := 0 ≤ count ∧ count ≤ nbVcpus

theorem counterLoop_stops (half : Half) (vm : VmT) (old : Int) :
    (counterLoop vm.nbVcpus).stops half old = half.clamps vm old := by
  cases half <;> rfl

/-- An update that has passed its bound test stays in the range. -/
theorem counterLoop_keeps (nbVcpus : Nat) :
    (counterLoop nbVcpus).Keeps (InCounterRange nbVcpus) := by
  rintro half count ⟨nonneg, ceiling⟩ passes
  cases half with
  | incoming =>
      have positive : ¬ count ≤ 0 := of_decide_eq_false passes
      show 0 ≤ count - 1 ∧ count - 1 ≤ nbVcpus
      omega
  | outgoing =>
      have below : ¬ count ≥ nbVcpus := of_decide_eq_false passes
      show 0 ≤ count + 1 ∧ count + 1 ≤ nbVcpus
      omega

/-! ## Handlers as callers -/

/-- The call that a handler is in, from the load of the counter until the sample
with the returned value is written. -/
def UpdatePc.call (half : Half) : UpdatePc → CasLoop.Pc Half Int
  | .load attempt => .load half attempt
  | .swap attempt old => .swap half attempt old
  | .reload => .reload half
  | .choose newCount => .returned newCount
  | .reserve newCount _ => .returned newCount
  | .write newCount _ _ _ => .returned newCount

/-- The call on the counter of the VM `key` that a CPU is in. -/
def CpuPc.call (key : VmKey) : CpuPc → CasLoop.Pc Half Int
  | .update locals vmName pc => if vmName = key then pc.call locals.half else .idle
  | .idle => .idle
  | .enter _ => .idle

theorem CpuPc.call_own {key vmName : VmKey} {locals : Locals} {update : UpdatePc}
    (own : vmName = key) :
    (CpuPc.update locals vmName update).call key = update.call locals.half :=
  if_pos own

theorem CpuPc.call_foreign {key vmName : VmKey} {locals : Locals} {update : UpdatePc}
    (foreign : vmName ≠ key) : (CpuPc.update locals vmName update).call key = .idle :=
  if_neg foreign

theorem Locals.finish_call (key : VmKey) (locals : Locals) : locals.finish.call key = .idle := by
  unfold Locals.finish
  split <;> rfl

section Machine

variable {ι : Type} {key : VmKey}

/-- The counter of a VM and the calls on it. -/
def counterState (key : VmKey) (host : HostState) (cpus : ι → CpuPc) :
    CasLoop.State ι Half Int :=
  ⟨countOf key host, fun cpu => (cpus cpu).call key⟩

variable [DecidableEq ι] {host after : HostState} {cpus : ι → CpuPc} {cpu : ι} {pc : CpuPc}
  {vm : VmT}

theorem countOf_setVm (vmAfter : VmT) :
    countOf key (host.setVm key vmAfter) = vmAfter.phantomCount :=
  countOf_of_found (AList.lookup_insert _)

theorem countOf_setVm_of_ne {vmName : VmKey} (different : key ≠ vmName) (vmAfter : VmT) :
    countOf key (host.setVm vmName vmAfter) = countOf key host := by
  unfold countOf HostState.setVm
  rw [AList.lookup_insert_ne different]

theorem counterState_update (after : HostState) (cpus : ι → CpuPc) (cpu : ι) (pc : CpuPc) :
    counterState key after (Function.update cpus cpu pc) =
      ⟨countOf key after, Function.update (fun other => (cpus other).call key) cpu
        (pc.call key)⟩ := by
  unfold counterState
  congr 1
  funext other
  by_cases same : other = cpu
  · rw [same, Function.update_self, Function.update_self]
  · rw [Function.update_of_ne same, Function.update_of_ne same]

/-- A step that changes neither the counter nor the call of the CPU. -/
theorem counterState_same (count : countOf key after = countOf key host)
    (call : pc.call key = (cpus cpu).call key) :
    counterState key after (Function.update cpus cpu pc) = counterState key host cpus := by
  rw [counterState_update, count, call]
  exact congrArg _ (Function.update_eq_self cpu _)

/-- A step of a CPU, as the loop sees it: nothing, or one action of the caller. -/
def StepsLoop (key : VmKey) (nbVcpus : Nat) (host : HostState) (cpus : ι → CpuPc)
    (after : HostState) (cpusAfter : ι → CpuPc) : Prop :=
  counterState key after cpusAfter = counterState key host cpus ∨
    ∃ action, (counterLoop nbVcpus).step (counterState key host cpus) action =
      some (counterState key after cpusAfter)

/-- The step of a CPU is a move of one caller of the loop on the counter of `key`. -/
def LoopMove (key : VmKey) (nbVcpus : Nat) (host : HostState) (before : CpuPc)
    (after : HostState) (pc : CpuPc) : Prop :=
  (counterLoop nbVcpus).Move (countOf key host) (before.call key) (countOf key after) (pc.call key)

section Moves

omit [DecidableEq ι]

variable {before : CpuPc}

/-- A step outside of the loop. -/
theorem loopMove_stay (count : countOf key after = countOf key host)
    (call : pc.call key = before.call key) (outside : (before.call key).operation = none)
    (nbVcpus : Nat) : LoopMove key nbVcpus host before after pc := by
  unfold LoopMove
  rw [count, call]
  exact .stay outside

/-- A step inside the update function of a VM: an atomic step of the loop if it is
the VM of the counter, and nothing otherwise. -/
theorem loopMove_update {vmName : VmKey} {vmHere : VmT} {locals : Locals}
    {update updateAfter : UpdatePc} (found : host.vms.lookup key = some vm)
    (foundHere : host.vms.lookup vmName = some vmHere)
    (foreign : vmName ≠ key → countOf key after = countOf key host)
    (own : vmName = key → vmHere = vm →
      (counterLoop vm.nbVcpus).next vm.phantomCount (update.call locals.half) =
        some (countOf key after, updateAfter.call locals.half)) :
    LoopMove key vm.nbVcpus host (.update locals vmName update) after
      (.update locals vmName updateAfter) := by
  by_cases same : vmName = key
  · have vmSame : vmHere = vm := by
      rw [same, found] at foundHere
      exact (Option.some.inj foundHere).symm
    unfold LoopMove
    rw [countOf_of_found found, CpuPc.call_own same, CpuPc.call_own same]
    exact .advance (own same vmSame)
  · apply loopMove_stay (foreign same)
    · rw [CpuPc.call_foreign same, CpuPc.call_foreign same]
    · rw [CpuPc.call_foreign same]
      rfl

/-- A step behind the update function, with the result still at hand. -/
theorem loopMove_returned {vmName : VmKey} {locals : Locals} {update updateAfter : UpdatePc}
    {result : Int} (returned : update.call locals.half = .returned result)
    (still : updateAfter.call locals.half = .returned result)
    (count : countOf key after = countOf key host) (nbVcpus : Nat) :
    LoopMove key nbVcpus host (.update locals vmName update) after
      (.update locals vmName updateAfter) := by
  by_cases same : vmName = key
  · apply loopMove_stay count
    · rw [CpuPc.call_own same, CpuPc.call_own same, returned, still]
    · rw [CpuPc.call_own same, returned]
      rfl
  · apply loopMove_stay count
    · rw [CpuPc.call_foreign same, CpuPc.call_foreign same]
    · rw [CpuPc.call_foreign same]
      rfl

/-- Leaving the handler half ends its call. -/
theorem loopMove_finish {vmName : VmKey} {locals : Locals} {update : UpdatePc} {result : Int}
    (returned : update.call locals.half = .returned result)
    (count : countOf key after = countOf key host) (nbVcpus : Nat) :
    LoopMove key nbVcpus host (.update locals vmName update) after locals.finish := by
  unfold LoopMove
  rw [count, locals.finish_call]
  by_cases same : vmName = key
  · rw [CpuPc.call_own same]
    exact .leave returned
  · rw [CpuPc.call_foreign same]
    exact .stay rfl

/-- **Every step of a CPU is a move of one caller** on the counter of any VM. -/
theorem CpuStep.loopMove (found : host.vms.lookup key = some vm)
    (step : CpuStep host before after pc) : LoopMove key vm.nbVcpus host before after pc := by
  cases step with
  | skip locals after => exact loopMove_stay rfl (after.finish_call key) rfl _
  | flipAlone => exact loopMove_stay rfl (Locals.finish_call key _) rfl _
  | @flip locals after vcpu =>
      by_cases same : vcpu.vmName = key
      · unfold LoopMove
        rw [CpuPc.call_own same]
        exact .call after.half rfl
      · exact loopMove_stay rfl (CpuPc.call_foreign same) rfl _
  | clamp attempt foundHere clamps =>
      refine loopMove_update found foundHere (fun _ => rfl) ?_
      rintro rfl rfl
      simp [UpdatePc.call, CasLoop.next, counterLoop_stops, clamps, countOf_of_found found]
  | load attempt foundHere passes =>
      refine loopMove_update found foundHere (fun _ => rfl) ?_
      rintro rfl rfl
      simp [UpdatePc.call, CasLoop.next, counterLoop_stops, passes, countOf_of_found found]
  | swap attempt foundHere =>
      refine loopMove_update found foundHere
        (fun different => countOf_setVm_of_ne (Ne.symm different) _) ?_
      rintro rfl rfl
      simp [UpdatePc.call, CasLoop.next, counterLoop, countOf_setVm]
  | retry foundHere moved below =>
      refine loopMove_update found foundHere (fun _ => rfl) ?_
      rintro rfl rfl
      simp [UpdatePc.call, CasLoop.next, counterLoop, moved, below, countOf_of_found found]
  | exhaust foundHere moved last =>
      refine loopMove_update found foundHere (fun _ => rfl) ?_
      rintro rfl rfl
      simp [UpdatePc.call, CasLoop.next, counterLoop, moved, last, countOf_of_found found]
  | reload foundHere =>
      refine loopMove_update found foundHere (fun _ => rfl) ?_
      rintro rfl rfl
      simp [UpdatePc.call, CasLoop.next, countOf_of_found found]
  | choose newCount foundHere => exact loopMove_returned rfl rfl rfl _
  | @reserve locals vmName vmHere newCount buff map foundHere buffered =>
      refine loopMove_returned rfl rfl ?_ _
      by_cases same : vmName = key
      · subst same
        rw [countOf_setVm, countOf_of_found foundHere, VmT.setIndex_phantomCount]
      · exact countOf_setVm_of_ne (Ne.symm same) _
  | unbuffered newCount absent => exact loopMove_finish rfl rfl _
  | write => exact loopMove_finish rfl rfl _

end Moves

/-- Every step of a CPU is a step of the loop on the counter, or nothing to it. -/
theorem CpuStep.stepsLoop (found : host.vms.lookup key = some vm)
    (step : CpuStep host (cpus cpu) after pc) :
    StepsLoop key vm.nbVcpus host cpus after (Function.update cpus cpu pc) := by
  have move : (counterLoop vm.nbVcpus).Move (counterState key host cpus).value
      ((counterState key host cpus).calls cpu) (countOf key after) (pc.call key) :=
    step.loopMove found
  unfold StepsLoop
  rw [counterState_update]
  exact move.step

/-! ## The machine -/

/-- The counts that a tick carries. -/
def TickPc.CountsGood (good : Int → Prop) : TickPc → Prop
  | .loadStart countEnd => good countEnd.count
  | .test countEnd countStart => good countEnd.count ∧ good countStart.count
  | .openNew _ countEnd countStart => good countEnd.count ∧ good countStart.count
  | .reset _ countEnd => good countEnd.count
  | .swap _ countEnd => good countEnd.count
  | .reserve _ countEnd => good countEnd.count
  | .writeEnd _ countEnd _ => good countEnd.count
  | _ => True

/-- The counter of the VM, what the handlers carry of it, and what its tick
carries are in range. -/
structure CountsInRange (key : VmKey) (nbVcpus : Nat) (machine : Machine ι) : Prop where
  vm : ∃ vm, machine.host.vms.lookup key = some vm ∧ vm.nbVcpus = nbVcpus
  loop : (counterLoop nbVcpus).Good (InCounterRange nbVcpus)
    (counterState key machine.host machine.cpus)
  tick : machine.tick.CountsGood (InCounterRange nbVcpus)

/-- No step of a CPU removes the VM or moves its ceiling. -/
theorem CpuStep.ceiling {pcBefore : CpuPc} (found : host.vms.lookup key = some vm)
    (step : CpuStep host pcBefore after pc) :
    ∃ vmAfter, after.vms.lookup key = some vmAfter ∧ vmAfter.nbVcpus = vm.nbVcpus := by
  have kept : ∀ (vmName : VmKey) (vmHere vmStored : VmT),
      host.vms.lookup vmName = some vmHere → vmStored.nbVcpus = vmHere.nbVcpus →
      ∃ vmAfter, (host.setVm vmName vmStored).vms.lookup key = some vmAfter ∧
        vmAfter.nbVcpus = vm.nbVcpus := by
    intro vmName vmHere vmStored foundHere ceiling
    by_cases same : key = vmName
    · subst same
      obtain rfl := Option.some.inj (found.symm.trans foundHere)
      exact ⟨vmStored, AList.lookup_insert _, ceiling⟩
    · exact ⟨vm, (AList.lookup_insert_ne same).trans found, rfl⟩
  cases step with
  | swap attempt foundHere => exact kept _ _ _ foundHere rfl
  | reserve newCount foundHere buffered =>
      exact kept _ _ _ foundHere (VmT.setIndex_nbVcpus _ _ _)
  | _ => exact ⟨vm, found, rfl⟩

/-- A tick step loads counts from the counter and carries them on. -/
theorem tickStep_countsGood {good : Int → Prop} {now : Nat} {maps : Buff → MapId} {tick : TickPc}
    (count : good vm.phantomCount) (carried : tick.CountsGood good) :
    (tickStep now host key vm maps tick).2.CountsGood good := by
  cases tick with
  | loadEnd => exact count
  | loadStart countEnd => exact ⟨carried, count⟩
  | openNew old countEnd countStart => exact carried.1
  | fold old k ctx =>
      simp only [tickStep]
      split <;> trivial
  | idle => trivial
  | writeEnd => trivial
  | publish => trivial
  | _ => exact carried

theorem CountsInRange.step {nbVcpus : Nat} {machine next : Machine ι} {action : Action ι}
    (range : CountsInRange key nbVcpus machine)
    (taken : machine.step key action = some next) : CountsInRange key nbVcpus next := by
  obtain ⟨vm, found, rfl⟩ := range.vm
  cases action with
  | switch cpu event =>
      obtain ⟨idle, rfl⟩ := Machine.step_switch taken
      refine ⟨⟨vm, found, rfl⟩, ?_, range.tick⟩
      have same : counterState key machine.host
          (Function.update machine.cpus cpu (.enter ⟨event, .incoming, 0⟩)) =
          counterState key machine.host machine.cpus :=
        counterState_same rfl (by rw [idle]; rfl)
      show CasLoop.Good _ _ (counterState key machine.host _)
      rw [same]
      exact range.loop
  | advance cpu env =>
      obtain ⟨after, pc, step, rfl⟩ := Machine.step_advance taken
      refine ⟨step.ceiling found, ?_, range.tick⟩
      show CasLoop.Good _ _ (counterState key after (Function.update machine.cpus cpu pc))
      rcases step.stepsLoop found with same | ⟨action, moved⟩
      · rw [same]
        exact range.loop
      · exact range.loop.step (counterLoop_keeps vm.nbVcpus) moved
  | tick now =>
      obtain ⟨vmHere, maps, foundHere, _, host, tick, cpus, _⟩ := Machine.step_tick taken
      obtain rfl := Option.some.inj (found.symm.trans foundHere)
      have counts := sameCounts_tickStep key now found maps machine.tick
      rw [← host] at counts
      obtain ⟨vmAfter, foundAfter, count, ceiling⟩ := counts.counter vm found
      have same : counterState key next.host next.cpus =
          counterState key machine.host machine.cpus := by
        unfold counterState
        rw [cpus, countOf_of_found foundAfter, count, ← countOf_of_found found]
      have value : InCounterRange vm.nbVcpus vm.phantomCount := by
        rw [← countOf_of_found found]
        exact range.loop.value
      refine ⟨⟨vmAfter, foundAfter, ceiling⟩, ?_, ?_⟩
      · rw [same]
        exact range.loop
      · rw [tick]
        exact tickStep_countsGood value range.tick

/-! ## Recorded samples -/

/-- A sample that is written to a buffer of a VM. -/
structure Recorded where
  vmName : VmKey
  map : MapId
  idx : Nat
  sample : PhantomCount

/-- The sample that the next step of a CPU writes. -/
def CpuPc.recorded (env : Env) : CpuPc → Option Recorded
  | .update _ vmName (.write newCount _ map idx) => some ⟨vmName, map, idx, ⟨newCount, env.now⟩⟩
  | _ => none

/-- The sample that the next step of the tick of the VM `key` writes. -/
def TickPc.recorded (key : VmKey) (maps : Buff → MapId) : TickPc → Option Recorded
  | .openNew old _ countStart => some ⟨key, maps old.other, 0, countStart⟩
  | .writeEnd old countEnd endIdx => some ⟨key, maps old, endIdx, countEnd⟩
  | _ => none

/-- The sample that an action writes: a handler for its VM, or the tick for the
VM `key`. -/
def Machine.recorded (key : VmKey) (machine : Machine ι) : Action ι → Option Recorded
  | .switch _ _ => none
  | .advance cpu env => (machine.cpus cpu).recorded env
  | .tick _ => (buffers machine.host key).bind fun maps => machine.tick.recorded key maps

omit [DecidableEq ι] in
/-- A recorded sample of the VM has a count that a handler or the tick carries. -/
theorem CountsInRange.recorded {nbVcpus : Nat} {machine : Machine ι} {action : Action ι}
    {recorded : Recorded} (range : CountsInRange key nbVcpus machine)
    (records : machine.recorded key action = some recorded) (own : recorded.vmName = key) :
    InCounterRange nbVcpus recorded.sample.count := by
  cases action with
  | switch cpu event => cases records
  | advance cpu env =>
      have carried := range.loop.calls cpu
      have call : (counterState key machine.host machine.cpus).calls cpu =
          (machine.cpus cpu).call key := rfl
      rw [call] at carried
      unfold Machine.recorded CpuPc.recorded at records
      dsimp only at records
      split at records
      case h_1 locals vmName newCount buff map idx stands =>
          cases records
          rw [stands, CpuPc.call_own own] at carried
          exact carried
      case h_2 => cases records
  | tick now =>
      obtain ⟨maps, _, written⟩ := Option.bind_eq_some_iff.mp records
      have carried := range.tick
      generalize machine.tick = tick at written carried
      cases tick with
      | openNew old countEnd countStart =>
          cases written
          exact carried.2
      | writeEnd old countEnd endIdx =>
          cases written
          exact carried
      | _ => cases written

omit [DecidableEq ι] in
theorem countsInRange_quiet (found : host.vms.lookup key = some vm)
    (range : InCounterRange vm.nbVcpus vm.phantomCount) :
    CountsInRange key vm.nbVcpus (Machine.quiet ι host) where
  vm := ⟨vm, found, rfl⟩
  loop := ⟨by rw [← countOf_of_found found] at range; exact range, fun _ => trivial⟩
  tick := trivial

/-- **The counter stays in its range under any race.** From the entry that
`register_vm` writes, however the calls of the two update functions interleave,
the counter and every value they return stay between 0 and `nb_vcpus`. So does
every sample that handlers and ticks record for the VM. -/
theorem counter_in_range_under_any_race (args : RegisterArgs) :
    (∀ (calls : List (CasLoop.Action ι Half)) (final : CasLoop.State ι Half Int),
      GuardedRun (counterLoop args.vm.nbVcpus).step (fun _ _ => True)
        (.start ι Half args.vm.phantomCount) calls final →
      InCounterRange args.vm.nbVcpus final.value ∧
        ∀ caller value, final.calls caller = .returned value →
          InCounterRange args.vm.nbVcpus value) ∧
    ∀ (host : HostState) (key : VmKey) (actions : List (Action ι)) (final : Machine ι),
      host.vms.lookup key = some args.vm →
      GuardedRun (Machine.step key) (fun _ _ => True) (Machine.quiet ι host) actions final →
      (∃ vm, final.host.vms.lookup key = some vm ∧ vm.nbVcpus = args.vm.nbVcpus ∧
        InCounterRange args.vm.nbVcpus vm.phantomCount) ∧
      ∀ action recorded, final.recorded key action = some recorded → recorded.vmName = key →
        InCounterRange args.vm.nbVcpus recorded.sample.count := by
  have initially : InCounterRange args.vm.nbVcpus args.vm.phantomCount :=
    ⟨le_rfl, Int.natCast_nonneg _⟩
  constructor
  · intro calls final run
    have good := CasLoop.good_of_run (counterLoop_keeps _) initially run
    refine ⟨good.value, fun caller value returned => ?_⟩
    have carried := good.calls caller
    rw [returned] at carried
    exact carried
  · intro host key actions final found run
    have range : CountsInRange key args.vm.nbVcpus final :=
      run.invariant (CountsInRange key args.vm.nbVcpus)
        (fun _ _ _ range _ taken => range.step taken) (countsInRange_quiet found initially)
    obtain ⟨vm, foundAfter, ceiling⟩ := range.vm
    refine ⟨⟨vm, foundAfter, ceiling, ?_⟩, fun action recorded => range.recorded⟩
    rw [← countOf_of_found foundAfter]
    exact range.loop.value

end Machine

/-! ## Two handlers for one vCPU -/

/-- Thread 7 is switched out on one CPU and in on another one before the first
handler has counted it: the decrement finds 0 and is dropped. -/
def racingRun : List (Action Bool) :=
  let env : Env := ⟨fun _ => some 1, 0⟩
  [.switch false ⟨7, 1, 0⟩, .switch true ⟨2, 7, 0⟩, .advance false env, .advance false env,
    .advance true env, .advance true env, .advance false env, .advance false env]

theorem racing_handlers_in_range :
    ∃ final vm, GuardedRun (Machine.step (vmKey [97])) (fun _ _ => True)
        (Machine.quiet Bool pairHost) racingRun final ∧
      final.host.vms.lookup (vmKey [97]) = some vm ∧ InCounterRange 2 vm.phantomCount := by
  have check : (exec (Machine.step (vmKey [97])) (fun _ _ => True)
      (Machine.quiet Bool pairHost) racingRun).isSome = true := by
    decide +kernel
  obtain ⟨final, executed⟩ := Option.isSome_iff_exists.mp check
  have run := guardedRun_of_exec executed
  have registered : pairHost.vms.lookup (vmKey [97]) = some pairArgs.vm := by decide +kernel
  obtain ⟨⟨vm, found, _, range⟩, _⟩ := (counter_in_range_under_any_race pairArgs).2 pairHost
    (vmKey [97]) racingRun final registered run
  exact ⟨final, vm, run, found, range⟩

end PhantomTracker.Host
