import PhantomTracker.Host.WindowView

/-!
Contract: every step of the concurrent machine is a step of the journal of its
VM, or leaves the journal alone.

Owns: the simulation for handler steps and for tick steps, and that the order
of handlers and ticks is the order the journal asks for.

Does not own: what follows for whole runs.
-/

namespace PhantomTracker.Host

open PhantomTracker.Foundation

/-! ## Slots -/

section Slots

variable {key : VmKey} {maps : Buff → MapId} {vm : VmT} {host : HostState}

theorem slotCounts_putSample_foreign {map : MapId} (foreign : ∀ buff, map ≠ maps buff) (idx : Nat)
    (sample : PhantomCount) :
    slotCounts (host.putSample map idx sample) maps = slotCounts host maps := by
  funext buff position
  show ((Function.update host.sampleMaps map _ (maps buff)).slot position).count = _
  rw [Function.update_of_ne (Ne.symm (foreign buff))]
  rfl

/-- A sample of the VM reaches one slot of one side, unless it is past the
capacity. -/
theorem slotCounts_putSample_own (collecting : Collecting key maps vm host) (buff : Buff)
    (idx : Nat) (sample : PhantomCount) :
    slotCounts (host.putSample (maps buff) idx sample) maps =
      if idx < vmMapMaxEntries then
        Function.update (slotCounts host maps) buff
          (Function.update (slotCounts host maps buff) idx sample.count)
      else slotCounts host maps := by
  funext target position
  have capacity := collecting.capacity buff
  show ((Function.update host.sampleMaps (maps buff) _ (maps target)).slot position).count = _
  by_cases same : target = buff
  · subst same
    rw [Function.update_self]
    by_cases below : idx < vmMapMaxEntries
    · rw [if_pos below, Function.update_self]
      by_cases samePosition : position = idx
      · subst samePosition
        rw [SampleMap.updateElem_slot_same (by rw [capacity]; exact below), Function.update_self]
      · rw [SampleMap.updateElem_slot_of_ne _ samePosition, Function.update_of_ne samePosition]
        rfl
    · rw [if_neg below, SampleMap.updateElem, if_neg (by rw [capacity]; exact below)]
      rfl
  · have different : maps target ≠ maps buff := by
      rw [Buff.eq_other_of_ne same]
      exact collecting.apart buff
    rw [Function.update_of_ne different]
    by_cases below : idx < vmMapMaxEntries
    · rw [if_pos below, Function.update_of_ne same]
      rfl
    · rw [if_neg below]
      rfl

theorem markFresh_own (collecting : Collecting key maps vm host) (buff : Buff) (idx : Nat)
    (fresh : Buff → Nat → Bool) :
    markFresh host (maps buff) buff idx fresh =
      if idx < vmMapMaxEntries then
        Function.update fresh buff (Function.update (fresh buff) idx true)
      else fresh := by
  unfold markFresh
  rw [collecting.capacity buff]

end Slots

/-! ## Handler steps -/

section Cpu

variable {ι : Type} [DecidableEq ι] {key : VmKey} {maps : Buff → MapId} {vm : VmT}
  {machine : Machine ι} {cpu : ι} {after : HostState} {pc : CpuPc}

theorem CpuStep.sameShape {host : HostState} {before : CpuPc} (step : CpuStep host before after pc) :
    SameShape host after := by
  cases step with
  | flip event half found flag foundVm => exact sameShape_setFlag found _
  | flipAlone event half found flag absent => exact sameShape_setFlag found _
  | swap attempt found => exact sameShape_setVm host _ _
  | reserve newCount found buffered => exact sameShape_setVm host _ _
  | write locals vmName newCount buff map idx now => exact sameShape_putSample host map idx _
  | _ => exact SameShape.refl _

/-- The machine after a handler step. -/
def Machine.moveCpu (key : VmKey) (machine : Machine ι) (cpu : ι) (after : HostState) (pc : CpuPc) :
    Machine ι :=
  { machine with
    host := after
    cpus := Function.update machine.cpus cpu pc
    fresh := cpuFresh key machine.host machine.fresh (machine.cpus cpu) }

theorem Machine.moveCpu_writers (vm vmAfter : VmT) :
    ((machine.moveCpu key cpu after pc).view key maps vmAfter).writers =
      Function.update (machine.view key maps vm).writers cpu (writerOf key pc) := by
  funext other
  show writerOf key (Function.update machine.cpus cpu pc other) = _
  by_cases same : other = cpu
  · subst same
    rw [Function.update_self, Function.update_self]
  · rw [Function.update_of_ne same, Function.update_of_ne same]
    rfl

theorem Machine.view_switch (idle : machine.cpus cpu = .idle) (locals : Locals) :
    { machine with cpus := Function.update machine.cpus cpu (.enter locals) }.view key maps vm =
      machine.view key maps vm := by
  refine Journal.ext rfl rfl rfl rfl rfl (funext fun other => ?_) rfl rfl
  show writerOf key (Function.update machine.cpus cpu (.enter locals) other) = _
  by_cases same : other = cpu
  · subst same
    rw [Function.update_self]
    show Appender.away = writerOf key (machine.cpus other)
    rw [idle]
    rfl
  · rw [Function.update_of_ne same]
    rfl

/-- A handler step that does not touch the journal. -/
theorem Machine.view_stutter {vmAfter : VmT} (count : vmAfter.phantomCount = vm.phantomCount)
    (active : vmAfter.active = vm.active) (index : vmAfter.index = vm.index)
    (slots : slotCounts after maps = slotCounts machine.host maps)
    (fresh : cpuFresh key machine.host machine.fresh (machine.cpus cpu) = machine.fresh)
    (writer : writerOf key pc = writerOf key (machine.cpus cpu)) :
    (machine.moveCpu key cpu after pc).view key maps vmAfter = machine.view key maps vm := by
  refine Journal.ext count active index slots fresh ?_ rfl rfl
  rw [Machine.moveCpu_writers vm, writer]
  exact Function.update_eq_self cpu _

@[simp] theorem placed_finish (host : HostState) (locals : Locals) : locals.finish.Placed host := by
  unfold Locals.finish
  split <;> trivial

theorem CpuStep.placed {host : HostState} {before : CpuPc} (step : CpuStep host before after pc)
    (placed : before.Placed host) : pc.Placed after := by
  refine CpuPc.Placed.of_sameShape step.sameShape ?_
  cases step with
  | flip event half found flag foundVm => exact ⟨⟨_, _, found, rfl⟩, trivial⟩
  | reserve newCount found buffered => exact ⟨placed.1, buffered⟩
  | skip => exact placed_finish _ _
  | flipAlone => exact placed_finish _ _
  | unbuffered => exact placed_finish _ _
  | write => exact placed_finish _ _
  | _ => exact ⟨placed.1, trivial⟩

/-- What a handler step does to the journal of the VM: nothing, or one step,
which is in order when the handler keeps the order. -/
def CpuSimulated (key : VmKey) (maps : Buff → MapId) (vm : VmT) (machine : Machine ι) (cpu : ι)
    (after : HostState) (pc : CpuPc) : Prop :=
  ∃ vmAfter, after.vms.lookup key = some vmAfter ∧
    vmAfter.isCollectxInBuff1 = vm.isCollectxInBuff1 ∧
    ((machine.moveCpu key cpu after pc).view key maps vmAfter = machine.view key maps vm ∨
      ∃ label, Journal.Step vmMapMaxEntries u32Succ (machine.view key maps vm) label
          ((machine.moveCpu key cpu after pc).view key maps vmAfter) ∧
        ∀ env, HandoverGuard key machine (.advance cpu env) →
          (machine.view key maps vm).Ordered vmMapMaxEntries label)

/-- A handler of another VM. -/
theorem simulate_foreign (collecting : Collecting key maps vm machine.host)
    (placed : (machine.cpus cpu).Placed machine.host) {locals : Locals} {vmName : VmKey}
    {update : UpdatePc} (phase : machine.cpus cpu = .update locals vmName update)
    (foreign : vmName ≠ key) (step : CpuStep machine.host (.update locals vmName update) after pc) :
    CpuSimulated key maps vm machine cpu after pc := by
  have elsewhere : ∀ vmAfter, (machine.host.setVm vmName vmAfter).vms.lookup key = some vm :=
    fun vmAfter => (AList.lookup_insert_ne (Ne.symm foreign)).trans collecting.found
  have unmarked : cpuFresh key machine.host machine.fresh (machine.cpus cpu) = machine.fresh := by
    rw [phase]
    cases update with
    | write newCount buff map idx => exact if_neg foreign
    | _ => rfl
  have silent : after.vms.lookup key = some vm → slotCounts after maps = slotCounts machine.host maps →
      writerOf key pc = .away → CpuSimulated key maps vm machine cpu after pc := by
    intro found slots away
    refine ⟨vm, found, rfl, Or.inl (Machine.view_stutter rfl rfl rfl slots unmarked ?_)⟩
    rw [phase, away, writerOf_foreign foreign]
  cases step with
  | swap attempt found => exact silent (elsewhere _) rfl (writerOf_foreign foreign _)
  | reserve newCount found buffered => exact silent (elsewhere _) rfl (writerOf_foreign foreign _)
  | unbuffered newCount absent => exact silent collecting.found rfl (writerOf_finish _)
  | write locals vmName newCount buff map idx now =>
      rw [phase] at placed
      obtain ⟨⟨tid, vcpu, present, rfl⟩, registered⟩ := placed
      have apart := collecting.foreign tid vcpu buff map present foreign registered
      exact silent collecting.found (slotCounts_putSample_foreign apart idx _) (writerOf_finish _)
  | _ => exact silent collecting.found rfl (writerOf_foreign foreign _)

/-- A handler of the VM that fixes its count. -/
theorem simulate_settle {locals : Locals} {update : UpdatePc} {vmAfter : VmT} {value : Int}
    (found : machine.host.vms.lookup key = some vm)
    (phase : machine.cpus cpu = .update locals key update)
    (settles : update.settles locals.half vm = true)
    (away : writerOf key (.update locals key update) = .away)
    (unmarked : cpuFresh key machine.host machine.fresh (machine.cpus cpu) = machine.fresh)
    (foundAfter : after.vms.lookup key = some vmAfter) (result : vmAfter = vm.setCount value)
    (slots : slotCounts after maps = slotCounts machine.host maps) :
    CpuSimulated key maps vm machine cpu after (.update locals key (.choose value)) := by
  subst result
  refine ⟨_, foundAfter, rfl, Or.inr ⟨.settle cpu, ?_, ?_⟩⟩
  · have same : (machine.moveCpu key cpu after (.update locals key (.choose value))).view key maps
        (vm.setCount value) =
        { machine.view key maps vm with value := value }.setWriter cpu (.settled value) := by
      refine Journal.ext rfl rfl (funext fun _ => vm.setCount_index value _) slots unmarked ?_ rfl rfl
      rw [Machine.moveCpu_writers vm]
      simp only [writerOf, if_true]
      rfl
    rw [same]
    apply Journal.Step.settle
    rw [← away, ← phase]
    rfl
  · intro env guarded
    obtain ⟨apart, notHandingOver⟩ := (guarded.inOrder phase found).1 settles
    refine ⟨fun member held appends => ?_, fun handing => ?_⟩
    · exact absurd (appending_of_writerOf appends) (by rw [apart member]; decide)
    · exact absurd (handingOver_of_swapperOf handing) (by rw [notHandingOver]; decide)

theorem simulate_choose {locals : Locals} {newCount : Int}
    (found : machine.host.vms.lookup key = some vm)
    (phase : machine.cpus cpu = .update locals key (.choose newCount)) :
    CpuSimulated key maps vm machine cpu machine.host
      (.update locals key (.reserve newCount vm.active)) := by
  refine ⟨vm, found, rfl, Or.inr ⟨.choose cpu, ?_, fun _ _ => trivial⟩⟩
  have same : (machine.moveCpu key cpu machine.host
      (.update locals key (.reserve newCount vm.active))).view key maps vm =
      (machine.view key maps vm).setWriter cpu (.chosen newCount vm.active) := by
    refine Journal.ext rfl rfl rfl rfl ?_ ?_ rfl rfl
    · show cpuFresh key machine.host machine.fresh (machine.cpus cpu) = machine.fresh
      rw [phase]
      rfl
    · rw [Machine.moveCpu_writers vm]
      simp only [writerOf, if_true]
      rfl
  rw [same]
  apply Journal.Step.choose
  show writerOf key (machine.cpus cpu) = _
  rw [phase]
  exact if_pos rfl

theorem simulate_reserve {locals : Locals} {newCount : Int} {buff : Buff} {map : MapId}
    (found : machine.host.vms.lookup key = some vm)
    (phase : machine.cpus cpu = .update locals key (.reserve newCount buff)) :
    CpuSimulated key maps vm machine cpu
      (machine.host.setVm key (vm.setIndex buff (u32Succ (vm.index buff))))
      (.update locals key (.write newCount buff map (vm.index buff))) := by
  have current : writerOf key (machine.cpus cpu) = .chosen newCount buff := by
    rw [phase]
    exact if_pos rfl
  refine ⟨_, AList.lookup_insert _, vm.setIndex_isCollectxInBuff1 _ _, Or.inr ⟨.reserve cpu, ?_, ?_⟩⟩
  · have same : (machine.moveCpu key cpu
        (machine.host.setVm key (vm.setIndex buff (u32Succ (vm.index buff))))
        (.update locals key (.write newCount buff map (vm.index buff)))).view key maps
          (vm.setIndex buff (u32Succ (vm.index buff))) =
        ((machine.view key maps vm).setIndex buff (u32Succ (vm.index buff))).setWriter cpu
          (.reserved newCount buff (vm.index buff)) := by
      refine Journal.ext (vm.setIndex_phantomCount _ _) (vm.setIndex_active _ _)
        (vm.index_setIndex _ _) rfl ?_ ?_ rfl rfl
      · show cpuFresh key machine.host machine.fresh (machine.cpus cpu) = machine.fresh
        rw [phase]
        rfl
      · rw [Machine.moveCpu_writers vm]
        simp only [writerOf, if_true]
        rfl
    rw [same]
    exact Journal.Step.reserve cpu current
  · intro env guarded value side chosen
    obtain ⟨rfl, rfl⟩ : newCount = value ∧ buff = side := by
      rw [show writerOf key (machine.cpus cpu) = _ from chosen] at current
      cases current
      exact ⟨rfl, rfl⟩
    exact (guarded.inOrder phase found).2

theorem simulate_fill (collecting : Collecting key maps vm machine.host) {locals : Locals}
    {newCount : Int} {buff : Buff} {idx : Nat}
    (phase : machine.cpus cpu = .update locals key (.write newCount buff (maps buff) idx))
    (now : Nat) :
    CpuSimulated key maps vm machine cpu
      (machine.host.putSample (maps buff) idx ⟨newCount, now⟩) locals.finish := by
  refine ⟨vm, collecting.found, rfl, Or.inr ⟨.fill cpu, ?_, fun _ _ => trivial⟩⟩
  have marked : cpuFresh key machine.host machine.fresh (machine.cpus cpu) =
      markFresh machine.host (maps buff) buff idx machine.fresh := by
    rw [phase]
    exact if_pos rfl
  have same : (machine.moveCpu key cpu (machine.host.putSample (maps buff) idx ⟨newCount, now⟩)
      locals.finish).view key maps vm =
      ((machine.view key maps vm).put vmMapMaxEntries buff idx newCount).setWriter cpu .away := by
    rw [Journal.put_eq]
    refine Journal.ext rfl rfl rfl (slotCounts_putSample_own collecting buff idx _)
      (marked.trans (markFresh_own collecting buff idx _)) ?_ rfl rfl
    rw [Machine.moveCpu_writers vm, writerOf_finish]
    rfl
  rw [same]
  apply Journal.Step.fill
  show writerOf key (machine.cpus cpu) = _
  rw [phase]
  exact if_pos rfl

/-- **Every handler step is a step of the journal or leaves it alone.** -/
theorem simulate_cpu (collecting : Collecting key maps vm machine.host)
    (placed : (machine.cpus cpu).Placed machine.host)
    (step : CpuStep machine.host (machine.cpus cpu) after pc) :
    CpuSimulated key maps vm machine cpu after pc := by
  have found := collecting.found
  generalize phase : machine.cpus cpu = before at step
  -- A handler that stands before its count is settled has no entry to make.
  have silent : after.vms.lookup key = some vm → after.sampleMaps = machine.host.sampleMaps →
      cpuFresh key machine.host machine.fresh before = machine.fresh →
      writerOf key before = .away → writerOf key pc = .away →
      CpuSimulated key maps vm machine cpu after pc := by
    intro foundAfter samples unmarked away awayAfter
    refine ⟨vm, foundAfter, rfl, Or.inl (Machine.view_stutter rfl rfl rfl ?_ ?_ ?_)⟩
    · unfold slotCounts
      rw [samples]
    · rw [phase, unmarked]
    · rw [phase, away, awayAfter]
  cases before with
  | idle => cases step
  | enter locals =>
      cases step with
      | skip locals after event half => exact silent found rfl rfl rfl (writerOf_finish _)
      | flip event half present flag foundVm => exact silent found rfl rfl rfl rfl
      | flipAlone event half present flag absent => exact silent found rfl rfl rfl (writerOf_finish _)
  | update locals vmName update =>
      by_cases own : vmName = key
      · subst own
        cases step with
        | clamp attempt foundVm clamps =>
            obtain rfl := Option.some.inj (foundVm.symm.trans found)
            exact simulate_settle found phase clamps rfl (by rw [phase]; rfl) found rfl rfl
        | load attempt foundVm passes => exact silent found rfl rfl rfl rfl
        | swap attempt foundVm =>
            obtain rfl := Option.some.inj (foundVm.symm.trans found)
            exact simulate_settle found phase (decide_eq_true rfl) rfl (by rw [phase]; rfl)
              (AList.lookup_insert _) rfl rfl
        | retry foundVm moved below => exact silent found rfl rfl rfl rfl
        | exhaust foundVm moved last => exact silent found rfl rfl rfl rfl
        | reload foundVm =>
            obtain rfl := Option.some.inj (foundVm.symm.trans found)
            exact simulate_settle found phase rfl rfl (by rw [phase]; rfl) found rfl rfl
        | choose newCount foundVm =>
            obtain rfl := Option.some.inj (foundVm.symm.trans found)
            exact simulate_choose found phase
        | unbuffered newCount absent =>
            rw [buffers_lookup collecting.buffered] at absent
            cases absent
        | reserve newCount foundVm buffered =>
            obtain rfl := Option.some.inj (foundVm.symm.trans found)
            exact simulate_reserve found phase
        | write locals vmName newCount buff map idx now =>
            rw [phase] at placed
            have registered := placed.2
            dsimp only at registered
            rw [buffers_lookup collecting.buffered] at registered
            obtain rfl := Option.some.inj registered
            exact simulate_fill collecting phase now
      · exact simulate_foreign collecting placed phase own step

end Cpu

/-! ## Tick steps -/

section Tick

variable {ι : Type} [DecidableEq ι] {key : VmKey} {maps : Buff → MapId} {vm : VmT}

theorem swapFrom_active {vm : VmT} (flag : vm.isCollectxInBuff1 = 0 ∨ vm.isCollectxInBuff1 = 1)
    (old : Buff) :
    (vm.swapFrom old).active = if vm.active = old then old.other else vm.active := by
  rcases flag with two | one <;> cases old <;> simp_all [VmT.swapFrom, VmT.active, Buff.other]

theorem swapFrom_flag {vm : VmT} (flag : vm.isCollectxInBuff1 = 0 ∨ vm.isCollectxInBuff1 = 1)
    (old : Buff) :
    (vm.swapFrom old).isCollectxInBuff1 = 0 ∨ (vm.swapFrom old).isCollectxInBuff1 = 1 := by
  rcases flag with two | one <;> cases old <;> simp_all [VmT.swapFrom]

theorem swapFrom_index (vm : VmT) (old : Buff) : (vm.swapFrom old).index = vm.index := by
  cases old <;> unfold VmT.swapFrom <;> dsimp only <;> split <;> rfl

theorem sameShape_tickStep (key : VmKey) (maps : Buff → MapId) (vm : VmT) (now : Nat)
    (host : HostState) (pc : TickPc) :
    SameShape host (tickStep now host key vm maps pc).1 := by
  cases pc with
  | openNew old countEnd countStart => exact sameShape_putSample host _ _ _
  | writeEnd old countEnd endIdx => exact sameShape_putSample host _ _ _
  | fold old k ctx =>
      unfold tickStep
      dsimp only
      split <;> exact SameShape.refl host
  | reset old countEnd => exact sameShape_setVm host _ _
  | swap old countEnd => exact sameShape_setVm host _ _
  | reserve old countEnd => exact sameShape_setVm host _ _
  | publish avg => exact sameShape_setVm host _ _
  | _ => exact SameShape.refl host

/-- The machine after a tick step, up to what the journal does not show. -/
def Machine.moveTick (key : VmKey) (maps : Buff → MapId) (vm : VmT) (now : Nat)
    (machine : Machine ι) : Machine ι :=
  { machine with
    host := (tickStep now machine.host key vm maps machine.tick).1
    tick := (tickStep now machine.host key vm maps machine.tick).2
    fresh := tickFresh machine.host maps machine.fresh machine.tick
    ticks := machine.tick.completed machine.ticks }

/-- What a tick step does to the journal of the VM: nothing, or one step, which
is in order when the tick keeps the order. -/
def TickSimulated (key : VmKey) (maps : Buff → MapId) (vm : VmT) (now : Nat)
    (machine : Machine ι) : Prop :=
  ∃ vmAfter, (machine.moveTick key maps vm now).host.vms.lookup key = some vmAfter ∧
    (vmAfter.isCollectxInBuff1 = 0 ∨ vmAfter.isCollectxInBuff1 = 1) ∧
    ((machine.moveTick key maps vm now).view key maps vmAfter = machine.view key maps vm ∨
      ∃ label, Journal.Step vmMapMaxEntries u32Succ (machine.view key maps vm) label
          ((machine.moveTick key maps vm now).view key maps vmAfter) ∧
        (HandoverGuard key machine (.tick now) →
          (machine.view key maps vm).Ordered vmMapMaxEntries label))

variable {host : HostState} {cpus : ι → CpuPc} {ticks : Nat} {published : List (Nat × Int)}
  {fresh : Buff → Nat → Bool} {usedStale : Bool}

theorem simulate_openNew (collecting : Collecting key maps vm host) (now : Nat) (old : Buff)
    (countEnd countStart : PhantomCount) :
    TickSimulated key maps vm now
      ⟨host, cpus, .openNew old countEnd countStart, ticks, published, fresh, usedStale⟩ := by
  refine ⟨vm, collecting.found, collecting.flag, Or.inr ⟨.openNew, ?_, ?_⟩⟩
  · have same : (Machine.moveTick key maps vm now
        ⟨host, cpus, .openNew old countEnd countStart, ticks, published, fresh, usedStale⟩).view
          key maps vm =
        (((Machine.view key maps vm ⟨host, cpus, .openNew old countEnd countStart, ticks, published,
          fresh, usedStale⟩).clear old.other).put vmMapMaxEntries old.other 0
            countStart.count).setSwapper (.opened old) := by
      rw [Journal.put_eq]
      exact Journal.ext rfl rfl rfl (slotCounts_putSample_own collecting old.other 0 countStart)
        (markFresh_own collecting old.other 0 _) rfl rfl rfl
    rw [same]
    exact Journal.Step.openNew rfl
  · intro free value side opening member holds
    obtain ⟨rfl, rfl⟩ : countStart.count = value ∧ old = side := by
      cases opening
      exact ⟨rfl, rfl⟩
    have held : (cpus member).holding key old.other = true := holding_of_writerOf holds
    rw [show (cpus member).holding key old.other = false from free member] at held
    cases held

theorem simulate_reset (now : Nat) (flag : vm.isCollectxInBuff1 = 0 ∨ vm.isCollectxInBuff1 = 1)
    (old : Buff) (countEnd : PhantomCount) :
    TickSimulated key maps vm now
      ⟨host, cpus, .reset old countEnd, ticks, published, fresh, usedStale⟩ := by
  refine ⟨_, AList.lookup_insert _, by rwa [VmT.setIndex_isCollectxInBuff1],
    Or.inr ⟨.reset, ?_, fun _ => trivial⟩⟩
  have same : (Machine.moveTick key maps vm now
      ⟨host, cpus, .reset old countEnd, ticks, published, fresh, usedStale⟩).view
        key maps (vm.setIndex old.other 1) =
      (((Machine.view key maps vm ⟨host, cpus, .reset old countEnd, ticks, published, fresh,
        usedStale⟩).clearRest old.other).setIndex old.other 1).setSwapper (.reset old) :=
    Journal.ext (vm.setIndex_phantomCount _ _) (vm.setIndex_active _ _) (vm.index_setIndex _ _)
      rfl rfl rfl rfl rfl
  rw [same]
  exact Journal.Step.reset rfl

theorem simulate_swap (now : Nat) (flag : vm.isCollectxInBuff1 = 0 ∨ vm.isCollectxInBuff1 = 1)
    (old : Buff) (countEnd : PhantomCount) :
    TickSimulated key maps vm now
      ⟨host, cpus, .swap old countEnd, ticks, published, fresh, usedStale⟩ := by
  refine ⟨_, AList.lookup_insert _, swapFrom_flag flag old, Or.inr ⟨.swap, ?_, fun _ => trivial⟩⟩
  have same : (Machine.moveTick key maps vm now
      ⟨host, cpus, .swap old countEnd, ticks, published, fresh, usedStale⟩).view key maps
        (vm.swapFrom old) =
      { Machine.view key maps vm ⟨host, cpus, .swap old countEnd, ticks, published, fresh,
          usedStale⟩ with
        active := if vm.active = old then old.other else vm.active
        swaps := ticks + 1 }.setSwapper (.swapped old) :=
    Journal.ext (swapFrom_phantomCount vm old) (swapFrom_active flag old) (swapFrom_index vm old)
      rfl rfl rfl rfl rfl
  rw [same]
  exact Journal.Step.swap rfl

theorem simulate_reserveEnd (now : Nat) (found : host.vms.lookup key = some vm)
    (flag : vm.isCollectxInBuff1 = 0 ∨ vm.isCollectxInBuff1 = 1) (old : Buff)
    (countEnd : PhantomCount) :
    TickSimulated key maps vm now
      ⟨host, cpus, .reserve old countEnd, ticks, published, fresh, usedStale⟩ := by
  refine ⟨_, AList.lookup_insert _, by rwa [VmT.setIndex_isCollectxInBuff1],
    Or.inr ⟨.reserveEnd, ?_, ?_⟩⟩
  · have same : (Machine.moveTick key maps vm now
        ⟨host, cpus, .reserve old countEnd, ticks, published, fresh, usedStale⟩).view
          key maps (vm.setIndex old (u32Succ (vm.index old))) =
        ((Machine.view key maps vm ⟨host, cpus, .reserve old countEnd, ticks, published, fresh,
          usedStale⟩).setIndex old (u32Succ (vm.index old))).setSwapper
            (.closing old (vm.index old)) :=
      Journal.ext (vm.setIndex_phantomCount _ _) (vm.setIndex_active _ _) (vm.index_setIndex _ _)
        rfl rfl rfl rfl rfl
    rw [same]
    exact Journal.Step.reserveEnd rfl
  · intro room side swapped
    obtain rfl : old = side := by
      cases swapped
      rfl
    simp only [HandoverGuard, found] at room
    exact room

theorem simulate_fillEnd (collecting : Collecting key maps vm host) (now : Nat) (old : Buff)
    (countEnd : PhantomCount) (endIdx : Nat) :
    TickSimulated key maps vm now
      ⟨host, cpus, .writeEnd old countEnd endIdx, ticks, published, fresh, usedStale⟩ := by
  refine ⟨vm, collecting.found, collecting.flag, Or.inr ⟨.fillEnd, ?_, fun _ => trivial⟩⟩
  have same : (Machine.moveTick key maps vm now
      ⟨host, cpus, .writeEnd old countEnd endIdx, ticks, published, fresh, usedStale⟩).view
        key maps vm =
      ((Machine.view key maps vm ⟨host, cpus, .writeEnd old countEnd endIdx, ticks, published,
        fresh, usedStale⟩).put vmMapMaxEntries old endIdx countEnd.count).setSwapper
          (.draining old endIdx) := by
    rw [Journal.put_eq]
    exact Journal.ext rfl rfl rfl (slotCounts_putSample_own collecting old endIdx countEnd)
      (markFresh_own collecting old endIdx _) rfl rfl rfl
  rw [same]
  exact Journal.Step.fillEnd countEnd.count rfl

theorem simulate_fold (collecting : Collecting key maps vm host) (now : Nat) (old : Buff) (k : Nat)
    (ctx : PhantomAvgCtx) :
    TickSimulated key maps vm now
      ⟨host, cpus, .fold old k ctx, ticks, published, fresh, usedStale⟩ := by
  have kept := collecting.found
  by_cases more : k < ctx.nbSamples ∧ k < (host.sampleMaps (maps old)).maxEntries
  · have stepped : tickStep now host key vm maps (.fold old k ctx) =
        (host, .fold old (k + 1) (phantomAvgCb (host.sampleMaps (maps old)) ctx k)) := if_pos more
    refine ⟨vm, ?_, collecting.flag, Or.inl (Journal.ext rfl rfl rfl ?_ rfl rfl ?_ ?_)⟩
    · simpa only [Machine.moveTick, stepped] using kept
    · simp only [Machine.view, Machine.moveTick, stepped]
    · simp only [Machine.view, Machine.moveTick, stepped, swapperOf, phantomAvgCb_nbSamples]
    · simp only [Machine.view, Machine.moveTick, stepped, swapsOf, TickPc.completed]
  · have stepped : tickStep now host key vm maps (.fold old k ctx) =
        (host, .publish ctx.average) := if_neg more
    refine ⟨vm, ?_, collecting.flag, Or.inr ⟨.finish, ?_, fun _ => trivial⟩⟩
    · simpa only [Machine.moveTick, stepped] using kept
    · have same : (Machine.moveTick key maps vm now
          ⟨host, cpus, .fold old k ctx, ticks, published, fresh, usedStale⟩).view key maps vm =
          (Machine.view key maps vm ⟨host, cpus, .fold old k ctx, ticks, published, fresh,
            usedStale⟩).setSwapper .away := by
        refine Journal.ext rfl rfl rfl ?_ rfl rfl ?_ ?_
        · simp only [Machine.view, Machine.moveTick, stepped, Journal.setSwapper]
        · simp only [Machine.view, Machine.moveTick, stepped, Journal.setSwapper, swapperOf]
        · simp only [Machine.view, Machine.moveTick, stepped, Journal.setSwapper, swapsOf,
            TickPc.completed]
      rw [same]
      exact Journal.Step.finish rfl

/-- **Every tick step is a step of the journal or leaves it alone.** -/
theorem simulate_tick {machine : Machine ι} (collecting : Collecting key maps vm machine.host)
    (now : Nat) : TickSimulated key maps vm now machine := by
  obtain ⟨host, cpus, tick, ticks, published, fresh, usedStale⟩ := machine
  have found : host.vms.lookup key = some vm := collecting.found
  have flag := collecting.flag
  cases tick with
  | idle => exact ⟨vm, found, flag, Or.inl rfl⟩
  | loadEnd => exact ⟨vm, found, flag, Or.inl rfl⟩
  | loadStart countEnd => exact ⟨vm, found, flag, Or.inr ⟨.load, .load rfl, fun _ => trivial⟩⟩
  | test countEnd countStart =>
      exact ⟨vm, found, flag, Or.inr ⟨.pick, .pick rfl, fun _ => trivial⟩⟩
  | openNew old countEnd countStart => exact simulate_openNew collecting now old countEnd countStart
  | reset old countEnd => exact simulate_reset now flag old countEnd
  | swap old countEnd => exact simulate_swap now flag old countEnd
  | reserve old countEnd => exact simulate_reserveEnd now found flag old countEnd
  | writeEnd old countEnd endIdx => exact simulate_fillEnd collecting now old countEnd endIdx
  | fold old k ctx => exact simulate_fold collecting now old k ctx
  | publish avg => exact ⟨_, AList.lookup_insert _, flag, Or.inl rfl⟩

end Tick

/-! ## Runs -/

section Runs

variable {ι : Type} {key : VmKey} {maps : Buff → MapId} {machine next : Machine ι}
  {action : Action ι} {holds : Journal ι Buff Int → Prop}

/-- A property of the journal of the VM. -/
def Machine.Viewed (key : VmKey) (maps : Buff → MapId) (holds : Journal ι Buff Int → Prop)
    (machine : Machine ι) : Prop :=
  ∃ vm, Collecting key maps vm machine.host ∧ (∀ cpu, (machine.cpus cpu).Placed machine.host) ∧
    holds (machine.view key maps vm)

theorem Machine.viewed_quiet {vm : VmT} {host : HostState}
    (collecting : Collecting key maps vm host)
    (initially : holds ((Machine.quiet ι host).view key maps vm)) :
    Machine.Viewed key maps holds (Machine.quiet ι host) :=
  ⟨vm, collecting, fun _ => trivial, initially⟩

/-- What every step of the journal preserves, every step of the machine
preserves. -/
theorem Machine.Viewed.step [DecidableEq ι] (viewed : machine.Viewed key maps holds)
    (preserved : ∀ (journal : Journal ι Buff Int) label after, holds journal →
      (HandoverGuard key machine action → journal.Ordered vmMapMaxEntries label) →
      Journal.Step vmMapMaxEntries u32Succ journal label after → holds after)
    (taken : machine.step key action = some next) : next.Viewed key maps holds := by
  obtain ⟨vm, collecting, placed, held⟩ := viewed
  cases action with
  | switch cpu event =>
      obtain ⟨idle, rfl⟩ := Machine.step_switch taken
      refine ⟨vm, collecting, ?_, ?_⟩
      · exact (Function.forall_update_iff machine.cpus fun _ pc => pc.Placed machine.host).mpr
          ⟨trivial, fun other _ => placed other⟩
      · rw [Machine.view_switch idle]
        exact held
  | advance cpu env =>
      obtain ⟨after, pc, step, rfl⟩ := Machine.step_advance taken
      obtain ⟨vmAfter, found, sameFlag, moved⟩ := simulate_cpu collecting (placed cpu) step
      have flag : vmAfter.isCollectxInBuff1 = 0 ∨ vmAfter.isCollectxInBuff1 = 1 := by
        rw [sameFlag]
        exact collecting.flag
      refine ⟨vmAfter, collecting.of_sameShape step.sameShape found flag, ?_, ?_⟩
      · exact (Function.forall_update_iff machine.cpus fun _ other => other.Placed after).mpr
          ⟨step.placed (placed cpu), fun other _ => (placed other).of_sameShape step.sameShape⟩
      · rcases moved with same | ⟨label, journalStep, ordered⟩
        · exact same ▸ held
        · exact preserved _ label _ held (ordered env) journalStep
  | tick now =>
      obtain ⟨current, currentMaps, foundVm, buffered, host, tick, cpus, fresh, _, ticks⟩ :=
        Machine.step_tick taken
      obtain rfl := Option.some.inj (foundVm.symm.trans collecting.found)
      obtain rfl := Option.some.inj (buffered.symm.trans collecting.buffered)
      obtain ⟨vmAfter, found, flag, moved⟩ := simulate_tick collecting now
      have shape := sameShape_tickStep key currentMaps current now machine.host machine.tick
      have same : next.view key currentMaps vmAfter =
          (machine.moveTick key currentMaps current now).view key currentMaps vmAfter := by
        simp only [Machine.view, Machine.moveTick, host, tick, cpus, fresh, ticks]
      rw [← host] at shape
      refine ⟨vmAfter, collecting.of_sameShape shape ?_ flag, fun cpu => ?_, ?_⟩
      · rw [host]
        exact found
      · rw [cpus]
        exact (placed cpu).of_sameShape shape
      · rw [same]
        rcases moved with stutter | ⟨label, journalStep, ordered⟩
        · exact stutter ▸ held
        · exact preserved _ label _ held ordered journalStep

end Runs

end PhantomTracker.Host
