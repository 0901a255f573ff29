import PhantomTracker.Foundation.NewestEntry
import PhantomTracker.Host.Concurrent
import Mathlib.Data.Fintype.Basic

/-!
Contract: the collection buffers of a VM as a double-buffered journal.

Owns: the view of the concurrent machine as a journal of the phantom counter,
whose writers are the handlers of the VM and whose swapper is its tick, and what
the maps have to look like for it.

Does not own: the simulation of machine steps by journal steps, or what holds of
the journal.
-/

namespace PhantomTracker.Host

open PhantomTracker.Foundation

instance : TwoSided Buff where
  other := Buff.other
  other_ne := Buff.other_ne
  eq_other_of_ne := Buff.eq_other_of_ne

/-! ## The view -/

/-- A handler of the VM `key` as a writer. -/
def writerOf (key : VmKey) : CpuPc → Appender Buff Int
  | .update _ vmName (.choose newCount) => if vmName = key then .settled newCount else .away
  | .update _ vmName (.reserve newCount buff) =>
      if vmName = key then .chosen newCount buff else .away
  | .update _ vmName (.write newCount buff _ idx) =>
      if vmName = key then .reserved newCount buff idx else .away
  | _ => .away

/-- A tick as a swapper. -/
def swapperOf : TickPc → Swapper Buff Int
  | .test _ countStart => .loaded countStart.count
  | .openNew old _ countStart => .opening countStart.count old
  | .reset old _ => .opened old
  | .swap old _ => .reset old
  | .reserve old _ => .swapped old
  | .writeEnd old _ endIdx => .closing old endIdx
  | .fold old _ ctx => .draining old ctx.nbSamples
  | _ => .away

/-- The swaps made by the completed ticks and the one in progress. -/
def swapsOf (ticks : Nat) : TickPc → Nat
  | .reserve _ _ => ticks + 1
  | .writeEnd _ _ _ => ticks + 1
  | .fold _ _ _ => ticks + 1
  | .publish _ => ticks + 1
  | _ => ticks

/-- The counts in the slots of the two buffers. -/
def slotCounts (host : HostState) (maps : Buff → MapId) (buff : Buff) (idx : Nat) : Int :=
  ((host.sampleMaps (maps buff)).slot idx).count

variable {ι : Type}

def Machine.view (key : VmKey) (maps : Buff → MapId) (vm : VmT) (machine : Machine ι) :
    Journal ι Buff Int where
  value := vm.phantomCount
  active := vm.active
  index := vm.index
  slot := slotCounts machine.host maps
  fresh := machine.fresh
  writers cpu := writerOf key (machine.cpus cpu)
  swapper := swapperOf machine.tick
  swaps := swapsOf machine.ticks machine.tick

/-! ## What the maps look like -/

/-- The VM is registered with two buffers of its own, as `register_vm` and
`setup_vm_maps` leave it. -/
structure Collecting (key : VmKey) (maps : Buff → MapId) (vm : VmT) (host : HostState) : Prop where
  found : host.vms.lookup key = some vm
  buffered : buffers host key = some maps
  apart : ∀ buff, maps buff.other ≠ maps buff
  capacity : ∀ buff, (host.sampleMaps (maps buff)).maxEntries = vmMapMaxEntries
  flag : vm.isCollectxInBuff1 = 0 ∨ vm.isCollectxInBuff1 = 1
  foreign : ∀ tid vcpu buff map, host.vcpus.lookup tid = some vcpu → vcpu.vmName ≠ key →
    host.mapRegistry.lookup (collectionBuff buff vcpu.vmName) = some map →
    ∀ own, map ≠ maps own

/-- A handler in progress has looked its VM and its buffer up. -/
def CpuPc.Placed (host : HostState) : CpuPc → Prop
  | .update _ vmName pc =>
      (∃ tid vcpu, host.vcpus.lookup tid = some vcpu ∧ vcpu.vmName = vmName) ∧
        match pc with
        | .write _ buff map _ => host.mapRegistry.lookup (collectionBuff buff vmName) = some map
        | _ => True
  | _ => True

/-- What no step of a handler or a tick changes. -/
structure SameShape (before after : HostState) : Prop where
  registry : after.mapRegistry = before.mapRegistry
  names : ∀ tid, (after.vcpus.lookup tid).map VcpuT.vmName =
    (before.vcpus.lookup tid).map VcpuT.vmName
  capacity : ∀ map, (after.sampleMaps map).maxEntries = (before.sampleMaps map).maxEntries

theorem SameShape.refl (host : HostState) : SameShape host host :=
  ⟨rfl, fun _ => rfl, fun _ => rfl⟩

theorem sameShape_setVm (host : HostState) (vmName : VmKey) (vm : VmT) :
    SameShape host (host.setVm vmName vm) :=
  ⟨rfl, fun _ => rfl, fun _ => rfl⟩

theorem sameShape_setFlag {host : HostState} {tid : Tid} {vcpu : VcpuT}
    (found : host.vcpus.lookup tid = some vcpu) (value : Nat) :
    SameShape host (host.setFlag tid vcpu value) where
  registry := rfl
  names other := by
    show ((host.vcpus.insert tid { vcpu with isPhantom := value }).lookup other).map _ = _
    by_cases same : other = tid
    · subst same
      rw [AList.lookup_insert, found]
      rfl
    · rw [AList.lookup_insert_ne same]
  capacity _ := rfl

theorem sameShape_putSample (host : HostState) (map : MapId) (idx : Nat) (sample : PhantomCount) :
    SameShape host (host.putSample map idx sample) where
  registry := rfl
  names _ := rfl
  capacity := SampleMap.update_maxEntries host.sampleMaps map idx sample

theorem SameShape.lookup_name {before after : HostState} (same : SameShape before after) {tid : Tid}
    {vcpu : VcpuT} (found : after.vcpus.lookup tid = some vcpu) :
    ∃ earlier, before.vcpus.lookup tid = some earlier ∧ earlier.vmName = vcpu.vmName := by
  have names := same.names tid
  rw [found] at names
  exact Option.map_eq_some_iff.mp names.symm

theorem SameShape.lookup_name' {before after : HostState} (same : SameShape before after) {tid : Tid}
    {vcpu : VcpuT} (found : before.vcpus.lookup tid = some vcpu) :
    ∃ later, after.vcpus.lookup tid = some later ∧ later.vmName = vcpu.vmName := by
  have names := same.names tid
  rw [found] at names
  exact Option.map_eq_some_iff.mp names

theorem CpuPc.Placed.of_sameShape {before after : HostState} (same : SameShape before after)
    {pc : CpuPc} (placed : pc.Placed before) : pc.Placed after := by
  cases pc with
  | update locals vmName update =>
      obtain ⟨⟨tid, vcpu, present, rfl⟩, registered⟩ := placed
      obtain ⟨later, laterPresent, sameName⟩ := same.lookup_name' present
      refine ⟨⟨tid, later, laterPresent, sameName⟩, ?_⟩
      rw [same.registry]
      exact registered
  | _ => trivial

theorem Collecting.of_sameShape {key : VmKey} {maps : Buff → MapId} {vm vmAfter : VmT}
    {before after : HostState} (collecting : Collecting key maps vm before)
    (same : SameShape before after) (found : after.vms.lookup key = some vmAfter)
    (flag : vmAfter.isCollectxInBuff1 = 0 ∨ vmAfter.isCollectxInBuff1 = 1) :
    Collecting key maps vmAfter after where
  found := found
  buffered := by
    unfold buffers
    rw [same.registry]
    exact collecting.buffered
  apart := collecting.apart
  capacity buff := (same.capacity (maps buff)).trans (collecting.capacity buff)
  flag := flag
  foreign tid vcpu buff map present different registered := by
    obtain ⟨earlier, earlierPresent, sameName⟩ := same.lookup_name present
    rw [same.registry] at registered
    exact collecting.foreign tid earlier buff map earlierPresent (sameName ▸ different)
      (sameName ▸ registered)

/-! ## The order of handlers and ticks -/

/-- The step from here fixes the count that the handler will append. -/
def UpdatePc.settles (half : Half) (vm : VmT) : UpdatePc → Bool
  | .load _ => half.clamps vm vm.phantomCount
  | .swap _ old => vm.phantomCount = old
  | .reload => true
  | _ => false

/-- The handler has its count and has not reserved a slot for it. -/
def CpuPc.appending (key : VmKey) : CpuPc → Bool
  | .update _ vmName (.choose _) => vmName = key
  | .update _ vmName (.reserve _ _) => vmName = key
  | _ => false

/-- The handler has chosen the buffer and not written to it. -/
def CpuPc.holding (key : VmKey) (buff : Buff) : CpuPc → Bool
  | .update _ vmName (.reserve _ chosen) => vmName = key ∧ chosen = buff
  | .update _ vmName (.write _ chosen _ _) => vmName = key ∧ chosen = buff
  | _ => false

/-- The tick has loaded the count for its start sample and not yet swapped. -/
def TickPc.handingOver : TickPc → Bool
  | .test _ _ => true
  | .openNew _ _ _ => true
  | .reset _ _ => true
  | .swap _ _ => true
  | _ => false

/-- A step of a handler of the VM that keeps the order. -/
def UpdatePc.InOrder (key : VmKey) (machine : Machine ι) (half : Half) (vm : VmT)
    (pc : UpdatePc) : Prop :=
  (pc.settles half vm = true →
    (∀ other, (machine.cpus other).appending key = false) ∧ machine.tick.handingOver = false) ∧
  match pc with
  | .reserve _ buff => vm.index buff < vmMapMaxEntries
  | _ => True

/-- **The order under which no transition is lost.** A handler fixes its count
only while no other handler of the VM is between fixing its count and reserving
its slot, and the tick is not between loading its start sample and its swap. The
tick opens a buffer only when no handler that has chosen it is still to write.
No slot past the capacity is reserved. -/
def HandoverGuard (key : VmKey) (machine : Machine ι) : Action ι → Prop
  | .switch _ _ => True
  | .advance cpu _ =>
      match machine.cpus cpu, machine.host.vms.lookup key with
      | .update locals vmName pc, some vm => vmName = key → pc.InOrder key machine locals.half vm
      | _, _ => True
  | .tick _ =>
      match machine.tick, machine.host.vms.lookup key with
      | .openNew old _ _, _ => ∀ cpu, (machine.cpus cpu).holding key old.other = false
      | .reserve old _, some vm => vm.index old < vmMapMaxEntries
      | _, _ => True

instance [Fintype ι] (key : VmKey) (machine : Machine ι) (half : Half) (vm : VmT) (pc : UpdatePc) :
    Decidable (pc.InOrder key machine half vm) := by
  unfold UpdatePc.InOrder
  cases pc <;> infer_instance

instance [Fintype ι] (key : VmKey) (machine : Machine ι) (action : Action ι) :
    Decidable (HandoverGuard key machine action) := by
  cases action with
  | switch cpu event => exact isTrue trivial
  | advance cpu env =>
      unfold HandoverGuard
      dsimp only
      split <;> infer_instance
  | tick now =>
      unfold HandoverGuard
      dsimp only
      split <;> infer_instance

theorem HandoverGuard.inOrder {key : VmKey} {machine : Machine ι} {cpu : ι} {env : Env}
    (guarded : HandoverGuard key machine (.advance cpu env)) {locals : Locals} {pc : UpdatePc}
    {vm : VmT} (phase : machine.cpus cpu = .update locals key pc)
    (found : machine.host.vms.lookup key = some vm) : pc.InOrder key machine locals.half vm := by
  simp only [HandoverGuard, phase, found] at guarded
  exact guarded trivial

section Phases

variable {key : VmKey} {pc : CpuPc}

theorem appending_of_writerOf {value : Int} (appends : (writerOf key pc).Appending value) :
    pc.appending key = true := by
  cases pc with
  | idle => rcases appends with settled | ⟨_, chosen⟩ <;> simp_all [writerOf]
  | enter locals => rcases appends with settled | ⟨_, chosen⟩ <;> simp_all [writerOf]
  | update locals vmName update =>
      by_cases own : vmName = key
      · subst own
        cases update <;> rcases appends with settled | ⟨_, chosen⟩ <;>
          simp_all [writerOf, CpuPc.appending]
      · cases update <;> rcases appends with settled | ⟨_, chosen⟩ <;> simp_all [writerOf]

theorem holding_of_writerOf {buff : Buff} (holds : (writerOf key pc).Holds buff) :
    pc.holding key buff = true := by
  cases pc with
  | idle => rcases holds with ⟨_, chosen⟩ | ⟨_, _, reserved⟩ <;> simp_all [writerOf]
  | enter locals => rcases holds with ⟨_, chosen⟩ | ⟨_, _, reserved⟩ <;> simp_all [writerOf]
  | update locals vmName update =>
      by_cases own : vmName = key
      · subst own
        cases update <;> rcases holds with ⟨_, chosen⟩ | ⟨_, _, reserved⟩ <;>
          simp_all [writerOf, CpuPc.holding]
      · cases update <;> rcases holds with ⟨_, chosen⟩ | ⟨_, _, reserved⟩ <;> simp_all [writerOf]

theorem handingOver_of_swapperOf {pc : TickPc} (handing : Journal.HandingOver (swapperOf pc)) :
    pc.handingOver = true := by
  cases pc <;> first | rfl | cases handing

theorem writerOf_foreign {locals : Locals} {vmName : VmKey} (foreign : vmName ≠ key)
    (update : UpdatePc) : writerOf key (.update locals vmName update) = .away := by
  cases update <;> simp [writerOf, foreign]

@[simp] theorem writerOf_finish (locals : Locals) : writerOf key locals.finish = .away := by
  unfold Locals.finish
  split <;> rfl

end Phases

end PhantomTracker.Host
