import PhantomTracker.Host.SwitchHandler
import PhantomTracker.Host.Timer

/-!
Contract: switch handlers on several CPUs and the ticks of one VM, interleaved
at the granularity of their atomic steps.

Owns: the program counter of `phantom_switch_handler` with the retry loops of
`atomic_dec_if_pos` and `atomic_inc_if_lt_ceil`, the program counter of
`callback_fn`, the machine in which an arbitrary family of CPUs and the timer
take turns, and the case analysis of a CPU step.

Does not own: registration and cleanup, which do not run here, so map entries
are neither created nor deleted and the lookups of a step are part of it.

Besides the state of the code the machine keeps a history of the timer's VM:
the completed ticks, the slots of each buffer written since the timer last
reset its index, and whether an average has used a slot that was not.
-/

namespace PhantomTracker.Host

open PhantomTracker.Foundation

/-! ## One handler -/

/-- The bound on the attempts of the two update functions. -/
def maxAttempts : Nat := 24

namespace Half

/-- The bound test of the update function: the counter is returned as it is. -/
def clamps (half : Half) (vm : VmT) (old : Int) : Bool :=
  match half with
  | incoming => old ≤ 0
  | outgoing => old ≥ vm.nbVcpus

/-- The value the update function tries to store. -/
def bump (half : Half) (old : Int) : Int :=
  match half with
  | incoming => old - 1
  | outgoing => old + 1

theorem newCount_eq (half : Half) (vm : VmT) :
    half.newCount vm =
      if half.clamps vm vm.phantomCount then vm.phantomCount else half.bump vm.phantomCount := by
  cases half <;> simp [newCount, clamps, bump, atomicDecIfPos, atomicIncIfLtCeil]

end Half

/-- The locals of a handler that both halves share. -/
structure Locals where
  event : SchedSwitch
  half : Half
  prevState : Nat
deriving DecidableEq, Repr

namespace Locals

/-- The thread the half is about. -/
def subject (locals : Locals) : Tid :=
  match locals.half with
  | .incoming => locals.event.nextPid
  | .outgoing => locals.event.prevPid

/-- The assignment to `prev_state`, which only the incoming half makes. -/
def loadPrevState (locals : Locals) : Locals :=
  match locals.half with
  | .incoming => { locals with prevState := locals.event.prevState }
  | .outgoing => locals

/-- The test of `prev_state`, which only the outgoing half makes. -/
def eligible (locals : Locals) : Bool :=
  match locals.half with
  | .incoming => true
  | .outgoing => locals.prevState = taskRunning ∨ locals.prevState = taskWaking

end Locals

/-- Where a half stands once its flag is flipped: in the retry loop, past the
loop's last attempt, or on the way to appending its sample. -/
inductive UpdatePc where
  | load (attempt : Nat)
  | swap (attempt : Nat) (old : Int)
  | reload
  | choose (newCount : Int)
  | reserve (newCount : Int) (buff : Buff)
  | write (newCount : Int) (buff : Buff) (map : MapId) (idx : Nat)
deriving DecidableEq, Repr

/-- Where a CPU stands in `phantom_switch_handler`. -/
inductive CpuPc where
  | idle
  | enter (locals : Locals)
  | update (locals : Locals) (vmName : VmKey) (pc : UpdatePc)
deriving DecidableEq

/-- The outgoing half follows the incoming one, and the handler returns after
it. -/
def Locals.finish (locals : Locals) : CpuPc :=
  match locals.half with
  | .incoming => .enter { locals with half := .outgoing }
  | .outgoing => .idle

def CpuPc.event : CpuPc → Option SchedSwitch
  | .idle => none
  | .enter locals => some locals.event
  | .update locals _ _ => some locals.event

/-- What a step reads from outside the maps: the guest-to-host page and the
clock. -/
structure Env where
  g2hRead : Nat → Option Nat
  now : Nat

def Env.msg (env : Env) (vcpu : VcpuT) : Nat :=
  (env.g2hRead vcpu.vcpuIndex).getD 0

namespace HostState

def setFlag (host : HostState) (tid : Tid) (vcpu : VcpuT) (value : Nat) : HostState :=
  { host with vcpus := host.vcpus.insert tid { vcpu with isPhantom := value } }

def setVm (host : HostState) (vmName : VmKey) (vm : VmT) : HostState :=
  { host with vms := host.vms.insert vmName vm }

def putSample (host : HostState) (map : MapId) (idx : Nat) (sample : PhantomCount) : HostState :=
  { host with
    sampleMaps := Function.update host.sampleMaps map
      ((host.sampleMaps map).updateElem idx sample) }

end HostState

/-- The lookup of the vCPU and the compare-and-swap on `is_phantom`. -/
def enterStep (env : Env) (host : HostState) (locals : Locals) : HostState × CpuPc :=
  match host.vcpus.lookup locals.subject with
  | none => (host, locals.finish)
  | some vcpu =>
      let locals := locals.loadPrevState
      if env.msg vcpu = 1 ∧ locals.eligible = true ∧ vcpu.isPhantom = locals.half.expected then
        let flagged := host.setFlag locals.subject vcpu locals.half.desired
        if (host.vms.lookup vcpu.vmName).isSome then
          (flagged, .update locals vcpu.vmName (.load 0))
        else (flagged, locals.finish)
      else (host, locals.finish)

/-- The steps from the counter update to the sample write, with `vm` found
under `vmName`. -/
def updateStep (env : Env) (host : HostState) (locals : Locals) (vmName : VmKey) (vm : VmT) :
    UpdatePc → HostState × CpuPc
  | .load attempt =>
      if locals.half.clamps vm vm.phantomCount then
        (host, .update locals vmName (.choose vm.phantomCount))
      else (host, .update locals vmName (.swap attempt vm.phantomCount))
  | .swap attempt old =>
      if vm.phantomCount = old then
        (host.setVm vmName (vm.setCount (locals.half.bump old)),
          .update locals vmName (.choose (locals.half.bump old)))
      else if attempt + 1 < maxAttempts then
        (host, .update locals vmName (.load (attempt + 1)))
      else (host, .update locals vmName .reload)
  | .reload => (host, .update locals vmName (.choose vm.phantomCount))
  | .choose newCount => (host, .update locals vmName (.reserve newCount vm.active))
  | .reserve newCount buff =>
      match host.mapRegistry.lookup (collectionBuff buff vmName) with
      | none => (host, locals.finish)
      | some map =>
          (host.setVm vmName (vm.setIndex buff (u32Succ (vm.index buff))),
            .update locals vmName (.write newCount buff map (vm.index buff)))
  | .write newCount _ map idx =>
      (host.putSample map idx ⟨newCount, env.now⟩, locals.finish)

def cpuStep (env : Env) (host : HostState) : CpuPc → Option (HostState × CpuPc)
  | .idle => none
  | .enter locals => some (enterStep env host locals)
  | .update locals vmName pc =>
      (host.vms.lookup vmName).map fun vm => updateStep env host locals vmName vm pc

/-! ## What a CPU step can do -/

@[simp] theorem Locals.loadPrevState_event (locals : Locals) :
    locals.loadPrevState.event = locals.event := by
  unfold Locals.loadPrevState
  split <;> rfl

@[simp] theorem Locals.loadPrevState_half (locals : Locals) :
    locals.loadPrevState.half = locals.half := by
  unfold Locals.loadPrevState
  split <;> rfl

@[simp] theorem Locals.loadPrevState_subject (locals : Locals) :
    locals.loadPrevState.subject = locals.subject := by
  simp [Locals.subject]

/-- The transitions of a CPU, one constructor for each outcome of an atomic
step. -/
inductive CpuStep (host : HostState) : CpuPc → HostState → CpuPc → Prop where
  | skip (locals after : Locals) (event : after.event = locals.event)
      (half : after.half = locals.half) : CpuStep host (.enter locals) host after.finish
  | flip {locals after : Locals} {vcpu : VcpuT} {vm : VmT} (event : after.event = locals.event)
      (half : after.half = locals.half)
      (found : host.vcpus.lookup locals.subject = some vcpu)
      (flag : vcpu.isPhantom = locals.half.expected)
      (foundVm : host.vms.lookup vcpu.vmName = some vm) :
      CpuStep host (.enter locals) (host.setFlag locals.subject vcpu locals.half.desired)
        (.update after vcpu.vmName (.load 0))
  | flipAlone {locals after : Locals} {vcpu : VcpuT} (event : after.event = locals.event)
      (half : after.half = locals.half)
      (found : host.vcpus.lookup locals.subject = some vcpu)
      (flag : vcpu.isPhantom = locals.half.expected)
      (absent : host.vms.lookup vcpu.vmName = none) :
      CpuStep host (.enter locals) (host.setFlag locals.subject vcpu locals.half.desired)
        after.finish
  | clamp {locals : Locals} {vmName : VmKey} {vm : VmT} (attempt : Nat)
      (found : host.vms.lookup vmName = some vm)
      (clamps : locals.half.clamps vm vm.phantomCount = true) :
      CpuStep host (.update locals vmName (.load attempt)) host
        (.update locals vmName (.choose vm.phantomCount))
  | load {locals : Locals} {vmName : VmKey} {vm : VmT} (attempt : Nat)
      (found : host.vms.lookup vmName = some vm)
      (passes : locals.half.clamps vm vm.phantomCount = false) :
      CpuStep host (.update locals vmName (.load attempt)) host
        (.update locals vmName (.swap attempt vm.phantomCount))
  | swap {locals : Locals} {vmName : VmKey} {vm : VmT} (attempt : Nat)
      (found : host.vms.lookup vmName = some vm) :
      CpuStep host (.update locals vmName (.swap attempt vm.phantomCount))
        (host.setVm vmName (vm.setCount (locals.half.bump vm.phantomCount)))
        (.update locals vmName (.choose (locals.half.bump vm.phantomCount)))
  | retry {locals : Locals} {vmName : VmKey} {vm : VmT} {attempt : Nat} {old : Int}
      (found : host.vms.lookup vmName = some vm) (moved : vm.phantomCount ≠ old)
      (below : attempt + 1 < maxAttempts) :
      CpuStep host (.update locals vmName (.swap attempt old)) host
        (.update locals vmName (.load (attempt + 1)))
  | exhaust {locals : Locals} {vmName : VmKey} {vm : VmT} {attempt : Nat} {old : Int}
      (found : host.vms.lookup vmName = some vm) (moved : vm.phantomCount ≠ old)
      (last : ¬ attempt + 1 < maxAttempts) :
      CpuStep host (.update locals vmName (.swap attempt old)) host
        (.update locals vmName .reload)
  | reload {locals : Locals} {vmName : VmKey} {vm : VmT}
      (found : host.vms.lookup vmName = some vm) :
      CpuStep host (.update locals vmName .reload) host
        (.update locals vmName (.choose vm.phantomCount))
  | choose {locals : Locals} {vmName : VmKey} {vm : VmT} (newCount : Int)
      (found : host.vms.lookup vmName = some vm) :
      CpuStep host (.update locals vmName (.choose newCount)) host
        (.update locals vmName (.reserve newCount vm.active))
  | unbuffered {locals : Locals} {vmName : VmKey} (newCount : Int) {buff : Buff}
      (absent : host.mapRegistry.lookup (collectionBuff buff vmName) = none) :
      CpuStep host (.update locals vmName (.reserve newCount buff)) host locals.finish
  | reserve {locals : Locals} {vmName : VmKey} {vm : VmT} (newCount : Int) {buff : Buff}
      {map : MapId} (found : host.vms.lookup vmName = some vm)
      (buffered : host.mapRegistry.lookup (collectionBuff buff vmName) = some map) :
      CpuStep host (.update locals vmName (.reserve newCount buff))
        (host.setVm vmName (vm.setIndex buff (u32Succ (vm.index buff))))
        (.update locals vmName (.write newCount buff map (vm.index buff)))
  | write (locals : Locals) (vmName : VmKey) (newCount : Int) (buff : Buff) (map : MapId)
      (idx now : Nat) :
      CpuStep host (.update locals vmName (.write newCount buff map idx))
        (host.putSample map idx ⟨newCount, now⟩) locals.finish

theorem enterStep_cases (env : Env) (host : HostState) (locals : Locals) :
    CpuStep host (.enter locals) (enterStep env host locals).1 (enterStep env host locals).2 := by
  unfold enterStep
  cases found : host.vcpus.lookup locals.subject with
  | none => exact .skip locals locals rfl rfl
  | some vcpu =>
      simp only [Locals.loadPrevState_half, Locals.loadPrevState_subject]
      by_cases fires : env.msg vcpu = 1 ∧ locals.loadPrevState.eligible = true ∧
          vcpu.isPhantom = locals.half.expected
      · rw [if_pos fires]
        cases foundVm : host.vms.lookup vcpu.vmName with
        | none =>
            exact .flipAlone locals.loadPrevState_event locals.loadPrevState_half found
              fires.2.2 foundVm
        | some vm =>
            exact .flip locals.loadPrevState_event locals.loadPrevState_half found
              fires.2.2 foundVm
      · rw [if_neg fires]
        exact .skip locals _ locals.loadPrevState_event locals.loadPrevState_half

theorem updateStep_cases (env : Env) {host : HostState} (locals : Locals) {vmName : VmKey}
    {vm : VmT} (found : host.vms.lookup vmName = some vm) (pc : UpdatePc) :
    CpuStep host (.update locals vmName pc) (updateStep env host locals vmName vm pc).1
      (updateStep env host locals vmName vm pc).2 := by
  cases pc with
  | load attempt =>
      cases clamps : locals.half.clamps vm vm.phantomCount with
      | true =>
          simp only [updateStep, clamps, if_true]
          exact .clamp attempt found clamps
      | false =>
          simp only [updateStep, clamps, Bool.false_eq_true, if_false]
          exact .load attempt found clamps
  | swap attempt old =>
      by_cases same : vm.phantomCount = old
      · subst same
        simp only [updateStep, if_true]
        exact .swap attempt found
      · by_cases below : attempt + 1 < maxAttempts
        · simp only [updateStep, if_neg same, if_pos below]
          exact .retry found same below
        · simp only [updateStep, if_neg same, if_neg below]
          exact .exhaust found same below
  | reload => exact .reload found
  | choose newCount => exact .choose newCount found
  | reserve newCount buff =>
      cases buffered : host.mapRegistry.lookup (collectionBuff buff vmName) with
      | none =>
          simp only [updateStep, buffered]
          exact .unbuffered newCount buffered
      | some map =>
          simp only [updateStep, buffered]
          exact .reserve newCount found buffered
  | write newCount buff map idx => exact .write locals vmName newCount buff map idx env.now

/-- Every step of a CPU is one of the transitions. -/
theorem cpuStep_cases {env : Env} {host hostAfter : HostState} {pc pcAfter : CpuPc}
    (taken : cpuStep env host pc = some (hostAfter, pcAfter)) :
    CpuStep host pc hostAfter pcAfter := by
  cases pc with
  | idle => cases taken
  | enter locals =>
      have cases := enterStep_cases env host locals
      rw [Option.some.inj taken] at cases
      exact cases
  | update locals vmName pc =>
      obtain ⟨vm, found, result⟩ := Option.map_eq_some_iff.mp taken
      have cases := updateStep_cases env locals found pc
      rw [result] at cases
      exact cases

/-! ## One tick -/

/-- Where the timer stands in `callback_fn`. `old` is the buffer that was
active when the tick tested the flag. -/
inductive TickPc where
  | idle
  | loadEnd
  | loadStart (countEnd : PhantomCount)
  | test (countEnd countStart : PhantomCount)
  | openNew (old : Buff) (countEnd countStart : PhantomCount)
  | reset (old : Buff) (countEnd : PhantomCount)
  | swap (old : Buff) (countEnd : PhantomCount)
  | reserve (old : Buff) (countEnd : PhantomCount)
  | writeEnd (old : Buff) (countEnd : PhantomCount) (endIdx : Nat)
  | fold (old : Buff) (k : Nat) (ctx : PhantomAvgCtx)
  | publish (avg : Int)
deriving DecidableEq

/-- The average from the accumulated context. -/
def PhantomAvgCtx.average (ctx : PhantomAvgCtx) : Int :=
  if ctx.totalTime > 0 then s64 ((ctx.sum % 2 ^ 64).toNat / ctx.totalTime : Nat) else 0

/-- The compare-and-swap on `is_collectx_in_buff_1` of the branch for `old`. -/
def VmT.swapFrom (vm : VmT) (old : Buff) : VmT :=
  match old with
  | .one => if vm.isCollectxInBuff1 = 1 then { vm with isCollectxInBuff1 := 0 } else vm
  | .two => if vm.isCollectxInBuff1 = 0 then { vm with isCollectxInBuff1 := 1 } else vm

theorem swapFrom_phantomCount (vm : VmT) (old : Buff) :
    (vm.swapFrom old).phantomCount = vm.phantomCount := by
  cases old <;> (simp only [VmT.swapFrom]; split <;> rfl)

/-- One step of `callback_fn` for the VM `vm` under `key`, whose buffers are
the maps `maps`. Callbacks of the fold at or past `nb_samples` return at once,
so the fold ends there. -/
def tickStep (now : Nat) (host : HostState) (key : VmKey) (vm : VmT) (maps : Buff → MapId) :
    TickPc → HostState × TickPc
  | .idle => (host, .loadEnd)
  | .loadEnd => (host, .loadStart ⟨vm.phantomCount, now⟩)
  | .loadStart countEnd => (host, .test countEnd ⟨vm.phantomCount, now⟩)
  | .test countEnd countStart => (host, .openNew vm.active countEnd countStart)
  | .openNew old countEnd countStart =>
      (host.putSample (maps old.other) 0 countStart, .reset old countEnd)
  | .reset old countEnd =>
      (host.setVm key (vm.setIndex old.other 1), .swap old countEnd)
  | .swap old countEnd =>
      (host.setVm key (vm.swapFrom old), .reserve old countEnd)
  | .reserve old countEnd =>
      (host.setVm key (vm.setIndex old (u32Succ (vm.index old))),
        .writeEnd old countEnd (vm.index old))
  | .writeEnd old countEnd endIdx =>
      (host.putSample (maps old) endIdx countEnd, .fold old 0 ⟨0, 0, endIdx⟩)
  | .fold old k ctx =>
      if k < ctx.nbSamples ∧ k < (host.sampleMaps (maps old)).maxEntries then
        (host, .fold old (k + 1) (phantomAvgCb (host.sampleMaps (maps old)) ctx k))
      else (host, .publish ctx.average)
  | .publish _ => (host.setVm key (nextHistorySlot vm).2, .idle)

/-! ## The machine -/

structure Machine (ι : Type) where
  host : HostState
  cpus : ι → CpuPc
  tick : TickPc
  ticks : Nat
  published : List (Nat × Int)
  fresh : Buff → Nat → Bool
  usedStale : Bool

inductive Action (ι : Type) where
  | switch (cpu : ι) (event : SchedSwitch)
  | advance (cpu : ι) (env : Env)
  | tick (now : Nat)

section Machine

variable {ι : Type} [DecidableEq ι]

/-- Both collection maps of the VM, as `callback_fn` looks them up. -/
def buffers (host : HostState) (key : VmKey) : Option (Buff → MapId) :=
  match host.mapRegistry.lookup (collectionBuff .one key),
      host.mapRegistry.lookup (collectionBuff .two key) with
  | some first, some second => some fun
      | .one => first
      | .two => second
  | _, _ => none

theorem buffers_lookup {host : HostState} {key : VmKey} {maps : Buff → MapId}
    (buffered : buffers host key = some maps) (buff : Buff) :
    host.mapRegistry.lookup (collectionBuff buff key) = some (maps buff) := by
  unfold buffers at buffered
  split at buffered
  case h_1 first second foundFirst foundSecond =>
      obtain rfl := Option.some.inj buffered
      cases buff
      · exact foundFirst
      · exact foundSecond
  case h_2 => cases buffered

/-- Record that a slot below the capacity has been written. -/
def markFresh (host : HostState) (map : MapId) (buff : Buff) (idx : Nat)
    (fresh : Buff → Nat → Bool) : Buff → Nat → Bool :=
  if idx < (host.sampleMaps map).maxEntries then
    Function.update fresh buff (Function.update (fresh buff) idx true)
  else fresh

/-- The slot history after a CPU step from `pc`. -/
def cpuFresh (key : VmKey) (host : HostState) (fresh : Buff → Nat → Bool) :
    CpuPc → Buff → Nat → Bool
  | .update _ vmName (.write _ buff map idx) =>
      if vmName = key then markFresh host map buff idx fresh else fresh
  | _ => fresh

/-- The slot history after a tick step from `pc`. Resetting the index forgets
what has been written to the buffer, except for the start sample that this tick
has put in slot 0 just before. -/
def tickFresh (host : HostState) (maps : Buff → MapId) (fresh : Buff → Nat → Bool) :
    TickPc → Buff → Nat → Bool
  | .openNew old _ _ =>
      markFresh host (maps old.other) old.other 0
        (Function.update fresh old.other fun _ => false)
  | .reset old _ =>
      Function.update fresh old.other fun idx => decide (idx = 0) && fresh old.other idx
  | .writeEnd old _ endIdx => markFresh host (maps old) old endIdx fresh
  | _ => fresh

/-- The next callback of the fold uses slots `k` and `k + 1`, and one of them
has not been written since the index of its buffer was reset. -/
def usesStale (host : HostState) (maps : Buff → MapId) (fresh : Buff → Nat → Bool) :
    TickPc → Bool
  | .fold old k ctx =>
      decide (k < ctx.nbSamples ∧ k + 1 < (host.sampleMaps (maps old)).maxEntries) &&
        !(fresh old k && fresh old (k + 1))
  | _ => false

/-- The completed ticks after a tick step from `pc`. -/
def TickPc.completed (ticks : Nat) : TickPc → Nat
  | .publish _ => ticks + 1
  | _ => ticks

def Machine.step (key : VmKey) (machine : Machine ι) : Action ι → Option (Machine ι)
  | .switch cpu event =>
      match machine.cpus cpu with
      | .idle => some { machine with
          cpus := Function.update machine.cpus cpu (.enter ⟨event, .incoming, 0⟩) }
      | _ => none
  | .advance cpu env =>
      (cpuStep env machine.host (machine.cpus cpu)).map fun next =>
        { machine with
          host := next.1
          cpus := Function.update machine.cpus cpu next.2
          fresh := cpuFresh key machine.host machine.fresh (machine.cpus cpu) }
  | .tick now =>
      match machine.host.vms.lookup key, buffers machine.host key with
      | some vm, some maps =>
          let next := tickStep now machine.host key vm maps machine.tick
          some { machine with
            host := next.1
            tick := next.2
            fresh := tickFresh machine.host maps machine.fresh machine.tick
            usedStale := machine.usedStale ||
              (decide (2 ≤ machine.ticks) &&
                usesStale machine.host maps machine.fresh machine.tick)
            ticks := machine.tick.completed machine.ticks
            published := match machine.tick with
              | .publish avg => ((nextHistorySlot vm).1, avg) :: machine.published
              | _ => machine.published }
      | _, _ => none

variable {key : VmKey} {machine next : Machine ι}

theorem Machine.step_switch {cpu : ι} {event : SchedSwitch}
    (taken : machine.step key (.switch cpu event) = some next) :
    machine.cpus cpu = .idle ∧
      next = { machine with
        cpus := Function.update machine.cpus cpu (.enter ⟨event, .incoming, 0⟩) } := by
  simp only [Machine.step] at taken
  split at taken
  case h_1 idle => exact ⟨idle, (Option.some.inj taken).symm⟩
  case h_2 => cases taken

theorem Machine.step_advance {cpu : ι} {env : Env}
    (taken : machine.step key (.advance cpu env) = some next) :
    ∃ after pc, CpuStep machine.host (machine.cpus cpu) after pc ∧
      next = { machine with
        host := after
        cpus := Function.update machine.cpus cpu pc
        fresh := cpuFresh key machine.host machine.fresh (machine.cpus cpu) } := by
  obtain ⟨⟨after, pc⟩, stepped, rfl⟩ := Option.map_eq_some_iff.mp taken
  exact ⟨after, pc, cpuStep_cases stepped, rfl⟩

theorem Machine.step_tick {now : Nat}
    (taken : machine.step key (.tick now) = some next) :
    ∃ vm maps, machine.host.vms.lookup key = some vm ∧ buffers machine.host key = some maps ∧
      next.host = (tickStep now machine.host key vm maps machine.tick).1 ∧
      next.tick = (tickStep now machine.host key vm maps machine.tick).2 ∧
      next.cpus = machine.cpus ∧
      next.fresh = tickFresh machine.host maps machine.fresh machine.tick ∧
      next.usedStale = (machine.usedStale || (decide (2 ≤ machine.ticks) &&
        usesStale machine.host maps machine.fresh machine.tick)) ∧
      next.ticks = machine.tick.completed machine.ticks := by
  simp only [Machine.step] at taken
  split at taken
  case h_1 vm maps found buffered =>
      obtain rfl := Option.some.inj taken
      exact ⟨vm, maps, found, buffered, rfl, rfl, rfl, rfl, rfl, rfl⟩
  case h_2 => cases taken

/-- No handler and no tick is in progress, and none has been. -/
def Machine.quiet (ι : Type) (host : HostState) : Machine ι :=
  ⟨host, fun _ => .idle, .idle, 0, [], fun _ _ => false, false⟩

end Machine

end PhantomTracker.Host
