import PhantomTracker.Shmem.RegistryIoctl
import Mathlib.Algebra.Group.Int.Defs
import Mathlib.Logic.Relation

/-!
Contract: any number of `PHANT_REG` ioctls at the same time, interleaved at the
atomic steps of `host_register_vm`.

Owns: the machine in which the calls of an arbitrary family take turns, the order
of decrements under which no two calls and no live backend share an id, and that
a call which no other interrupts is `host_register_vm`.

Does not own: the copies between kernel and user space.
-/

namespace PhantomTracker.Shmem

open PhantomTracker.Foundation

/-! ## The machine -/

/-- An `atomic_t` or `int` result of exact value `value`. -/
def s32 (value : Int) : Int := value.bmod (2 ^ 32)

/-- Where a call stands in `host_register_vm`: what it does next. -/
inductive RegisterPc where
  | idle
  | allocate (vmId : Int) (nbCpu : UInt32)
  | create (vmId : Int) (nbCpu : UInt32)
  | publish (vmId : Int) (newBackend : HostIvshmemBackend)
  | giveBack (vmId : Int) (ret : Errno)

/-- The id that a call in progress holds. -/
def RegisterPc.held : RegisterPc → Option Int
  | .idle => none
  | .allocate vmId _ => some vmId
  | .create vmId _ => some vmId
  | .publish vmId _ => some vmId
  | .giveBack vmId _ => some vmId

/-- The call does not give an id back, or gives back the one just below the
counter. -/
def RegisterPc.InOrder (nextVmId : Int) : RegisterPc → Prop
  | .giveBack vmId _ => nextVmId = vmId + 1
  | _ => True

instance (nextVmId : Int) : ∀ pc : RegisterPc, Decidable (pc.InOrder nextVmId)
  | .giveBack vmId _ => inferInstanceAs (Decidable (nextVmId = vmId + 1))
  | .idle => inferInstanceAs (Decidable True)
  | .allocate _ _ => inferInstanceAs (Decidable True)
  | .create _ _ => inferInstanceAs (Decidable True)
  | .publish _ _ => inferInstanceAs (Decidable True)

/-- The minor number that goes with an id. -/
def minorOf (vmId : Int) : Nat := (vmId + 1).toNat

structure RegistryMachine (ι : Type) where
  nextVmId : Int
  devices : Nat → Option HostIvshmemBackend
  calls : ι → RegisterPc

inductive RegisterAction (ι : Type) where
  /-- `atomic_fetch_inc`, the first step of a call. -/
  | begin (call : ι) (nbCpu : UInt32)
  /-- The next step of a call, with the results of the kernel functions. -/
  | advance (call : ι) (outcome : HostCalls)

section Machine

variable {ι : Type} [DecidableEq ι]

namespace RegistryMachine

def setCall (machine : RegistryMachine ι) (call : ι) (pc : RegisterPc) : RegistryMachine ι :=
  { machine with calls := Function.update machine.calls call pc }

/-- What a call in progress does next. -/
def advance (outcome : HostCalls) (machine : RegistryMachine ι) (call : ι) :
    RegisterPc → Option (RegistryMachine ι)
  | .idle => none
  | .allocate vmId nbCpu =>
      if s32 (vmId + 1) ≥ maxNbDevices then some (machine.setCall call (.giveBack vmId .enospc))
      else if outcome.kzalloc = false then some (machine.setCall call .idle)
      else some (machine.setCall call (.create vmId nbCpu))
  | .create vmId nbCpu =>
      match hostIvshmemCreateStaticBackend outcome (minorOf vmId) (backendSize nbCpu) with
      | .error ret => some (machine.setCall call (.giveBack vmId ret))
      | .ok newBackend => some (machine.setCall call (.publish vmId newBackend))
  | .publish vmId newBackend =>
      some { machine.setCall call .idle with
        devices := Function.update machine.devices (minorOf vmId) (some newBackend) }
  | .giveBack _ _ =>
      some { machine.setCall call .idle with nextVmId := s32 (machine.nextVmId - 1) }

def step (machine : RegistryMachine ι) : RegisterAction ι → Option (RegistryMachine ι)
  | .begin call nbCpu =>
      match machine.calls call with
      | .idle => some { machine.setCall call (.allocate machine.nextVmId nbCpu) with
          nextVmId := s32 (machine.nextVmId + 1) }
      | _ => none
  | .advance call outcome => machine.advance outcome call (machine.calls call)

/-- The registry when the module has been loaded. -/
def loaded (ι : Type) : RegistryMachine ι := ⟨0, fun _ => none, fun _ => .idle⟩

/-- The ids held by calls in progress and by live backends are pairwise distinct.
So a call asks for a minor number that neither a live backend nor a created one
has, and publishes its backend in an empty slot. -/
structure IdsDistinct (machine : RegistryMachine ι) : Prop where
  calls : ∀ first second vmId, (machine.calls first).held = some vmId →
    (machine.calls second).held = some vmId → first = second
  live : ∀ call vmId, (machine.calls call).held = some vmId →
    machine.devices (minorOf vmId) = none
  backends : ∀ minor backend, machine.devices minor = some backend → backend.minor = minor
  request : ∀ call vmId nbCpu, machine.calls call = .create vmId nbCpu →
    machine.devices (minorOf vmId) = none ∧ ∀ other otherId newBackend,
      machine.calls other = .publish otherId newBackend → newBackend.minor ≠ minorOf vmId

/-- A call gives its id back only while the counter stands one above it, and the
counter is not at the largest `int` when an id is taken. -/
def InOrder (machine : RegistryMachine ι) : RegisterAction ι → Prop
  | .begin _ _ => machine.nextVmId < 2 ^ 31 - 1
  | .advance call _ => (machine.calls call).InOrder machine.nextVmId

instance : ∀ (machine : RegistryMachine ι) (action : RegisterAction ι),
    Decidable (machine.InOrder action)
  | machine, .begin _ _ => inferInstanceAs (Decidable (machine.nextVmId < 2 ^ 31 - 1))
  | machine, .advance call _ =>
      inferInstanceAs (Decidable ((machine.calls call).InOrder machine.nextVmId))

/-! ## The invariant -/

/-- All ids that are held or live are below the counter, and different. -/
structure Ordered (machine : RegistryMachine ι) : Prop where
  nonneg : 0 ≤ machine.nextVmId
  range : machine.nextVmId < 2 ^ 31
  held : ∀ call vmId, (machine.calls call).held = some vmId → 0 ≤ vmId ∧ vmId < machine.nextVmId
  distinct : ∀ first second vmId, (machine.calls first).held = some vmId →
    (machine.calls second).held = some vmId → first = second
  live : ∀ minor backend, machine.devices minor = some backend →
    backend.minor = minor ∧ (minor : Int) ≤ machine.nextVmId
  free : ∀ call vmId, (machine.calls call).held = some vmId →
    machine.devices (minorOf vmId) = none
  created : ∀ call vmId newBackend, machine.calls call = .publish vmId newBackend →
    newBackend.minor = minorOf vmId

theorem s32_of_range {value : Int} (nonneg : 0 ≤ value) (below : value < 2 ^ 31) :
    s32 value = value := by
  unfold s32
  rw [Int.bmod_eq_of_le] <;> omega

theorem minorOf_injective {first second : Int} (firstNonneg : 0 ≤ first)
    (secondNonneg : 0 ≤ second) (same : minorOf first = minorOf second) : first = second := by
  unfold minorOf at same
  omega

omit [DecidableEq ι] in
theorem ordered_loaded : (loaded ι).Ordered where
  nonneg := le_rfl
  range := by show (0 : Int) < 2 ^ 31; decide
  held _ _ held := by cases held
  distinct _ _ _ held := by cases held
  live _ _ found := by cases found
  free _ _ held := by cases held
  created _ _ _ standing := by cases standing

variable {machine next : RegistryMachine ι} {call : ι} {pc : RegisterPc}

/-- What holds of a call after one of the calls has moved to `pc`. -/
theorem setCall_cases (holds : RegisterPc → Prop) {target : ι}
    (after : holds ((machine.setCall call pc).calls target)) :
    target = call ∧ holds pc ∨ target ≠ call ∧ holds (machine.calls target) :=
  update_cases holds after

theorem held_setCall {target : ι} {vmId : Int}
    (held : ((machine.setCall call pc).calls target).held = some vmId) :
    target = call ∧ pc.held = some vmId ∨
      target ≠ call ∧ (machine.calls target).held = some vmId :=
  setCall_cases (fun pc => pc.held = some vmId) held

theorem publish_setCall {target : ι} {vmId : Int} {newBackend : HostIvshmemBackend}
    (standing : (machine.setCall call pc).calls target = .publish vmId newBackend) :
    target = call ∧ pc = .publish vmId newBackend ∨
      target ≠ call ∧ machine.calls target = .publish vmId newBackend :=
  setCall_cases (fun pc => pc = .publish vmId newBackend) standing

/-- A call that moves without taking an id. -/
theorem Ordered.setCall (ordered : machine.Ordered)
    (kept : ∀ vmId, pc.held = some vmId → (machine.calls call).held = some vmId)
    (created : ∀ vmId newBackend, pc = .publish vmId newBackend →
      newBackend.minor = minorOf vmId) : (machine.setCall call pc).Ordered := by
  have before : ∀ target vmId, ((machine.setCall call pc).calls target).held = some vmId →
      (machine.calls target).held = some vmId := by
    intro target vmId held
    rcases held_setCall held with ⟨rfl, moved⟩ | ⟨_, stayed⟩
    · exact kept vmId moved
    · exact stayed
  refine ⟨ordered.nonneg, ordered.range, fun target vmId held => ?_,
    fun first second vmId firstHeld secondHeld => ?_, ordered.live, fun target vmId held => ?_,
    fun target vmId newBackend standing => ?_⟩
  · exact ordered.held target vmId (before target vmId held)
  · exact ordered.distinct first second vmId (before _ _ firstHeld) (before _ _ secondHeld)
  · exact ordered.free target vmId (before target vmId held)
  · rcases publish_setCall standing with ⟨_, moved⟩ | ⟨_, stayed⟩
    · exact created vmId newBackend moved
    · exact ordered.created target vmId newBackend stayed

/-- After a call has taken the id at the counter, the others hold ids below it. -/
theorem Ordered.held_begin (ordered : machine.Ordered) {nbCpu : UInt32} {target : ι} {vmId : Int}
    (held : ((machine.setCall call (.allocate machine.nextVmId nbCpu)).calls target).held =
      some vmId) :
    target = call ∧ vmId = machine.nextVmId ∨
      target ≠ call ∧ (machine.calls target).held = some vmId ∧ 0 ≤ vmId ∧
        vmId < machine.nextVmId := by
  rcases held_setCall held with ⟨same, taken⟩ | ⟨different, stayed⟩
  · exact Or.inl ⟨same, (Option.some.inj taken).symm⟩
  · exact Or.inr ⟨different, stayed, ordered.held target vmId stayed⟩

omit [DecidableEq ι] in
/-- No backend is live under the id at the counter. -/
theorem Ordered.free_next (ordered : machine.Ordered) :
    machine.devices (minorOf machine.nextVmId) = none := by
  cases found : machine.devices (minorOf machine.nextVmId) with
  | none => rfl
  | some backend =>
      have nonneg := ordered.nonneg
      have bound := (ordered.live _ backend found).2
      unfold minorOf at bound
      omega

/-- Taking the id at the counter. -/
theorem Ordered.begin (ordered : machine.Ordered) (below : machine.nextVmId < 2 ^ 31 - 1)
    (call : ι) (nbCpu : UInt32) :
    Ordered { machine.setCall call (.allocate machine.nextVmId nbCpu) with
      nextVmId := s32 (machine.nextVmId + 1) } := by
  have nonneg := ordered.nonneg
  have next : s32 (machine.nextVmId + 1) = machine.nextVmId + 1 :=
    s32_of_range (by omega) (by omega)
  refine ⟨?_, ?_, fun target vmId held => ?_, fun first second vmId firstHeld secondHeld => ?_,
    fun minor backend found => ?_, fun target vmId held => ?_,
    fun target vmId newBackend published => ?_⟩
  · show 0 ≤ s32 (machine.nextVmId + 1)
    omega
  · show s32 (machine.nextVmId + 1) < 2 ^ 31
    omega
  · show 0 ≤ vmId ∧ vmId < s32 (machine.nextVmId + 1)
    rcases ordered.held_begin held with ⟨_, taken⟩ | ⟨_, _, bounds⟩ <;> omega
  · -- Two calls hold one id only if neither or both have just taken it.
    rcases ordered.held_begin firstHeld with ⟨firstSame, taken⟩ | ⟨_, firstStayed, _, firstBelow⟩
    · rcases ordered.held_begin secondHeld with ⟨secondSame, _⟩ | ⟨_, _, _, secondBelow⟩
      · rw [firstSame, secondSame]
      · omega
    · rcases ordered.held_begin secondHeld with ⟨_, taken⟩ | ⟨_, secondStayed, _⟩
      · omega
      · exact ordered.distinct first second vmId firstStayed secondStayed
  · obtain ⟨same, bound⟩ := ordered.live minor backend found
    refine ⟨same, ?_⟩
    show (minor : Int) ≤ s32 (machine.nextVmId + 1)
    omega
  · rcases ordered.held_begin held with ⟨_, rfl⟩ | ⟨_, stayed, _⟩
    · exact ordered.free_next
    · exact ordered.free target vmId stayed
  · rcases publish_setCall published with ⟨_, moved⟩ | ⟨_, stayed⟩
    · cases moved
    · exact ordered.created target vmId newBackend stayed

/-- Publishing a backend under the id that its call holds. -/
theorem Ordered.publish (ordered : machine.Ordered) {vmId : Int} {newBackend : HostIvshmemBackend}
    (standing : machine.calls call = .publish vmId newBackend) :
    Ordered { machine.setCall call .idle with
      devices := Function.update machine.devices (minorOf vmId) (some newBackend) } := by
  have own : (machine.calls call).held = some vmId := by rw [standing]; rfl
  have released : (machine.setCall call .idle).Ordered :=
    ordered.setCall (fun _ held => by cases held) (fun _ _ moved => by cases moved)
  obtain ⟨nonneg, below⟩ := ordered.held call vmId own
  refine ⟨ordered.nonneg, ordered.range, released.held, released.distinct,
    fun minor backend found => ?_, fun target other held => ?_, released.created⟩
  · by_cases same : minor = minorOf vmId
    · subst same
      dsimp only at found
      rw [Function.update_self] at found
      obtain rfl := Option.some.inj found
      refine ⟨ordered.created call vmId newBackend standing, ?_⟩
      show ((minorOf vmId : Nat) : Int) ≤ machine.nextVmId
      unfold minorOf
      omega
    · dsimp only at found
      rw [Function.update_of_ne same] at found
      exact ordered.live minor backend found
  · -- The call that published holds no id any more, and the others hold others.
    rcases held_setCall held with ⟨_, moved⟩ | ⟨different, stayed⟩
    · cases moved
    · have otherNonneg := (ordered.held target other stayed).1
      have minors : minorOf other ≠ minorOf vmId := by
        intro same
        obtain rfl := minorOf_injective otherNonneg nonneg same
        exact different (ordered.distinct target call other stayed own)
      show Function.update machine.devices (minorOf vmId) (some newBackend) (minorOf other) = none
      rw [Function.update_of_ne minors]
      exact ordered.free target other stayed

/-- Giving back the id just below the counter. -/
theorem Ordered.giveBack (ordered : machine.Ordered) {vmId : Int} {ret : Errno}
    (standing : machine.calls call = .giveBack vmId ret) (top : machine.nextVmId = vmId + 1) :
    Ordered { machine.setCall call .idle with nextVmId := s32 (machine.nextVmId - 1) } := by
  have own : (machine.calls call).held = some vmId := by rw [standing]; rfl
  have released : (machine.setCall call .idle).Ordered :=
    ordered.setCall (fun _ held => by cases held) (fun _ _ moved => by cases moved)
  obtain ⟨nonneg, below⟩ := ordered.held call vmId own
  have range := ordered.range
  have previous : s32 (machine.nextVmId - 1) = vmId := by
    rw [s32_of_range (by omega) (by omega)]
    omega
  refine ⟨?_, ?_, fun target other held => ?_, released.distinct, fun minor backend found => ?_,
    released.free, released.created⟩
  · show 0 ≤ s32 (machine.nextVmId - 1)
    omega
  · show s32 (machine.nextVmId - 1) < 2 ^ 31
    omega
  · show 0 ≤ other ∧ other < s32 (machine.nextVmId - 1)
    rcases held_setCall held with ⟨_, moved⟩ | ⟨different, stayed⟩
    · cases moved
    · have bounds := ordered.held target other stayed
      have apart : other ≠ vmId := by
        rintro rfl
        exact different (ordered.distinct target call other stayed own)
      omega
  · obtain ⟨same, bound⟩ := ordered.live minor backend found
    refine ⟨same, ?_⟩
    show (minor : Int) ≤ s32 (machine.nextVmId - 1)
    have apart : minor ≠ minorOf vmId := by
      rintro rfl
      have empty := ordered.free call vmId own
      rw [show machine.devices (minorOf vmId) = some backend from found] at empty
      cases empty
    unfold minorOf at apart
    omega

/-- A call that keeps its id. -/
theorem Ordered.keep (ordered : machine.Ordered) {vmId : Int}
    (own : (machine.calls call).held = some vmId) (held : pc.held = some vmId)
    (created : ∀ newBackend, pc = .publish vmId newBackend → newBackend.minor = minorOf vmId) :
    (machine.setCall call pc).Ordered := by
  apply ordered.setCall
  · intro other same
    rw [own, ← held, same]
  · rintro other newBackend rfl
    obtain rfl := Option.some.inj held
    exact created newBackend rfl

/-- A call that ends without touching the counter. -/
theorem Ordered.drop (ordered : machine.Ordered) : (machine.setCall call .idle).Ordered :=
  ordered.setCall (fun _ held => by cases held) (fun _ _ moved => by cases moved)

theorem Ordered.advance (ordered : machine.Ordered) {outcome : HostCalls}
    (inOrder : machine.InOrder (.advance call outcome))
    (taken : machine.advance outcome call (machine.calls call) = some next) : next.Ordered := by
  cases standing : machine.calls call with
  | idle =>
      rw [standing] at taken
      cases taken
  | allocate vmId nbCpu =>
      have own : (machine.calls call).held = some vmId := by rw [standing]; rfl
      rw [standing] at taken
      simp only [RegistryMachine.advance] at taken
      split at taken
      · obtain rfl := Option.some.inj taken
        exact ordered.keep own rfl fun _ moved => by cases moved
      · split at taken
        · obtain rfl := Option.some.inj taken
          exact ordered.drop
        · obtain rfl := Option.some.inj taken
          exact ordered.keep own rfl fun _ moved => by cases moved
  | create vmId nbCpu =>
      have own : (machine.calls call).held = some vmId := by rw [standing]; rfl
      rw [standing] at taken
      simp only [RegistryMachine.advance] at taken
      split at taken
      · obtain rfl := Option.some.inj taken
        exact ordered.keep own rfl fun _ moved => by cases moved
      · rename_i newBackend created
        obtain rfl := Option.some.inj taken
        refine ordered.keep own rfl fun other moved => ?_
        cases moved
        rw [hostIvshmemCreateStaticBackend_ok created]
  | publish vmId newBackend =>
      rw [standing] at taken
      obtain rfl := Option.some.inj taken
      exact ordered.publish standing
  | giveBack vmId ret =>
      rw [standing] at taken
      obtain rfl := Option.some.inj taken
      have top : (machine.calls call).InOrder machine.nextVmId := inOrder
      rw [standing] at top
      exact ordered.giveBack standing top

theorem Ordered.step (ordered : machine.Ordered) {action : RegisterAction ι}
    (inOrder : machine.InOrder action) (taken : machine.step action = some next) :
    next.Ordered := by
  cases action with
  | begin call nbCpu =>
      simp only [RegistryMachine.step] at taken
      split at taken
      · obtain rfl := Option.some.inj taken
        exact ordered.begin inOrder call nbCpu
      · cases taken
  | advance call outcome => exact ordered.advance inOrder taken

omit [DecidableEq ι] in
theorem Ordered.idsDistinct (ordered : machine.Ordered) : machine.IdsDistinct where
  calls := ordered.distinct
  live := ordered.free
  backends minor backend found := (ordered.live minor backend found).1
  request call vmId nbCpu standing := by
    have own : (machine.calls call).held = some vmId := by rw [standing]; rfl
    refine ⟨ordered.free call vmId own, fun other otherId newBackend published same => ?_⟩
    have otherOwn : (machine.calls other).held = some otherId := by rw [published]; rfl
    rw [ordered.created other otherId newBackend published] at same
    obtain rfl := minorOf_injective (ordered.held other otherId otherOwn).1
      (ordered.held call vmId own).1 same
    obtain rfl := ordered.distinct other call otherId otherOwn own
    rw [standing] at published
    cases published

/-- **Ids are never shared** while ids are given back in order: in every state
that any number of concurrent ioctls reach, the ids held by calls in progress and
by live backends are pairwise distinct. -/
theorem vm_ids_distinct_in_order {actions : List (RegisterAction ι)} {final : RegistryMachine ι}
    (run : GuardedRun step InOrder (loaded ι) actions final) : final.IdsDistinct := by
  have ordered : final.Ordered :=
    run.invariant Ordered (fun _ _ _ ordered inOrder taken => ordered.step inOrder taken)
      ordered_loaded
  exact ordered.idsDistinct

end RegistryMachine

end Machine

/-! ## One call alone -/

section Alone

variable {ι : Type} [DecidableEq ι]

namespace RegistryMachine

/-- The registry, with one call at `pc` and the others anywhere. -/
def around (calls : ι → RegisterPc) (call : ι) (pc : RegisterPc) (registry : HostRegistry) :
    RegistryMachine ι :=
  ⟨registry.nextVmId, registry.devices, Function.update calls call pc⟩

variable {calls : ι → RegisterPc} {call : ι} {outcome : HostCalls} {registry : HostRegistry}

theorem around_setCall (before after : RegisterPc) :
    (around calls call before registry).setCall call after =
      around calls call after registry := by
  unfold around setCall
  rw [Function.update_idem]

theorem around_calls (pc : RegisterPc) : (around calls call pc registry).calls call = pc := by
  unfold around
  exact Function.update_self call pc calls

/-- The steps of one call between its first and its last. -/
abbrev LoneRun (call : ι) (outcome : HostCalls) (nbCpu : UInt32) :
    RegistryMachine ι → RegistryMachine ι → Prop :=
  Relation.ReflTransGen fun before after =>
    before.step (.begin call nbCpu) = some after ∨ before.step (.advance call outcome) = some after

theorem lone_begin (calls : ι → RegisterPc) (call : ι) (nbCpu : UInt32)
    (range : registry.nextVmId < 2 ^ 31 - 1) :
    (around calls call .idle registry).step (.begin call nbCpu) =
      some (around calls call (.allocate registry.nextVmId nbCpu)
        { registry with nextVmId := registry.nextVmId + 1 }) := by
  have next : s32 ((registry.nextVmId : Int) + 1) = ((registry.nextVmId + 1 : Nat) : Int) := by
    rw [s32_of_range (by omega) (by omega)]
    omega
  simp only [step, around_calls, around_setCall]
  unfold around
  simp only [next]

theorem lone_advance (calls : ι → RegisterPc) (call : ι) (outcome : HostCalls)
    (registry : HostRegistry) (pc : RegisterPc) :
    (around calls call pc registry).step (.advance call outcome) =
      (around calls call pc registry).advance outcome call pc := by
  simp only [step, around_calls]

theorem lone_giveBack (vmId : Int) (ret : Errno) (range : registry.nextVmId + 1 < 2 ^ 31) :
    (around calls call (.giveBack vmId ret) { registry with nextVmId := registry.nextVmId + 1 }).step
      (.advance call outcome) = some (around calls call .idle registry) := by
  have previous : s32 (((registry.nextVmId + 1 : Nat) : Int) - 1) = registry.nextVmId := by
    rw [s32_of_range (by omega) (by omega)]
    omega
  rw [lone_advance]
  simp only [advance, around_setCall]
  unfold around
  simp only [previous]

/-- From the allocated struct to the end of the call. -/
theorem lone_create (nbCpu : UInt32) (range : registry.nextVmId + 1 < 2 ^ 31)
    (room : registry.nextVmId + 1 < maxNbDevices) (allocated : outcome.kzalloc = true) :
    LoneRun call outcome nbCpu
      (around calls call (.create registry.nextVmId nbCpu)
        { registry with nextVmId := registry.nextVmId + 1 })
      (around calls call .idle (hostRegisterVm outcome nbCpu registry).1) := by
  have create := lone_advance calls call outcome
    { registry with nextVmId := registry.nextVmId + 1 } (.create registry.nextVmId nbCpu)
  by_cases creates : outcome.Creates
  · have published := lone_advance calls call outcome
      { registry with nextVmId := registry.nextVmId + 1 } (.publish registry.nextVmId
        ⟨some ((backendHeader (backendSize nbCpu)).write fun _ => 0), backendSize nbCpu,
          minorOf registry.nextVmId⟩)
    simp only [advance, create_of_creates creates, around_setCall] at create published
    rw [hostRegisterVm_of_created room allocated creates]
    exact .head (Or.inr create) (.single (Or.inr published))
  · obtain ⟨ret, failed⟩ := create_of_not_creates creates (minorOf registry.nextVmId)
      (backendSize nbCpu)
    obtain ⟨code, ended⟩ := hostRegisterVm_of_uncreated nbCpu room allocated creates
    simp only [advance, failed, around_setCall] at create
    rw [ended]
    exact .head (Or.inr create) (.single (Or.inr (lone_giveBack _ _ range)))

/-- A call whose steps no other call interrupts does what `host_register_vm` does
to the registry. -/
theorem lone_call_registers (nbCpu : UInt32) (range : registry.nextVmId + 1 < 2 ^ 31) :
    LoneRun call outcome nbCpu (around calls call .idle registry)
      (around calls call .idle (hostRegisterVm outcome nbCpu registry).1) := by
  have begun := lone_begin calls call nbCpu (show registry.nextVmId < 2 ^ 31 - 1 by omega)
  have test : s32 ((registry.nextVmId : Int) + 1) = ((registry.nextVmId + 1 : Nat) : Int) := by
    rw [s32_of_range (by omega) (by omega)]
    omega
  have allocate := lone_advance calls call outcome
    { registry with nextVmId := registry.nextVmId + 1 } (.allocate registry.nextVmId nbCpu)
  simp only [advance, around_setCall, test] at allocate
  refine .head (Or.inl begun) ?_
  by_cases room : registry.nextVmId + 1 < maxNbDevices
  · rw [if_neg (by omega)] at allocate
    by_cases allocated : outcome.kzalloc = false
    · rw [if_pos allocated] at allocate
      rw [hostRegisterVm_of_unallocated room allocated]
      exact .single (Or.inr allocate)
    · have given : outcome.kzalloc = true := by simpa using allocated
      rw [if_neg allocated] at allocate
      exact .head (Or.inr allocate) (lone_create nbCpu range room given)
  · rw [if_pos (by omega)] at allocate
    rw [hostRegisterVm_of_full (Nat.le_of_not_lt room)]
    exact .head (Or.inr allocate) (.single (Or.inr (lone_giveBack _ _ range)))

end RegistryMachine

end Alone

/-! ## Two calls and a third -/

/-- No kernel function fails. -/
def HostCalls.working : HostCalls := ⟨true, true, none, none⟩

/-- The shared memory cannot be allocated. -/
def HostCalls.noMemory : HostCalls := ⟨true, false, none, none⟩

namespace RegistryMachine

/-- Call 0 and call 1 take ids 0 and 1, call 0 fails and gives its id back, and
call 2 takes id 1 again. -/
def sharingActions : List (RegisterAction Nat) :=
  [.begin 0 1, .begin 1 1, .advance 0 .noMemory, .advance 0 .noMemory, .advance 0 .noMemory,
    .begin 2 1]

theorem id_shared_out_of_order :
    ∃ final, GuardedRun step (fun _ _ => True) (loaded Nat) sharingActions final ∧
      (final.calls 1).held = some 1 ∧ (final.calls 2).held = some 1 ∧ ¬ final.IdsDistinct := by
  have check : ((exec step (fun _ _ => True) (loaded Nat) sharingActions).any fun final =>
      decide ((final.calls 1).held = some 1 ∧ (final.calls 2).held = some 1)) = true := by
    decide +kernel
  obtain ⟨final, executed, shared⟩ := (Option.any_eq_true _ _).mp check
  have both := of_decide_eq_true shared
  refine ⟨final, guardedRun_of_exec executed, both.1, both.2, fun distinct => ?_⟩
  have same := distinct.calls 1 2 1 both.1 both.2
  cases same

/-- Call 1 fails while its id is the last one taken, so call 2 may have it. -/
def orderedActions : List (RegisterAction Nat) :=
  [.begin 0 1, .begin 1 1, .advance 1 .noMemory, .advance 1 .noMemory, .advance 1 .noMemory,
    .begin 2 1, .advance 0 .working, .advance 0 .working, .advance 0 .working]

theorem ids_reused_in_order :
    ∃ final, GuardedRun step InOrder (loaded Nat) orderedActions final ∧
      (final.calls 2).held = some 1 ∧ (final.devices 1).isSome = true ∧ final.IdsDistinct := by
  have check : ((exec step InOrder (loaded Nat) orderedActions).any fun final =>
      decide ((final.calls 2).held = some 1 ∧ (final.devices 1).isSome = true)) = true := by
    decide +kernel
  obtain ⟨final, executed, shape⟩ := (Option.any_eq_true _ _).mp check
  have both := of_decide_eq_true shape
  have run := guardedRun_of_exec executed
  exact ⟨final, run, both.1, both.2, vm_ids_distinct_in_order run⟩

end RegistryMachine

end PhantomTracker.Shmem
