import PhantomTracker.Host.SerialRuns
import PhantomTracker.Host.ToolExecutions
import Mathlib.Data.List.Nodup

/-!
Contract: the registry keys of several VMs.

Owns: the registration of a list of VMs, that the handler and the timer find
exactly the two maps which were created for a VM when every name leaves room for
the suffix, and that this fails as soon as one name does not.

Does not own: the bytes of a key.
-/

namespace PhantomTracker.Host

open PhantomTracker.Foundation

/-! ## Registering several VMs -/

/-- One run of the `register_vm` tool: its arguments, whether the allocations of
`cleanup_stale_vcpus` succeed, and the maps that `bpf_map_create` returns. -/
structure VmSetup where
  args : RegisterArgs
  allocated : Bool
  collection : MapId
  processing : MapId
deriving DecidableEq

namespace VmSetup

def name (setup : VmSetup) : CString := setup.args.vmName

/-- The maps that `setup_vm_maps` creates for the VM. -/
def created (setup : VmSetup) : Buff → MapId := mapOf setup.collection setup.processing

/-- `register_vm` and then `setup_vm_maps`, as `main` calls them. -/
def run (setup : VmSetup) (host : HostState) : HostState :=
  (setupVmMaps none setup.collection setup.processing setup.name
    (registerVm none setup.allocated setup.args host).1).1

/-- What the run does to the registry. -/
def register (setup : VmSetup) (registry : FiniteMap VmKey MapId) : FiniteMap VmKey MapId :=
  (registry.insert (registryKey .one setup.name.bytes) setup.collection).insert
    (registryKey .two setup.name.bytes) setup.processing

end VmSetup

/-- The tool run for every VM of a list. -/
def registerAll (setups : List VmSetup) (host : HostState) : HostState :=
  setups.foldl (fun state setup => setup.run state) host

/-- What `bpf_map_create` promises: all maps that are created differ from each
other and from those that were registered before. -/
structure MapsCreated (setups : List VmSetup) (registry : FiniteMap VmKey MapId) : Prop where
  distinct : (setups.flatMap fun setup => [setup.collection, setup.processing]).Nodup
  unused : ∀ key map, registry.lookup key = some map →
    ∀ setup ∈ setups, map ≠ setup.collection ∧ map ≠ setup.processing

/-- A switch event or a tick of one VM. -/
def SerialAction.apply (host : HostState) : SerialAction → HostState
  | .switch input => phantomSwitchHandler input host
  | .tick vmName clock lastIdleAvg => (callbackFn clock lastIdleAvg vmName host).1

def afterEvents (actions : List SerialAction) (host : HostState) : HostState :=
  actions.foldl SerialAction.apply host

/-- The keys that the timer builds from the `vms` key of a VM and the handler
from the name stored with a vCPU find the two maps created for that VM, which
are different, and never a map created for another VM. -/
structure KeysAgree (setups : List VmSetup) (host : HostState) : Prop where
  timer : ∀ setup ∈ setups, ∀ buff,
    host.mapRegistry.lookup (collectionBuff buff (vmKey setup.name.bytes)) =
      some (setup.created buff)
  handler : ∀ setup ∈ setups, ∀ tid vcpu, host.vcpus.lookup tid = some vcpu →
    vcpu.vmName = vmKey setup.name.bytes → ∀ buff,
      host.mapRegistry.lookup (collectionBuff buff vcpu.vmName) = some (setup.created buff)
  apart : ∀ setup ∈ setups, setup.created .one ≠ setup.created .two
  isolated : ∀ first ∈ setups, ∀ second ∈ setups, first ≠ second → ∀ left right,
    host.mapRegistry.lookup (collectionBuff left (vmKey first.name.bytes)) ≠
      some (second.created right)

/-! ## The registry -/

theorem registerAll_mapRegistry (setups : List VmSetup) (host : HostState) :
    (registerAll setups host).mapRegistry =
      setups.foldl (fun registry setup => setup.register registry) host.mapRegistry := by
  induction setups generalizing host with
  | nil => rfl
  | cons setup rest inductionHypothesis => exact inductionHypothesis (setup.run host)

theorem phantomSwitchHandler_mapRegistry (input : SwitchInput) (host : HostState) :
    (phantomSwitchHandler input host).mapRegistry = host.mapRegistry := by
  apply phantomSwitchHandler_preserves (fun state => state.mapRegistry = host.mapRegistry)
  · intro now before after step same
    rw [step.sameShape.registry, same]
  · rfl

theorem afterEvents_mapRegistry (actions : List SerialAction) (host : HostState) :
    (afterEvents actions host).mapRegistry = host.mapRegistry := by
  induction actions generalizing host with
  | nil => rfl
  | cons action rest inductionHypothesis =>
      have kept : (action.apply host).mapRegistry = host.mapRegistry := by
        cases action with
        | switch input => exact phantomSwitchHandler_mapRegistry input host
        | tick vmName clock lastIdleAvg => exact callbackFn_mapRegistry
      exact (inductionHypothesis (action.apply host)).trans kept

section Registry

variable {setups : List VmSetup} {registry : FiniteMap VmKey MapId}

/-- Registrations under other keys leave an entry alone. -/
theorem lookup_registerAll_of_ne {key : VmKey}
    (other : ∀ setup ∈ setups, ∀ buff, key ≠ registryKey buff setup.name.bytes) :
    (setups.foldl (fun registry setup => setup.register registry) registry).lookup key =
      registry.lookup key := by
  induction setups generalizing registry with
  | nil => rfl
  | cons first rest inductionHypothesis =>
      rw [List.foldl_cons, inductionHypothesis fun setup member =>
        other setup (List.mem_cons_of_mem first member)]
      unfold VmSetup.register
      rw [AList.lookup_insert_ne (other first List.mem_cons_self .two),
        AList.lookup_insert_ne (other first List.mem_cons_self .one)]

/-- With names that fit and differ, every VM keeps the two entries it got. -/
theorem lookup_registerAll (fits : ∀ setup ∈ setups, setup.name.bytes.length ≤ maxFittingName)
    (distinct : (setups.map VmSetup.name).Nodup) {setup : VmSetup} (member : setup ∈ setups)
    (buff : Buff) :
    (setups.foldl (fun registry setup => setup.register registry) registry).lookup
      (registryKey buff setup.name.bytes) = some (setup.created buff) := by
  induction setups generalizing registry with
  | nil => exact absurd member List.not_mem_nil
  | cons first rest inductionHypothesis =>
      rw [List.map_cons, List.nodup_cons] at distinct
      rcases List.mem_cons.mp member with rfl | later
      · rw [List.foldl_cons, lookup_registerAll_of_ne]
        · have room := fits setup List.mem_cons_self
          unfold VmSetup.register
          cases buff with
          | one =>
              rw [AList.lookup_insert_ne (registryKey_one_ne_two room), AList.lookup_insert]
              rfl
          | two =>
              rw [AList.lookup_insert]
              rfl
        · intro other otherMember target
          have names : setup.name ≠ other.name := fun same =>
            distinct.1 (same ▸ List.mem_map_of_mem otherMember)
          exact registryKey_ne setup.name other.name (fits setup List.mem_cons_self)
            (fits other (List.mem_cons_of_mem setup otherMember)) names buff target
      · exact inductionHypothesis (fun other otherMember =>
          fits other (List.mem_cons_of_mem first otherMember)) distinct.2 later

/-- A name without room for the suffix loses it, and its two keys coincide. -/
theorem registryKey_one_eq_two {name : List UInt8} (long : maxFittingName < name.length) :
    registryKey .one name = registryKey .two name := by
  have length : 62 ≤ name.length := long
  have cut : ∀ buff : Buff, (name ++ buff.suffix).take (vmNameLen - 1) =
      (name ++ [underscore]).take (vmNameLen - 1) := by
    intro buff
    have regroup : name ++ buff.suffix = (name ++ [underscore]) ++ [buff.digit] := by
      rw [List.append_assoc]
      rfl
    have enough : vmNameLen - 1 ≤ (name ++ [underscore]).length := by
      rw [List.length_append]
      show 63 ≤ name.length + 1
      omega
    rw [regroup, List.take_append_of_le_length enough]
  unfold registryKey CharArray.copyString
  rw [cut .one, cut .two]

/-- A map whose key is overwritten by the map registered after it is not found
under any key. -/
theorem lookup_registerAll_ne_of_overwritten {map : MapId}
    (unused : ∀ key, registry.lookup key ≠ some map)
    (overwritten : ∀ setup ∈ setups, setup.processing ≠ map ∧
      (setup.collection = map → maxFittingName < setup.name.bytes.length)) (key : VmKey) :
    (setups.foldl (fun registry setup => setup.register registry) registry).lookup key ≠
      some map := by
  induction setups generalizing registry with
  | nil => exact unused key
  | cons first rest inductionHypothesis =>
      obtain ⟨processing, collection⟩ := overwritten first List.mem_cons_self
      apply inductionHypothesis
      · intro target
        unfold VmSetup.register
        by_cases two : target = registryKey .two first.name.bytes
        · rw [two, AList.lookup_insert]
          exact fun same => processing (Option.some.inj same)
        · rw [AList.lookup_insert_ne two]
          by_cases one : target = registryKey .one first.name.bytes
          · rw [one, AList.lookup_insert]
            intro same
            have long := collection (Option.some.inj same)
            exact two (one.trans (registryKey_one_eq_two long))
          · rw [AList.lookup_insert_ne one]
            exact unused target
      · exact fun setup member => overwritten setup (List.mem_cons_of_mem first member)

namespace MapsCreated

theorem apart (created : MapsCreated setups registry) {setup : VmSetup} (member : setup ∈ setups) :
    setup.collection ≠ setup.processing := by
  have pair := (List.nodup_flatMap.mp created.distinct).1 setup member
  simpa using pair

/-- The maps of different VMs are different. -/
theorem created_ne (created : MapsCreated setups registry) {first second : VmSetup}
    (firstMember : first ∈ setups) (secondMember : second ∈ setups) (different : first ≠ second)
    (left right : Buff) : first.created left ≠ second.created right := by
  have symmetric : Std.Symm (Function.onFun List.Disjoint fun setup : VmSetup =>
      [setup.collection, setup.processing]) := ⟨fun _ _ separate => List.Disjoint.symm separate⟩
  have disjoint := (List.nodup_flatMap.mp created.distinct).2.forall firstMember secondMember
    different
  have ofFirst : first.created left ∈ [first.collection, first.processing] := by
    cases left <;> simp [VmSetup.created, mapOf]
  intro same
  apply disjoint ofFirst
  rw [same]
  cases right <;> simp [VmSetup.created, mapOf]

end MapsCreated

end Registry

/-! ## When the keys agree -/

section Agreement

variable {setups : List VmSetup} {host : HostState} {actions : List SerialAction}

theorem lookup_afterEvents (key : VmKey) :
    (afterEvents actions (registerAll setups host)).mapRegistry.lookup key =
      (setups.foldl (fun registry setup => setup.register registry) host.mapRegistry).lookup
        key := by
  rw [afterEvents_mapRegistry, registerAll_mapRegistry]

theorem keysAgree_of_fits (created : MapsCreated setups host.mapRegistry)
    (distinct : (setups.map VmSetup.name).Nodup)
    (fits : ∀ setup ∈ setups, setup.name.bytes.length ≤ maxFittingName) :
    KeysAgree setups (afterEvents actions (registerAll setups host)) := by
  have found : ∀ setup ∈ setups, ∀ buff,
      (afterEvents actions (registerAll setups host)).mapRegistry.lookup
        (collectionBuff buff (vmKey setup.name.bytes)) = some (setup.created buff) := by
    intro setup member buff
    rw [collectionBuff_vmKey setup.name.nulFree (fits setup member), lookup_afterEvents]
    exact lookup_registerAll fits distinct member buff
  refine ⟨found, ?_, fun setup member => created.apart member, ?_⟩
  · intro setup member tid vcpu _ own buff
    rw [own]
    exact found setup member buff
  · intro first firstMember second secondMember different left right same
    rw [found first firstMember left] at same
    exact created.created_ne firstMember secondMember different left right (Option.some.inj same)

/-- The first map of a VM whose name does not fit is registered and overwritten
at once. -/
theorem fits_of_keysAgree (created : MapsCreated setups host.mapRegistry)
    (agree : KeysAgree setups (afterEvents actions (registerAll setups host)))
    {setup : VmSetup} (member : setup ∈ setups) :
    setup.name.bytes.length ≤ maxFittingName := by
  by_contra tooLong
  have long : maxFittingName < setup.name.bytes.length := Nat.lt_of_not_le tooLong
  have found := agree.timer setup member .one
  rw [lookup_afterEvents] at found
  refine lookup_registerAll_ne_of_overwritten ?_ ?_ _ found
  · intro key present
    exact (created.unused key _ present setup member).1 rfl
  · intro other otherMember
    by_cases same : other = setup
    · subst same
      exact ⟨(created.apart otherMember).symm, fun _ => long⟩
    · exact ⟨created.created_ne otherMember member same .two .one, fun taken =>
        absurd taken (created.created_ne otherMember member same .one .one)⟩

/-- **Key agreement.** After any number of VMs with different names have been
registered, and whatever events and ticks follow, the keys agree and isolate the
VMs if and only if every name leaves room for the suffix. -/
theorem keys_agree_iff_names_fit (setups : List VmSetup) (host : HostState)
    (actions : List SerialAction) (created : MapsCreated setups host.mapRegistry)
    (distinct : (setups.map VmSetup.name).Nodup) :
    KeysAgree setups (afterEvents actions (registerAll setups host)) ↔
      ∀ setup ∈ setups, setup.name.bytes.length ≤ maxFittingName :=
  ⟨fun agree _ member => fits_of_keysAgree created agree member, keysAgree_of_fits created distinct⟩

end Agreement

/-! ## Two VMs -/

theorem nulFree_replicate (count : Nat) : CharArray.NulFree (List.replicate count 97) := by
  intro byte member
  rw [List.eq_of_mem_replicate member]
  decide

/-- A VM whose name is `count` times the letter `a`, with one vCPU. -/
def letterSetup (count : Nat) (threadId : Tid) (collection processing : MapId) : VmSetup where
  args := {
    vcpus := [⟨0, threadId⟩]
    vmName := ⟨List.replicate count 97, nulFree_replicate count⟩
    qmpSocket := ⟨[97], nulFree_replicate 1⟩
    nbVcpus := 1 }
  allocated := true
  collection := collection
  processing := processing

/-- A name of 62 bytes finds the buffer of the VM named by its first 61. -/
theorem long_name_finds_foreign_buffer :
    (registerAll [letterSetup 61 7 1 2, letterSetup 62 8 3 4] emptyHost).mapRegistry.lookup
        (collectionBuff .one (vmKey (List.replicate 62 97))) = some 1 ∧
      ¬ KeysAgree [letterSetup 61 7 1 2, letterSetup 62 8 3 4]
        (afterEvents [] (registerAll [letterSetup 61 7 1 2, letterSetup 62 8 3 4] emptyHost)) := by
  have found : (registerAll [letterSetup 61 7 1 2, letterSetup 62 8 3 4] emptyHost).mapRegistry.lookup
      (collectionBuff .one (vmKey (List.replicate 62 97))) = some 1 := by decide +kernel
  refine ⟨found, fun agree => ?_⟩
  exact agree.isolated (letterSetup 62 8 3 4) (by simp) (letterSetup 61 7 1 2) (by simp)
    (by decide) .one .one found

/-- Two names that fit. -/
theorem short_names_agree :
    KeysAgree [letterSetup 61 7 1 2, letterSetup 60 8 3 4]
      (afterEvents [] (registerAll [letterSetup 61 7 1 2, letterSetup 60 8 3 4] emptyHost)) :=
  (keys_agree_iff_names_fit [letterSetup 61 7 1 2, letterSetup 60 8 3 4] emptyHost []
    ⟨by decide, fun key map found => by simp [emptyHost] at found⟩ (by decide)).mpr (by decide)

end PhantomTracker.Host
