import PhantomTracker.Foundation.CString
import PhantomTracker.Foundation.FiniteMap
import Mathlib.Algebra.Group.Nat.Defs
import Mathlib.Logic.Function.Basic

/-!
Contract: the BPF maps of the host side and the values they hold.

Owns: `vm_t`, `vcpu_t` and `phantom_count` of `register_vm_bpf.h` and
`phantom_tracker.h`; the per-VM sample arrays created by `setup_vm_maps`; the
state of the three pinned maps `vms`, `vcpus` and `map_registry`; and the
registry keys that `phantom_switch_handler` and `callback_fn` build from a VM
name.

Does not own: the programs that read and write these maps.
-/

namespace PhantomTracker.Host

open PhantomTracker.Foundation

/-- `VM_NAME_LEN`. -/
def vmNameLen : Nat := 64

/-- `VM_MAP_MAX_ENTRIES`. -/
def vmMapMaxEntries : Nat := 1000000

/-- A `char[VM_NAME_LEN]`: the key type of `vms` and `map_registry`, and the
name stored in a `vcpu_t`. -/
abbrev VmKey := CharArray vmNameLen

/-- A host thread id (`__u32`), the key type of `vcpus`. -/
abbrev Tid := Nat

/-- The id of a per-VM sample array. -/
abbrev MapId := Nat

/-- `struct phantom_count`: one timestamped sample of the counter. -/
structure PhantomCount where
  count : Int
  timestamp : Nat
deriving DecidableEq, Repr

/-- `struct vcpu_t`. -/
structure VcpuT where
  vcpuIndex : Nat
  vmName : VmKey
  isPhantom : Nat
deriving DecidableEq

/-- `struct vm_t`. The three index fields are `__u32` and wrap when they are
advanced; `phantom_count` is an `__s64` that its two update functions keep
within range. -/
structure VmT where
  qmpSocket : CharArray 128
  phantomCount : Int
  collectionBuff1Index : Nat
  collectionBuff2Index : Nat
  isCollectxInBuff1 : Nat
  nbVcpus : Nat
  h2gHistoryIndex : Nat
deriving DecidableEq

/-- The two collection buffers of a VM. -/
inductive Buff where
  | one
  | two
deriving DecidableEq, Repr

/-- The buffer that is not `buff`. -/
def Buff.other : Buff → Buff
  | .one => .two
  | .two => .one

theorem Buff.other_ne (buff : Buff) : buff.other ≠ buff := by
  cases buff <;> decide

theorem Buff.eq_other_of_ne {left right : Buff} (different : left ≠ right) :
    left = right.other := by
  cases left <;> cases right <;> first | rfl | exact absurd rfl different

/-- Successor of a `__u32` under `__sync_fetch_and_add(_, 1)`. -/
def u32Succ (value : Nat) : Nat := (value + 1) % 2 ^ 32

theorem u32Succ_le (idx : Nat) : u32Succ idx ≤ idx + 1 := Nat.mod_le _ _

theorem u32Succ_of_lt {idx : Nat} (below : idx < vmMapMaxEntries) : u32Succ idx = idx + 1 := by
  unfold u32Succ
  unfold vmMapMaxEntries at below
  omega

namespace VmT

/-- `collection_buff_1_index` or `collection_buff_2_index`. -/
def index (vm : VmT) : Buff → Nat
  | .one => vm.collectionBuff1Index
  | .two => vm.collectionBuff2Index

/-- Store a collection index. -/
def setIndex (vm : VmT) (buff : Buff) (value : Nat) : VmT :=
  match buff with
  | .one => { vm with collectionBuff1Index := value }
  | .two => { vm with collectionBuff2Index := value }

def setCount (vm : VmT) (count : Int) : VmT := { vm with phantomCount := count }

/-- The buffer that `is_collectx_in_buff_1` selects for collection. -/
def active (vm : VmT) : Buff :=
  if vm.isCollectxInBuff1 = 1 then .one else .two

@[simp] theorem setIndex_index (vm : VmT) (buff : Buff) (value : Nat) :
    (vm.setIndex buff value).index buff = value := by
  cases buff <;> rfl

@[simp] theorem setIndex_index_other (vm : VmT) (buff : Buff) (value : Nat) :
    (vm.setIndex buff value).index buff.other = vm.index buff.other := by
  cases buff <;> rfl

theorem setIndex_index_of_ne (vm : VmT) {buff target : Buff} (different : target ≠ buff)
    (value : Nat) : (vm.setIndex buff value).index target = vm.index target := by
  rw [Buff.eq_other_of_ne different, setIndex_index_other]

theorem index_setIndex (vm : VmT) (buff : Buff) (value : Nat) :
    (vm.setIndex buff value).index = Function.update vm.index buff value := by
  funext target
  by_cases same : target = buff
  · subst same
    rw [setIndex_index, Function.update_self]
  · rw [setIndex_index_of_ne vm same, Function.update_of_ne same]

@[simp] theorem setIndex_phantomCount (vm : VmT) (buff : Buff) (value : Nat) :
    (vm.setIndex buff value).phantomCount = vm.phantomCount := by
  cases buff <;> rfl

@[simp] theorem setIndex_nbVcpus (vm : VmT) (buff : Buff) (value : Nat) :
    (vm.setIndex buff value).nbVcpus = vm.nbVcpus := by
  cases buff <;> rfl

@[simp] theorem setIndex_isCollectxInBuff1 (vm : VmT) (buff : Buff) (value : Nat) :
    (vm.setIndex buff value).isCollectxInBuff1 = vm.isCollectxInBuff1 := by
  cases buff <;> rfl

@[simp] theorem setIndex_h2gHistoryIndex (vm : VmT) (buff : Buff) (value : Nat) :
    (vm.setIndex buff value).h2gHistoryIndex = vm.h2gHistoryIndex := by
  cases buff <;> rfl

@[simp] theorem setIndex_active (vm : VmT) (buff : Buff) (value : Nat) :
    (vm.setIndex buff value).active = vm.active := by
  cases buff <;> rfl

@[simp] theorem setCount_phantomCount (vm : VmT) (count : Int) :
    (vm.setCount count).phantomCount = count := rfl

@[simp] theorem setCount_nbVcpus (vm : VmT) (count : Int) :
    (vm.setCount count).nbVcpus = vm.nbVcpus := rfl

@[simp] theorem setCount_isCollectxInBuff1 (vm : VmT) (count : Int) :
    (vm.setCount count).isCollectxInBuff1 = vm.isCollectxInBuff1 := rfl

@[simp] theorem setCount_h2gHistoryIndex (vm : VmT) (count : Int) :
    (vm.setCount count).h2gHistoryIndex = vm.h2gHistoryIndex := rfl

@[simp] theorem setCount_active (vm : VmT) (count : Int) :
    (vm.setCount count).active = vm.active := rfl

@[simp] theorem setCount_index (vm : VmT) (count : Int) (buff : Buff) :
    (vm.setCount count).index buff = vm.index buff := by
  cases buff <;> rfl

end VmT

/-- A `BPF_MAP_TYPE_ARRAY` of samples. -/
structure SampleMap where
  maxEntries : Nat
  slot : Nat → PhantomCount

namespace SampleMap

/-- A freshly created array: every slot is zero. -/
def fresh (maxEntries : Nat) : SampleMap :=
  ⟨maxEntries, fun _ => ⟨0, 0⟩⟩

/-- `bpf_map_lookup_elem` on an array: no element at or past `max_entries`. -/
def lookupElem (map : SampleMap) (key : Nat) : Option PhantomCount :=
  if key < map.maxEntries then some (map.slot key) else none

/-- `bpf_map_update_elem` on an array: refused at or past `max_entries`. The
callers ignore the result. -/
def updateElem (map : SampleMap) (key : Nat) (sample : PhantomCount) : SampleMap :=
  if key < map.maxEntries then { map with slot := Function.update map.slot key sample }
  else map

@[simp] theorem updateElem_maxEntries (map : SampleMap) (key : Nat) (sample : PhantomCount) :
    (map.updateElem key sample).maxEntries = map.maxEntries := by
  unfold updateElem
  split <;> rfl

/-- Storing a sample in one of the maps changes the capacity of none. -/
theorem update_maxEntries {ι : Type} [DecidableEq ι] (maps : ι → SampleMap) (target : ι)
    (key : Nat) (sample : PhantomCount) (map : ι) :
    (Function.update maps target ((maps target).updateElem key sample) map).maxEntries =
      (maps map).maxEntries := by
  by_cases same : map = target
  · subst same
    rw [Function.update_self, updateElem_maxEntries]
  · rw [Function.update_of_ne same]

theorem updateElem_slot_same {map : SampleMap} {key : Nat} (below : key < map.maxEntries)
    (sample : PhantomCount) : (map.updateElem key sample).slot key = sample := by
  unfold updateElem
  rw [if_pos below]
  exact Function.update_self key sample map.slot

theorem updateElem_slot_of_ne (map : SampleMap) {key other : Nat} (different : other ≠ key)
    (sample : PhantomCount) : (map.updateElem key sample).slot other = map.slot other := by
  unfold updateElem
  split
  · exact Function.update_of_ne different sample map.slot
  · rfl

end SampleMap

/-- The pinned maps `vms`, `vcpus` and `map_registry`, and the sample arrays
that registry entries refer to. -/
structure HostState where
  vms : FiniteMap VmKey VmT
  vcpus : FiniteMap Tid VcpuT
  mapRegistry : FiniteMap VmKey MapId
  sampleMaps : MapId → SampleMap

/-- The maps before any VM is registered. -/
def emptyHost : HostState := ⟨∅, ∅, ∅, fun _ => SampleMap.fresh vmMapMaxEntries⟩

/-! ## Registry keys -/

/-- ASCII `_`, `1` and `2`. -/
def underscore : UInt8 := 95

/-- The digit that ends the registry key of a buffer. -/
def Buff.digit : Buff → UInt8
  | .one => 49
  | .two => 50

/-- `VM_KEY_SUFFIX_1` and `VM_KEY_SUFFIX_2`. -/
def Buff.suffix (buff : Buff) : List UInt8 := [underscore, buff.digit]

/-- The copy loop `for (i = 0; i < VM_NAME_LEN - 3; i++)`, from index `i` with
`remaining` iterations left. It returns the buffer and the final `i`. -/
def copyName (vmName : VmKey) : VmKey → Nat → Nat → VmKey × Nat
  | buff, i, 0 => (buff, i)
  | buff, i, remaining + 1 =>
      let c := vmName.get i
      let buff := buff.set i c
      if c = 0 then (buff, i) else copyName vmName buff (i + 1) remaining

/-- `collection_buff_1` or `collection_buff_2` as `phantom_switch_handler` and
`callback_fn` build it from a stored VM name. -/
def collectionBuff (buff : Buff) (vmName : VmKey) : VmKey :=
  let copied := copyName vmName (CharArray.zeroed vmNameLen) 0 (vmNameLen - 3)
  ((copied.1.set copied.2 underscore).set (copied.2 + 1) buff.digit).set (copied.2 + 2) 0

/-- The `vms` key and the stored `vm_name` that `register_vm` derives from a
name. -/
def vmKey (name : List UInt8) : VmKey := CharArray.copyString vmNameLen name

/-- The `map_registry` key that `setup_vm_maps` and `cleanup` derive from a
name. -/
def registryKey (buff : Buff) (name : List UInt8) : VmKey :=
  CharArray.copyString vmNameLen (name ++ buff.suffix)

end PhantomTracker.Host
