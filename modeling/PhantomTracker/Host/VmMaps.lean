import PhantomTracker.Host.State

/-!
Contract: the collection maps of a VM under their registry keys.

Owns: `setup_vm_maps` with its failures, that the key which the handler and the
timer build from a stored name is the key under which `setup_vm_maps` registers
the map, and that two VMs with names that fit have different keys.

Does not own: the directories of the VMs in the BPF file system, in which the maps are
pinned.
-/

namespace PhantomTracker.Host

open PhantomTracker.Foundation

/-! ## Registry keys of names that fit -/

/-- The longest name for which the copy loop of the handler and the timer leaves
room for the suffix. -/
def maxFittingName : Nat := vmNameLen - 3

/-- The array holds `text`, and zeros after it. -/
def Holds (array : VmKey) (text : List UInt8) : Prop :=
  array.bytes = text ++ List.replicate (vmNameLen - text.length) 0

theorem holds_zeroed : Holds (CharArray.zeroed vmNameLen) [] := rfl

theorem holds_copyString {text : List UInt8} (fits : text.length < vmNameLen) :
    Holds (CharArray.copyString vmNameLen text) text :=
  CharArray.copyString_bytes_of_lt fits

theorem Holds.unique {first second : VmKey} {text : List UInt8} (left : Holds first text)
    (right : Holds second text) : first = second :=
  CharArray.ext (left.trans right.symm)

/-- Writing the byte after the text. -/
theorem Holds.set {array : VmKey} {text : List UInt8} (holds : Holds array text)
    (room : text.length < vmNameLen) (byte : UInt8) :
    Holds (array.set text.length byte) (text ++ [byte]) := by
  obtain ⟨rest, split⟩ : ∃ rest, vmNameLen - text.length = rest + 1 :=
    ⟨vmNameLen - text.length - 1, by omega⟩
  have zeros : vmNameLen - (text ++ [byte]).length = rest := by
    rw [List.length_append, List.length_singleton]
    omega
  unfold Holds at holds ⊢
  show array.bytes.set text.length byte = _
  rw [holds, zeros, split, List.set_append_right _ _ le_rfl, Nat.sub_self, List.replicate_succ,
    List.set_cons_zero, List.append_assoc]
  rfl

/-- Writing a zero after the text. -/
theorem Holds.set_zero {array : VmKey} {text : List UInt8} (holds : Holds array text)
    (room : text.length < vmNameLen) : Holds (array.set text.length 0) text := by
  obtain ⟨rest, split⟩ : ∃ rest, vmNameLen - text.length = rest + 1 :=
    ⟨vmNameLen - text.length - 1, by omega⟩
  unfold Holds at holds ⊢
  show array.bytes.set text.length 0 = _
  rw [holds, split, List.set_append_right _ _ le_rfl, Nat.sub_self, List.replicate_succ,
    List.set_cons_zero]

theorem Holds.get_of_lt {array : VmKey} {text : List UInt8} (holds : Holds array text) {i : Nat}
    (below : i < text.length) : array.get i = text.get ⟨i, below⟩ := by
  unfold Holds at holds
  unfold CharArray.get
  rw [holds, List.getD_eq_getElem?_getD, List.getElem?_append_left below,
    List.getElem?_eq_getElem below]
  rfl

theorem Holds.get_length {array : VmKey} {text : List UInt8} (holds : Holds array text) :
    array.get text.length = 0 := by
  unfold Holds at holds
  unfold CharArray.get
  rw [holds, List.getD_eq_getElem?_getD, List.getElem?_append_right le_rfl, Nat.sub_self,
    List.getElem?_replicate]
  split <;> rfl

/-- The copy loop copies the name and stops behind it. The induction is on the
iterations that are left, and the array holds what has been copied so far. -/
theorem copyName_holds {vmName : VmKey} {name : List UInt8} (stored : Holds vmName name)
    (nulFree : CharArray.NulFree name) (fits : name.length ≤ maxFittingName) (remaining : Nat) :
    ∀ (array : VmKey) (i : Nat), Holds array (name.take i) → i ≤ name.length →
      i + remaining = maxFittingName →
      Holds (copyName vmName array i remaining).1 name ∧
        (copyName vmName array i remaining).2 = name.length := by
  have room : name.length < vmNameLen := by
    unfold maxFittingName at fits
    unfold vmNameLen at fits ⊢
    omega
  induction remaining with
  | zero =>
      intro array i holds within total
      obtain rfl : i = name.length := by omega
      rw [List.take_length] at holds
      exact ⟨holds, rfl⟩
  | succ remaining inductionHypothesis =>
      intro array i holds within total
      have copied : (name.take i).length = i := by
        rw [List.length_take]
        omega
      unfold copyName
      by_cases inside : i < name.length
      · have nonzero : vmName.get i ≠ 0 := by
          rw [stored.get_of_lt inside]
          exact nulFree _ (List.get_mem _ _)
        have extended := holds.set (by omega) (vmName.get i)
        rw [copied, stored.get_of_lt inside] at extended
        rw [if_neg nonzero, stored.get_of_lt inside]
        refine inductionHypothesis _ (i + 1) ?_ inside (by omega)
        rw [← List.take_append_getElem inside]
        exact extended
      · obtain rfl : i = name.length := by omega
        rw [List.take_length] at holds
        rw [stored.get_length, if_pos rfl]
        exact ⟨holds.set_zero room, rfl⟩

/-- **Both sides use the same key**: what the handler and the timer build from
the stored name is what `setup_vm_maps` registers. -/
theorem collectionBuff_vmKey {name : List UInt8} (nulFree : CharArray.NulFree name)
    (fits : name.length ≤ maxFittingName) (buff : Buff) :
    collectionBuff buff (vmKey name) = registryKey buff name := by
  have room : name.length + 2 < vmNameLen := by
    unfold maxFittingName at fits
    unfold vmNameLen at fits ⊢
    omega
  obtain ⟨copied, length⟩ := copyName_holds (holds_copyString (by omega)) nulFree fits
    maxFittingName _ 0 holds_zeroed (Nat.zero_le _) (by omega)
  have one : (name ++ [underscore]).length = name.length + 1 := List.length_append
  have two : (name ++ [underscore] ++ [buff.digit]).length = name.length + 2 := by
    rw [List.length_append, one]
    rfl
  have marked := copied.set (by omega) underscore
  have numbered := marked.set (by omega) buff.digit
  have ended := numbered.set_zero (by omega)
  rw [one, two, List.append_assoc] at ended
  have registered : Holds (registryKey buff name) (name ++ buff.suffix) := by
    apply holds_copyString
    rw [List.length_append]
    exact room
  refine Holds.unique ?_ registered
  unfold collectionBuff vmKey
  dsimp only
  rw [show vmNameLen - 3 = maxFittingName from rfl, length]
  exact ended

theorem suffix_nulFree (buff : Buff) : CharArray.NulFree buff.suffix := by
  cases buff <;> decide

/-- A name that fits is determined by its registry key, whichever buffer the key
is for. -/
theorem registryKey_name_injective {first second : List UInt8}
    (firstNulFree : CharArray.NulFree first) (secondNulFree : CharArray.NulFree second)
    (firstFits : first.length ≤ maxFittingName) (secondFits : second.length ≤ maxFittingName)
    {left right : Buff} (same : registryKey left first = registryKey right second) :
    first = second := by
  have suffixNulFree : ∀ (buff : Buff) (name : List UInt8), CharArray.NulFree name →
      CharArray.NulFree (name ++ buff.suffix) := by
    intro buff name nulFree byte member
    rcases List.mem_append.mp member with inName | inSuffix
    · exact nulFree byte inName
    · exact suffix_nulFree buff byte inSuffix
  have room : ∀ (buff : Buff) (name : List UInt8), name.length ≤ maxFittingName →
      (name ++ buff.suffix).length < vmNameLen := by
    intro buff name fits
    rw [List.length_append]
    show name.length + 2 < 64
    have : name.length ≤ 61 := fits
    omega
  have texts := CharArray.copyString_injective (suffixNulFree left first firstNulFree)
    (suffixNulFree right second secondNulFree) (room left first firstFits)
    (room right second secondFits) same
  have lengths : left.suffix.length = right.suffix.length := rfl
  exact (List.append_inj' texts lengths).1

/-! ## Registering the maps -/

/-- The calls of `setup_vm_maps` that can fail, in order. -/
inductive SetupCall where
  | getRegistry
  | makeDirectory
  | createCollection
  | pinCollection
  | createProcessing
  | pinProcessing
  | registerCollection
  | registerProcessing
deriving DecidableEq, Repr

/-- `setup_vm_maps`, with the call that fails if there is one. `collection` and
`processing` are the maps that `bpf_map_create` returns. -/
def setupVmMaps (failing : Option SetupCall) (collection processing : MapId) (vmName : CString)
    (state : HostState) : HostState × Int :=
  let created : HostState :=
    { state with
      sampleMaps := Function.update
        (Function.update state.sampleMaps collection (SampleMap.fresh vmMapMaxEntries))
        processing (SampleMap.fresh vmMapMaxEntries) }
  let one := state.mapRegistry.insert (registryKey .one vmName.bytes) collection
  match failing with
  | none =>
      ({ created with mapRegistry := one.insert (registryKey .two vmName.bytes) processing }, 0)
  | some .registerProcessing => ({ created with mapRegistry := one }, -1)
  | some _ => (state, -1)

/-- What `bpf_map_create` promises of the two maps: they differ from each other
and from every map that is registered. -/
structure NewMaps (collection processing : MapId) (state : HostState) : Prop where
  distinct : collection ≠ processing
  unused : ∀ key map, state.mapRegistry.lookup key = some map →
    map ≠ collection ∧ map ≠ processing

end PhantomTracker.Host
