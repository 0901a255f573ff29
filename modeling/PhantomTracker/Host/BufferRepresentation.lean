import PhantomTracker.Foundation.Runs
import PhantomTracker.Host.RecordedSlots
import PhantomTracker.Host.Timer
import PhantomTracker.Host.SwitchHandler
import PhantomTracker.Host.ToolExecutions

/-!
Contract: which slots of the collection maps have been written.

Owns: serialised runs of the tools, the handler and the timer that also keep, for
every map, the slots written since the map was created; that these runs are runs
of the host; and that along them every slot below the index of an active buffer
has been written, when no tool puts a new map under an advanced index.

Does not own: what the samples in the slots are.
-/

namespace PhantomTracker.Host

open PhantomTracker.Foundation

/-! ## Written slots -/

/-- The slots of each map written since the map was created. -/
abbrev WrittenSlots := MapId → Nat → Bool

/-- An update of slot `key` of a map. -/
def WrittenSlots.write (written : WrittenSlots) (maps : MapId → SampleMap) (map : MapId)
    (key : Nat) : WrittenSlots :=
  Function.update written map ((maps map).recordElem (written map) key)

/-- `bpf_map_create` returns a map of which nothing has been written. -/
def WrittenSlots.create (written : WrittenSlots) (map : MapId) : WrittenSlots :=
  Function.update written map fun _ => false

section Written

variable {written : WrittenSlots} {maps : MapId → SampleMap} {map other : MapId} {key slot : Nat}

theorem write_self (inside : key < (maps map).maxEntries) :
    written.write maps map key map key = true := by
  unfold WrittenSlots.write
  rw [Function.update_self, SampleMap.recordElem_self inside]

theorem write_of_written (already : written other slot = true) :
    written.write maps map key other slot = true := by
  unfold WrittenSlots.write
  by_cases same : other = map
  · subst same
    rw [Function.update_self]
    exact SampleMap.recordElem_of_recorded already
  · rw [Function.update_of_ne same]
    exact already

theorem create_of_ne (different : other ≠ map) : written.create map other = written other :=
  Function.update_of_ne different _ _

theorem write_congr {maps' : MapId → SampleMap}
    (sameCapacity : (maps' map).maxEntries = (maps map).maxEntries) :
    written.write maps' map key = written.write maps map key := by
  unfold WrittenSlots.write SampleMap.recordElem
  rw [sameCapacity]

/-- Every map is blank where nothing has been written. -/
def AllBlank (maps : MapId → SampleMap) (written : WrittenSlots) : Prop :=
  ∀ map, (maps map).Blank (written map)

theorem AllBlank.update (blank : AllBlank maps written) (map : MapId) (key : Nat)
    (sample : PhantomCount) :
    AllBlank (Function.update maps map ((maps map).updateElem key sample))
      (written.write maps map key) := by
  intro other
  unfold WrittenSlots.write
  by_cases same : other = map
  · subst same
    rw [Function.update_self, Function.update_self]
    exact (blank other).update key sample
  · rw [Function.update_of_ne same, Function.update_of_ne same]
    exact blank other

theorem AllBlank.create (blank : AllBlank maps written) (map : MapId) (maxEntries : Nat) :
    AllBlank (Function.update maps map (.fresh maxEntries)) (written.create map) := by
  intro other
  unfold WrittenSlots.create
  by_cases same : other = map
  · subst same
    rw [Function.update_self]
    exact SampleMap.blank_fresh _ _
  · rw [Function.update_of_ne same, Function.update_of_ne same]
    exact blank other

/-- Every map has the capacity that `setup_vm_maps` asks for. -/
def AllSized (maps : MapId → SampleMap) : Prop := ∀ map, (maps map).maxEntries = vmMapMaxEntries

theorem AllSized.replace (sized : AllSized maps) {new : SampleMap}
    (capacity : new.maxEntries = vmMapMaxEntries) : AllSized (Function.update maps map new) := by
  intro other
  by_cases same : other = map
  · rw [same, Function.update_self]
    exact capacity
  · rw [Function.update_of_ne same]
    exact sized other

theorem AllSized.update (sized : AllSized maps) (map : MapId) (key : Nat) (sample : PhantomCount) :
    AllSized (Function.update maps map ((maps map).updateElem key sample)) :=
  fun other => (SampleMap.update_maxEntries maps map key sample other).trans (sized other)

end Written

/-- The maps of the host, and the slots written. -/
structure TrackedHost where
  host : HostState
  written : WrittenSlots

namespace TrackedHost

/-! ## The programs -/

/-- One half of the handler, and the slot of the sample that it appends. -/
def half (half : Half) (now : Nat) (tid : Tid) (vcpu : VcpuT) (tracked : TrackedHost) :
    TrackedHost where
  host := switchHalf half now tid vcpu tracked.host
  written :=
    match tracked.host.vms.lookup vcpu.vmName with
    | none => tracked.written
    | some vm =>
        match tracked.host.mapRegistry.lookup (collectionBuff vm.active vcpu.vmName) with
        | none => tracked.written
        | some map => tracked.written.write tracked.host.sampleMaps map (vm.index vm.active)

def incoming (input : SwitchInput) (tracked : TrackedHost) : TrackedHost :=
  match tracked.host.vcpus.lookup input.event.nextPid with
  | some vcpu =>
      if input.msg vcpu = 1 ∧ vcpu.isPhantom = Half.incoming.expected then
        tracked.half .incoming input.incomingNow input.event.nextPid vcpu
      else tracked
  | none => tracked

def outgoing (input : SwitchInput) (prevState : Nat) (tracked : TrackedHost) : TrackedHost :=
  match tracked.host.vcpus.lookup input.event.prevPid with
  | some vcpu =>
      if input.msg vcpu = 1 ∧ (prevState = taskRunning ∨ prevState = taskWaking) ∧
          vcpu.isPhantom = Half.outgoing.expected then
        tracked.half .outgoing input.outgoingNow input.event.prevPid vcpu
      else tracked
  | none => tracked

/-- `phantom_switch_handler`. -/
def switch (input : SwitchInput) (tracked : TrackedHost) : TrackedHost :=
  (tracked.incoming input).outgoing input (incomingSwitch input tracked.host).2

/-- `callback_fn`, and the slots of its two boundary samples. -/
def tick (clock : TickClock) (lastIdleAvg : Option Nat) (key : VmKey) (tracked : TrackedHost) :
    TrackedHost where
  host := (callbackFn clock lastIdleAvg key tracked.host).1
  written :=
    match tracked.host.vms.lookup key with
    | none => tracked.written
    | some vm =>
        match tracked.host.mapRegistry.lookup (collectionBuff vm.active key),
            tracked.host.mapRegistry.lookup (collectionBuff vm.active.other key) with
        | some old, some new =>
            (tracked.written.write tracked.host.sampleMaps new 0).write tracked.host.sampleMaps old
              (vm.index vm.active)
        | _, _ => tracked.written

/-- `setup_vm_maps`, and the maps that it has created and registered. -/
def setup (failing : Option SetupCall) (collection processing : MapId) (vmName : CString)
    (tracked : TrackedHost) : TrackedHost where
  host := (setupVmMaps failing collection processing vmName tracked.host).1
  written :=
    match failing with
    | none => (tracked.written.create collection).create processing
    | some .registerProcessing => (tracked.written.create collection).create processing
    | some _ => tracked.written

end TrackedHost

/-- A complete execution of a tool or of a BPF program. -/
inductive HostAction where
  | register (failing : Option RegisterCall) (allocated : Bool) (args : RegisterArgs)
  | setup (failing : Option SetupCall) (collection processing : MapId) (vmName : CString)
  | cleanup (calls : CleanupCalls) (vmName : CString)
  | switch (input : SwitchInput)
  | tick (clock : TickClock) (lastIdleAvg : Option Nat) (key : VmKey)

/-- What the execution does to the host. -/
def HostAction.apply (host : HostState) : HostAction → HostState
  | .register failing allocated args => (registerVm failing allocated args host).1
  | .setup failing collection processing vmName =>
      (setupVmMaps failing collection processing vmName host).1
  | .cleanup calls vmName => Host.cleanup calls vmName host
  | .switch input => phantomSwitchHandler input host
  | .tick clock lastIdleAvg key => (callbackFn clock lastIdleAvg key host).1

namespace TrackedHost

def step (tracked : TrackedHost) : HostAction → Option TrackedHost
  | .register failing allocated args =>
      some { tracked with host := (registerVm failing allocated args tracked.host).1 }
  | .setup failing collection processing vmName =>
      some (tracked.setup failing collection processing vmName)
  | .cleanup calls vmName => some { tracked with host := Host.cleanup calls vmName tracked.host }
  | .switch input => some (tracked.switch input)
  | .tick clock lastIdleAvg key => some (tracked.tick clock lastIdleAvg key)

/-- Before any VM is registered. -/
def empty : TrackedHost := ⟨emptyHost, fun _ _ => false⟩

/-! ## Runs of the host -/

variable {tracked next : TrackedHost}

theorem incoming_host (input : SwitchInput) :
    (tracked.incoming input).host = (incomingSwitch input tracked.host).1 := by
  unfold incoming incomingSwitch
  cases tracked.host.vcpus.lookup input.event.nextPid with
  | none => rfl
  | some vcpu =>
      dsimp only
      split <;> rfl

theorem outgoing_host (input : SwitchInput) (prevState : Nat) :
    (tracked.outgoing input prevState).host = outgoingSwitch input prevState tracked.host := by
  unfold outgoing outgoingSwitch
  cases tracked.host.vcpus.lookup input.event.prevPid with
  | none => rfl
  | some vcpu =>
      dsimp only
      split <;> rfl

/-- Forgetting the written slots, a step is an execution on the host. -/
theorem step_host {action : HostAction} (taken : tracked.step action = some next) :
    next.host = action.apply tracked.host := by
  cases action with
  | switch input =>
      obtain rfl := Option.some.inj taken
      unfold switch
      rw [outgoing_host, incoming_host]
      rfl
  | register failing allocated args =>
      obtain rfl := Option.some.inj taken
      rfl
  | setup failing collection processing vmName =>
      obtain rfl := Option.some.inj taken
      rfl
  | cleanup calls vmName =>
      obtain rfl := Option.some.inj taken
      rfl
  | tick clock lastIdleAvg key =>
      obtain rfl := Option.some.inj taken
      rfl

/-! ## The representation invariant -/

/-- For every VM whose two buffers are registered, every slot below the index of
the active buffer and below its capacity has been written since that buffer was
created. -/
def BuffersWritten (tracked : TrackedHost) : Prop :=
  ∀ key vm old new, tracked.host.vms.lookup key = some vm →
    tracked.host.mapRegistry.lookup (collectionBuff vm.active key) = some old →
    tracked.host.mapRegistry.lookup (collectionBuff vm.active.other key) = some new →
    ∀ slot < vm.index vm.active, slot < (tracked.host.sampleMaps old).maxEntries →
      tracked.written old slot = true

/-- What `bpf_map_create` promises of the maps that a step creates. -/
def CreatesMaps (tracked : TrackedHost) : HostAction → Prop
  | .setup _ collection processing _ => NewMaps collection processing tracked.host
  | _ => True

/-- The registry keys that `setup_vm_maps` writes. -/
def setupKeys (failing : Option SetupCall) (vmName : CString) : List VmKey :=
  match failing with
  | none => [registryKey .one vmName.bytes, registryKey .two vmName.bytes]
  | some .registerProcessing => [registryKey .one vmName.bytes]
  | some _ => []

/-- A tool that puts a new map under the key of the active buffer of a VM finds
the index of that buffer at 0. -/
def IndexReset (tracked : TrackedHost) : HostAction → Prop
  | .setup failing _ _ vmName => ∀ key vm, tracked.host.vms.lookup key = some vm →
      collectionBuff vm.active key ∈ setupKeys failing vmName → vm.index vm.active = 0
  | _ => True

instance (collection processing : MapId) (host : HostState) :
    Decidable (NewMaps collection processing host) :=
  decidable_of_iff (collection ≠ processing ∧ ∀ key map, host.mapRegistry.lookup key = some map →
    map ≠ collection ∧ map ≠ processing)
    ⟨fun both => ⟨both.1, both.2⟩, fun new => ⟨new.distinct, new.unused⟩⟩

instance (tracked : TrackedHost) : (action : HostAction) → Decidable (tracked.CreatesMaps action)
  | .register _ _ _ => inferInstanceAs (Decidable True)
  | .setup _ collection processing _ =>
      inferInstanceAs (Decidable (NewMaps collection processing tracked.host))
  | .cleanup _ _ => inferInstanceAs (Decidable True)
  | .switch _ => inferInstanceAs (Decidable True)
  | .tick _ _ _ => inferInstanceAs (Decidable True)

instance (tracked : TrackedHost) : (action : HostAction) → Decidable (tracked.IndexReset action)
  | .register _ _ _ => inferInstanceAs (Decidable True)
  | .setup failing _ _ vmName => inferInstanceAs (Decidable
      (∀ key vm, tracked.host.vms.lookup key = some vm →
        collectionBuff vm.active key ∈ setupKeys failing vmName → vm.index vm.active = 0))
  | .cleanup _ _ => inferInstanceAs (Decidable True)
  | .switch _ => inferInstanceAs (Decidable True)
  | .tick _ _ _ => inferInstanceAs (Decidable True)

/-- The flag of a VM is 0 or 1, and the slots below the index of its active buffer
have been written, if that buffer is registered. -/
structure EntryWritten (written : WrittenSlots) (registry : FiniteMap VmKey MapId) (key : VmKey)
    (vm : VmT) : Prop where
  flag : vm.isCollectxInBuff1 = 0 ∨ vm.isCollectxInBuff1 = 1
  slots : ∀ map, registry.lookup (collectionBuff vm.active key) = some map →
    ∀ slot < vm.index vm.active, slot < vmMapMaxEntries → written map slot = true

/-- What holds between two executions. -/
structure Sound (tracked : TrackedHost) : Prop where
  sized : AllSized tracked.host.sampleMaps
  blank : AllBlank tracked.host.sampleMaps tracked.written
  entries : ∀ key vm, tracked.host.vms.lookup key = some vm →
    EntryWritten tracked.written tracked.host.mapRegistry key vm

theorem Sound.buffersWritten (sound : tracked.Sound) : tracked.BuffersWritten := by
  intro key vm old new found foundOld _ slot below inside
  rw [sound.sized] at inside
  exact (sound.entries key vm found).slots old foundOld slot below inside

theorem sound_empty : empty.Sound where
  sized _ := rfl
  blank _ := SampleMap.blank_fresh _ _
  entries _ _ found := nomatch found

section Entry

variable {written : WrittenSlots} {registry : FiniteMap VmKey MapId} {key : VmKey} {vm : VmT}

/-- More slots are written, and fewer maps are registered. -/
theorem EntryWritten.mono (entry : EntryWritten written registry key vm)
    {written' : WrittenSlots} {registry' : FiniteMap VmKey MapId}
    (moreWritten : ∀ map slot, written map slot = true → written' map slot = true)
    (fewerMaps : ∀ key map, registry'.lookup key = some map → registry.lookup key = some map) :
    EntryWritten written' registry' key vm where
  flag := entry.flag
  slots map registered slot below inside :=
    moreWritten map slot (entry.slots map (fewerMaps _ _ registered) slot below inside)

theorem entryWritten_of_zero (flag : vm.isCollectxInBuff1 = 0 ∨ vm.isCollectxInBuff1 = 1)
    (zero : vm.index vm.active = 0) : EntryWritten written registry key vm where
  flag := flag
  slots _ _ slot below := by
    rw [zero] at below
    cases below

/-- Storing one entry. -/
theorem entries_insert {vms : FiniteMap VmKey VmT} (stored : EntryWritten written registry key vm)
    (others : ∀ key vm, vms.lookup key = some vm → EntryWritten written registry key vm) :
    ∀ other after, (vms.insert key vm).lookup other = some after →
      EntryWritten written registry other after := by
  intro other after found
  by_cases same : other = key
  · subst same
    rw [AList.lookup_insert] at found
    exact Option.some.inj found ▸ stored
  · rw [AList.lookup_insert_ne same] at found
    exact others other after found

end Entry

/-! ### The tools -/

theorem Sound.register (sound : tracked.Sound) (failing : Option RegisterCall) (allocated : Bool)
    (args : RegisterArgs) :
    Sound { tracked with host := (registerVm failing allocated args tracked.host).1 } := by
  have stored : ∀ key vm, (tracked.host.vms.insert (vmKey args.vmName.bytes) args.vm).lookup key =
      some vm → EntryWritten tracked.written tracked.host.mapRegistry key vm :=
    entries_insert (entryWritten_of_zero (Or.inl rfl) rfl) sound.entries
  cases failing with
  | none => exact ⟨sound.sized, sound.blank, stored⟩
  | some call =>
      cases call with
      | mallocVm => exact ⟨sound.sized, sound.blank, sound.entries⟩
      | getVms => exact ⟨sound.sized, sound.blank, sound.entries⟩
      | getVcpus => exact ⟨sound.sized, sound.blank, sound.entries⟩
      | updateVms => exact ⟨sound.sized, sound.blank, sound.entries⟩
      | mallocVcpu position => exact ⟨sound.sized, sound.blank, stored⟩
      | updateVcpu position => exact ⟨sound.sized, sound.blank, stored⟩

/-- What remains after a deletion was there before. -/
theorem lookup_of_deleteElem {κ ν : Type} [DecidableEq κ] {succeeds : Bool} {deleted key : κ}
    {map : FiniteMap κ ν} {value : ν}
    (found : (deleteElem succeeds deleted map).lookup key = some value) :
    map.lookup key = some value := by
  rw [deleteElem_lookup] at found
  split at found
  · cases found
  · exact found

theorem Sound.cleanup (sound : tracked.Sound) (calls : CleanupCalls) (vmName : CString) :
    Sound { tracked with host := Host.cleanup calls vmName tracked.host } := by
  refine ⟨sound.sized, sound.blank, fun key vm found => ?_⟩
  apply (sound.entries key vm (lookup_of_deleteElem found)).mono
  · exact fun _ _ already => already
  · exact fun _ _ registered => lookup_of_deleteElem (lookup_of_deleteElem registered)

/-- New maps under some keys, when every active buffer under such a key has its
index at 0. -/
theorem Sound.of_created (sound : tracked.Sound) {collection processing : MapId}
    (new : NewMaps collection processing tracked.host) {registry : FiniteMap VmKey MapId}
    {keys : List VmKey}
    (registered : ∀ key map, registry.lookup key = some map →
      tracked.host.mapRegistry.lookup key = some map ∨ key ∈ keys)
    (reset : ∀ key vm, tracked.host.vms.lookup key = some vm →
      collectionBuff vm.active key ∈ keys → vm.index vm.active = 0) :
    Sound
      { host := { tracked.host with
          mapRegistry := registry
          sampleMaps := Function.update
            (Function.update tracked.host.sampleMaps collection (SampleMap.fresh vmMapMaxEntries))
            processing (SampleMap.fresh vmMapMaxEntries) }
        written := (tracked.written.create collection).create processing } where
  sized := (sound.sized.replace rfl).replace rfl
  blank := (sound.blank.create collection _).create processing _
  entries key vm found := by
    have entry := sound.entries key vm found
    refine ⟨entry.flag, fun map present slot below inside => ?_⟩
    rcases registered _ map present with before | written
    · have old := new.unused _ map before
      dsimp only
      rw [create_of_ne old.2, create_of_ne old.1]
      exact entry.slots map before slot below inside
    · rw [reset key vm found written] at below
      cases below

theorem Sound.setup (sound : tracked.Sound) {failing : Option SetupCall}
    {collection processing : MapId} {vmName : CString}
    (new : NewMaps collection processing tracked.host)
    (reset : tracked.IndexReset (.setup failing collection processing vmName)) :
    (tracked.setup failing collection processing vmName).Sound := by
  cases failing with
  | none =>
      apply sound.of_created new _ reset
      intro key map found
      rcases FiniteMap.lookup_or_eq_of_insert found with first | second
      · rcases FiniteMap.lookup_or_eq_of_insert first with before | one
        · exact Or.inl before
        · exact Or.inr (one ▸ List.mem_cons_self)
      · exact Or.inr (second ▸ List.mem_cons_of_mem _ List.mem_cons_self)
  | some call =>
      cases call with
      | registerProcessing =>
          apply sound.of_created new _ reset
          intro key map found
          rcases FiniteMap.lookup_or_eq_of_insert found with before | one
          · exact Or.inl before
          · exact Or.inr (one ▸ List.mem_cons_self)
      | getRegistry => exact sound
      | makeDirectory => exact sound
      | createCollection => exact sound
      | pinCollection => exact sound
      | createProcessing => exact sound
      | pinProcessing => exact sound
      | registerCollection => exact sound

/-! ### The BPF programs -/

theorem Sound.half (sound : tracked.Sound) (half : Half) (now : Nat) (tid : Tid) (vcpu : VcpuT) :
    (tracked.half half now tid vcpu).Sound := by
  unfold TrackedHost.half
  cases found : tracked.host.vms.lookup vcpu.vmName with
  | none =>
      rw [switchHalf_of_absent found]
      exact ⟨sound.sized, sound.blank, sound.entries⟩
  | some vm =>
      have entry := sound.entries vcpu.vmName vm found
      dsimp only
      cases buffered : tracked.host.mapRegistry.lookup (collectionBuff vm.active vcpu.vmName) with
      | none =>
          rw [switchHalf_of_unbuffered found buffered]
          refine ⟨sound.sized, sound.blank, entries_insert ⟨entry.flag, ?_⟩ sound.entries⟩
          intro map registered
          cases buffered.symm.trans registered
      | some map =>
          rw [switchHalf_of_buffered found buffered]
          refine ⟨sound.sized.update _ _ _, sound.blank.update _ _ _, entries_insert ⟨?_, ?_⟩ ?_⟩
          · rw [VmT.setIndex_isCollectxInBuff1]
            exact entry.flag
          · intro other registered slot below inside
            rw [VmT.setIndex_active] at registered below
            obtain rfl := Option.some.inj (buffered.symm.trans registered)
            rw [VmT.setCount_active, VmT.setIndex_index] at below
            have advanced := u32Succ_le (vm.index vm.active)
            by_cases newest : slot = vm.index vm.active
            · rw [newest] at inside ⊢
              exact write_self (by rw [sound.sized]; exact inside)
            · exact write_of_written (entry.slots map buffered slot (by omega) inside)
          · intro key vm present
            exact (sound.entries key vm present).mono (fun _ _ => write_of_written)
              fun _ _ registered => registered

theorem Sound.switch (sound : tracked.Sound) (input : SwitchInput) :
    (tracked.switch input).Sound := by
  have incoming : (tracked.incoming input).Sound := by
    unfold TrackedHost.incoming
    split
    · split
      · exact sound.half _ _ _ _
      · exact sound
    · exact sound
  unfold TrackedHost.switch TrackedHost.outgoing
  split
  · split
    · exact incoming.half _ _ _ _
    · exact incoming
  · exact incoming

/-- A tick does nothing, or it finds the VM and both of its buffers and writes a
boundary sample to each. -/
theorem tick_cases (tracked : TrackedHost) (clock : TickClock) (lastIdleAvg : Option Nat)
    (key : VmKey) :
    tracked.tick clock lastIdleAvg key = tracked ∨
      ∃ vm old new, tracked.host.vms.lookup key = some vm ∧
        tracked.host.mapRegistry.lookup (collectionBuff vm.active key) = some old ∧
        tracked.host.mapRegistry.lookup (collectionBuff vm.active.other key) = some new ∧
        (tracked.tick clock lastIdleAvg key).written =
          (tracked.written.write tracked.host.sampleMaps new 0).write tracked.host.sampleMaps old
            (vm.index vm.active) := by
  unfold tick callbackFn
  cases found : tracked.host.vms.lookup key with
  | none => exact Or.inl rfl
  | some vm =>
      dsimp only
      cases foundOld : tracked.host.mapRegistry.lookup (collectionBuff vm.active key) with
      | none => exact Or.inl rfl
      | some old =>
          cases foundNew : tracked.host.mapRegistry.lookup (collectionBuff vm.active.other key) with
          | none => exact Or.inl rfl
          | some new => exact Or.inr ⟨vm, old, new, rfl, foundOld, foundNew, rfl⟩

theorem Sound.tick (sound : tracked.Sound) (clock : TickClock) (lastIdleAvg : Option Nat)
    (key : VmKey) : (tracked.tick clock lastIdleAvg key).Sound := by
  rcases tracked.tick_cases clock lastIdleAvg key with
    idle | ⟨vm, old, new, found, foundOld, foundNew, boundary⟩
  · rw [idle]
    exact sound
  have entry := sound.entries key vm found
  have ticked : (tracked.tick clock lastIdleAvg key).host = _ :=
    callbackFn_of_buffered found foundOld foundNew
  have opened := sound.sized.update new 0 ⟨vm.phantomCount, clock.startNow⟩
  constructor
  · rw [ticked]
    exact opened.update _ _ _
  · rw [ticked, boundary, ← write_congr ((opened old).trans (sound.sized old).symm)]
    exact (sound.blank.update _ _ _).update _ _ _
  · rw [ticked, boundary]
    refine entries_insert ⟨ticked_flag entry.flag, ?_⟩ ?_
    · intro map registered slot below inside
      rw [ticked_active entry.flag] at registered below
      rw [ticked_index_other] at below
      obtain rfl := Option.some.inj (foundNew.symm.trans registered)
      obtain rfl : slot = 0 := Nat.lt_one_iff.mp below
      exact write_of_written (write_self (by rw [sound.sized]; exact inside))
    · intro other after present
      apply (sound.entries other after present).mono
      · exact fun _ _ already => write_of_written (write_of_written already)
      · exact fun _ _ registered => registered

theorem Sound.step (sound : tracked.Sound) {action : HostAction}
    (creates : tracked.CreatesMaps action) (reset : tracked.IndexReset action)
    (taken : tracked.step action = some next) : next.Sound := by
  cases action with
  | register failing allocated args =>
      exact Option.some.inj taken ▸ sound.register failing allocated args
  | setup failing collection processing vmName =>
      exact Option.some.inj taken ▸ sound.setup creates reset
  | cleanup calls vmName => exact Option.some.inj taken ▸ sound.cleanup calls vmName
  | switch input => exact Option.some.inj taken ▸ sound.switch input
  | tick clock lastIdleAvg key => exact Option.some.inj taken ▸ sound.tick clock lastIdleAvg key

/-- **No unwritten slot below an index.** In every serialised run of the tools, the
handler and the timer in which new maps are registered only under an index of 0,
the buffers of every VM are written up to their index. -/
theorem buffers_written_when_index_reset {actions : List HostAction} {final : TrackedHost}
    (run : GuardedRun TrackedHost.step
      (fun state action => state.CreatesMaps action ∧ state.IndexReset action) empty actions
      final) :
    final.BuffersWritten := by
  have sound : final.Sound := by
    apply run.invariant Sound _ sound_empty
    intro state action next sound allowed taken
    exact sound.step allowed.1 allowed.2 taken
  exact sound.buffersWritten

end TrackedHost

/-! ## Registering a VM twice -/

/-- Thread 7 is preempted while its guest slot reads 1. -/
def lonePreempted (now : Nat) : SwitchInput := ⟨⟨7, 1, 0⟩, fun _ => some 1, now, now⟩

/-- Thread 7 is scheduled in again. -/
def loneResumed (now : Nat) : SwitchInput := ⟨⟨1, 7, 0⟩, fun _ => some 1, now, now⟩

namespace TrackedHost

/-- The VM is registered, samples are taken across a tick, it is cleaned up, and
registered again with new maps. -/
def cleanedUpRun : List HostAction :=
  [.register none true loneArgs, .setup none 1 2 loneName, .switch (lonePreempted 10),
    .tick ⟨20, 20, 20⟩ none (vmKey loneName.bytes), .switch (loneResumed 30),
    .cleanup (.working true) loneName, .register none true loneArgs, .setup none 3 4 loneName,
    .switch (lonePreempted 40)]

theorem cleaned_up_vm_written :
    ∃ final, GuardedRun TrackedHost.step CreatesMaps empty cleanedUpRun final ∧
      final.BuffersWritten ∧ final.written 4 0 = true := by
  have executed : (exec TrackedHost.step
      (fun state action => state.CreatesMaps action ∧ state.IndexReset action) empty
      cleanedUpRun).any (fun final => final.written 4 0) = true := by
    decide +kernel
  rcases (Option.any_eq_true _ _).mp executed with ⟨final, reached, written⟩
  have run := guardedRun_of_exec reached
  exact ⟨final, run.mono fun _ _ both => both.1, buffers_written_when_index_reset run, written⟩

/-- The VM is registered a second time without a cleanup. Its vCPU is preempted
before `setup_vm_maps` creates the new maps, so that slot 0 of the new active
buffer lies below its index and has never been written. -/
def registeredTwice : List HostAction :=
  [.register none true loneArgs, .setup none 1 2 loneName, .register none true loneArgs,
    .switch (lonePreempted 10), .setup none 3 4 loneName]

theorem unwritten_slot_below_index :
    ∃ final, GuardedRun TrackedHost.step CreatesMaps empty registeredTwice final ∧
      ¬ final.BuffersWritten := by
  have executed : (exec TrackedHost.step CreatesMaps empty registeredTwice).any
      (fun final => (final.host.vms.lookup (vmKey loneName.bytes)).any fun vm =>
        decide (final.host.mapRegistry.lookup (collectionBuff vm.active (vmKey loneName.bytes)) =
            some 4 ∧
          final.host.mapRegistry.lookup (collectionBuff vm.active.other (vmKey loneName.bytes)) =
            some 3 ∧
          0 < vm.index vm.active ∧ 0 < (final.host.sampleMaps 4).maxEntries ∧
          final.written 4 0 = false)) = true := by
    decide +kernel
  rcases (Option.any_eq_true _ _).mp executed with ⟨final, reached, inspected⟩
  rcases (Option.any_eq_true _ _).mp inspected with ⟨vm, found, facts⟩
  rcases of_decide_eq_true facts with ⟨foundOld, foundNew, below, inside, unwritten⟩
  refine ⟨final, guardedRun_of_exec reached, fun written => ?_⟩
  have filled := written (vmKey loneName.bytes) vm 4 3 found foundOld foundNew 0 below inside
  rw [unwritten] at filled
  cases filled

end TrackedHost

end PhantomTracker.Host
