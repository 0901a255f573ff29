import PhantomTracker.Foundation.PathTree
import PhantomTracker.Host.QmpParser
import PhantomTracker.Host.VmMaps

/-!
Contract: the directories of the VMs in the BPF file system.

Owns: the paths that `setup_vm_maps` and `cleanup` build from the name of a VM, with the
buffers that cut them off, what the two do to the tree, and the entries that each of them
can change.

Does not own: names with a slash, names that the buffers of `setup_vm_maps` cut off, or
who reads the pinned maps.
-/

namespace PhantomTracker.Host

open PhantomTracker.Foundation

/-! ## Paths -/

/-- What a file of the BPF file system stands for. -/
inductive PinnedObject where
  | link
  | map (id : MapId)
deriving DecidableEq, Repr

abbrev Bpffs := PathTree PinnedObject

/-- `PIN_BASE`. -/
def pinBase : List UInt8 := asciiBytes "/sys/fs/bpf"

def pinBaseNames : List FileName := [asciiBytes "sys", asciiBytes "fs", asciiBytes "bpf"]

theorem resolve_pinBase : resolve pinBase = pinBaseNames := by decide +kernel

/-- What `snprintf` leaves of a text in an array of the given size. -/
def snprintf (size : Nat) (text : List UInt8) : List UInt8 := text.take (size - 1)

/-- Where a path leads in the BPF file system, if it leads there. -/
def bpffsPath (text : List UInt8) : Option (List FileName) :=
  if pinBaseNames <+: resolve text then some ((resolve text).drop pinBaseNames.length) else none

theorem bpffsPath_of_resolve {text : List UInt8} {path : List FileName}
    (leads : resolve text = pinBaseNames ++ path) : bpffsPath text = some path := by
  unfold bpffsPath
  rw [leads, if_pos (List.prefix_append pinBaseNames path), List.drop_left]

/-- The name of a VM as the tools get it. The bounds keep the paths of `setup_vm_maps`
whole. -/
structure VmName extends CString where
  plain : slash ∉ bytes
  fits : bytes.length ≤ 97
deriving DecidableEq

/-- `collection_buff_1` and `collection_buff_2`. -/
def buffName : Buff → FileName
  | .one => asciiBytes "collection_buff_1"
  | .two => asciiBytes "collection_buff_2"

namespace VmName

variable (vm : VmName)

/-- `PIN_BASE "/%s"`. -/
def directoryText : List UInt8 := pinBase ++ slash :: vm.bytes

/-- `dir_path` of `setup_vm_maps`. -/
def dirPath : List UInt8 := snprintf 128 vm.directoryText

/-- `pin_path` of `setup_vm_maps`. -/
def pinPath (buff : Buff) : List UInt8 :=
  snprintf 128 (vm.directoryText ++ slash :: buffName buff)

/-- `path` of `cleanup`. -/
def cleanupPath : List UInt8 := snprintf 256 vm.directoryText

/-- `entry_path` of `unlink_dir_contents`. -/
def entryPath (entry : FileName) : List UInt8 := snprintf 320 (vm.cleanupPath ++ slash :: entry)

/-- Where the name leads: for most names to a directory of its own. -/
def place : Option (List FileName) :=
  if vm.bytes = [] ∨ vm.bytes = [46] then some []
  else if vm.bytes = [46, 46] then none
  else some [vm.bytes]

theorem directoryText_length : vm.directoryText.length = 12 + vm.bytes.length := by
  have base : pinBase.length = 11 := by decide +kernel
  unfold directoryText
  rw [List.length_append, List.length_cons, base]
  omega

theorem buffName_length (buff : Buff) : (buffName buff).length = 17 := by
  cases buff <;> decide +kernel

theorem proper_buffName (buff : Buff) : Proper (buffName buff) := by
  cases buff <;> exact ⟨by decide +kernel, by decide +kernel, by decide +kernel, by decide +kernel⟩

/-- The buffers are large enough. -/
theorem dirPath_eq : vm.dirPath = vm.directoryText := by
  have length := vm.directoryText_length
  have fits := vm.fits
  exact List.take_of_length_le (by omega)

theorem pinPath_eq (buff : Buff) :
    vm.pinPath buff = vm.directoryText ++ slash :: buffName buff := by
  have length := vm.directoryText_length
  have fits := vm.fits
  apply List.take_of_length_le
  rw [List.length_append, List.length_cons, buffName_length]
  omega

theorem cleanupPath_eq : vm.cleanupPath = vm.directoryText := by
  have length := vm.directoryText_length
  have fits := vm.fits
  exact List.take_of_length_le (by omega)

theorem entryPath_eq {entry : FileName} (short : entry.length ≤ 200) :
    vm.entryPath entry = vm.directoryText ++ slash :: entry := by
  have length := vm.directoryText_length
  have fits := vm.fits
  unfold entryPath
  rw [cleanupPath_eq]
  apply List.take_of_length_le
  rw [List.length_append, List.length_cons]
  omega

theorem resolve_directoryText : resolve vm.directoryText = enter pinBaseNames vm.bytes := by
  unfold directoryText
  rw [resolve_child pinBase vm.plain, resolve_pinBase]

theorem bpffsPath_directoryText : bpffsPath vm.directoryText = vm.place := by
  unfold place
  split_ifs with stays leaves
  · apply bpffsPath_of_resolve
    rw [resolve_directoryText, enter, if_pos stays, List.append_nil]
  · unfold bpffsPath
    rw [resolve_directoryText, enter, if_neg stays, if_pos leaves]
    decide +kernel
  · apply bpffsPath_of_resolve
    rw [resolve_directoryText, enter, if_neg stays, if_neg leaves]

/-- An entry of the directory of a VM. -/
theorem bpffsPath_entry {entry : FileName} (proper : Proper entry) {directory : List FileName}
    (leads : vm.place = some directory) :
    bpffsPath (vm.directoryText ++ slash :: entry) = some (directory ++ [entry]) := by
  unfold place at leads
  apply bpffsPath_of_resolve
  rw [resolve_child _ proper.plain, resolve_directoryText, proper.enter, enter]
  split_ifs at leads with stays leaves
  · obtain rfl := Option.some.inj leads
    rw [if_pos stays]
    rfl
  · obtain rfl := Option.some.inj leads
    rw [if_neg stays, if_neg leaves, List.append_assoc]

theorem bpffsPath_dirPath : bpffsPath vm.dirPath = vm.place := by
  rw [dirPath_eq, bpffsPath_directoryText]

theorem bpffsPath_cleanupPath : bpffsPath vm.cleanupPath = vm.place := by
  rw [cleanupPath_eq, bpffsPath_directoryText]

theorem bpffsPath_pinPath (buff : Buff) :
    bpffsPath (vm.pinPath buff) = vm.place.map (· ++ [buffName buff]) := by
  rw [pinPath_eq]
  cases leads : vm.place with
  | some directory => exact vm.bpffsPath_entry (proper_buffName buff) leads
  | none =>
      unfold place at leads
      split_ifs at leads with stays leaves
      unfold bpffsPath
      rw [resolve_child _ (proper_buffName buff).plain, resolve_directoryText,
        (proper_buffName buff).enter, enter, if_neg stays, if_pos leaves]
      cases buff <;> decide +kernel

theorem bpffsPath_entryPath {entry : FileName} (proper : Proper entry)
    (short : entry.length ≤ 200) {directory : List FileName} (leads : vm.place = some directory) :
    bpffsPath (vm.entryPath entry) = some (directory ++ [entry]) := by
  rw [entryPath_eq vm short, vm.bpffsPath_entry proper leads]

end VmName

/-! ## The tools -/

/-- `mkdir` of `setup_vm_maps`, which takes a directory that exists for its own. -/
def makeVmDirectory (fails : Bool) (vm : VmName) (tree : Bpffs) : Option Bpffs :=
  if fails then none
  else
    match bpffsPath vm.dirPath with
    | none => some tree
    | some path =>
        match tree.mkdir path with
        | .ok next => some next
        | .error .eexist => some tree
        | .error .enoent => none

/-- `unlink` and `bpf_obj_pin` of `setup_vm_maps`, and whether the pin succeeds. -/
def pinMap (fails : Bool) (text : List UInt8) (map : MapId) (tree : Bpffs) : Bpffs × Bool :=
  match bpffsPath text with
  | none => (tree, false)
  | some path =>
      if fails then (tree.unlink path, false)
      else
        match (tree.unlink path).create path (.map map) with
        | some next => (next, true)
        | none => (tree.unlink path, false)

def mapRegistryName : FileName := asciiBytes "map_registry"

/-- The part of `setup_vm_maps` after `mkdir`, as far as it concerns the tree, and the call
at which it gives up. -/
def pinVmMaps (failing : Option SetupCall) (collection processing : MapId) (vm : VmName)
    (tree : Bpffs) : Bpffs × Option SetupCall :=
  if failing = some .createCollection then (tree, some .createCollection)
  else
    match pinMap (failing = some .pinCollection) (vm.pinPath .one) collection tree with
    | (first, false) => (first, some .pinCollection)
    | (first, true) =>
        if failing = some .createProcessing then (first, some .createProcessing)
        else
          match pinMap (failing = some .pinProcessing) (vm.pinPath .two) processing first with
          | (second, false) => (second, some .pinProcessing)
          | (second, true) => (second, failing)

/-- What `setup_vm_maps` does to the tree, and the call at which it gives up: one that
the environment lets fail, or one that the tree does not allow. -/
def setupVmDirectory (failing : Option SetupCall) (collection processing : MapId) (vm : VmName)
    (tree : Bpffs) : Bpffs × Option SetupCall :=
  if failing = some .getRegistry ∨ tree.isFile [mapRegistryName] = false then
    (tree, some .getRegistry)
  else
    match makeVmDirectory (failing = some .makeDirectory) vm tree with
    | none => (tree, some .makeDirectory)
    | some made => pinVmMaps failing collection processing vm made

/-- `unlink_dir_contents`, for a directory that can be opened. `fails` are the entries
whose `unlink` fails. -/
def unlinkDirContents (fails : FileName → Bool) (vm : VmName) (path : List FileName)
    (tree : Bpffs) : Bpffs :=
  tree.unlinkAll (((tree.children path).filter fun entry => !fails entry).filterMap fun entry =>
    bpffsPath (vm.entryPath entry))

/-- What `cleanup` does to the tree. -/
def cleanupVmDirectory (fails : FileName → Bool) (rmdirFails : Bool) (vm : VmName)
    (tree : Bpffs) : Bpffs :=
  match bpffsPath vm.cleanupPath with
  | none => tree
  | some path =>
      if tree.isDirectory path then
        if rmdirFails then unlinkDirContents fails vm path tree
        else (unlinkDirContents fails vm path tree).rmdir path
      else tree

inductive DirectoryOp where
  | setup (failing : Option SetupCall) (collection processing : MapId) (vm : VmName)
  | cleanup (fails : FileName → Bool) (rmdirFails : Bool) (vm : VmName)

def DirectoryOp.vm : DirectoryOp → VmName
  | .setup _ _ _ vm => vm
  | .cleanup _ _ vm => vm

def DirectoryOp.apply (tree : Bpffs) : DirectoryOp → Bpffs
  | .setup failing collection processing vm =>
      (setupVmDirectory failing collection processing vm tree).1
  | .cleanup fails rmdirFails vm => cleanupVmDirectory fails rmdirFails vm tree

/-! ## What a set-up changes -/

section Setup

variable {vm : VmName} {tree next : Bpffs} {other : List FileName}

/-- Everything that a set-up can do: it adds the directory of the VM, and replaces files
under the names of the two buffers. -/
structure SetupChange (vm : VmName) (tree next : Bpffs) : Prop where
  entry : ∀ other node, next.lookup other = some node → tree.lookup other = some node ∨
    (vm.place = some other ∧ other ≠ [] ∧ node = .directory) ∨
    ∃ buff map, vm.place.map (· ++ [buffName buff]) = some other ∧ node = .file (.map map)
  kept : ∀ other node, tree.lookup other = some node →
    (∀ buff, vm.place.map (· ++ [buffName buff]) ≠ some other) → next.lookup other = some node

theorem SetupChange.refl (vm : VmName) (tree : Bpffs) : SetupChange vm tree tree :=
  ⟨fun _ _ found => Or.inl found, fun _ _ found _ => found⟩

theorem SetupChange.trans {last : Bpffs} (first : SetupChange vm tree next)
    (second : SetupChange vm next last) : SetupChange vm tree last := by
  refine ⟨fun other node found => ?_, fun other node found spared => ?_⟩
  · rcases second.entry other node found with before | added
    · exact first.entry other node before
    · exact Or.inr added
  · exact second.kept other node (first.kept other node found spared) spared

theorem makeVmDirectory_change {fails : Bool} (made : makeVmDirectory fails vm tree = some next) :
    SetupChange vm tree next := by
  unfold makeVmDirectory at made
  rw [vm.bpffsPath_dirPath] at made
  cases fails with
  | true => cases made
  | false =>
      cases leads : vm.place with
      | none =>
          rw [leads] at made
          obtain rfl := Option.some.inj made
          exact .refl vm tree
      | some path =>
          rw [leads] at made
          simp only [Bool.false_eq_true, if_false] at made
          cases result : tree.mkdir path with
          | error error =>
              rw [result] at made
              cases error with
              | eexist =>
                  obtain rfl := Option.some.inj made
                  exact .refl vm tree
              | enoent => cases made
          | ok inserted =>
              rw [result] at made
              obtain rfl := Option.some.inj made
              obtain ⟨vacant, stored⟩ := PathTree.mkdir_ok result
              refine ⟨fun other node found => ?_, fun other node found _ => ?_⟩
              · by_cases same : other = path
                · subst same
                  rw [stored] at found
                  exact Or.inr (Or.inl ⟨leads, vacant.1, (Option.some.inj found).symm⟩)
                · rw [PathTree.lookup_mkdir result same] at found
                  exact Or.inl found
              · have different : other ≠ path := by
                  rintro rfl
                  cases vacant.2.symm.trans found
                rw [PathTree.lookup_mkdir result different, found]

theorem pinMap_change {buff : Buff} {fails done : Bool} {map : MapId}
    (result : pinMap fails (vm.pinPath buff) map tree = (next, done)) :
    SetupChange vm tree next := by
  obtain rfl : (pinMap fails (vm.pinPath buff) map tree).1 = next := by rw [result]
  unfold pinMap
  rw [vm.bpffsPath_pinPath]
  cases leads : vm.place.map (· ++ [buffName buff]) with
  | none => exact .refl vm tree
  | some path =>
      have unlinked : SetupChange vm tree (tree.unlink path) := by
        refine ⟨fun other node found => ?_, fun other node found spared => ?_⟩
        · rw [PathTree.lookup_unlink] at found
          split_ifs at found
          exact Or.inl found
        · rw [PathTree.lookup_unlink, if_neg, found]
          rintro ⟨rfl, -⟩
          exact spared buff leads
      cases fails with
      | true => exact unlinked
      | false =>
          simp only [Bool.false_eq_true, if_false]
          cases created : (tree.unlink path).create path (.map map) with
          | none => exact unlinked
          | some last =>
              refine unlinked.trans ⟨fun other node found => ?_, fun other node found spared => ?_⟩
              · by_cases same : other = path
                · subst same
                  rw [PathTree.create_self created] at found
                  exact Or.inr (Or.inr ⟨buff, map, leads, (Option.some.inj found).symm⟩)
                · rw [PathTree.lookup_create created same] at found
                  exact Or.inl found
              · have different : other ≠ path := by
                  rintro rfl
                  exact spared buff leads
                rw [PathTree.lookup_create created different, found]

theorem pinVmMaps_change (failing : Option SetupCall) (collection processing : MapId)
    (vm : VmName) (tree : Bpffs) :
    SetupChange vm tree (pinVmMaps failing collection processing vm tree).1 := by
  unfold pinVmMaps
  split
  · exact .refl vm tree
  split
  · rename_i first isFirst
    exact pinMap_change isFirst
  rename_i first isFirst
  have one := pinMap_change isFirst
  split
  · exact one
  split
  · rename_i second isSecond
    exact one.trans (pinMap_change isSecond)
  · rename_i second isSecond
    exact one.trans (pinMap_change isSecond)

theorem setupVmDirectory_change (failing : Option SetupCall) (collection processing : MapId)
    (vm : VmName) (tree : Bpffs) :
    SetupChange vm tree (setupVmDirectory failing collection processing vm tree).1 := by
  unfold setupVmDirectory
  split
  · exact .refl vm tree
  split
  · exact .refl vm tree
  · rename_i made isMade
    exact (makeVmDirectory_change isMade).trans
      (pinVmMaps_change failing collection processing vm made)

end Setup

/-! ## What a cleanup changes -/

/-- Every entry has a name that the tools can build a path for. -/
def Named (tree : Bpffs) : Prop :=
  ∀ path node, tree.lookup path = some node → ∀ name ∈ path, Proper name ∧ name.length ≤ 200

section Cleanup

variable {vm : VmName} {tree : Bpffs} {other directory : List FileName}

/-- The files of the directory whose `unlink` does not fail go. -/
theorem lookup_unlinkDirContents (named : Named tree) (leads : vm.place = some directory)
    (fails : FileName → Bool) (other : List FileName) :
    (unlinkDirContents fails vm directory tree).lookup other =
      if other ∈ ((tree.children directory).filter fun entry => !fails entry).map
          (directory ++ [·]) ∧ tree.isFile other = true then none
      else tree.lookup other := by
  have paths : ((tree.children directory).filter fun entry => !fails entry).filterMap
      (fun entry => bpffsPath (vm.entryPath entry)) =
        ((tree.children directory).filter fun entry => !fails entry).map (directory ++ [·]) := by
    rw [← List.filterMap_eq_map]
    apply List.filterMap_congr
    intro entry member
    have present := PathTree.mem_children.mp (List.mem_of_mem_filter member)
    obtain ⟨node, found⟩ := Option.isSome_iff_exists.mp present
    obtain ⟨proper, short⟩ := named _ node found entry (by simp)
    exact vm.bpffsPath_entryPath proper short leads
  unfold unlinkDirContents
  rw [paths, PathTree.lookup_unlinkAll]

theorem unlinkDirContents_kept (named : Named tree) (leads : vm.place = some directory)
    (fails : FileName → Bool) (outside : ∀ entry, other ≠ directory ++ [entry]) :
    (unlinkDirContents fails vm directory tree).lookup other = tree.lookup other := by
  rw [lookup_unlinkDirContents named leads, if_neg]
  rintro ⟨member, -⟩
  obtain ⟨entry, -, isOther⟩ := List.mem_map.mp member
  exact outside entry isOther.symm

theorem unlinkDirContents_entry (named : Named tree) (leads : vm.place = some directory)
    (fails : FileName → Bool) {node : PathNode PinnedObject}
    (found : (unlinkDirContents fails vm directory tree).lookup other = some node) :
    tree.lookup other = some node := by
  rw [lookup_unlinkDirContents named leads] at found
  split_ifs at found
  exact found

theorem unlinkDirContents_gone (named : Named tree) (leads : vm.place = some directory)
    {fails : FileName → Bool} {entry : FileName} (works : fails entry = false)
    (file : tree.isFile (directory ++ [entry]) = true) :
    (unlinkDirContents fails vm directory tree).lookup (directory ++ [entry]) = none := by
  rw [lookup_unlinkDirContents named leads, if_pos]
  refine ⟨List.mem_map.mpr ⟨entry, List.mem_filter.mpr ⟨?_, by rw [works]; rfl⟩, rfl⟩, file⟩
  obtain ⟨object, found⟩ := PathTree.isFile_iff.mp file
  exact PathTree.mem_children.mpr (by rw [found]; rfl)

theorem cleanup_of_not_directory {fails : FileName → Bool} {rmdirFails : Bool}
    (leads : vm.place = some directory) (missing : tree.isDirectory directory = false) :
    cleanupVmDirectory fails rmdirFails vm tree = tree := by
  unfold cleanupVmDirectory
  rw [vm.bpffsPath_cleanupPath, leads]
  simp only [missing, Bool.false_eq_true, if_false]

/-- A cleanup removes entries of the directory, and the directory. -/
theorem cleanup_kept {fails : FileName → Bool} {rmdirFails : Bool} (named : Named tree)
    (outside : ∀ directory, vm.place = some directory → other ≠ directory ∧
      ∀ entry, other ≠ directory ++ [entry]) :
    (cleanupVmDirectory fails rmdirFails vm tree).lookup other = tree.lookup other := by
  unfold cleanupVmDirectory
  rw [vm.bpffsPath_cleanupPath]
  cases leads : vm.place with
  | none => rfl
  | some directory =>
      obtain ⟨notItself, notInside⟩ := outside directory leads
      have emptied := unlinkDirContents_kept named leads fails notInside
      dsimp only
      split_ifs
      · exact emptied
      · rw [PathTree.lookup_rmdir notItself, emptied]
      · rfl

/-- A cleanup adds nothing. -/
theorem cleanup_entry {fails : FileName → Bool} {rmdirFails : Bool} (named : Named tree)
    {node : PathNode PinnedObject}
    (found : (cleanupVmDirectory fails rmdirFails vm tree).lookup other = some node) :
    tree.lookup other = some node := by
  unfold cleanupVmDirectory at found
  rw [vm.bpffsPath_cleanupPath] at found
  cases leads : vm.place with
  | none =>
      rw [leads] at found
      exact found
  | some directory =>
      rw [leads] at found
      dsimp only at found
      split_ifs at found
      · exact unlinkDirContents_entry named leads fails found
      · exact unlinkDirContents_entry named leads fails (PathTree.lookup_of_rmdir found)
      · exact found

end Cleanup

end PhantomTracker.Host
