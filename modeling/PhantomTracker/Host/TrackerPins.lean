import PhantomTracker.Host.VmDirectories

/-!
Contract: the pins that all VMs share, and the names that endanger them.

Owns: the paths of the handler's link and of the maps of `create_maps`, that no set-up
touches them, and the names of VMs under which a cleanup removes them.

Does not own: the order in which the programs make these pins.
-/

namespace PhantomTracker.Host

open PhantomTracker.Foundation

def linksName : FileName := asciiBytes "links"

/-- The link of the handler and the maps of `create_maps`. -/
def trackerPins : List (List FileName) :=
  [[linksName, asciiBytes "sched_switch_link"], [asciiBytes "vms"], [asciiBytes "vcpus"],
    [mapRegistryName]]

def TrackerPinned (tree : Bpffs) : Prop := ∀ path ∈ trackerPins, tree.isFile path = true

instance (tree : Bpffs) : Decidable (TrackerPinned tree) :=
  inferInstanceAs (Decidable (∀ path ∈ trackerPins, tree.isFile path = true))

/-- A name whose cleanup does not lead to the pins of the tracker. -/
def VmName.Harmless (vm : VmName) : Prop :=
  vm.bytes ≠ [] ∧ vm.bytes ≠ [46] ∧ vm.bytes ≠ linksName

structure Serving (tree : Bpffs) : Prop where
  named : Named tree
  links : tree.lookup [linksName] = some .directory
  pinned : TrackerPinned tree

theorem VmName.proper_of_place {vm : VmName} {directory : List FileName}
    (leads : vm.place = some directory) {name : FileName} (member : name ∈ directory) :
    name = vm.bytes ∧ Proper name ∧ name.length ≤ 200 := by
  unfold VmName.place at leads
  split_ifs at leads with stays leaves
  · obtain rfl := Option.some.inj leads
    cases member
  · obtain rfl := Option.some.inj leads
    obtain rfl := List.mem_singleton.mp member
    obtain ⟨nonempty, notDot⟩ := not_or.mp stays
    have fits := vm.fits
    exact ⟨rfl, ⟨vm.plain, nonempty, notDot, leaves⟩, by omega⟩

section Tracker

variable {vm : VmName} {tree : Bpffs}

theorem SetupChange.named {next : Bpffs} (change : SetupChange vm tree next)
    (named : Named tree) : Named next := by
  intro path node found name member
  rcases change.entry path node found with before | ⟨leads, -, -⟩ | ⟨buff, map, leads, -⟩
  · exact named path node before name member
  · exact (VmName.proper_of_place leads member).2
  · obtain ⟨directory, isDirectory, rfl⟩ := Option.map_eq_some_iff.mp leads
    rcases List.mem_append.mp member with inside | last
    · exact (VmName.proper_of_place isDirectory inside).2
    · obtain rfl := List.mem_singleton.mp last
      exact ⟨VmName.proper_buffName buff, by rw [VmName.buffName_length]; decide⟩

/-- The last name of what a set-up replaces is the name of a buffer. -/
theorem spared_of_getLast {path : List FileName}
    (last : ∀ buff, path.getLast? ≠ some (buffName buff)) (buff : Buff) :
    vm.place.map (· ++ [buffName buff]) ≠ some path := by
  intro leads
  obtain ⟨directory, -, rfl⟩ := Option.map_eq_some_iff.mp leads
  exact last buff (by simp)

theorem SetupChange.isFile {next : Bpffs} (change : SetupChange vm tree next)
    {path : List FileName} (last : ∀ buff, path.getLast? ≠ some (buffName buff))
    (file : tree.isFile path = true) : next.isFile path = true := by
  obtain ⟨object, found⟩ := PathTree.isFile_iff.mp file
  exact PathTree.isFile_iff.mpr ⟨object, change.kept path _ found (spared_of_getLast last)⟩

theorem trackerPins_last {path : List FileName} (pin : path ∈ trackerPins) (buff : Buff) :
    path.getLast? ≠ some (buffName buff) := by
  revert path
  cases buff <;> decide +kernel

/-- No set-up touches the pins of the tracker, whatever the VM is called. -/
theorem SetupChange.serving {next : Bpffs} (change : SetupChange vm tree next)
    (serving : Serving tree) : Serving next where
  named := change.named serving.named
  links := change.kept _ _ serving.links
    (spared_of_getLast fun buff => by cases buff <;> decide +kernel)
  pinned path pin := change.isFile (trackerPins_last pin) (serving.pinned path pin)

theorem VmName.Harmless.place {directory : List FileName} (harmless : vm.Harmless)
    (leads : vm.place = some directory) : directory ≠ [] ∧ directory ≠ [linksName] := by
  obtain ⟨nonempty, notDot, notLinks⟩ := harmless
  unfold VmName.place at leads
  rw [if_neg (not_or.mpr ⟨nonempty, notDot⟩)] at leads
  split_ifs at leads
  obtain rfl := Option.some.inj leads
  exact ⟨List.cons_ne_nil _ _, fun same => notLinks (List.head_eq_of_cons_eq same)⟩

theorem trackerPins_dropLast {path : List FileName} (pin : path ∈ trackerPins) :
    path.dropLast = [] ∨ path.dropLast = [linksName] := by
  revert path
  decide +kernel

theorem serving_cleanup {fails : FileName → Bool} {rmdirFails : Bool} (harmless : vm.Harmless)
    (serving : Serving tree) : Serving (cleanupVmDirectory fails rmdirFails vm tree) where
  named path node found name member :=
    serving.named path node (cleanup_entry serving.named found) name member
  links := by
    rw [cleanup_kept serving.named, serving.links]
    intro directory leads
    obtain ⟨notRoot, notLinks⟩ := harmless.place leads
    refine ⟨notLinks.symm, fun entry same => notRoot ?_⟩
    have cut := congrArg List.dropLast same
    rwa [List.dropLast_concat, eq_comm] at cut
  pinned path pin := by
    have file := serving.pinned path pin
    by_cases itself : vm.place = some path
    · -- The VM is called like one of the maps: its path is no directory.
      have missing : tree.isDirectory path = false := by
        obtain ⟨object, found⟩ := PathTree.isFile_iff.mp file
        rw [Bool.eq_false_iff, ne_eq, PathTree.isDirectory_iff (harmless.place itself).1, found]
        nofun
      rwa [cleanup_of_not_directory itself missing]
    · have kept : (cleanupVmDirectory fails rmdirFails vm tree).lookup path = tree.lookup path := by
        apply cleanup_kept serving.named
        intro directory leads
        obtain ⟨notRoot, notLinks⟩ := harmless.place leads
        refine ⟨fun same => itself (same ▸ leads), fun entry same => ?_⟩
        have cut := congrArg List.dropLast same
        rw [List.dropLast_concat] at cut
        rcases trackerPins_dropLast pin with root | links
        · exact notRoot (cut.symm.trans root)
        · exact notLinks (cut.symm.trans links)
      unfold PathTree.isFile at file ⊢
      rwa [kept]

theorem serving_apply {op : DirectoryOp} (harmless : op.vm.Harmless) (serving : Serving tree) :
    Serving (op.apply tree) := by
  cases op with
  | setup failing collection processing vm =>
      exact (setupVmDirectory_change failing collection processing vm tree).serving serving
  | cleanup fails rmdirFails vm => exact serving_cleanup harmless serving

/-- A name that is not harmless leads to the directory of a pin. -/
theorem pin_of_not_harmless (harmful : ¬vm.Harmless) :
    ∃ directory entry, vm.place = some directory ∧ directory ++ [entry] ∈ trackerPins := by
  by_cases root : vm.bytes = [] ∨ vm.bytes = [46]
  · exact ⟨[], asciiBytes "vms", if_pos root, by decide +kernel⟩
  · have links : vm.bytes = linksName := by
      obtain ⟨nonempty, notDot⟩ := not_or.mp root
      by_contra different
      exact harmful ⟨nonempty, notDot, different⟩
    refine ⟨[linksName], asciiBytes "sched_switch_link", ?_, by decide +kernel⟩
    unfold VmName.place
    rw [if_neg root, links, if_neg (by decide +kernel)]

theorem unpinned_cleanup (harmful : ¬vm.Harmless) (serving : Serving tree) :
    ¬TrackerPinned (cleanupVmDirectory (fun _ => false) false vm tree) := by
  intro pinned
  obtain ⟨directory, entry, leads, pin⟩ := pin_of_not_harmless harmful
  have directoryThere : tree.isDirectory directory = true := by
    rcases trackerPins_dropLast pin with root | links
    · rw [List.dropLast_concat] at root
      rw [root]
      rfl
    · rw [List.dropLast_concat] at links
      rw [links, PathTree.isDirectory_iff (List.cons_ne_nil _ _), serving.links]
  have gone : (cleanupVmDirectory (fun _ => false) false vm tree).lookup (directory ++ [entry]) =
      none := by
    unfold cleanupVmDirectory
    rw [vm.bpffsPath_cleanupPath, leads]
    simp only [directoryThere, if_true, Bool.false_eq_true, if_false]
    rw [PathTree.lookup_rmdir (by simp),
      unlinkDirContents_gone serving.named leads rfl (serving.pinned _ pin)]
  obtain ⟨object, found⟩ := PathTree.isFile_iff.mp (pinned _ pin)
  cases gone.symm.trans found

/-- **Which names endanger the tracker.** Among the names without a slash that
`setup_vm_maps` does not cut off: the link of the handler and the maps of `create_maps`
stay pinned through every history of set-ups and cleanups, whatever calls fail in it, if
and only if no VM in it is called `links`, `.` or the empty string. A cleanup under such a
name removes pins that all VMs need. -/
theorem tracker_survives_iff (serving : Serving tree) (names : VmName → Prop) :
    (∀ history : List DirectoryOp, (∀ op ∈ history, names op.vm) →
        TrackerPinned (history.foldl DirectoryOp.apply tree)) ↔
      ∀ vm, names vm → vm.Harmless := by
  constructor
  · intro survives vm named
    by_contra harmful
    refine unpinned_cleanup harmful serving (survives [.cleanup (fun _ => false) false vm] ?_)
    intro op member
    obtain rfl := List.mem_singleton.mp member
    exact named
  · intro harmless history allowed
    suffices still : Serving (history.foldl DirectoryOp.apply tree) from still.pinned
    induction history generalizing tree with
    | nil => exact serving
    | cons op rest inductionHypothesis =>
        have ownName := harmless op.vm (allowed op List.mem_cons_self)
        exact inductionHypothesis (serving_apply ownName serving) fun other member =>
          allowed other (List.mem_cons_of_mem op member)

/-- The tree after `create_maps`. -/
def trackerTree : Bpffs :=
  ((((AList.insert [linksName] .directory ∅).insert
    [linksName, asciiBytes "sched_switch_link"] (.file .link)).insert
      [asciiBytes "vms"] (.file (.map 0))).insert [asciiBytes "vcpus"] (.file (.map 1))).insert
        [mapRegistryName] (.file (.map 2))

theorem serving_trackerTree : Serving trackerTree := by
  refine ⟨FiniteMap.forall_lookup_iff.mpr ?_, ?_, ?_⟩ <;> decide +kernel

def linksVm : VmName := ⟨⟨linksName, by decide +kernel⟩, by decide +kernel, by decide +kernel⟩

/-- A VM called `links` endangers the tracker. -/
theorem links_vm_endangers :
    ¬∀ history : List DirectoryOp, (∀ op ∈ history, op.vm = linksVm) →
      TrackerPinned (history.foldl DirectoryOp.apply trackerTree) := by
  intro survives
  have harmless := (tracker_survives_iff serving_trackerTree (· = linksVm)).mp survives linksVm rfl
  exact harmless.2.2 rfl

end Tracker

end PhantomTracker.Host
