import PhantomTracker.Host.TrackerPins

/-!
Contract: `setup_vm_maps` after attempts that have failed, and `cleanup` after it.

Owns: the tool on the tree and on the maps together, when it succeeds after a history of
set-ups and cleanups, and that a cleanup restores the tree after a set-up that got anywhere.

Does not own: tools that run at the same time.
-/

namespace PhantomTracker.Host

open PhantomTracker.Foundation

/-! ## Attempts that fail -/

section Recovery

variable {vm : VmName} {tree next : Bpffs}

/-- No directory lies below another one. -/
def Flat (tree : Bpffs) : Prop :=
  ∀ path, tree.lookup path = some .directory → path.length = 1

/-- The name leads to a directory of its own. -/
def VmName.Ordinary (vm : VmName) : Prop := vm.place = some [vm.bytes]

/-- `setup_vm_maps` on the tree and on the maps. -/
def setupVmMapsIn (failing : Option SetupCall) (collection processing : MapId) (vm : VmName)
    (tree : Bpffs) (state : HostState) : (Bpffs × HostState) × Int :=
  let directory := setupVmDirectory failing collection processing vm tree
  let maps := setupVmMaps directory.2 collection processing vm.toCString state
  ((directory.1, maps.1), maps.2)

theorem setupVmMapsIn_zero_iff (failing : Option SetupCall) (collection processing : MapId)
    (vm : VmName) (tree : Bpffs) (state : HostState) :
    (setupVmMapsIn failing collection processing vm tree state).2 = 0 ↔
      (setupVmDirectory failing collection processing vm tree).2 = none := by
  have fails : ∀ call, (setupVmMaps (some call) collection processing vm.toCString state).2 =
      -1 := by
    intro call
    cases call <;> rfl
  simp only [setupVmMapsIn]
  cases (setupVmDirectory failing collection processing vm tree).2 with
  | none => exact iff_of_true rfl rfl
  | some call => exact iff_of_false (by rw [fails]; decide) nofun

/-- A pin succeeds where its directory is. -/
theorem pinMap_succeeds_iff {buff : Buff} (map : MapId) (ordinary : vm.Ordinary)
    (free : tree.lookup [vm.bytes, buffName buff] ≠ some .directory) :
    (pinMap false (vm.pinPath buff) map tree).2 = true ↔
      tree.lookup [vm.bytes] = some .directory := by
  have leads : bpffsPath (vm.pinPath buff) = some [vm.bytes, buffName buff] := by
    rw [vm.bpffsPath_pinPath, show vm.place = _ from ordinary]
    rfl
  have parent : (tree.unlink [vm.bytes, buffName buff]).lookup [vm.bytes] =
      tree.lookup [vm.bytes] := by
    rw [PathTree.lookup_unlink, if_neg]
    rintro ⟨same, -⟩
    cases same
  have vacant : (tree.unlink [vm.bytes, buffName buff]).lookup [vm.bytes, buffName buff] =
      none := by
    rw [PathTree.lookup_unlink]
    cases found : tree.lookup [vm.bytes, buffName buff] with
    | none => rw [ite_self]
    | some node =>
        cases node with
        | directory => exact absurd found free
        | file object => rw [if_pos ⟨rfl, PathTree.isFile_iff.mpr ⟨object, found⟩⟩]
  unfold pinMap
  simp only [leads, Bool.false_eq_true, if_false]
  rw [← parent, ← PathTree.isDirectory_iff (List.cons_ne_nil _ _)]
  cases there : (tree.unlink [vm.bytes, buffName buff]).isDirectory [vm.bytes] with
  | true =>
      have created : (tree.unlink [vm.bytes, buffName buff]).create [vm.bytes, buffName buff]
          (.map map) = some ((tree.unlink [vm.bytes, buffName buff]).insert
            [vm.bytes, buffName buff] (.file (.map map))) := by
        unfold PathTree.create PathTree.occupied
        rw [vacant]
        simp [there]
      rw [created]
  | false =>
      have refused : (tree.unlink [vm.bytes, buffName buff]).create [vm.bytes, buffName buff]
          (.map map) = none := by
        unfold PathTree.create
        simp [there]
      rw [refused]

theorem SetupChange.flat (change : SetupChange vm tree next) (flat : Flat tree) : Flat next := by
  intro path found
  rcases change.entry path _ found with before | ⟨leads, nonempty, -⟩ | ⟨buff, map, -, isFile⟩
  · exact flat path before
  · unfold VmName.place at leads
    split_ifs at leads
    · exact absurd (Option.some.inj leads).symm nonempty
    · obtain rfl := Option.some.inj leads
      rfl
  · cases isFile

/-- The directory is there after `mkdir`, unless its path is a file. -/
theorem exists_makeVmDirectory (tree : Bpffs) (ordinary : vm.Ordinary) :
    ∃ made, makeVmDirectory false vm tree = some made ∧
      (made.lookup [vm.bytes] = some .directory ↔ tree.isFile [vm.bytes] = false) := by
  have leads : bpffsPath vm.dirPath = some [vm.bytes] := by
    rw [vm.bpffsPath_dirPath]
    exact ordinary
  unfold makeVmDirectory
  simp only [leads, Bool.false_eq_true, if_false]
  cases found : tree.lookup [vm.bytes] with
  | none =>
      have made : tree.mkdir [vm.bytes] = .ok (tree.insert [vm.bytes] .directory) := by
        unfold PathTree.mkdir PathTree.occupied
        rw [found]
        rfl
      rw [made]
      refine ⟨_, rfl, iff_of_true (AList.lookup_insert tree) ?_⟩
      unfold PathTree.isFile
      rw [found]
  | some node =>
      have refused : tree.mkdir [vm.bytes] = .error .eexist := by
        unfold PathTree.mkdir PathTree.occupied
        rw [found]
        rfl
      rw [refused]
      refine ⟨tree, rfl, ?_⟩
      unfold PathTree.isFile
      rw [found]
      cases node with
      | directory => exact iff_of_true rfl rfl
      | file object => exact iff_of_false nofun nofun

theorem setupVmDirectory_succeeds_iff (serving : Serving tree) (flat : Flat tree)
    (ordinary : vm.Ordinary) (collection processing : MapId) :
    (setupVmDirectory none collection processing vm tree).2 = none ↔
      tree.isFile [vm.bytes] = false := by
  have registry : tree.isFile [mapRegistryName] = true :=
    serving.pinned _ (by decide +kernel)
  obtain ⟨made, isMade, there⟩ := exists_makeVmDirectory tree ordinary
  have directory := makeVmDirectory_change isMade
  have free : ∀ {tree : Bpffs} (buff : Buff), Flat tree →
      tree.lookup [vm.bytes, buffName buff] ≠ some .directory := by
    intro tree buff flat found
    cases flat _ found
  have one := pinMap_succeeds_iff collection ordinary (free .one (directory.flat flat))
  rw [← there, ← one]
  unfold setupVmDirectory
  simp only [reduceCtorEq, registry, Bool.true_eq_false, or_self, if_false, decide_false, isMade,
    pinVmMaps]
  cases first : pinMap false (vm.pinPath .one) collection made with
  | mk after done =>
      have change := pinMap_change first
      cases done with
      | false => exact iff_of_false nofun nofun
      | true =>
          rw [first] at one
          have stays : after.lookup [vm.bytes] = some .directory :=
            change.kept _ _ (one.mp rfl) fun buff leads => by
              rw [show vm.place = _ from ordinary] at leads
              cases leads
          have two := (pinMap_succeeds_iff processing ordinary
            (free .two ((directory.trans change).flat flat))).mpr stays
          dsimp only
          cases second : pinMap false (vm.pinPath .two) processing after with
          | mk last both =>
              rw [second] at two
              obtain rfl : both = true := two
              exact iff_of_true rfl rfl

/-- Whether a path in the root is a file is not changed under a harmless name. -/
theorem isFile_apply {op : DirectoryOp} (named : Named tree) (harmless : op.vm.Harmless)
    (name : FileName) : (op.apply tree).isFile [name] = tree.isFile [name] := by
  have notEntry : ∀ directory entry, op.vm.place = some directory →
      [name] ≠ directory ++ [entry] := by
    intro directory entry leads same
    have cut := congrArg List.dropLast same
    rw [List.dropLast_concat] at cut
    exact (harmless.place leads).1 cut.symm
  rw [Bool.eq_iff_iff]
  cases op with
  | setup failing collection processing vm =>
      have change := setupVmDirectory_change failing collection processing vm tree
      have spared : ∀ buff, vm.place.map (· ++ [buffName buff]) ≠ some [name] := by
        intro buff leads
        obtain ⟨directory, isDirectory, same⟩ := Option.map_eq_some_iff.mp leads
        exact notEntry directory (buffName buff) isDirectory same.symm
      rw [PathTree.isFile_iff, PathTree.isFile_iff]
      constructor
      · rintro ⟨object, found⟩
        rcases change.entry _ _ found with before | ⟨-, -, wrong⟩ | ⟨buff, map, leads, -⟩
        · exact ⟨object, before⟩
        · cases wrong
        · exact absurd leads (spared buff)
      · rintro ⟨object, found⟩
        exact ⟨object, change.kept _ _ found spared⟩
  | cleanup fails rmdirFails vm =>
      rw [PathTree.isFile_iff, PathTree.isFile_iff]
      constructor
      · rintro ⟨object, found⟩
        exact ⟨object, cleanup_entry named found⟩
      · rintro ⟨object, found⟩
        refine ⟨object, ?_⟩
        by_cases itself : vm.place = some [name]
        · have missing : tree.isDirectory [name] = false := by
            rw [Bool.eq_false_iff, ne_eq, PathTree.isDirectory_iff (List.cons_ne_nil _ _), found]
            nofun
          exact (congrArg (AList.lookup [name]) (cleanup_of_not_directory itself missing)).trans
            found
        · refine (cleanup_kept named fun directory leads => ?_).trans found
          exact ⟨fun same => itself (same ▸ leads), fun entry => notEntry directory entry leads⟩

theorem flat_apply {op : DirectoryOp} (named : Named tree) (flat : Flat tree) :
    Flat (op.apply tree) := by
  cases op with
  | setup failing collection processing vm =>
      exact (setupVmDirectory_change failing collection processing vm tree).flat flat
  | cleanup fails rmdirFails vm => exact fun path found => flat path (cleanup_entry named found)

def ordinaryVm : VmName :=
  ⟨⟨asciiBytes "vm1", by decide +kernel⟩, by decide +kernel, by decide +kernel⟩

/-- A set-up that finds no directory gives up before it makes one, or has made it. -/
theorem setupVmDirectory_directory (ordinary : vm.Ordinary) (failing : Option SetupCall)
    (collection processing : MapId) (absent : tree.lookup [vm.bytes] = none) :
    (setupVmDirectory failing collection processing vm tree).1 = tree ∨
      (setupVmDirectory failing collection processing vm tree).1.lookup [vm.bytes] =
        some .directory := by
  unfold setupVmDirectory
  split
  · exact Or.inl rfl
  split
  · exact Or.inl rfl
  · rename_i made isMade
    refine Or.inr ((pinVmMaps_change failing collection processing vm made).kept _ _ ?_ ?_)
    · obtain ⟨works, isWorks, there⟩ := exists_makeVmDirectory tree ordinary
      have same : made = works := by
        cases fails : decide (failing = some .makeDirectory) with
        | true =>
            rw [fails] at isMade
            cases isMade
        | false =>
            rw [fails, isWorks] at isMade
            exact (Option.some.inj isMade).symm
      rw [same, there]
      unfold PathTree.isFile
      rw [absent]
    · intro buff leads
      rw [show vm.place = _ from ordinary] at leads
      cases leads

/-- A set-up changes nothing outside of the directory. -/
theorem SetupChange.lookup_eq (change : SetupChange vm tree next) (ordinary : vm.Ordinary)
    {other : List FileName} (itself : other ≠ [vm.bytes])
    (outside : ∀ entry, other ≠ [vm.bytes, entry]) : next.lookup other = tree.lookup other := by
  have spared : ∀ buff, vm.place.map (· ++ [buffName buff]) ≠ some other := by
    intro buff leads
    rw [show vm.place = _ from ordinary] at leads
    exact outside (buffName buff) (Option.some.inj leads).symm
  cases after : next.lookup other with
  | some node =>
      rcases change.entry other node after with before | ⟨leads, -, -⟩ | ⟨buff, map, leads, -⟩
      · exact before.symm
      · rw [show vm.place = _ from ordinary] at leads
        exact absurd (Option.some.inj leads).symm itself
      · exact absurd leads (spared buff)
  | none =>
      cases before : tree.lookup other with
      | none => rfl
      | some node => cases after.symm.trans (change.kept other node before spared)

/-- **A cleanup undoes a set-up.** However far a set-up of a VM without entries got, a
cleanup in which no call fails leaves every entry of the tree as it was, for a name that
leads to a directory of its own. A name beyond the bound of `VmName` would not do: the two
tools cut it off in different places. -/
theorem cleanup_undoes_set_up (named : Named tree) (ordinary : vm.Ordinary)
    (absent : tree.lookup [vm.bytes] = none)
    (empty : ∀ entry, tree.lookup [vm.bytes, entry] = none) (failing : Option SetupCall)
    (collection processing : MapId) (other : List FileName) :
    (cleanupVmDirectory (fun _ => false) false vm
      (setupVmDirectory failing collection processing vm tree).1).lookup other =
        tree.lookup other := by
  have change := setupVmDirectory_change failing collection processing vm tree
  rcases setupVmDirectory_directory ordinary failing collection processing absent with
    same | made
  · have missing : tree.isDirectory [vm.bytes] = false := by
      rw [Bool.eq_false_iff, ne_eq, PathTree.isDirectory_iff (List.cons_ne_nil _ _), absent]
      nofun
    rw [same, cleanup_of_not_directory ordinary missing]
  · generalize (setupVmDirectory failing collection processing vm tree).1 = next at change made ⊢
    have namedNext := change.named named
    -- Below the directory there are only files, and all of them go.
    have emptied : ∀ entry, (unlinkDirContents (fun _ => false) vm [vm.bytes] next).lookup
        [vm.bytes, entry] = none := by
      intro entry
      cases found : next.lookup [vm.bytes, entry] with
      | none =>
          cases still : (unlinkDirContents (fun _ => false) vm [vm.bytes] next).lookup
              [vm.bytes, entry] with
          | none => rfl
          | some node =>
              cases found.symm.trans (unlinkDirContents_entry namedNext ordinary _ still)
      | some node =>
          rcases change.entry _ _ found with before | ⟨leads, -, -⟩ | ⟨buff, map, -, rfl⟩
          · cases (empty entry).symm.trans before
          · rw [show vm.place = _ from ordinary] at leads
            cases leads
          · exact unlinkDirContents_gone namedNext ordinary rfl
              (PathTree.isFile_iff.mpr ⟨_, found⟩)
    have childless : (unlinkDirContents (fun _ => false) vm [vm.bytes] next).children
        [vm.bytes] = [] := by
      rw [List.eq_nil_iff_forall_not_mem]
      intro entry member
      have present := PathTree.mem_children.mp member
      rw [show [vm.bytes] ++ [entry] = [vm.bytes, entry] from rfl, emptied] at present
      cases present
    have directory : (unlinkDirContents (fun _ => false) vm [vm.bytes] next).isDirectory
        [vm.bytes] = true := by
      rw [PathTree.isDirectory_iff (List.cons_ne_nil _ _),
        unlinkDirContents_kept namedNext ordinary _ (by simp), made]
    have removed : cleanupVmDirectory (fun _ => false) false vm next =
        (unlinkDirContents (fun _ => false) vm [vm.bytes] next).erase [vm.bytes] := by
      have isDirectory := (PathTree.isDirectory_iff (List.cons_ne_nil vm.bytes [])).mpr made
      unfold cleanupVmDirectory
      rw [vm.bpffsPath_cleanupPath, show vm.place = _ from ordinary]
      simp only [isDirectory, if_true, Bool.false_eq_true, if_false]
      exact if_pos ⟨List.cons_ne_nil _ _, directory, childless⟩
    rw [removed]
    by_cases itself : other = [vm.bytes]
    · rw [itself, AList.lookup_erase, absent]
    · rw [AList.lookup_erase_ne itself]
      by_cases inside : ∃ entry, other = [vm.bytes, entry]
      · obtain ⟨entry, rfl⟩ := inside
        rw [emptied, empty]
      · rw [unlinkDirContents_kept namedNext ordinary _ fun entry same => inside ⟨entry, same⟩]
        exact change.lookup_eq ordinary itself fun entry same => inside ⟨entry, same⟩

/-- A set-up whose second pin failed, and a cleanup. -/
theorem cleanup_after_failed_pin :
    (cleanupVmDirectory (fun _ => false) false ordinaryVm
      (setupVmDirectory (some .pinProcessing) 3 4 ordinaryVm trackerTree).1).lookup
        [ordinaryVm.bytes] = none := by
  have ordinary : ordinaryVm.place = some [ordinaryVm.bytes] := by decide +kernel
  have below : ∀ path node, trackerTree.lookup path = some node →
      path.head? ≠ some ordinaryVm.bytes := FiniteMap.forall_lookup_iff.mpr (by decide +kernel)
  have empty : ∀ path, path.head? = some ordinaryVm.bytes → trackerTree.lookup path = none := by
    intro path head
    cases found : trackerTree.lookup path with
    | none => rfl
    | some node => exact absurd head (below path node found)
  rw [cleanup_undoes_set_up serving_trackerTree.named ordinary (empty _ rfl)
    (fun entry => empty _ rfl), empty _ rfl]

end Recovery

end PhantomTracker.Host
