import PhantomTracker.Shmem.GuestLifecycle

/-!
Contract: the guest module from load to unload, with its character device and the
files that are open on it.

Owns: `guest_ivshmem_init`, `guest_ivshmem_exit`, the registration of the character
device, whose `cdev` lies inside the struct of the published device, its file
operations, and the lives of the module in which no struct is used that is not there.

Does not own: which pages a mapping shows.
-/

namespace PhantomTracker.Shmem

open PhantomTracker.Foundation

/-! ## The module with its character device -/

/-- An access through a pointer that is null, or to a struct that has been freed, or
to a `cdev` that was never added. -/
inductive GuestFault where
  | chrdevOpen
  | mmapFile
  | cdevAccess
deriving DecidableEq, Repr

/-- The module, the struct in which the registered `cdev` lies, the structs whose `cdev`
is added, and the `private_data` of the open files. An access that goes wrong is
recorded and has no other effect. -/
structure GuestLife (ι φ : Type) where
  pci : GuestModule ι
  guestIvshmemClass : Bool
  registered : Option DevicePtr
  added : DevicePtr → Bool
  files : φ → Option (Option DevicePtr)
  faults : List GuestFault

/-- How the functions called by `guest_ivshmem_init` after the probes end. -/
structure GuestInitCalls where
  registerKfuncs : Option Errno
  allocChrdevRegion : Option Errno
  classCreate : Option Errno
  cdevAdd : Option Errno
  deviceCreate : Option Errno

/-- What can happen while the module is loaded. -/
inductive LifeEvent (ι φ : Type) where
  | pci (action : PciAction ι)
  | openFile (file : φ)
  | mmapFile (file : φ)
  | releaseFile (file : φ)

namespace GuestLife

variable {ι φ : Type}

def fault (fault : GuestFault) (life : GuestLife ι φ) : GuestLife ι φ :=
  { life with faults := fault :: life.faults }

/-- A struct that is freed takes its `cdev` with it. -/
def withPci (life : GuestLife ι φ) (pci : GuestModule ι) : GuestLife ι φ :=
  { life with pci := pci, added := fun ptr => life.added ptr && (pci.heap ptr).isSome }

/-- `guest_ivshmem_register_chardev`. -/
def registerChardev (calls : GuestInitCalls) (life : GuestLife ι φ) :
    GuestLife ι φ × Option Errno :=
  match calls.allocChrdevRegion with
  | some ret => (life, some ret)
  | none =>
      match calls.classCreate with
      | some ret => (life, some ret)
      | none =>
          match life.pci.guestIvshmem with
          | none => ({ life.fault .cdevAccess with guestIvshmemClass := true }, none)
          | some ptr =>
              -- `cdev_init` writes into the struct.
              let written := if (life.pci.heap ptr).isSome then life else life.fault .cdevAccess
              match calls.cdevAdd with
              | some ret => (written, some ret)
              | none =>
                  match calls.deviceCreate with
                  | some ret => (written, some ret)
                  | none =>
                      ({ written with
                          guestIvshmemClass := true
                          registered := some ptr
                          added := Function.update written.added ptr true }, none)

variable [DecidableEq ι]

/-- `pci_unregister_driver`, which removes the bound devices in some order. -/
def pciUnregisterDriver (bound : List ι) (life : GuestLife ι φ) : GuestLife ι φ :=
  bound.foldl (fun life pdev =>
    match life.pci.step (.remove pdev) with
    | some removed => life.withPci removed
    | none => life) life

/-- `guest_ivshmem_init` once `pci_register_driver` has made its probes. `bound` are the
devices that it unbinds again when it fails. -/
def guestIvshmemInit (calls : GuestInitCalls) (bound : List ι) (life : GuestLife ι φ) :
    GuestLife ι φ × Option Errno :=
  if life.pci.guestIvshmem.isNone then (life.pciUnregisterDriver bound, some .enodev)
  else
    match calls.registerKfuncs with
    | some ret => (life.pciUnregisterDriver bound, some ret)
    | none =>
        match life.registerChardev calls with
        | (registered, some ret) => (registered.pciUnregisterDriver bound, some ret)
        | (registered, none) => (registered, none)

omit [DecidableEq ι] in
/-- `guest_ivshmem_unregister_chardev`. It takes the `cdev` of the device that is
published now. -/
def unregisterChardev (life : GuestLife ι φ) : GuestLife ι φ :=
  if life.guestIvshmemClass = false then life
  else
    match life.pci.guestIvshmem with
    | none => { life.fault .cdevAccess with guestIvshmemClass := false }
    | some ptr =>
        if life.added ptr then
          { life with
            guestIvshmemClass := false
            registered := none
            added := Function.update life.added ptr false }
        else { life.fault .cdevAccess with guestIvshmemClass := false }

/-- `guest_ivshmem_exit`. -/
def guestIvshmemExit (bound : List ι) (life : GuestLife ι φ) : GuestLife ι φ :=
  life.unregisterChardev.pciUnregisterDriver bound

variable [DecidableEq φ]

/-- An event while the module is loaded. The kernel finds the character device through
the registered `cdev`; `guest_ivshmem_open` stores the published device, and
`guest_ivshmem_mmap` reads what was stored. -/
def step (life : GuestLife ι φ) : LifeEvent ι φ → Option (GuestLife ι φ)
  | .pci action => (life.pci.step action).map life.withPci
  | .openFile file =>
      match life.files file with
      | some _ => none
      | none =>
          let found := if life.registered.any life.added then life else life.fault .chrdevOpen
          some { found with files := Function.update life.files file (some life.pci.guestIvshmem) }
  | .mmapFile file =>
      match life.files file with
      | none => none
      | some privateData =>
          some (if (privateData.bind life.pci.heap).isSome then life else life.fault .mmapFile)
  | .releaseFile file =>
      match life.files file with
      | none => none
      | some _ => some { life with files := Function.update life.files file none }

omit [DecidableEq ι] [DecidableEq φ] in
/-- The PCI core makes only the calls that it can make. -/
def Allowed (life : GuestLife ι φ) : LifeEvent ι φ → Prop
  | .pci action => life.pci.PciCore action
  | _ => True

omit [DecidableEq ι] [DecidableEq φ] in
/-- No device is accepted, and the published one is not removed. -/
def Undisturbed (life : GuestLife ι φ) : LifeEvent ι φ → Prop
  | .pci (.probe calls bar _ _) => ¬(calls = .working ∧ GuestModule.Acceptable bar)
  | .pci (.remove pdev) => (life.pci.pdevs pdev).drvdata ≠ life.pci.guestIvshmem
  | _ => True

end GuestLife

/-! ## What the PCI core does to the structs -/

namespace GuestModule

variable {ι : Type} [DecidableEq ι] {state next : GuestModule ι} {calls : GuestCalls} {bar : PciBar}
  {pdev : ι} {ptr : DevicePtr}

/-- A probe of the PCI core that is accepted publishes a struct at a free address, and
leaves the others alone. -/
theorem step_probe_accepted (passes : calls = .working ∧ Acceptable bar)
    (taken : state.step (.probe calls bar pdev ptr) = some next) :
    next.guestIvshmem = some ptr ∧ (next.heap ptr).isSome = true ∧
      ∀ other, other ≠ ptr → next.heap other = state.heap other := by
  obtain ⟨guest, accepted⟩ := probeDevice_ok_iff.mpr passes
  simp only [step, probe_of_accepted accepted] at taken
  obtain rfl := Option.some.inj taken
  refine ⟨rfl, ?_, fun other different => ?_⟩
  · dsimp only
    rw [publish_heap]
    simp only [store, Function.update_self, Option.isSome_some]
  · dsimp only
    rw [publish_heap]
    exact (Function.update_of_ne different _ _).trans (Function.update_of_ne different _ _)

/-- The removal of a device frees its struct, and unpublishes it if it is published. -/
theorem step_remove_eq {guest : DevicePtr} (drvdata : (state.pdevs pdev).drvdata = some guest)
    (taken : state.step (.remove pdev) = some next) :
    next.guestIvshmem = (if state.guestIvshmem = some guest then none else state.guestIvshmem) ∧
      next.heap = Function.update state.heap guest none := by
  simp only [step, GuestModule.remove, drvdata] at taken
  obtain rfl := Option.some.inj taken
  by_cases published : state.guestIvshmem = some guest
  · have locked : (state.pciSetDrvdata pdev none).mutexLock.guestIvshmem = some guest := published
    simp only [if_pos locked, if_pos published]
    exact ⟨rfl, rfl⟩
  · have locked : ¬(state.pciSetDrvdata pdev none).mutexLock.guestIvshmem = some guest := published
    simp only [if_neg locked, if_neg published]
    exact ⟨rfl, rfl⟩

theorem step_remove_none (drvdata : (state.pdevs pdev).drvdata = none)
    (taken : state.step (.remove pdev) = some next) :
    next.guestIvshmem = state.guestIvshmem ∧ next.heap = state.heap := by
  simp only [step, GuestModule.remove, drvdata] at taken
  obtain rfl := Option.some.inj taken
  exact ⟨rfl, rfl⟩

omit [DecidableEq ι] in
/-- The probe fails, or the device has no struct. -/
def Ineffective (state : GuestModule ι) : PciAction ι → Prop
  | .probe calls bar _ _ => ¬(calls = .working ∧ Acceptable bar)
  | .remove pdev => (state.pdevs pdev).drvdata = none

/-- What a call of the PCI core can do to a struct and to the published pointer. -/
theorem step_cases {action : PciAction ι} (core : state.PciCore action)
    (taken : state.step action = some next) :
    (state.Ineffective action ∧ next.guestIvshmem = state.guestIvshmem ∧
        next.heap = state.heap) ∨
      (∃ calls bar pdev ptr, action = .probe calls bar pdev ptr ∧
        (calls = .working ∧ Acceptable bar) ∧ state.heap ptr = none ∧
        next.guestIvshmem = some ptr ∧ (next.heap ptr).isSome = true ∧
        ∀ other, other ≠ ptr → next.heap other = state.heap other) ∨
      ∃ pdev guest, action = .remove pdev ∧ (state.pdevs pdev).drvdata = some guest ∧
        next.guestIvshmem = (if state.guestIvshmem = some guest then none else state.guestIvshmem) ∧
        next.heap = Function.update state.heap guest none := by
  cases action with
  | probe calls bar pdev ptr =>
      by_cases passes : calls = .working ∧ Acceptable bar
      · obtain ⟨published, stored, others⟩ := step_probe_accepted passes taken
        exact Or.inr (Or.inl ⟨calls, bar, pdev, ptr, rfl, passes, core, published, stored, others⟩)
      · obtain ⟨ret, failed⟩ := probeDevice_error passes
        rw [step_probe_failed core failed] at taken
        obtain rfl := Option.some.inj taken
        exact Or.inl ⟨passes, rfl, rfl⟩
  | remove pdev =>
      cases drvdata : (state.pdevs pdev).drvdata with
      | none =>
          obtain ⟨published, heap⟩ := step_remove_none drvdata taken
          exact Or.inl ⟨drvdata, published, heap⟩
      | some guest =>
          obtain ⟨published, heap⟩ := step_remove_eq drvdata taken
          exact Or.inr (Or.inr ⟨pdev, guest, rfl, drvdata, published, heap⟩)

end GuestModule

/-! ## Lives that go well, and lives that do not -/

namespace GuestLife

variable {ι φ : Type} [DecidableEq ι] [DecidableEq φ] {life next : GuestLife ι φ}

/-- The struct that is published is the one whose `cdev` is registered, and all open
files lead to it. -/
structure Intact (ptr : DevicePtr) (life : GuestLife ι φ) : Prop where
  loaded : life.guestIvshmemClass = true
  published : life.pci.guestIvshmem = some ptr
  registered : life.registered = some ptr
  added : life.added ptr = true
  live : ∀ other, life.added other = true → (life.pci.heap other).isSome = true
  files : ∀ file privateData, life.files file = some privateData → privateData = some ptr
  faultless : life.faults = []

/-- No published struct has a `cdev` that is added. -/
structure Broken (life : GuestLife ι φ) : Prop where
  loaded : life.guestIvshmemClass = true
  lost : ∀ ptr, life.pci.guestIvshmem = some ptr → life.added ptr = false
  live : ∀ other, life.added other = true → (life.pci.heap other).isSome = true

omit [DecidableEq ι] [DecidableEq φ] in
theorem withPci_live (pci : GuestModule ι) (other : DevicePtr)
    (added : (life.withPci pci).added other = true) : (pci.heap other).isSome = true :=
  (Bool.and_eq_true_iff.mp added).2

omit [DecidableEq ι] [DecidableEq φ] in
theorem withPci_added {pci : GuestModule ι} {other : DevicePtr} (lost : life.added other = false) :
    (life.withPci pci).added other = false := by
  show (life.added other && _) = false
  rw [lost]
  rfl

omit [DecidableEq ι] [DecidableEq φ] in
/-- The address that `kzalloc` returns has no `cdev`. -/
theorem added_fresh (live : ∀ other, life.added other = true → (life.pci.heap other).isSome = true)
    {ptr : DevicePtr} (fresh : life.pci.heap ptr = none) : life.added ptr = false := by
  rw [Bool.eq_false_iff]
  intro added
  have there := live ptr added
  rw [fresh] at there
  cases there

/-- Once broken, a life stays broken. -/
theorem Broken.step (broken : life.Broken) {event : LifeEvent ι φ} (allowed : life.Allowed event)
    (taken : life.step event = some next) : next.Broken := by
  cases event with
  | pci action =>
      obtain ⟨pci, stepped, rfl⟩ := Option.map_eq_some_iff.mp taken
      refine ⟨broken.loaded, fun ptr published => ?_, withPci_live pci⟩
      rcases GuestModule.step_cases allowed stepped with
        ⟨-, same, -⟩ | ⟨_, _, _, fresh, -, -, free, new, -, -⟩ | ⟨_, guest, -, -, after, -⟩
      · exact withPci_added (broken.lost ptr (same ▸ published))
      · obtain rfl := Option.some.inj (new.symm.trans published)
        exact withPci_added (added_fresh broken.live free)
      · have before : life.pci.guestIvshmem = some ptr := by
          rw [show pci.guestIvshmem = some ptr from published] at after
          split at after
          · cases after
          · exact after.symm
        exact withPci_added (broken.lost ptr before)
  | openFile file =>
      simp only [GuestLife.step] at taken
      split at taken
      · cases taken
      · obtain rfl := Option.some.inj taken
        split <;> exact ⟨broken.loaded, broken.lost, broken.live⟩
  | mmapFile file =>
      simp only [GuestLife.step] at taken
      split at taken
      · cases taken
      · obtain rfl := Option.some.inj taken
        split <;> exact ⟨broken.loaded, broken.lost, broken.live⟩
  | releaseFile file =>
      simp only [GuestLife.step] at taken
      split at taken
      · cases taken
      · obtain rfl := Option.some.inj taken
        exact ⟨broken.loaded, broken.lost, broken.live⟩

omit [DecidableEq φ] in
/-- A call of the PCI core either disturbs an intact life, and breaks it, or keeps it
intact. -/
theorem Intact.pciStep {ptr : DevicePtr} (intact : life.Intact ptr) {action : PciAction ι}
    {pci : GuestModule ι} (core : life.pci.PciCore action)
    (stepped : life.pci.step action = some pci) :
    (life.Undisturbed (.pci action) ∧ (life.withPci pci).Intact ptr) ∨
      (¬life.Undisturbed (.pci action) ∧ (life.withPci pci).Broken) := by
  have kept : ∀ {after : GuestModule ι}, after.guestIvshmem = some ptr →
      (after.heap ptr).isSome = true → (life.withPci after).Intact ptr := by
    intro after published there
    refine ⟨intact.loaded, published, intact.registered, ?_, withPci_live after, intact.files,
      intact.faultless⟩
    show (life.added ptr && (after.heap ptr).isSome) = true
    rw [intact.added, there]
    rfl
  rcases GuestModule.step_cases core stepped with
    ⟨ineffective, same, heap⟩ | ⟨calls, bar, _, fresh, rfl, passes, free, new, -, -⟩ |
      ⟨pdev, guest, rfl, drvdata, after, heap⟩
  · refine Or.inl ⟨?_, kept (same.trans intact.published)
      (heap.symm ▸ intact.live ptr intact.added)⟩
    cases action with
    | probe calls bar pdev fresh => exact ineffective
    | remove pdev =>
        show (life.pci.pdevs pdev).drvdata ≠ life.pci.guestIvshmem
        rw [show (life.pci.pdevs pdev).drvdata = none from ineffective, intact.published]
        exact (Option.some_ne_none ptr).symm
  · refine Or.inr ⟨fun undisturbed => undisturbed passes, intact.loaded,
      fun other published => ?_, withPci_live pci⟩
    obtain rfl := Option.some.inj (new.symm.trans published)
    exact withPci_added (added_fresh intact.live free)
  · by_cases own : guest = ptr
    · subst own
      have removed : (life.pci.pdevs pdev).drvdata = life.pci.guestIvshmem :=
        drvdata.trans intact.published.symm
      refine Or.inr ⟨fun undisturbed => undisturbed removed, intact.loaded,
        fun other published => ?_, withPci_live pci⟩
      rw [if_pos intact.published] at after
      cases after.symm.trans published
    · have different : life.pci.guestIvshmem ≠ some guest := by
        rw [intact.published]
        exact fun same => own (Option.some.inj same).symm
      rw [if_neg different] at after
      refine Or.inl ⟨?_, kept (after.trans intact.published) ?_⟩
      · show (life.pci.pdevs pdev).drvdata ≠ life.pci.guestIvshmem
        rw [drvdata]
        exact different.symm
      · rw [heap, Function.update_of_ne (Ne.symm own)]
        exact intact.live ptr intact.added

/-- An event either disturbs an intact life, and breaks it, or keeps it intact. -/
theorem Intact.step {ptr : DevicePtr} (intact : life.Intact ptr) {event : LifeEvent ι φ}
    (allowed : life.Allowed event) (taken : life.step event = some next) :
    (life.Undisturbed event ∧ next.Intact ptr) ∨ (¬life.Undisturbed event ∧ next.Broken) := by
  cases event with
  | pci action =>
      obtain ⟨pci, stepped, rfl⟩ := Option.map_eq_some_iff.mp taken
      exact intact.pciStep allowed stepped
  | openFile file =>
      refine Or.inl ⟨trivial, ?_⟩
      simp only [GuestLife.step] at taken
      split at taken
      · cases taken
      · have found : life.registered.any life.added = true := by
          rw [intact.registered]
          exact intact.added
        rw [if_pos found] at taken
        obtain rfl := Option.some.inj taken
        refine ⟨intact.loaded, intact.published, intact.registered, intact.added, intact.live, ?_,
          intact.faultless⟩
        intro other privateData opened
        rcases update_cases (fun data => data = some privateData) opened with
          ⟨-, own⟩ | ⟨-, before⟩
        · exact (Option.some.inj own).symm.trans intact.published
        · exact intact.files other privateData before
  | mmapFile file =>
      refine Or.inl ⟨trivial, ?_⟩
      simp only [GuestLife.step] at taken
      split at taken
      · cases taken
      · rename_i privateData opened
        have there : (privateData.bind life.pci.heap).isSome = true := by
          rw [intact.files file privateData opened]
          exact intact.live ptr intact.added
        rw [if_pos there] at taken
        exact Option.some.inj taken ▸ intact
  | releaseFile file =>
      refine Or.inl ⟨trivial, ?_⟩
      simp only [GuestLife.step] at taken
      split at taken
      · cases taken
      · obtain rfl := Option.some.inj taken
        refine ⟨intact.loaded, intact.published, intact.registered, intact.added, intact.live, ?_,
          intact.faultless⟩
        intro other privateData opened
        rcases update_cases (fun data => data = some privateData) opened with
          ⟨-, own⟩ | ⟨-, before⟩
        · cases own
        · exact intact.files other privateData before

theorem Broken.run {events : List (LifeEvent ι φ)} {final : GuestLife ι φ} (broken : life.Broken)
    (run : GuardedRun GuestLife.step Allowed life events final) : final.Broken :=
  run.invariant Broken (fun _ _ _ holds allowed taken => holds.step allowed taken) broken

/-- A run that keeps an intact life undisturbed ends intact; any other ends broken. -/
theorem Intact.run {ptr : DevicePtr} {events : List (LifeEvent ι φ)} {final : GuestLife ι φ}
    (intact : life.Intact ptr) (run : GuardedRun GuestLife.step Allowed life events final) :
    (GuardedRun GuestLife.step Undisturbed life events final ∧ final.Intact ptr) ∨
      (¬GuardedRun GuestLife.step Undisturbed life events final ∧ final.Broken) := by
  induction run with
  | nil life => exact Or.inl ⟨.nil life, intact⟩
  | cons allowed taken tail inductionHypothesis =>
      rcases intact.step allowed taken with ⟨undisturbed, kept⟩ | ⟨disturbed, broken⟩
      · rcases inductionHypothesis kept with ⟨rest, final⟩ | ⟨rest, final⟩
        · exact Or.inl ⟨.cons undisturbed taken rest, final⟩
        · refine Or.inr ⟨?_, final⟩
          rintro (_ | ⟨_, alsoTaken, others⟩)
          obtain rfl := Option.some.inj (taken.symm.trans alsoTaken)
          exact rest others
      · refine Or.inr ⟨?_, broken.run tail⟩
        rintro (_ | ⟨undisturbed, _, _⟩)
        exact disturbed undisturbed

/-! ## Load and unload -/

omit [DecidableEq φ] in
/-- Unbinding the devices touches no `cdev`. -/
theorem pciUnregisterDriver_faults (bound : List ι) (life : GuestLife ι φ) :
    (life.pciUnregisterDriver bound).faults = life.faults := by
  induction bound generalizing life with
  | nil => rfl
  | cons pdev rest inductionHypothesis =>
      show (GuestLife.pciUnregisterDriver rest _).faults = life.faults
      rw [inductionHypothesis]
      dsimp only
      split <;> rfl

omit [DecidableEq ι] [DecidableEq φ] in
theorem Intact.unregister_faults {ptr : DevicePtr} (intact : life.Intact ptr) :
    life.unregisterChardev.faults = [] := by
  have loaded : ¬life.guestIvshmemClass = false := by
    rw [intact.loaded]
    decide
  rw [unregisterChardev, if_neg loaded, intact.published]
  dsimp only
  rw [if_pos intact.added]
  exact intact.faultless

omit [DecidableEq ι] [DecidableEq φ] in
theorem Broken.unregister_faults (broken : life.Broken) : life.unregisterChardev.faults ≠ [] := by
  have loaded : ¬life.guestIvshmemClass = false := by
    rw [broken.loaded]
    decide
  rw [unregisterChardev, if_neg loaded]
  cases published : life.pci.guestIvshmem with
  | none => exact List.cons_ne_nil _ _
  | some ptr =>
      dsimp only
      rw [if_neg (by rw [broken.lost ptr published]; decide)]
      exact List.cons_ne_nil _ _

/-- The module when the probes have been made. -/
def probed (φ : Type) (pci : GuestModule ι) : GuestLife ι φ :=
  ⟨pci, false, none, fun _ => false, fun _ => none, []⟩

omit [DecidableEq ι] [DecidableEq φ] in
/-- A character device that was registered is intact. -/
theorem registerChardev_intact {pci : GuestModule ι} {ptr : DevicePtr}
    (published : pci.guestIvshmem = some ptr) (live : (pci.heap ptr).isSome = true)
    {calls : GuestInitCalls} {start : GuestLife ι φ}
    (registers : (probed φ pci).registerChardev calls = (start, none)) : start.Intact ptr := by
  unfold registerChardev at registers
  split at registers
  · cases registers
  · split at registers
    · cases registers
    · rw [show (probed φ pci).pci.guestIvshmem = some ptr from published] at registers
      dsimp only at registers
      rw [if_pos (show ((probed φ pci).pci.heap ptr).isSome = true from live)] at registers
      split at registers
      · cases registers
      · split at registers
        · cases registers
        · obtain ⟨rfl, -⟩ := Prod.mk.inj registers
          refine ⟨rfl, published, rfl, Function.update_self .., ?_,
            fun _ _ opened => (nomatch opened), rfl⟩
          intro other added
          rcases update_cases (fun flag => flag = true) added with ⟨rfl, -⟩ | ⟨-, before⟩
          · exact live
          · cases before

omit [DecidableEq φ] in
/-- A load that succeeds is intact. -/
theorem intact_of_loaded {pci : GuestModule ι}
    (live : ∀ ptr, pci.guestIvshmem = some ptr → (pci.heap ptr).isSome = true)
    {calls : GuestInitCalls} {bound : List ι} {start : GuestLife ι φ}
    (loads : guestIvshmemInit calls bound (probed φ pci) = (start, none)) :
    ∃ ptr, start.Intact ptr := by
  cases published : pci.guestIvshmem with
  | none =>
      have absent : (probed φ pci).pci.guestIvshmem.isNone = true := by
        show pci.guestIvshmem.isNone = true
        rw [published]
        rfl
      rw [guestIvshmemInit, if_pos absent] at loads
      cases loads
  | some ptr =>
      have present : ¬(probed φ pci).pci.guestIvshmem.isNone = true := by
        show ¬pci.guestIvshmem.isNone = true
        rw [published]
        exact Bool.false_ne_true
      rw [guestIvshmemInit, if_neg present] at loads
      split at loads
      · cases loads
      · split at loads
        · cases loads
        · rename_i registers
          obtain ⟨rfl, -⟩ := Prod.mk.inj loads
          exact ⟨ptr, registerChardev_intact published (live ptr published) registers⟩

theorem published_live {probes : List (PciAction ι)} {pci : GuestModule ι}
    (run : GuardedRun GuestModule.step GuestModule.PciCore (GuestModule.loaded ι) probes pci) :
    ∀ ptr, pci.guestIvshmem = some ptr → (pci.heap ptr).isSome = true := by
  refine run.invariant (fun state => ∀ ptr, state.guestIvshmem = some ptr →
    (state.heap ptr).isSome = true) ?_ fun _ published => nomatch published
  intro state action next live core taken ptr published
  rcases GuestModule.step_cases core taken with
    ⟨-, same, heap⟩ | ⟨_, _, _, fresh, -, -, -, new, stored, -⟩ | ⟨_, guest, -, -, after, heap⟩
  · rw [heap]
    exact live ptr (same ▸ published)
  · obtain rfl := Option.some.inj (new.symm.trans published)
    exact stored
  · rw [published] at after
    split at after
    · cases after
    · rename_i other
      have different : ptr ≠ guest := fun same => other (after.symm.trans (congrArg some same))
      rw [heap, Function.update_of_ne different]
      exact live ptr after.symm

/-- **A life of the guest module is sound exactly when no device comes or goes.**
Whatever probes have been made before a load that succeeds, and whatever files are
opened, mapped and released while the module is loaded, no access of the module, of its
file operations or of the kernel to its `cdev` goes through a null pointer or to a freed
struct, and none takes a `cdev` that was never added, up to and with the unload, if and
only if the PCI core has neither bound another device nor removed the published one in
between. A second device that is bound and stays leads to an access of the third kind
only: the unload takes the `cdev` of that device. -/
theorem guest_life_sound_iff {probes : List (PciAction ι)} {pci : GuestModule ι}
    (registered : GuardedRun GuestModule.step GuestModule.PciCore (GuestModule.loaded ι) probes pci)
    {calls : GuestInitCalls} {bound unbound : List ι} {start final : GuestLife ι φ}
    (loads : guestIvshmemInit calls bound (probed φ pci) = (start, none))
    {events : List (LifeEvent ι φ)}
    (run : GuardedRun GuestLife.step Allowed start events final) :
    (guestIvshmemExit unbound final).faults = [] ↔
      GuardedRun GuestLife.step Undisturbed start events final := by
  obtain ⟨ptr, intact⟩ := intact_of_loaded (published_live registered) loads
  rw [guestIvshmemExit, pciUnregisterDriver_faults]
  rcases intact.run run with ⟨undisturbed, kept⟩ | ⟨disturbed, broken⟩
  · exact iff_of_true kept.unregister_faults undisturbed
  · exact iff_of_false broken.unregister_faults disturbed

/-- Every call of a load succeeds. -/
def goodInit : GuestInitCalls := ⟨none, none, none, none, none⟩

/-- A file is opened and the device is unplugged. The life is disturbed, so that there
is a bad access at the latest when the module is unloaded. -/
theorem unplugged_life_faults :
    ∃ pci start final,
      GuardedRun GuestModule.step GuestModule.PciCore (GuestModule.loaded Bool)
        [GuestModule.probeNew false 1] pci ∧
      guestIvshmemInit goodInit [] (probed Unit pci) = (start, none) ∧
      GuardedRun GuestLife.step Allowed start [.openFile (), .pci (.remove false)] final ∧
      (guestIvshmemExit [] final).faults ≠ [] := by
  have check : (exec GuestModule.step GuestModule.PciCore (GuestModule.loaded Bool)
      [GuestModule.probeNew false 1]).any (fun pci => pci.bound false &&
        decide (pci.guestIvshmem = some 1 ∧ (pci.pdevs false).drvdata = some 1 ∧
          (pci.heap 1).isSome = true)) = true := by
    decide +kernel
  obtain ⟨pci, executed, both⟩ := (Option.any_eq_true _ _).mp check
  obtain ⟨bound, held⟩ := Bool.and_eq_true_iff.mp both
  obtain ⟨published, drvdata, live⟩ := of_decide_eq_true held
  have probes := guardedRun_of_exec executed
  obtain ⟨start, loads, same, closed⟩ : ∃ start,
      guestIvshmemInit goodInit [] (probed Unit pci) = (start, none) ∧ start.pci = pci ∧
        start.files () = none := by
    refine ⟨{ probed Unit pci with
      guestIvshmemClass := true
      registered := some 1
      added := Function.update (fun _ => false) 1 true }, ?_, rfl, rfl⟩
    simp [guestIvshmemInit, registerChardev, probed, published, live, goodInit]
  obtain ⟨opened, opens, unmoved⟩ : ∃ opened,
      start.step (.openFile ()) = some opened ∧ opened.pci = start.pci := by
    simp only [GuestLife.step, closed]
    refine ⟨_, rfl, ?_⟩
    dsimp only
    split <;> rfl
  have run : GuardedRun GuestLife.step Allowed start [.openFile (), .pci (.remove false)] _ :=
    .cons trivial opens (.cons (show opened.pci.bound false = true by rw [unmoved, same, bound])
      rfl (.nil _))
  refine ⟨pci, start, _, probes, loads, run, ?_⟩
  rw [Ne, guest_life_sound_iff probes loads run]
  rintro (_ | ⟨_, alsoOpens, _ | ⟨undisturbed, _, _⟩⟩)
  obtain rfl := Option.some.inj (opens.symm.trans alsoOpens)
  apply undisturbed
  rw [unmoved, same, drvdata, published]

end GuestLife

end PhantomTracker.Shmem
