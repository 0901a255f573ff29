import PhantomTracker.Foundation.Runs
import PhantomTracker.Shmem.Channel
import Mathlib.Logic.Function.Basic

/-!
Contract: devices that are plugged into and unplugged from the guest driver.

Owns: `guest_ivshmem_probe` with the resources it acquires and its staged unwind,
`guest_ivshmem_remove`, the sequences of both that the PCI core can make, and the
sequences along which the driver has at most one device.

Does not own: what a probe checks, which the guest driver module owns.
-/

namespace PhantomTracker.Shmem

open PhantomTracker.Foundation

/-! ## The driver and its devices -/

/-- The address of an allocated `struct guest_ivshmem_device`. -/
abbrev DevicePtr := Nat

/-- What the driver holds of one PCI device: how often it has enabled it,
requested its BAR and mapped its pages, and the pointer set with
`pci_set_drvdata`. -/
structure PciDev where
  enabled : Nat
  requested : Nat
  mapped : Nat
  drvdata : Option DevicePtr
deriving DecidableEq, Repr

/-- The globals of the driver, its live allocations and its devices. `bound` is
the record of the PCI core: the probe of the device has returned 0 and the device
has not been removed since. -/
structure GuestModule (ι : Type) where
  guestIvshmem : Option DevicePtr
  lockDepth : Int
  heap : DevicePtr → Option GuestIvshmemDevice
  pdevs : ι → PciDev
  bound : ι → Bool

section Module

variable {ι : Type} [DecidableEq ι]

namespace GuestModule

/-- Change what the driver holds of one device. -/
def modify (pdev : ι) (change : PciDev → PciDev) (state : GuestModule ι) : GuestModule ι :=
  { state with pdevs := Function.update state.pdevs pdev (change (state.pdevs pdev)) }

/-- Allocate a struct, or fill an allocated one. -/
def store (ptr : DevicePtr) (guest : GuestIvshmemDevice) (state : GuestModule ι) : GuestModule ι :=
  { state with heap := Function.update state.heap ptr (some guest) }

def kfree (ptr : DevicePtr) (state : GuestModule ι) : GuestModule ι :=
  { state with heap := Function.update state.heap ptr none }

def mutexLock (state : GuestModule ι) : GuestModule ι :=
  { state with lockDepth := state.lockDepth + 1 }

def mutexUnlock (state : GuestModule ι) : GuestModule ι :=
  { state with lockDepth := state.lockDepth - 1 }

def pciEnableDevice (pdev : ι) : GuestModule ι → GuestModule ι :=
  modify pdev fun dev => { dev with enabled := dev.enabled + 1 }

def pciDisableDevice (pdev : ι) : GuestModule ι → GuestModule ι :=
  modify pdev fun dev => { dev with enabled := dev.enabled - 1 }

def pciRequestRegion (pdev : ι) : GuestModule ι → GuestModule ι :=
  modify pdev fun dev => { dev with requested := dev.requested + 1 }

def pciReleaseRegion (pdev : ι) : GuestModule ι → GuestModule ι :=
  modify pdev fun dev => { dev with requested := dev.requested - 1 }

def pciIomap (pdev : ι) : GuestModule ι → GuestModule ι :=
  modify pdev fun dev => { dev with mapped := dev.mapped + 1 }

def pciIounmap (pdev : ι) : GuestModule ι → GuestModule ι :=
  modify pdev fun dev => { dev with mapped := dev.mapped - 1 }

def pciSetDrvdata (pdev : ι) (ptr : Option DevicePtr) : GuestModule ι → GuestModule ι :=
  modify pdev fun dev => { dev with drvdata := ptr }

/-- The zero-filled struct that `kzalloc` returns. -/
def zeroDevice : GuestIvshmemDevice := ⟨none, 0, 0, 0, 0⟩

/-! ## The labels of the unwind -/

def errFreeGuest (ptr : DevicePtr) (state : GuestModule ι) : GuestModule ι := state.kfree ptr

def errDisableDevice (pdev : ι) (ptr : DevicePtr) (state : GuestModule ι) : GuestModule ι :=
  (state.pciDisableDevice pdev).errFreeGuest ptr

def errReleaseRegion (pdev : ι) (ptr : DevicePtr) (state : GuestModule ι) : GuestModule ι :=
  (state.pciReleaseRegion pdev).errDisableDevice pdev ptr

/-- The end of a probe, from the lock on. The branch for a second device sets
`ret`, but goes on: it unlocks twice, publishes the device and returns 0. -/
def publish (pdev : ι) (ptr : DevicePtr) (state : GuestModule ι) : GuestModule ι :=
  let locked := state.mutexLock
  let checked := if locked.guestIvshmem.isSome then locked.mutexUnlock else locked
  mutexUnlock { checked.pciSetDrvdata pdev (some ptr) with guestIvshmem := some ptr }

/-- `guest_ivshmem_probe`. `ptr` is the address that `kzalloc` returns. -/
def probe (calls : GuestCalls) (bar : PciBar) (pdev : ι) (ptr : DevicePtr)
    (state : GuestModule ι) : GuestModule ι × Except Errno Unit :=
  if calls.kzalloc = false then (state, .error .enomem)
  else
    let allocated := state.store ptr zeroDevice
    match calls.pciEnableDevice with
    | some ret => (allocated.errFreeGuest ptr, .error ret)
    | none =>
        let enabled := allocated.pciEnableDevice pdev
        if bar.isMem = false then (enabled.errDisableDevice pdev ptr, .error .enodev)
        else if bar.len < guestIvshmemMetadataSize then
          (enabled.errDisableDevice pdev ptr, .error .einval)
        else
          match calls.pciRequestRegion with
          | some ret => (enabled.errDisableDevice pdev ptr, .error ret)
          | none =>
              let requested := enabled.pciRequestRegion pdev
              if calls.iomapMetadata = false then
                (requested.errReleaseRegion pdev ptr, .error .enomem)
              else
                -- the metadata page is mapped, read and unmapped
                let read := (requested.pciIomap pdev).pciIounmap pdev
                match probeHeader calls bar (IvshmemHeader.read bar.memory) with
                | .error ret => (read.errReleaseRegion pdev ptr, .error ret)
                | .ok guest =>
                    (((read.pciIomap pdev).store ptr guest).publish pdev ptr, .ok ())

/-- `guest_ivshmem_remove`. -/
def remove (pdev : ι) (state : GuestModule ι) : GuestModule ι :=
  match (state.pdevs pdev).drvdata with
  | none => state
  | some guest =>
      let locked := (state.pciSetDrvdata pdev none).mutexLock
      let cleared : GuestModule ι :=
        if locked.guestIvshmem = some guest then { locked with guestIvshmem := none } else locked
      (((cleared.mutexUnlock.pciIounmap pdev).pciReleaseRegion pdev).pciDisableDevice pdev).kfree
        guest

/-! ## How a probe ends -/

variable {state : GuestModule ι} {calls : GuestCalls} {bar : PciBar} {pdev : ι} {ptr : DevicePtr}

theorem modify_modify (first second : PciDev → PciDev) :
    (state.modify pdev first).modify pdev second = state.modify pdev (second ∘ first) := by
  unfold modify
  dsimp only
  rw [Function.update_idem, Function.update_self]
  rfl

theorem modify_of_same {change : PciDev → PciDev} (same : ∀ dev, change dev = dev) :
    state.modify pdev change = state := by
  unfold modify
  rw [same, Function.update_eq_self]

theorem disable_enable : (state.pciEnableDevice pdev).pciDisableDevice pdev = state := by
  unfold pciEnableDevice pciDisableDevice
  rw [modify_modify]
  exact modify_of_same fun _ => rfl

theorem release_request : (state.pciRequestRegion pdev).pciReleaseRegion pdev = state := by
  unfold pciRequestRegion pciReleaseRegion
  rw [modify_modify]
  exact modify_of_same fun _ => rfl

theorem unmap_map : (state.pciIomap pdev).pciIounmap pdev = state := by
  unfold pciIomap pciIounmap
  rw [modify_modify]
  exact modify_of_same fun _ => rfl

omit [DecidableEq ι] in
theorem kfree_store (fresh : state.heap ptr = none) (guest : GuestIvshmemDevice) :
    (state.store ptr guest).kfree ptr = state := by
  unfold store kfree
  dsimp only
  rw [Function.update_idem, ← fresh, Function.update_eq_self]

/-- A failure before the lock releases everything that was acquired. -/
theorem probe_of_failed (fresh : state.heap ptr = none) {ret : Errno}
    (failed : probeDevice calls bar = .error ret) :
    state.probe calls bar pdev ptr = (state, .error ret) := by
  unfold probeDevice at failed
  unfold probe
  by_cases unallocated : calls.kzalloc = false
  · rw [if_pos unallocated] at failed ⊢
    rw [Except.error.inj failed]
  rw [if_neg unallocated] at failed ⊢
  dsimp only
  unfold errReleaseRegion errDisableDevice errFreeGuest
  cases enable : calls.pciEnableDevice with
  | some code =>
      rw [enable] at failed
      rw [kfree_store fresh, Except.error.inj failed]
  | none =>
      rw [enable] at failed
      dsimp only at failed ⊢
      rw [unmap_map, release_request, disable_enable, kfree_store fresh]
      split at failed
      · rw [if_pos ‹_›, Except.error.inj failed]
      rw [if_neg ‹_›]
      split at failed
      · rw [if_pos ‹_›, Except.error.inj failed]
      rw [if_neg ‹_›]
      cases request : calls.pciRequestRegion with
      | some code =>
          rw [request] at failed
          rw [Except.error.inj failed]
      | none =>
          rw [request] at failed
          dsimp only at failed ⊢
          split at failed
          · rw [if_pos ‹_›, Except.error.inj failed]
          rw [if_neg ‹_›, failed]

/-- A probe that gets to the lock holds its resources and publishes the
device. -/
theorem probe_of_accepted {guest : GuestIvshmemDevice}
    (accepted : probeDevice calls bar = .ok guest) :
    state.probe calls bar pdev ptr =
      ((((((state.store ptr zeroDevice).pciEnableDevice pdev).pciRequestRegion pdev).pciIomap
        pdev).store ptr guest).publish pdev ptr, .ok ()) := by
  unfold probeDevice at accepted
  unfold probe
  split at accepted
  · cases accepted
  rw [if_neg ‹_›]
  dsimp only
  cases enable : calls.pciEnableDevice with
  | some code =>
      rw [enable] at accepted
      cases accepted
  | none =>
      rw [enable] at accepted
      dsimp only at accepted ⊢
      split at accepted
      · cases accepted
      rw [if_neg ‹_›]
      split at accepted
      · cases accepted
      rw [if_neg ‹_›]
      cases request : calls.pciRequestRegion with
      | some code =>
          rw [request] at accepted
          cases accepted
      | none =>
          rw [request] at accepted
          dsimp only at accepted ⊢
          split at accepted
          · cases accepted
          rw [if_neg ‹_›, accepted, unmap_map]

deriving instance DecidableEq for GuestCalls

/-- The region behind the BAR is one that a probe accepts. -/
@[mk_iff]
structure Acceptable (bar : PciBar) : Prop where
  isMem : bar.isMem = true
  metadata : guestIvshmemMetadataSize ≤ bar.len
  magic : (IvshmemHeader.read bar.memory).magic = pvschedMagic
  version : (IvshmemHeader.read bar.memory).version = pvschedVersion
  adjacent : (IvshmemHeader.read bar.memory).h2gPageOffset.toNat =
    guestIvshmemMetadataOffset + guestIvshmemMetadataSize
  fits : ((IvshmemHeader.read bar.memory).g2hPageOffset +
    (IvshmemHeader.read bar.memory).g2hPageSize).toNat ≤ bar.len

instance (bar : PciBar) : Decidable (Acceptable bar) :=
  decidable_of_iff' _ (acceptable_iff bar)

/-- A probe gets to the lock exactly when no kernel function fails and the region
passes the checks. -/
theorem probeDevice_ok_iff :
    (∃ guest, probeDevice calls bar = .ok guest) ↔ calls = .working ∧ Acceptable bar := by
  constructor
  · rintro ⟨guest, accepted⟩
    rcases probeDevice_ok accepted with ⟨region, header⟩
    refine ⟨?_, region.isMem, region.metadata, header.magic, header.version, header.adjacent,
      header.fits⟩
    rcases calls with ⟨kzalloc, enabled, requested, metadata, g2h⟩
    rcases region with ⟨rfl, rfl, _, _, rfl, rfl⟩
    obtain rfl : g2h = true := header.iomapG2h
    rfl
  · rintro ⟨rfl, isMem, metadata, magic, version, adjacent, fits⟩
    exact ⟨_, probeDevice_accepts isMem metadata rfl magic version adjacent fits⟩

theorem probeDevice_error (refused : ¬ (calls = .working ∧ Acceptable bar)) :
    ∃ ret, probeDevice calls bar = .error ret := by
  cases outcome : probeDevice calls bar with
  | error ret => exact ⟨ret, rfl⟩
  | ok guest => exact absurd (probeDevice_ok_iff.mp ⟨guest, outcome⟩) refused

/-! ## What a probe publishes -/

/-- The driver as the guest programs see it. -/
def view (state : GuestModule ι) : GuestDriver :=
  ⟨state.guestIvshmem.bind state.heap, state.lockDepth⟩

theorem publish_heap : (state.publish pdev ptr).heap = state.heap := by
  unfold publish
  dsimp only
  split <;> rfl

theorem publish_bound : (state.publish pdev ptr).bound = state.bound := by
  unfold publish
  dsimp only
  split <;> rfl

theorem publish_lockDepth :
    (state.publish pdev ptr).lockDepth =
      state.lockDepth + 1 - (if state.guestIvshmem.isSome then 1 else 0) - 1 := by
  unfold publish
  by_cases busy : state.guestIvshmem.isSome = true
  · have lockedBusy : state.mutexLock.guestIvshmem.isSome = true := busy
    dsimp only
    rw [if_pos lockedBusy, if_pos busy]
    rfl
  · have lockedFree : ¬ state.mutexLock.guestIvshmem.isSome = true := busy
    dsimp only
    rw [if_neg lockedFree, if_neg busy, Int.sub_zero]
    rfl

theorem publish_drvdata : ((state.publish pdev ptr).pdevs pdev).drvdata = some ptr := by
  unfold publish pciSetDrvdata modify mutexUnlock
  dsimp only
  rw [Function.update_self]

/-- What an accepted probe leaves behind. -/
theorem probe_accepted_spec {guest : GuestIvshmemDevice}
    (accepted : probeDevice calls bar = .ok guest) (next : GuestModule ι)
    (result : Except Errno Unit) (probed : state.probe calls bar pdev ptr = (next, result)) :
    result = .ok () ∧ next.guestIvshmem = some ptr ∧ next.heap ptr = some guest ∧
      next.lockDepth = state.lockDepth + 1 - (if state.guestIvshmem.isSome then 1 else 0) - 1 ∧
      (next.pdevs pdev).drvdata = some ptr ∧ next.bound = state.bound := by
  rw [probe_of_accepted accepted] at probed
  obtain ⟨rfl, rfl⟩ := Prod.mk.inj probed
  refine ⟨rfl, rfl, ?_, publish_lockDepth, publish_drvdata, publish_bound⟩
  rw [publish_heap]
  exact Function.update_self _ _ _

/-- To the guest programs, a probe does what `guestIvshmemProbe` does to the
published device and the lock. -/
theorem probe_view (fresh : state.heap ptr = none)
    (live : ∀ published, state.guestIvshmem = some published →
      (state.heap published).isSome = true) :
    ((state.probe calls bar pdev ptr).1.view, (state.probe calls bar pdev ptr).2) =
      guestIvshmemProbe calls bar state.view := by
  unfold guestIvshmemProbe
  cases outcome : probeDevice calls bar with
  | error ret => rw [probe_of_failed fresh outcome]
  | ok guest =>
      have seen : state.view.published.isSome = state.guestIvshmem.isSome := by
        unfold view
        cases published : state.guestIvshmem with
        | none => rfl
        | some other => exact live other published
      cases probed : state.probe calls bar pdev ptr with
      | mk next result =>
          rcases probe_accepted_spec outcome next result probed with
            ⟨rfl, published, stored, depth, _⟩
          refine Prod.ext ?_ rfl
          dsimp only
          rw [seen]
          unfold view
          rw [published, Option.bind_some, stored, depth]

end GuestModule

/-! ## Plugging and unplugging -/

/-- A call that the PCI core makes. -/
inductive PciAction (ι : Type) where
  | probe (calls : GuestCalls) (bar : PciBar) (pdev : ι) (ptr : DevicePtr)
  | remove (pdev : ι)

namespace GuestModule

/-- The call, and what the PCI core records of it. -/
def step (state : GuestModule ι) : PciAction ι → Option (GuestModule ι)
  | .probe calls bar pdev ptr =>
      match state.probe calls bar pdev ptr with
      | (probed, .ok ()) => some { probed with bound := Function.update probed.bound pdev true }
      | (probed, .error _) => some probed
  | .remove pdev =>
      let removed := state.remove pdev
      some { removed with bound := Function.update removed.bound pdev false }

/-- The PCI core removes only devices whose probe returned 0, and `kzalloc`
returns an address that is not in use. -/
def PciCore (state : GuestModule ι) : PciAction ι → Prop
  | .probe _ _ _ ptr => state.heap ptr = none
  | .remove pdev => state.bound pdev = true

instance (state : GuestModule ι) : (action : PciAction ι) → Decidable (state.PciCore action)
  | .probe _ _ _ ptr => inferInstanceAs (Decidable (state.heap ptr = none))
  | .remove pdev => inferInstanceAs (Decidable (state.bound pdev = true))

/-- The driver when the module has been loaded. -/
def loaded (ι : Type) : GuestModule ι :=
  ⟨none, 0, fun _ => none, fun _ => ⟨0, 0, 0, none⟩, fun _ => false⟩

/-- At most one device is bound, the published pointer is null or that of the
bound device, which has not been freed, and the lock is released as often as it
was taken. -/
structure SingleDevice (state : GuestModule ι) : Prop where
  bound : ∀ first second, state.bound first = true → state.bound second = true → first = second
  published : ∀ guest, state.guestIvshmem = some guest →
    ∃ pdev, state.bound pdev = true ∧ (state.pdevs pdev).drvdata = some guest ∧
      (state.heap guest).isSome = true
  lock : state.lockDepth = 0

/-- A probe made while a device is published changes nothing, so it holds nothing
of the new device, and it returns `-EBUSY` unless it has failed before. -/
def SecondRefused (state : GuestModule ι) : PciAction ι → Prop
  | .probe calls bar pdev ptr => state.guestIvshmem.isSome = true →
      state.probe calls bar pdev ptr =
        match probeDevice calls bar with
        | .error ret => (state, .error ret)
        | .ok _ => (state, .error .ebusy)
  | .remove _ => True

/-- What the driver promises before, during and after a call. -/
def LifecycleStep (state : GuestModule ι) (action : PciAction ι) : Prop :=
  state.SingleDevice ∧ state.SecondRefused action ∧
    ∀ next, state.step action = some next → next.SingleDevice

/-- While a device is published, no device is probed for which every kernel
function succeeds and the region passes the checks. -/
def OneAtATime (state : GuestModule ι) : PciAction ι → Prop
  | .probe calls bar _ _ => state.guestIvshmem.isSome = true →
      ¬ (calls = .working ∧ Acceptable bar)
  | .remove _ => True

instance (state : GuestModule ι) : (action : PciAction ι) → Decidable (state.OneAtATime action)
  | .probe calls bar _ _ => inferInstanceAs (Decidable (state.guestIvshmem.isSome = true →
      ¬ (calls = .working ∧ Acceptable bar)))
  | .remove _ => inferInstanceAs (Decidable True)

/-- The driver between two calls: nothing is bound, or the published device is
the only bound one. -/
structure Settled (state : GuestModule ι) : Prop where
  lock : state.lockDepth = 0
  empty : state.guestIvshmem = none → ∀ pdev, state.bound pdev = false
  single : ∀ guest, state.guestIvshmem = some guest →
    ∃ pdev, (∀ other, state.bound other = true ↔ other = pdev) ∧
      (state.pdevs pdev).drvdata = some guest ∧ (state.heap guest).isSome = true

variable {state : GuestModule ι} {calls : GuestCalls} {bar : PciBar} {pdev : ι} {ptr : DevicePtr}

omit [DecidableEq ι] in
theorem settled_loaded : (loaded ι).Settled :=
  ⟨rfl, fun _ _ => rfl, fun _ published => nomatch published⟩

omit [DecidableEq ι] in
theorem Settled.singleDevice (settled : state.Settled) : state.SingleDevice := by
  refine ⟨?_, ?_, settled.lock⟩
  · intro first second firstBound secondBound
    cases published : state.guestIvshmem with
    | none => cases (settled.empty published first).symm.trans firstBound
    | some guest =>
        rcases settled.single guest published with ⟨pdev, only, _⟩
        rw [(only first).mp firstBound, (only second).mp secondBound]
  · intro guest published
    rcases settled.single guest published with ⟨pdev, only, held⟩
    exact ⟨pdev, (only pdev).mpr rfl, held⟩

/-! ## One call -/

theorem step_probe_failed (fresh : state.heap ptr = none) {ret : Errno}
    (failed : probeDevice calls bar = .error ret) :
    state.step (.probe calls bar pdev ptr) = some state := by
  unfold step
  dsimp only
  rw [probe_of_failed fresh failed]

theorem Settled.probe_accepted (settled : state.Settled) (free : state.guestIvshmem = none)
    {guest : GuestIvshmemDevice} (accepted : probeDevice calls bar = .ok guest)
    {next : GuestModule ι} (taken : state.step (.probe calls bar pdev ptr) = some next) :
    next.Settled := by
  unfold step at taken
  dsimp only at taken
  cases outcome : state.probe calls bar pdev ptr with
  | mk probed result =>
  rcases probe_accepted_spec accepted probed result outcome with
    ⟨rfl, published, stored, depth, drvdata, bound⟩
  rw [outcome] at taken
  obtain rfl := Option.some.inj taken
  refine ⟨?_, ?_, ?_⟩
  · rw [free, settled.lock] at depth
    exact depth
  · intro unpublished
    cases published.symm.trans unpublished
  · intro other otherPublished
    obtain rfl := Option.some.inj (published.symm.trans otherPublished)
    refine ⟨pdev, fun device => ?_, drvdata, ?_⟩
    · dsimp only at bound ⊢
      rw [bound]
      by_cases same : device = pdev
      · rw [same, Function.update_self]
        exact iff_of_true rfl rfl
      · rw [Function.update_of_ne same, settled.empty free]
        exact iff_of_false Bool.false_ne_true same
    · dsimp only at stored ⊢
      rw [stored]
      rfl

theorem Settled.remove (settled : state.Settled) (bound : state.bound pdev = true)
    {next : GuestModule ι} (taken : state.step (.remove pdev) = some next) : next.Settled := by
  cases published : state.guestIvshmem with
  | none => cases (settled.empty published pdev).symm.trans bound
  | some guest =>
      rcases settled.single guest published with ⟨holder, only, drvdata, _⟩
      obtain rfl := (only pdev).mp bound
      obtain rfl := Option.some.inj taken
      have removed : (state.remove pdev).guestIvshmem = none ∧
          (state.remove pdev).lockDepth = state.lockDepth + 1 - 1 ∧
          (state.remove pdev).bound = state.bound := by
        unfold GuestModule.remove
        rw [drvdata]
        dsimp only
        rw [if_pos (show (state.pciSetDrvdata pdev none).mutexLock.guestIvshmem = some guest from
          published)]
        exact ⟨rfl, rfl, rfl⟩
      refine ⟨?_, fun _ device => ?_, ?_⟩
      · dsimp only
        rw [removed.2.1, settled.lock]
        rfl
      · dsimp only
        rw [removed.2.2]
        by_cases same : device = pdev
        · rw [same, Function.update_self]
        · rw [Function.update_of_ne same]
          exact eq_false_of_ne_true fun other => same ((only device).mp other)
      · intro other otherPublished
        cases removed.1.symm.trans otherPublished

theorem Settled.step (settled : state.Settled) {action : PciAction ι} {next : GuestModule ι}
    (core : state.PciCore action) (oneAtATime : state.OneAtATime action)
    (taken : state.step action = some next) : next.Settled := by
  cases action with
  | remove pdev => exact settled.remove core taken
  | probe calls bar pdev ptr =>
      cases outcome : probeDevice calls bar with
      | error ret =>
          rw [step_probe_failed core outcome] at taken
          exact Option.some.inj taken ▸ settled
      | ok guest =>
          have free : state.guestIvshmem = none := by
            rw [← Option.not_isSome_iff_eq_none]
            intro busy
            exact oneAtATime busy (probeDevice_ok_iff.mp ⟨guest, outcome⟩)
          exact settled.probe_accepted free outcome taken

/-- From a settled state, a call keeps the promise exactly when it is not the
probe of a second device that passes the checks. -/
theorem Settled.lifecycleStep_iff (settled : state.Settled) {action : PciAction ι}
    (core : state.PciCore action) :
    state.LifecycleStep action ↔ state.OneAtATime action := by
  constructor
  · rintro ⟨_, refused, _⟩
    cases action with
    | remove pdev => exact trivial
    | probe calls bar pdev ptr =>
        intro busy passes
        obtain ⟨guest, accepted⟩ := probeDevice_ok_iff.mpr passes
        have answer := refused busy
        rw [probe_of_accepted accepted, accepted] at answer
        cases congrArg Prod.snd answer
  · intro oneAtATime
    refine ⟨settled.singleDevice, ?_, fun next taken =>
      (settled.step core oneAtATime taken).singleDevice⟩
    cases action with
    | remove pdev => exact trivial
    | probe calls bar pdev ptr =>
        intro busy
        obtain ⟨ret, failed⟩ := probeDevice_error (oneAtATime busy)
        rw [probe_of_failed core failed, failed]

/-! ## Sequences of calls -/

/-- In every sequence of calls of the PCI core, the driver keeps its promise at
every call exactly when no second device that passes the checks is probed while
one is published. -/
theorem single_device_iff_one_at_a_time {actions : List (PciAction ι)} {final : GuestModule ι}
    (run : GuardedRun step PciCore (loaded ι) actions final) :
    GuardedRun step LifecycleStep (loaded ι) actions final ↔
      GuardedRun step OneAtATime (loaded ι) actions final := by
  apply GuardedRun.guard_iff Settled _ _ run settled_loaded
  · intro state action next settled core _
    exact settled.lifecycleStep_iff core
  · intro state action next settled core oneAtATime taken
    exact settled.step core oneAtATime taken

end GuestModule

end Module

namespace GuestModule

/-- The probe of a device that exposes the region of a new VM with one vCPU. -/
def probeNew (pdev : Bool) (ptr : DevicePtr) : PciAction Bool :=
  .probe .working (newBar 1) pdev ptr

/-- A device is plugged in, unplugged, and replaced by another one, whose struct
gets the same address. -/
theorem replaced_device_single :
    ∃ final, GuardedRun step LifecycleStep (loaded Bool)
        [probeNew false 1, .remove false, probeNew true 1, .remove true] final ∧
      final.guestIvshmem = none := by
  have executed : (exec step (fun state action => state.PciCore action ∧ state.OneAtATime action)
      (loaded Bool) [probeNew false 1, .remove false, probeNew true 1, .remove true]).any
      (fun final => decide (final.guestIvshmem = none)) = true := by
    decide +kernel
  rcases (Option.any_eq_true _ _).mp executed with ⟨final, reached, unpublished⟩
  have run := guardedRun_of_exec reached
  have core := run.mono fun _ _ both => both.1
  have oneAtATime := run.mono fun _ _ both => both.2
  exact ⟨final, (single_device_iff_one_at_a_time core).mpr oneAtATime,
    of_decide_eq_true unpublished⟩

/-- Two devices are plugged in one after the other. The second probe finds the
first device published, and still returns 0: both devices are bound, the second
is published, and the lock has been released once too often. -/
theorem second_device_bound :
    ∃ final, GuardedRun step PciCore (loaded Bool) [probeNew false 1, probeNew true 2] final ∧
      (final.bound false = true ∧ final.bound true = true ∧ final.guestIvshmem = some 2 ∧
        final.lockDepth = -1) ∧
      ¬ GuardedRun step LifecycleStep (loaded Bool) [probeNew false 1, probeNew true 2] final := by
  have executed : (exec step PciCore (loaded Bool) [probeNew false 1, probeNew true 2]).any
      (fun final => final.bound false && final.bound true &&
        decide (final.guestIvshmem = some 2 ∧ final.lockDepth = -1)) = true := by
    decide +kernel
  rcases (Option.any_eq_true _ _).mp executed with ⟨final, reached, both⟩
  have run := guardedRun_of_exec reached
  simp only [Bool.and_eq_true, decide_eq_true_eq] at both
  refine ⟨final, run, ⟨both.1.1, both.1.2, both.2⟩, fun promised => ?_⟩
  have single : final.SingleDevice := by
    apply promised.invariant SingleDevice _ settled_loaded.singleDevice
    intro state action next _ kept taken
    exact kept.2.2 next taken
  cases single.bound false true both.1.1 both.1.2

end GuestModule

end PhantomTracker.Shmem
