import PhantomTracker.Foundation.PinScript

/-!
Contract: runs of the guest's loader.

Owns: the calls of `main` of `omp_thread_reg.loader.c` that attach programs and pin links
and the thread map, the status with which it exits, and what later runs can do once a run
has pinned its first link.

Does not own: the worker probe, which cannot be pinned, or what the programs do.
-/

namespace PhantomTracker.Guest

open PhantomTracker.Foundation

inductive GuestPin where
  | masterLink
  | ompThreadsMap
  | switchLink
  | exitLink
  | execLink
deriving DecidableEq, Repr

/-- `main`, up to its waiting loop. -/
def ompThreadRegLoader : List (PinCall GuestPin) :=
  [.other, .other, .other, -- open and load, attach the probes of master and workers
    .pin .masterLink, .pin .ompThreadsMap,
    .other, .pin .switchLink,
    .other, .pin .exitLink,
    .other, .pin .execLink]

/-- The status of a run that leaves its script at a position. After a failed pin `err`
still holds the 0 of the last attachment. -/
def exitStatus (index : Nat) : Nat :=
  match ompThreadRegLoader[index]? with
  | some (.pin _) => 0
  | some _ => 1
  | none => 0

section Runs

variable {ι : Type} [DecidableEq ι] {actions later : List (PinAction GuestPin ι)}
  {state final : PinState GuestPin ι} {own : ι}

/-- Every process runs the loader. -/
def loaders (_ : ι) : List (PinCall GuestPin) := ompThreadRegLoader

/-- A run of several loaders in which nothing is removed by hand. -/
abbrev LoadersRun : PinState GuestPin ι → List (PinAction GuestPin ι) → PinState GuestPin ι →
    Prop :=
  PinState.Run loaders fun _ => False

omit [DecidableEq ι] in
theorem loaders_looksFirst (path : GuestPin) : PinState.LooksFirst (loaders : ι → _) path := by
  apply PinState.looksFirst_of_scripts
  intro own
  show PinCall.LooksBefore path ompThreadRegLoader
  cases path <;> decide

theorem loaders_agrees (run : LoadersRun (.start : PinState GuestPin ι) actions final)
    (path : GuestPin) : PinState.Agrees loaders path final :=
  (PinState.agrees_start loaders path).run (loaders_looksFirst path) run id

omit [DecidableEq ι] in
/-- Every other pin comes after the one of the first link. -/
theorem loaders_guards {path : GuestPin} (behind : path ≠ .masterLink) :
    PinState.Guards (loaders : ι → _) .masterLink path := by
  refine PinState.guards_of_scripts (fun own => ?_) fun own => ?_
  · show PinCall.Behind .masterLink path ompThreadRegLoader
    cases path with
    | masterLink => exact absurd rfl behind
    | _ => decide
  · show .get .masterLink ∉ ompThreadRegLoader
    decide

omit [DecidableEq ι] in
theorem loaders_pinOnce (path : GuestPin) :
    PinState.CallsOnce (loaders : ι → _) (.pin path) := by
  apply PinState.callsOnce_of_scripts
  intro own
  show PinCall.Once (.pin path) ompThreadRegLoader
  cases path <;> decide

omit [DecidableEq ι] in
/-- Who is past the first pin has pinned the first link. -/
theorem master_of_passed (agrees : PinState.Agrees loaders .masterLink final)
    (passed : 3 < (final.processes own).pc) : final.pins .masterLink = some own :=
  PinState.gate_of_passed (loaders_guards (show GuestPin.execLink ≠ .masterLink by decide)) agrees
    (show PinState.Calls loaders own 3 (.pin .masterLink) from rfl) passed

end Runs

end PhantomTracker.Guest
