import PhantomTracker.Foundation.FiniteMap
import PhantomTracker.Shmem.Channel

/-!
Contract: the guest programs of `omp_thread_reg.bpf.c` and the guest machine
they run in.

Owns: `omp_threads_map`, the registration probes, the exit and exec hooks, the
`sched_switch` handler, and what each of them does to the map and to the slots
of the guest-to-host pages.

Does not own: the host that reads the slots, or when the guest's CPUs run.

A machine has `nrCpus` CPUs. Its state says which thread is current on each of
them; a `sched_switch` event makes the next thread current after the handler
has run.
-/

namespace PhantomTracker.Guest

open PhantomTracker.Foundation
open PhantomTracker.Shmem

/-- A guest thread id (`__u32`). The idle thread of every CPU has id 0. -/
abbrev Tid := Nat

/-- `max_entries` of `omp_threads_map`. -/
def ompThreadsMaxEntries : Nat := 1000000

structure GuestState (nrCpus : Nat) where
  /-- `omp_threads_map`: thread id to the CPU where it was registered. -/
  ompThreadsMap : FiniteMap Tid Nat
  driver : GuestDriver
  memory : Memory
  current : Fin nrCpus → Tid

namespace GuestState

variable {nrCpus : Nat}

/-- The result of `bpf_map_lookup_elem` as a condition. -/
def tracks (state : GuestState nrCpus) (tid : Tid) : Bool :=
  (state.ompThreadsMap.lookup tid).isSome

/-- The thread that is current on a CPU is in `omp_threads_map`. -/
def runsTracked (state : GuestState nrCpus) (cpu : Fin nrCpus) : Bool :=
  state.tracks (state.current cpu)

/-- The run-state word that the guest has published for a CPU. -/
def runState (state : GuestState nrCpus) (cpu : Fin nrCpus) : UInt64 :=
  slotsOf state.memory cpu

/-- The map has room for the thread: it is there already, or an entry is
free. -/
def hasRoom (state : GuestState nrCpus) (tid : Tid) : Bool :=
  state.tracks tid || decide (state.ompThreadsMap.entries.length < ompThreadsMaxEntries)

end GuestState

section Programs

variable {nrCpus : Nat}

/-- `bpf_guest_ivshmem_g2h_write`. The programs ignore its result. -/
def g2hWrite (cpu : Fin nrCpus) (msg : UInt64) (state : GuestState nrCpus) : GuestState nrCpus :=
  match guestIvshmemG2hWriteMsg state.driver cpu (some msg) state.memory with
  | .ok memory => { state with memory := memory }
  | .error _ => state

/-- The body that the two registration probes share: enter the current thread,
with `BPF_ANY`, into the map. A full map refuses a new key. -/
def captureOmpThread (cpu : Fin nrCpus) (state : GuestState nrCpus) : GuestState nrCpus :=
  let tid := state.current cpu
  if state.hasRoom tid then
    { state with ompThreadsMap := state.ompThreadsMap.insert tid cpu }
  else state

def captureOmpMasterThread (cpu : Fin nrCpus) (state : GuestState nrCpus) : GuestState nrCpus :=
  captureOmpThread cpu state

def captureOmpWorkerThreads (cpu : Fin nrCpus) (state : GuestState nrCpus) : GuestState nrCpus :=
  captureOmpThread cpu state

/-- The block that `remove_current_tid` and `handle_switch` share: publish 0 if
the thread is tracked. -/
def clearIfTracked (cpu : Fin nrCpus) (tid : Tid) (state : GuestState nrCpus) :
    GuestState nrCpus :=
  if state.tracks tid then g2hWrite cpu 0 state else state

/-- `remove_current_tid`: publish 0 while the thread is still known, then
delete it. -/
def removeCurrentTid (cpu : Fin nrCpus) (state : GuestState nrCpus) : GuestState nrCpus :=
  let tid := state.current cpu
  let cleared := clearIfTracked cpu tid state
  { cleared with ompThreadsMap := cleared.ompThreadsMap.erase tid }

def removeExitedOmpThread (cpu : Fin nrCpus) (state : GuestState nrCpus) : GuestState nrCpus :=
  removeCurrentTid cpu state

def removeExecedOmpThread (cpu : Fin nrCpus) (state : GuestState nrCpus) : GuestState nrCpus :=
  removeCurrentTid cpu state

/-- `handle_switch`. -/
def handleSwitch (cpu : Fin nrCpus) (prevTid nextTid : Tid) (state : GuestState nrCpus) :
    GuestState nrCpus :=
  let switchedOut := clearIfTracked cpu prevTid state
  if switchedOut.tracks nextTid then g2hWrite cpu 1 switchedOut else switchedOut

end Programs

/-! ## The guest machine -/

inductive GuestEvent (nrCpus : Nat) where
  | captureMaster (cpu : Fin nrCpus)
  | captureWorker (cpu : Fin nrCpus)
  | exit (cpu : Fin nrCpus)
  | exec (cpu : Fin nrCpus)
  | switch (cpu : Fin nrCpus) (next : Tid)
deriving DecidableEq, Repr

/-- The CPU on which an event happens. -/
def GuestEvent.cpu {nrCpus : Nat} : GuestEvent nrCpus → Fin nrCpus
  | .captureMaster cpu | .captureWorker cpu | .exit cpu | .exec cpu | .switch cpu _ => cpu

/-- One event of the guest. An exec keeps the thread id, and an exiting thread
stays current until its final switch. -/
def guestStep {nrCpus : Nat} (state : GuestState nrCpus) : GuestEvent nrCpus → GuestState nrCpus
  | .captureMaster cpu => captureOmpMasterThread cpu state
  | .captureWorker cpu => captureOmpWorkerThreads cpu state
  | .exit cpu => removeExitedOmpThread cpu state
  | .exec cpu => removeExecedOmpThread cpu state
  | .switch cpu next =>
      let handled := handleSwitch cpu (state.current cpu) next state
      { handled with current := Function.update handled.current cpu next }

/-! ## What the programs do to the map and the slots -/

section Facts

variable {nrCpus : Nat} {state : GuestState nrCpus} {cpu : Fin nrCpus}

@[simp] theorem g2hWrite_ompThreadsMap (msg : UInt64) :
    (g2hWrite cpu msg state).ompThreadsMap = state.ompThreadsMap := by
  unfold g2hWrite
  split <;> rfl

@[simp] theorem g2hWrite_driver (msg : UInt64) :
    (g2hWrite cpu msg state).driver = state.driver := by
  unfold g2hWrite
  split <;> rfl

@[simp] theorem g2hWrite_current (msg : UInt64) :
    (g2hWrite cpu msg state).current = state.current := by
  unfold g2hWrite
  split <;> rfl

@[simp] theorem g2hWrite_tracks (msg : UInt64) (tid : Tid) :
    (g2hWrite cpu msg state).tracks tid = state.tracks tid := by
  unfold GuestState.tracks
  rw [g2hWrite_ompThreadsMap]

/-- A write changes no slot but the one of its CPU. -/
theorem slotsOf_g2hWrite_of_ne (mapped : state.driver.MappedAt hostIvshmemG2hOffset) {index : Nat}
    (different : index ≠ cpu) (msg : UInt64) :
    slotsOf (g2hWrite cpu msg state).memory index = slotsOf state.memory index := by
  unfold g2hWrite
  by_cases below : cpu.val < nrGuestIvshmemMsgs
  · rw [guestIvshmemG2hWriteMsg_accepted mapped below]
    show slotsOf (state.memory.store64 (hostG2hSlot cpu) msg) index = slotsOf state.memory index
    rw [slotsOf_store64, Function.update_of_ne different]
  · rw [guestIvshmemG2hWriteMsg_refused (Nat.not_lt.mp below)]

theorem runState_g2hWrite (mapped : state.driver.MappedAt hostIvshmemG2hOffset)
    (below : cpu.val < nrGuestIvshmemMsgs) (msg : UInt64) :
    (g2hWrite cpu msg state).runState cpu = msg := by
  unfold g2hWrite
  rw [guestIvshmemG2hWriteMsg_accepted mapped below]
  show slotsOf (state.memory.store64 (hostG2hSlot cpu) msg) cpu = msg
  rw [slotsOf_store64, Function.update_self]

theorem captureOmpThread_tracks (tid : Tid) :
    (captureOmpThread cpu state).tracks tid =
      (state.tracks tid || (decide (tid = state.current cpu) && state.hasRoom tid)) := by
  unfold captureOmpThread
  by_cases same : tid = state.current cpu
  · subst same
    by_cases room : state.hasRoom (state.current cpu) = true
    · simp only [if_pos room, GuestState.tracks, AList.lookup_insert]
      simp [room]
    · simp only [if_neg room]
      simp [room]
  · simp only [decide_eq_false same, Bool.false_and, Bool.or_false]
    split
    · exact congrArg Option.isSome (AList.lookup_insert_ne same)
    · rfl

@[simp] theorem captureOmpThread_memory : (captureOmpThread cpu state).memory = state.memory := by
  unfold captureOmpThread
  dsimp only
  split <;> rfl

@[simp] theorem captureOmpThread_driver : (captureOmpThread cpu state).driver = state.driver := by
  unfold captureOmpThread
  dsimp only
  split <;> rfl

@[simp] theorem captureOmpThread_current :
    (captureOmpThread cpu state).current = state.current := by
  unfold captureOmpThread
  dsimp only
  split <;> rfl

@[simp] theorem clearIfTracked_ompThreadsMap (tid : Tid) :
    (clearIfTracked cpu tid state).ompThreadsMap = state.ompThreadsMap := by
  unfold clearIfTracked
  split <;> simp

@[simp] theorem clearIfTracked_driver (tid : Tid) :
    (clearIfTracked cpu tid state).driver = state.driver := by
  unfold clearIfTracked
  split <;> simp

@[simp] theorem clearIfTracked_current (tid : Tid) :
    (clearIfTracked cpu tid state).current = state.current := by
  unfold clearIfTracked
  split <;> simp

@[simp] theorem clearIfTracked_tracks (tid other : Tid) :
    (clearIfTracked cpu tid state).tracks other = state.tracks other := by
  unfold GuestState.tracks
  rw [clearIfTracked_ompThreadsMap]

theorem slotsOf_clearIfTracked_of_ne (mapped : state.driver.MappedAt hostIvshmemG2hOffset)
    {index : Nat} (different : index ≠ cpu) (tid : Tid) :
    slotsOf (clearIfTracked cpu tid state).memory index = slotsOf state.memory index := by
  unfold clearIfTracked
  split
  · exact slotsOf_g2hWrite_of_ne mapped different 0
  · rfl

theorem runState_clearIfTracked (mapped : state.driver.MappedAt hostIvshmemG2hOffset)
    (below : cpu.val < nrGuestIvshmemMsgs) (tid : Tid) :
    (clearIfTracked cpu tid state).runState cpu =
      if state.tracks tid then 0 else state.runState cpu := by
  unfold clearIfTracked
  split
  · exact runState_g2hWrite mapped below 0
  · rfl

theorem removeCurrentTid_tracks (tid : Tid) :
    (removeCurrentTid cpu state).tracks tid =
      (state.tracks tid && decide (tid ≠ state.current cpu)) := by
  unfold removeCurrentTid GuestState.tracks
  dsimp only
  rw [clearIfTracked_ompThreadsMap]
  by_cases same : tid = state.current cpu
  · rw [same, AList.lookup_erase]
    simp
  · rw [AList.lookup_erase_ne same]
    simp [same]

@[simp] theorem handleSwitch_driver (prevTid nextTid : Tid) :
    (handleSwitch cpu prevTid nextTid state).driver = state.driver := by
  unfold handleSwitch
  dsimp only
  split <;> simp

@[simp] theorem handleSwitch_current (prevTid nextTid : Tid) :
    (handleSwitch cpu prevTid nextTid state).current = state.current := by
  unfold handleSwitch
  dsimp only
  split <;> simp

@[simp] theorem handleSwitch_tracks (prevTid nextTid other : Tid) :
    (handleSwitch cpu prevTid nextTid state).tracks other = state.tracks other := by
  unfold handleSwitch
  dsimp only
  split <;> simp

theorem slotsOf_handleSwitch_of_ne (mapped : state.driver.MappedAt hostIvshmemG2hOffset)
    {index : Nat} (different : index ≠ cpu) (prevTid nextTid : Tid) :
    slotsOf (handleSwitch cpu prevTid nextTid state).memory index =
      slotsOf state.memory index := by
  have cleared := slotsOf_clearIfTracked_of_ne mapped different prevTid
  unfold handleSwitch
  dsimp only
  split
  · rw [slotsOf_g2hWrite_of_ne _ different, cleared]
    rw [clearIfTracked_driver]
    exact mapped
  · exact cleared

theorem runState_handleSwitch (mapped : state.driver.MappedAt hostIvshmemG2hOffset)
    (below : cpu.val < nrGuestIvshmemMsgs) (prevTid nextTid : Tid) :
    (handleSwitch cpu prevTid nextTid state).runState cpu =
      if state.tracks nextTid then 1
      else if state.tracks prevTid then 0
      else state.runState cpu := by
  unfold handleSwitch
  dsimp only
  rw [clearIfTracked_tracks]
  split
  · apply runState_g2hWrite _ below
    rw [clearIfTracked_driver]
    exact mapped
  · exact runState_clearIfTracked mapped below prevTid

/-! ## Frame of a step -/

@[simp] theorem guestStep_driver (event : GuestEvent nrCpus) :
    (guestStep state event).driver = state.driver := by
  cases event with
  | captureMaster cpu | captureWorker cpu => exact captureOmpThread_driver
  | exit cpu | exec cpu => exact clearIfTracked_driver _
  | switch cpu next => exact handleSwitch_driver _ _

/-- An event on one CPU leaves the slots of all other CPUs alone. -/
theorem slotsOf_guestStep_of_ne (mapped : state.driver.MappedAt hostIvshmemG2hOffset)
    {event : GuestEvent nrCpus} {index : Nat} (different : index ≠ event.cpu) :
    slotsOf (guestStep state event).memory index = slotsOf state.memory index := by
  cases event with
  | captureMaster cpu | captureWorker cpu =>
      show slotsOf (captureOmpThread cpu state).memory index = slotsOf state.memory index
      rw [captureOmpThread_memory]
  | exit cpu | exec cpu => exact slotsOf_clearIfTracked_of_ne mapped different _
  | switch cpu next => exact slotsOf_handleSwitch_of_ne mapped different _ _

end Facts

end PhantomTracker.Guest
