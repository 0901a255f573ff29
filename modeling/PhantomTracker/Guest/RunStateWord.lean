import PhantomTracker.Foundation.Runs
import PhantomTracker.Guest.OmpThreads
import Mathlib.Data.Fintype.Basic

/-!
Contract: the run-state word of each guest CPU against the thread that is
current there.

Owns: runs of the guest machine in which a thread is current on at most one
CPU, the exact value of the word along such a run, the theorem that the word is
never stuck at 1, and the condition under which it is 1 whenever a tracked
thread is current.

Does not own: what the host makes of the word.
-/

namespace PhantomTracker.Guest

open PhantomTracker.Foundation
open PhantomTracker.Shmem

section Guard

variable {nrCpus : Nat}

/-- No other CPU runs the thread that is current on `cpu`. -/
def RunsOnlyOn (state : GuestState nrCpus) (cpu : Fin nrCpus) : Prop :=
  ∀ other, other ≠ cpu → state.current other ≠ state.current cpu

/-- A thread runs on at most one CPU. Only the idle thread, which every CPU has
and which never enters user code, shares its id. -/
def GuestGuard (state : GuestState nrCpus) : GuestEvent nrCpus → Prop
  | .switch cpu next => next = 0 ∨ ∀ other, other ≠ cpu → state.current other ≠ next
  | .captureMaster cpu | .captureWorker cpu | .exit cpu | .exec cpu => RunsOnlyOn state cpu

instance (state : GuestState nrCpus) (cpu : Fin nrCpus) : Decidable (RunsOnlyOn state cpu) :=
  inferInstanceAs (Decidable (∀ other, other ≠ cpu → state.current other ≠ state.current cpu))

instance (state : GuestState nrCpus) (event : GuestEvent nrCpus) :
    Decidable (GuestGuard state event) :=
  match event with
  | .switch cpu next =>
      inferInstanceAs
        (Decidable (next = 0 ∨ ∀ other, other ≠ cpu → state.current other ≠ next))
  | .captureMaster cpu | .captureWorker cpu | .exit cpu | .exec cpu =>
      inferInstanceAs (Decidable (RunsOnlyOn state cpu))

/-- A run of the guest machine. -/
abbrev GuestRun (start : GuestState nrCpus) (events : List (GuestEvent nrCpus))
    (final : GuestState nrCpus) : Prop :=
  GuardedRun (fun state event => some (guestStep state event)) GuestGuard start events final

end Guard

/-! ## Threads registered while they run -/

section Registered

variable {nrCpus : Nat}

/-- Whether the current thread of `cpu` was entered into the map after it was
switched in, updated for one event. -/
def registeredNext (state : GuestState nrCpus) (cpu : Fin nrCpus) (registered : Bool) :
    GuestEvent nrCpus → Bool
  | .captureMaster target | .captureWorker target =>
      if target = cpu then
        registered || (!state.runsTracked cpu && state.hasRoom (state.current cpu))
      else registered
  | .exit target | .exec target | .switch target _ =>
      if target = cpu then false else registered

/-- The same for a sequence of events. -/
def registeredAfter (cpu : Fin nrCpus) :
    GuestState nrCpus → Bool → List (GuestEvent nrCpus) → Bool
  | _, registered, [] => registered
  | state, registered, event :: rest =>
      registeredAfter cpu (guestStep state event) (registeredNext state cpu registered event) rest

/-- Since the last switch, exit or exec on `cpu`, a registration probe has
entered the current thread of `cpu` into the map. -/
def registeredWhileRunning (start : GuestState nrCpus) (events : List (GuestEvent nrCpus))
    (cpu : Fin nrCpus) : Bool :=
  registeredAfter cpu start false events

end Registered

/-! ## The value of the word -/

/-- **The law of the run-state word.** It is 1 exactly if the current thread is
tracked and was so when it was switched in. -/
structure WordLaw {nrCpus : Nat} (state : GuestState nrCpus) (cpu : Fin nrCpus)
    (registered : Bool) : Prop where
  word : state.runState cpu = 1 ↔ state.runsTracked cpu = true ∧ registered = false
  tracked : registered = true → state.runsTracked cpu = true

section Law

variable {nrCpus : Nat} {state : GuestState nrCpus} {cpu : Fin nrCpus} {registered : Bool}

theorem WordLaw.of_untracked (untracked : state.runsTracked cpu = false)
    (clear : state.runState cpu ≠ 1) : WordLaw state cpu false where
  word := by
    rw [untracked]
    exact iff_of_false clear (by simp)
  tracked impossible := by cases impossible

theorem WordLaw.clear (law : WordLaw state cpu registered)
    (untracked : state.runsTracked cpu = false) : state.runState cpu ≠ 1 := by
  intro one
  have both := law.word.mp one
  rw [untracked] at both
  cases both.1

/-- The law speaks only of the word and of whether the current thread is
tracked. -/
theorem WordLaw.congr {other : GuestState nrCpus} (law : WordLaw state cpu registered)
    (sameWord : other.runState cpu = state.runState cpu)
    (sameTracked : other.runsTracked cpu = state.runsTracked cpu) :
    WordLaw other cpu registered where
  word := by
    rw [sameWord, sameTracked]
    exact law.word
  tracked := by
    rw [sameTracked]
    exact law.tracked

/-- Registering the current thread: the probe does not touch the word. -/
theorem WordLaw.capture (law : WordLaw state cpu registered) :
    WordLaw (captureOmpThread cpu state) cpu
      (registered || (!state.runsTracked cpu && state.hasRoom (state.current cpu))) := by
  have sameWord : (captureOmpThread cpu state).runState cpu = state.runState cpu := by
    unfold GuestState.runState
    rw [captureOmpThread_memory]
  have tracks : (captureOmpThread cpu state).runsTracked cpu =
      (state.runsTracked cpu || state.hasRoom (state.current cpu)) := by
    unfold GuestState.runsTracked
    rw [captureOmpThread_current, captureOmpThread_tracks]
    simp
  cases tracked : state.runsTracked cpu with
  | true =>
      -- A second registration changes nothing that the law speaks of.
      have same : (captureOmpThread cpu state).runsTracked cpu = state.runsTracked cpu := by
        rw [tracks, tracked, Bool.true_or]
      simpa using law.congr sameWord same
  | false =>
      have clear := law.clear tracked
      have unregistered : registered = false := by
        cases registered with
        | false => rfl
        | true => exact absurd (law.tracked rfl) (by simp [tracked])
      rw [tracked, Bool.false_or] at tracks
      rw [unregistered, Bool.false_or, Bool.not_false, Bool.true_and]
      constructor
      · rw [sameWord, tracks]
        exact iff_of_false clear (by simp)
      · rw [tracks]
        exact id

/-- Removing the current thread: the word is cleared while the thread is still
known. -/
theorem WordLaw.remove (law : WordLaw state cpu registered)
    (mapped : state.driver.MappedAt hostIvshmemG2hOffset)
    (below : cpu.val < nrGuestIvshmemMsgs) : WordLaw (removeCurrentTid cpu state) cpu false := by
  have untracked : (removeCurrentTid cpu state).runsTracked cpu = false := by
    have same : (removeCurrentTid cpu state).current cpu = state.current cpu :=
      congrFun (clearIfTracked_current _) cpu
    unfold GuestState.runsTracked
    rw [same, removeCurrentTid_tracks]
    simp
  apply WordLaw.of_untracked untracked
  show (clearIfTracked cpu (state.current cpu) state).runState cpu ≠ 1
  rw [runState_clearIfTracked mapped below]
  split
  · decide
  · rename_i unknown
    exact law.clear (Bool.not_eq_true _ ▸ unknown)

/-- A switch publishes whether the next thread is tracked. The word of an
untracked thread needs no clearing. -/
theorem WordLaw.switch (law : WordLaw state cpu registered)
    (mapped : state.driver.MappedAt hostIvshmemG2hOffset)
    (below : cpu.val < nrGuestIvshmemMsgs) (next : Tid) :
    WordLaw (guestStep state (.switch cpu next)) cpu false := by
  have tracks : (guestStep state (.switch cpu next)).runsTracked cpu = state.tracks next := by
    show (handleSwitch cpu (state.current cpu) next state).tracks
      (Function.update (handleSwitch cpu (state.current cpu) next state).current cpu next cpu) =
        state.tracks next
    rw [Function.update_self, handleSwitch_tracks]
  have word : (guestStep state (.switch cpu next)).runState cpu =
      if state.tracks next then 1
      else if state.tracks (state.current cpu) then 0
      else state.runState cpu :=
    runState_handleSwitch mapped below (state.current cpu) next
  cases known : state.tracks next with
  | true =>
      rw [known] at tracks word
      constructor
      · rw [tracks, word]
        exact iff_of_true (if_pos rfl) ⟨rfl, rfl⟩
      · intro impossible
        cases impossible
  | false =>
      apply WordLaw.of_untracked (tracks.trans known)
      rw [word, known, if_neg Bool.false_ne_true]
      split
      · decide
      · rename_i unknown
        exact law.clear (Bool.not_eq_true _ ▸ unknown)

/-- An event on another CPU concerns another thread and another slot. -/
theorem WordLaw.elsewhere {event : GuestEvent nrCpus} (law : WordLaw state cpu registered)
    (mapped : state.driver.MappedAt hostIvshmemG2hOffset) (guarded : GuestGuard state event)
    (different : cpu ≠ event.cpu) : WordLaw (guestStep state event) cpu registered := by
  have sameWord : (guestStep state event).runState cpu = state.runState cpu :=
    slotsOf_guestStep_of_ne mapped (Fin.val_ne_of_ne different)
  apply law.congr sameWord
  unfold GuestState.runsTracked
  cases event with
  | captureMaster target | captureWorker target =>
      have other : state.current cpu ≠ state.current target := guarded cpu different
      show (captureOmpThread target state).tracks ((captureOmpThread target state).current cpu) = _
      rw [captureOmpThread_current, captureOmpThread_tracks, decide_eq_false other,
        Bool.false_and, Bool.or_false]
  | exit target | exec target =>
      have other : state.current cpu ≠ state.current target := guarded cpu different
      have same : (removeCurrentTid target state).current = state.current :=
        clearIfTracked_current _
      show (removeCurrentTid target state).tracks ((removeCurrentTid target state).current cpu) = _
      rw [same, removeCurrentTid_tracks, decide_eq_true other, Bool.and_true]
  | switch target next =>
      show (handleSwitch target (state.current target) next state).tracks
        (Function.update (handleSwitch target (state.current target) next state).current
          target next cpu) = _
      have apart : cpu ≠ target := different
      rw [Function.update_of_ne apart, handleSwitch_tracks, handleSwitch_current]

/-- One event keeps the law. -/
theorem WordLaw.step {event : GuestEvent nrCpus} (law : WordLaw state cpu registered)
    (mapped : state.driver.MappedAt hostIvshmemG2hOffset) (guarded : GuestGuard state event)
    (below : cpu.val < nrGuestIvshmemMsgs) :
    WordLaw (guestStep state event) cpu (registeredNext state cpu registered event) := by
  by_cases own : event.cpu = cpu
  · subst own
    cases event with
    | captureMaster target | captureWorker target =>
        show WordLaw (captureOmpThread target state) target (if target = target then _ else _)
        rw [if_pos rfl]
        exact law.capture
    | exit target | exec target =>
        show WordLaw (removeCurrentTid target state) target (if target = target then _ else _)
        rw [if_pos rfl]
        exact law.remove mapped below
    | switch target next =>
        show WordLaw (guestStep state (.switch target next)) target
          (if target = target then _ else _)
        rw [if_pos rfl]
        exact law.switch mapped below next
  · have unchanged : registeredNext state cpu registered event = registered := by
      cases event <;> exact if_neg own
    rw [unchanged]
    exact law.elsewhere mapped guarded (Ne.symm own)

/-- A run keeps the law. -/
theorem WordLaw.run {final : GuestState nrCpus} {events : List (GuestEvent nrCpus)}
    (run : GuestRun state events final) (law : WordLaw state cpu registered)
    (mapped : state.driver.MappedAt hostIvshmemG2hOffset) (below : cpu.val < nrGuestIvshmemMsgs) :
    WordLaw final cpu (registeredAfter cpu state registered events) := by
  induction run generalizing registered with
  | nil state => exact law
  | cons guarded taken _ inductionHypothesis =>
      obtain rfl := Option.some.inj taken
      apply inductionHypothesis (law.step mapped guarded below)
      rw [guestStep_driver]
      exact mapped

end Law

/-! ## Runs from an empty map -/

/-- Where every run starts: no thread is registered, all words are 0, and the
driver has published a device bound to the host's region. -/
structure Starts {nrCpus : Nat} (state : GuestState nrCpus) : Prop where
  published : state.driver.MappedAt hostIvshmemG2hOffset
  empty : state.ompThreadsMap = ∅
  zeroed : ∀ cpu : Fin nrCpus, cpu.val < nrGuestIvshmemMsgs → state.runState cpu = 0

/-- A guest that has just bound its driver, with the given current threads. -/
def newGuest {nrCpus : Nat} (current : Fin nrCpus → Tid) : GuestState nrCpus where
  ompThreadsMap := ∅
  driver := ⟨some ⟨some hostIvshmemG2hOffset, 4 * pageSize, pageSize, pageSize, 0⟩, 0⟩
  memory := fun _ => 0
  current := current

theorem starts_newGuest {nrCpus : Nat} (current : Fin nrCpus → Tid) :
    Starts (newGuest current) where
  published := ⟨_, rfl, rfl⟩
  empty := rfl
  zeroed cpu _ := Memory.load64_zero (hostG2hSlot cpu)

section Main

variable {nrCpus : Nat} {start final : GuestState nrCpus} {events : List (GuestEvent nrCpus)}
  {cpu : Fin nrCpus}

theorem Starts.wordLaw (starts : Starts start) (below : cpu.val < nrGuestIvshmemMsgs) :
    WordLaw start cpu false := by
  have untracked : start.runsTracked cpu = false := by
    unfold GuestState.runsTracked GuestState.tracks
    rw [starts.empty]
    rfl
  apply WordLaw.of_untracked untracked
  rw [starts.zeroed cpu below]
  decide

/-- **The run-state word is never stuck at 1.** -/
theorem run_state_never_stuck (starts : Starts start) (run : GuestRun start events final)
    (cpu : Fin nrCpus) (below : cpu.val < nrGuestIvshmemMsgs) (one : final.runState cpu = 1) :
    final.runsTracked cpu = true := by
  have law := (starts.wordLaw below).run run starts.published below
  exact (law.word.mp one).1

/-- A thread registers on CPU 0, is switched out, and is switched in on CPU 1. -/
def migration : List (GuestEvent 2) :=
  [.switch 0 7, .captureMaster 0, .switch 0 0, .switch 1 7]

theorem migrated_word_tracked :
    ∃ final, GuestRun (newGuest fun _ : Fin 2 => 0) migration final ∧ final.runState 1 = 1 ∧
      final.runsTracked 1 = true := by
  have check : (exec (fun state event => some (guestStep state event)) GuestGuard
      (newGuest fun _ : Fin 2 => 0) migration).any (fun final => decide (final.runState 1 = 1)) =
      true := by
    decide +kernel
  obtain ⟨final, executed, one⟩ := (Option.any_eq_true _ _).mp check
  have run : GuestRun _ _ final := guardedRun_of_exec executed
  have published := of_decide_eq_true one
  exact ⟨final, run, published,
    run_state_never_stuck (starts_newGuest _) run 1 (by decide) published⟩

/-- **The run-state word is complete up to threads registered while they run.**
A probe that registers the running thread does not publish it. -/
theorem run_state_complete_iff (starts : Starts start) (run : GuestRun start events final)
    (cpu : Fin nrCpus) (below : cpu.val < nrGuestIvshmemMsgs) :
    (final.runsTracked cpu = true → final.runState cpu = 1) ↔
      registeredWhileRunning start events cpu = false := by
  have law := (starts.wordLaw below).run run starts.published below
  constructor
  · intro complete
    apply Bool.eq_false_iff.mpr
    intro registered
    have one := complete (law.tracked registered)
    exact absurd ((law.word.mp one).2.symm.trans registered) Bool.false_ne_true
  · intro unregistered tracked
    exact law.word.mpr ⟨tracked, unregistered⟩

/-- After one registration of the running thread, the thread is tracked and its
word still 0. -/
theorem registered_thread_unpublished :
    ∃ final, GuestRun (newGuest fun _ : Fin 1 => 7) [.captureMaster 0] final ∧
      final.runsTracked 0 = true ∧ final.runState 0 = 0 := by
  have check : (exec (fun state event => some (guestStep state event)) GuestGuard
      (newGuest fun _ : Fin 1 => 7) [.captureMaster 0]).any (fun final =>
        final.runsTracked 0 && decide (final.runState 0 = 0)) = true := by
    decide +kernel
  obtain ⟨final, executed, reached⟩ := (Option.any_eq_true _ _).mp check
  have run : GuestRun _ _ final := guardedRun_of_exec executed
  rw [Bool.and_eq_true, decide_eq_true_eq] at reached
  exact ⟨final, run, reached.1, reached.2⟩

/-- Once the registered thread has been switched out and in again, its word is
1. -/
theorem switched_in_thread_published :
    ∃ final, GuestRun (newGuest fun _ : Fin 1 => 7)
        [.captureMaster 0, .switch 0 0, .switch 0 7] final ∧
      final.runsTracked 0 = true ∧ final.runState 0 = 1 := by
  have check : (exec (fun state event => some (guestStep state event)) GuestGuard
      (newGuest fun _ : Fin 1 => 7) [.captureMaster 0, .switch 0 0, .switch 0 7]).any
        (fun final => final.runsTracked 0) = true := by
    decide +kernel
  obtain ⟨final, executed, tracked⟩ := (Option.any_eq_true _ _).mp check
  have run : GuestRun _ _ final := guardedRun_of_exec executed
  have complete := run_state_complete_iff (starts_newGuest _) run 0 (by decide)
  exact ⟨final, run, tracked, complete.mpr (by decide +kernel) tracked⟩

end Main

end PhantomTracker.Guest
