import PhantomTracker.Foundation.Census
import PhantomTracker.Foundation.Runs

/-!
Contract: the programs that start a timer on the first context switch, on any
number of CPUs at once.

Owns: `phantom_timer_handler`, `global_running_tracker_timer_init` and
`h2g_msg_timer_init` at the granularity of their atomic steps, the timer that the
CPUs share, its expiries, and what follows for every interleaving: one CPU starts
the timer, its callback never overlaps itself, and which of the programs recover
from a failed `bpf_timer_init`.

Does not own: what the callbacks do, or the message that `h2g_msg_timer_init`
clears and writes before it starts its timer.
-/

namespace PhantomTracker.Host

open PhantomTracker.Foundation

/-! ## The programs -/

/-- Where the start programs differ: whether the test of `started` stores 1 in any
case (`__sync_lock_test_and_set`) or only over a 0 (`__sync_val_compare_and_swap`),
whether a failed `bpf_timer_init` puts `started` back to 0, and whether a failed
`bpf_timer_set_callback` ends the program. -/
structure StartProgram where
  testAndSet : Bool
  resets : Bool
  checksCallback : Bool
deriving DecidableEq, Repr

def phantomTimerHandler : StartProgram := ⟨true, true, false⟩

def globalRunningTrackerTimerInit : StartProgram := ⟨true, true, false⟩

def h2gMsgTimerInit : StartProgram := ⟨false, false, true⟩

/-- The `bpf_timer` of the map element. `running` counts the callbacks in
progress. -/
structure BpfTimer where
  initialised : Bool
  callback : Bool
  pending : Bool
  running : Nat
deriving DecidableEq, Repr

/-- Where a CPU stands in the program. -/
inductive StartPc where
  | idle
  | test
  | init
  | reset
  | setCallback
  | start
deriving DecidableEq, Repr

/-- The CPU has won the test of `started` and not yet returned. -/
def StartPc.inside : StartPc → Bool
  | .idle => false
  | .test => false
  | _ => true

/-- Whether the timer is initialised while a CPU stands there, if that is known. -/
def StartPc.expects : StartPc → Option Bool
  | .idle => none
  | .test => none
  | .init => some false
  | .reset => some false
  | .setCallback => some true
  | .start => some true

theorem StartPc.inside_of_expects {pc : StartPc} {value : Bool} (known : pc.expects = some value) :
    pc.inside = true := by
  cases pc with
  | idle => cases known
  | test => cases known
  | _ => rfl

/-- The map element, and the CPUs that run the program. -/
structure StartState (ι : Type) where
  started : Nat
  timer : BpfTimer
  cpus : ι → StartPc

inductive StartAction (ι : Type) where
  | event (cpu : ι)
  | advance (cpu : ι) (succeeds : Bool)
  | expire
  | rearm (succeeds : Bool)

/-- One atomic step of a program. `succeeds` says whether the kernel has a reason
of its own to refuse the call. It refuses `bpf_timer_init` on an initialised timer,
and `bpf_timer_start` on one without callback. -/
def StartProgram.next (program : StartProgram) (succeeds : Bool) (started : Nat)
    (timer : BpfTimer) : StartPc → Option (Nat × BpfTimer × StartPc)
  | .idle => none
  | .test =>
      if started = 0 then some (1, timer, .init)
      else some (if program.testAndSet then 1 else started, timer, .idle)
  | .init =>
      if succeeds && !timer.initialised then
        some (started, { timer with initialised := true }, .setCallback)
      else some (started, timer, if program.resets then .reset else .idle)
  | .reset => some (if started = 1 then 0 else started, timer, .idle)
  | .setCallback =>
      if succeeds then some (started, { timer with callback := true }, .start)
      else some (started, timer, if program.checksCallback then .idle else .start)
  | .start =>
      some (started, { timer with pending := timer.pending || (succeeds && timer.callback) }, .idle)

namespace StartState

variable {ι : Type}

/-- Nothing has happened yet. -/
def fresh (ι : Type) : StartState ι := ⟨0, ⟨false, false, false, 0⟩, fun _ => .idle⟩

variable [DecidableEq ι]

/-- An expiry takes the timer out of the queue and runs its callback, whose last
step is `bpf_timer_start`. -/
def step (program : StartProgram) (state : StartState ι) : StartAction ι → Option (StartState ι)
  | .event cpu =>
      match state.cpus cpu with
      | .idle => some { state with cpus := Function.update state.cpus cpu .test }
      | _ => none
  | .advance cpu succeeds =>
      (program.next succeeds state.started state.timer (state.cpus cpu)).map fun next =>
        ⟨next.1, next.2.1, Function.update state.cpus cpu next.2.2⟩
  | .expire =>
      if state.timer.pending then
        some { state with timer := { state.timer with
          pending := false, running := state.timer.running + 1 } }
      else none
  | .rearm succeeds =>
      if 0 < state.timer.running then
        some { state with timer := { state.timer with
          pending := state.timer.pending || succeeds, running := state.timer.running - 1 } }
      else none

end StartState

/-! ## One CPU at a time -/

section Latch

variable {ι : Type} [Fintype ι] {program : StartProgram} {settled : Bool}

/-- **The invariant.** `started` counts the CPU inside, or that one has left for
good (`settled`). The timer is queued or running only after that. -/
structure Latched (program : StartProgram) (settled : Bool) (started : Nat) (timer : BpfTimer)
    (cpus : ι → StartPc) : Prop where
  word : started = census StartPc.inside cpus + settled.toNat
  binary : started ≤ 1
  stage : ∀ cpu value, (cpus cpu).expects = some value → timer.initialised = value
  opened : settled = false → timer.initialised = true → 0 < census StartPc.inside cpus
  recovered : program.resets = true → settled = true → timer.initialised = true
  quiet : timer.pending.toNat + timer.running ≤ settled.toNat

variable {started startedAfter : Nat} {timer timerAfter : BpfTimer} {cpus : ι → StartPc} {cpu : ι}
  {pc : StartPc}

/-- While a CPU is inside it is alone, and nobody has left for good. -/
theorem Latched.alone (latched : Latched program settled started timer cpus)
    (inside : (cpus cpu).inside = true) :
    settled = false ∧ started = 1 ∧ ∀ other, other ≠ cpu → (cpus other).inside = false := by
  have positive := census_pos cpu inside
  have word := latched.word
  have binary := latched.binary
  have few : census StartPc.inside cpus ≤ 1 := by omega
  refine ⟨?_, by omega, fun other different => ?_⟩
  · cases settled with
    | false => rfl
    | true =>
        rw [Bool.toNat_true] at word
        omega
  · rw [Bool.eq_false_iff]
    exact fun alsoInside => different (eq_of_census_le_one few alsoInside inside)

theorem latched_fresh (program : StartProgram) :
    Latched program false 0 ⟨false, false, false, 0⟩ (fun _ : ι => .idle) where
  word := (census_eq_zero fun _ => rfl).symm
  binary := Nat.zero_le 1
  stage _ _ known := by cases known
  opened _ initialised := by cases initialised
  recovered _ left := by cases left
  quiet := Nat.le_refl 0

variable [DecidableEq ι]

/-- A move of a CPU beside which nobody is inside. -/
theorem latched_of_alone (others : ∀ other, other ≠ cpu → (cpus other).inside = false)
    (word : started = pc.inside.toNat + settled.toNat) (binary : started ≤ 1)
    (stage : ∀ value, pc.expects = some value → timer.initialised = value)
    (opened : settled = false → timer.initialised = true → pc.inside = true)
    (recovered : program.resets = true → settled = true → timer.initialised = true)
    (quiet : timer.pending.toNat + timer.running ≤ settled.toNat) :
    Latched program settled started timer (Function.update cpus cpu pc) := by
  have nobody : census StartPc.inside (Function.update cpus cpu .idle) = 0 := by
    apply census_eq_zero
    intro other
    by_cases here : other = cpu
    · rw [here, Function.update_self]
      rfl
    · rw [Function.update_of_ne here]
      exact others other here
  have count := census_update StartPc.inside (Function.update cpus cpu .idle) cpu pc
  rw [Function.update_idem, Function.update_self, nobody, Nat.zero_add] at count
  have one : census StartPc.inside (Function.update cpus cpu pc) = pc.inside.toNat := count
  refine ⟨by rw [one]; exact word, binary, ?_, ?_, recovered, quiet⟩
  · intro other value known
    rcases update_cases (fun phase : StartPc => phase.expects = some value) known with
      ⟨_, own⟩ | ⟨different, unmoved⟩
    · exact stage value own
    · have inside := StartPc.inside_of_expects unmoved
      rw [others other different] at inside
      cases inside
  · intro left initialised
    rw [one, opened left initialised]
    exact Nat.one_pos

/-- A CPU that is not inside moves without entering. -/
theorem Latched.outside (latched : Latched program settled started timer cpus)
    (before : (cpus cpu).inside = false) (after : pc.inside = false) :
    Latched program settled started timer (Function.update cpus cpu pc) := by
  have same : census StartPc.inside (Function.update cpus cpu pc) = census StartPc.inside cpus :=
    census_update_of_same (by rw [before, after])
  refine ⟨by rw [same]; exact latched.word, latched.binary, ?_, ?_, latched.recovered,
    latched.quiet⟩
  · intro other value known
    rcases update_cases (fun phase : StartPc => phase.expects = some value) known with
      ⟨_, own⟩ | ⟨_, unmoved⟩
    · rw [StartPc.inside_of_expects own] at after
      cases after
    · exact latched.stage other value unmoved
  · rw [same]
    exact latched.opened

/-- The test of `started`: a CPU enters only when nobody has. -/
theorem Latched.test (latched : Latched program settled started timer cpus) {succeeds : Bool}
    (stands : cpus cpu = .test)
    (taken : program.next succeeds started timer (cpus cpu) =
      some (startedAfter, timerAfter, pc)) :
    Latched program settled startedAfter timerAfter (Function.update cpus cpu pc) := by
  have word := latched.word
  have binary := latched.binary
  simp only [stands, StartProgram.next] at taken
  split at taken
  case isTrue first =>
      cases taken
      have left : settled.toNat = 0 := by omega
      have nobody : census StartPc.inside cpus = 0 := by omega
      have uninitialised : timer.initialised = false := by
        rw [Bool.eq_false_iff]
        intro initialised
        have unsettled : settled = false := by
          cases settled with
          | false => rfl
          | true => cases left
        have inside := latched.opened unsettled initialised
        omega
      apply latched_of_alone
      · intro other _
        rw [Bool.eq_false_iff]
        intro inside
        have positive := census_pos other inside
        omega
      · rw [left]
        rfl
      · exact Nat.le_refl 1
      · intro value known
        rw [← Option.some.inj known]
        exact uninitialised
      · exact fun _ _ => rfl
      · exact latched.recovered
      · exact latched.quiet
  case isFalse held =>
      cases taken
      -- A held word is 1, so storing 1 over it changes nothing.
      have same : (if program.testAndSet = true then 1 else started) = started := by
        split <;> omega
      rw [same]
      exact latched.outside (by rw [stands]; rfl) rfl

/-- The steps of the CPU inside. It leaves for good unless it puts `started` back. -/
theorem Latched.inside (latched : Latched program settled started timer cpus) {succeeds : Bool}
    (inside : (cpus cpu).inside = true)
    (taken : program.next succeeds started timer (cpus cpu) =
      some (startedAfter, timerAfter, pc)) :
    ∃ settledAfter, Latched program settledAfter startedAfter timerAfter
      (Function.update cpus cpu pc) := by
  obtain ⟨rfl, rfl, others⟩ := latched.alone inside
  have quiet := latched.quiet
  rw [Bool.toNat_false] at quiet
  have staged : ∀ value, (cpus cpu).expects = some value → timer.initialised = value :=
    latched.stage cpu
  generalize stands : cpus cpu = before at inside taken staged
  cases before with
  | idle => cases inside
  | test => cases inside
  | init =>
      have uninitialised : timer.initialised = false := staged false rfl
      simp only [StartProgram.next, uninitialised, Bool.not_false, Bool.and_true] at taken
      split at taken
      · cases taken
        exact ⟨false, latched_of_alone others rfl (Nat.le_refl 1)
          (fun value known => Option.some.inj known) (fun _ _ => rfl) (by simp) latched.quiet⟩
      · cases taken
        cases resets : program.resets with
        | true =>
            exact ⟨false, latched_of_alone others rfl (Nat.le_refl 1) staged (fun _ _ => rfl)
              (by simp) latched.quiet⟩
        | false =>
            exact ⟨true, latched_of_alone others rfl (Nat.le_refl 1)
              (fun value known => by cases known) (by simp) (by simp [resets])
              (by rw [Bool.toNat_true]; omega)⟩
  | reset =>
      have uninitialised : timer.initialised = false := staged false rfl
      cases taken
      refine ⟨false, latched_of_alone others rfl (Nat.zero_le 1)
        (fun value known => by cases known) ?_ (by simp) latched.quiet⟩
      intro _ initialised
      rw [uninitialised] at initialised
      cases initialised
  | setCallback =>
      simp only [StartProgram.next] at taken
      split at taken
      · cases taken
        exact ⟨false, latched_of_alone others rfl (Nat.le_refl 1) staged (fun _ _ => rfl)
          (by simp) latched.quiet⟩
      · cases taken
        cases checks : program.checksCallback with
        | true =>
            exact ⟨true, latched_of_alone others rfl (Nat.le_refl 1)
              (fun value known => by cases known) (by simp) (fun _ _ => staged true rfl)
              (by rw [Bool.toNat_true]; omega)⟩
        | false =>
            exact ⟨false, latched_of_alone others rfl (Nat.le_refl 1) staged (fun _ _ => rfl)
              (by simp) latched.quiet⟩
  | start =>
      cases taken
      refine ⟨true, latched_of_alone others rfl (Nat.le_refl 1) (fun value known => by cases known)
        (by simp) (fun _ _ => staged true rfl) ?_⟩
      have few := Bool.toNat_le (timer.pending || (succeeds && timer.callback))
      show (timer.pending || (succeeds && timer.callback)).toNat + timer.running ≤ 1
      omega

/-- Every step keeps the invariant. -/
theorem Latched.step {state next : StartState ι} {action : StartAction ι}
    (latched : Latched program settled state.started state.timer state.cpus)
    (taken : state.step program action = some next) :
    ∃ settledAfter, Latched program settledAfter next.started next.timer next.cpus := by
  cases action with
  | event cpu =>
      simp only [StartState.step] at taken
      split at taken
      case h_1 idle =>
          obtain rfl := Option.some.inj taken
          exact ⟨settled, latched.outside (by rw [idle]; rfl) rfl⟩
      case h_2 => cases taken
  | advance cpu succeeds =>
      obtain ⟨⟨startedAfter, timerAfter, pc⟩, moved, rfl⟩ := Option.map_eq_some_iff.mp taken
      cases inside : (state.cpus cpu).inside with
      | true => exact latched.inside inside moved
      | false =>
          cases stands : state.cpus cpu with
          | idle =>
              rw [stands] at moved
              cases moved
          | test => exact ⟨settled, latched.test stands moved⟩
          | _ =>
              rw [stands] at inside
              cases inside
  | expire =>
      simp only [StartState.step] at taken
      split at taken
      case isTrue pending =>
          obtain rfl := Option.some.inj taken
          have quiet := latched.quiet
          rw [pending, Bool.toNat_true] at quiet
          refine ⟨settled, latched.word, latched.binary, latched.stage, latched.opened,
            latched.recovered, ?_⟩
          show false.toNat + (state.timer.running + 1) ≤ settled.toNat
          rw [Bool.toNat_false]
          omega
      case isFalse => cases taken
  | rearm succeeds =>
      simp only [StartState.step] at taken
      split at taken
      case isTrue running =>
          obtain rfl := Option.some.inj taken
          have quiet := latched.quiet
          have few := Bool.toNat_le settled
          have pending : state.timer.pending.toNat = 0 := by omega
          have added := Bool.toNat_le (state.timer.pending || succeeds)
          refine ⟨settled, latched.word, latched.binary, latched.stage, latched.opened,
            latched.recovered, ?_⟩
          show (state.timer.pending || succeeds).toNat + (state.timer.running - 1) ≤ settled.toNat
          omega
      case isFalse => cases taken

/-- What holds of every state that the program can reach. -/
theorem latched_of_run {actions : List (StartAction ι)} {final : StartState ι}
    (run : GuardedRun (StartState.step program) (fun _ _ => True) (StartState.fresh ι)
      actions final) :
    ∃ settled, Latched program settled final.started final.timer final.cpus :=
  run.invariant (fun state : StartState ι => ∃ settled,
    Latched program settled state.started state.timer state.cpus)
    (fun _ _ _ ⟨_, latched⟩ _ taken => latched.step taken) ⟨false, latched_fresh program⟩

omit [Fintype ι] in
/-- A step of one CPU, from what the program does there. -/
theorem StartState.step_advance {succeeds : Bool} (stands : cpus cpu = pc)
    {pcAfter : StartPc}
    (taken : program.next succeeds started timer pc = some (startedAfter, timerAfter, pcAfter)) :
    StartState.step program ⟨started, timer, cpus⟩ (.advance cpu succeeds) =
      some ⟨startedAfter, timerAfter, Function.update cpus cpu pcAfter⟩ := by
  simp only [StartState.step, stands, taken, Option.map_some]

/-- Some continuation queues the timer. -/
def CanQueue (program : StartProgram) (state : StartState ι) : Prop :=
  ∃ actions final, GuardedRun (StartState.step program) (fun _ _ => True) state actions final ∧
    final.timer.pending = true

omit [Fintype ι] in
theorem CanQueue.before {state next : StartState ι} {action : StartAction ι}
    (queues : CanQueue program next) (taken : state.step program action = some next) :
    CanQueue program state := by
  obtain ⟨actions, final, run, pending⟩ := queues
  exact ⟨action :: actions, final, .cons trivial taken run, pending⟩

omit [Fintype ι] in
/-- A CPU that initialises the timer can go on and queue it. -/
theorem canQueue_of_init (stands : cpus cpu = .init) (uninitialised : timer.initialised = false) :
    CanQueue program ⟨started, timer, cpus⟩ := by
  have initialise : program.next true started timer .init =
      some (started, { timer with initialised := true }, .setCallback) := by
    simp only [StartProgram.next, uninitialised, Bool.not_false, Bool.and_true, if_true]
  have equip : program.next true started { timer with initialised := true } .setCallback =
      some (started, { timer with initialised := true, callback := true }, .start) := rfl
  have queue : program.next true started { timer with initialised := true, callback := true }
      .start = some (started,
        { timer with initialised := true, callback := true, pending := timer.pending || true },
        .idle) := rfl
  have queued : CanQueue program ⟨started,
      { timer with initialised := true, callback := true, pending := timer.pending || true },
      Function.update (Function.update (Function.update cpus cpu .setCallback) cpu .start) cpu
        .idle⟩ :=
    ⟨[], _, .nil _, Bool.or_true _⟩
  exact ((queued.before (StartState.step_advance (Function.update_self ..) queue)).before
    (StartState.step_advance (Function.update_self ..) equip)).before
    (StartState.step_advance stands initialise)

omit [Fintype ι] in
theorem canQueue_of_test (stands : cpus cpu = .test) (uninitialised : timer.initialised = false) :
    CanQueue program ⟨0, timer, cpus⟩ := by
  have enter : program.next true 0 timer .test = some (1, timer, .init) := rfl
  exact (canQueue_of_init (Function.update_self ..) uninitialised).before
    (StartState.step_advance stands enter)

omit [Fintype ι] in
theorem canQueue_of_idle (stands : cpus cpu = .idle) (uninitialised : timer.initialised = false) :
    CanQueue program ⟨0, timer, cpus⟩ := by
  have called : StartState.step program ⟨0, timer, cpus⟩ (.event cpu) =
      some ⟨0, timer, Function.update cpus cpu .test⟩ := by
    simp only [StartState.step, stands]
  exact (canQueue_of_test (Function.update_self ..) uninitialised).before called

/-- A CPU inside finishes or puts the word back. With nobody inside the word is 0,
and any CPU can start the timer. -/
theorem Latched.canQueue (latched : Latched program settled started timer cpus)
    (resets : program.resets = true) (uninitialised : timer.initialised = false) (cpu : ι) :
    CanQueue program ⟨started, timer, cpus⟩ := by
  by_cases entered : ∃ inner, (cpus inner).inside = true
  · obtain ⟨inner, inside⟩ := entered
    obtain ⟨-, rfl, -⟩ := latched.alone inside
    have staged : ∀ value, (cpus inner).expects = some value → timer.initialised = value :=
      latched.stage inner
    generalize stands : cpus inner = pc at inside staged
    cases pc with
    | idle => cases inside
    | test => cases inside
    | init => exact canQueue_of_init stands uninitialised
    | reset =>
        have restored : program.next true 1 timer .reset = some (0, timer, .idle) := rfl
        exact (canQueue_of_idle (Function.update_self ..) uninitialised).before
          (StartState.step_advance stands restored)
    | setCallback => exact absurd (uninitialised.symm.trans (staged true rfl)) Bool.false_ne_true
    | start => exact absurd (uninitialised.symm.trans (staged true rfl)) Bool.false_ne_true
  · have outside : ∀ other, (cpus other).inside = false := fun other =>
      Bool.eq_false_iff.mpr fun inside => entered ⟨other, inside⟩
    have unheld : started = 0 := by
      rw [latched.word, census_eq_zero outside]
      cases settled with
      | false => rfl
      | true =>
          exact absurd (uninitialised.symm.trans (latched.recovered resets rfl))
            Bool.false_ne_true
    subst unheld
    have here := outside cpu
    generalize stands : cpus cpu = pc at here
    cases pc with
    | idle => exact canQueue_of_idle stands uninitialised
    | test => exact canQueue_of_test stands uninitialised
    | _ => cases here

/-- Nobody is inside, the word is held and the timer is not queued. -/
structure Abandoned (state : StartState ι) : Prop where
  held : state.started = 1
  outside : ∀ cpu, (state.cpus cpu).inside = false
  unqueued : state.timer.pending = false
  still : state.timer.running = 0

omit [Fintype ι] in
theorem outside_update (outside : ∀ other, (cpus other).inside = false) (after : pc.inside = false)
    (other : ι) : (Function.update cpus cpu pc other).inside = false := by
  by_cases here : other = cpu
  · rw [here, Function.update_self]
    exact after
  · rw [Function.update_of_ne here]
    exact outside other

omit [Fintype ι] in
/-- An abandoned timer stays abandoned. -/
theorem Abandoned.step {state next : StartState ι} {action : StartAction ι}
    (abandoned : Abandoned state) (taken : state.step program action = some next) :
    Abandoned next := by
  cases action with
  | event cpu =>
      simp only [StartState.step] at taken
      split at taken
      case h_1 =>
          obtain rfl := Option.some.inj taken
          exact ⟨abandoned.held, outside_update abandoned.outside rfl, abandoned.unqueued, abandoned.still⟩
      case h_2 => cases taken
  | advance cpu succeeds =>
      obtain ⟨⟨startedAfter, timerAfter, pc⟩, advanced, rfl⟩ := Option.map_eq_some_iff.mp taken
      have here := abandoned.outside cpu
      generalize state.cpus cpu = before at here advanced
      cases before with
      | idle => cases advanced
      | test =>
          simp only [StartProgram.next, abandoned.held, if_neg Nat.one_ne_zero, ite_self]
            at advanced
          cases advanced
          exact ⟨rfl, outside_update abandoned.outside rfl, abandoned.unqueued, abandoned.still⟩
      | _ => cases here
  | expire =>
      simp only [StartState.step, abandoned.unqueued] at taken
      cases taken
  | rearm succeeds =>
      simp only [StartState.step, abandoned.still] at taken
      cases taken

omit [Fintype ι] in
theorem Abandoned.not_canQueue {state : StartState ι} (abandoned : Abandoned state) :
    ¬CanQueue program state := by
  rintro ⟨actions, final, run, pending⟩
  have lasting : Abandoned final :=
    run.invariant Abandoned (fun _ _ _ holds _ taken => holds.step taken) abandoned
  rw [lasting.unqueued] at pending
  cases pending

/-- From every reachable state in which the timer is not initialised, it can still
be queued. -/
def Recovers (ι : Type) [DecidableEq ι] (program : StartProgram) : Prop :=
  ∀ actions state, GuardedRun (StartState.step program) (fun _ _ => True) (StartState.fresh ι)
    actions state → state.timer.initialised = false → CanQueue program state

omit [Fintype ι] in
/-- One failed `bpf_timer_init` abandons the timer of a program that does not put
the word back. -/
theorem exists_abandoned (keeps : program.resets = false) (cpu : ι) :
    ∃ actions final, GuardedRun (StartState.step program) (fun _ _ => True) (StartState.fresh ι)
      actions final ∧ final.timer.initialised = false ∧ Abandoned final := by
  have fails : program.next false 1 ⟨false, false, false, 0⟩ .init =
      some (1, ⟨false, false, false, 0⟩, .idle) := by
    simp only [StartProgram.next, Bool.false_and, keeps]
    rfl
  refine ⟨[.event cpu, .advance cpu true, .advance cpu false], _,
    .cons trivial rfl (.cons trivial (StartState.step_advance (Function.update_self ..) rfl)
      (.cons trivial (StartState.step_advance (Function.update_self ..) fails) (.nil _))), rfl,
    rfl, ?_, rfl, rfl⟩
  intro other
  show (Function.update (Function.update (Function.update (fun _ => StartPc.idle) cpu .test) cpu
    .init) cpu .idle other).inside = false
  rw [Function.update_idem, Function.update_idem]
  exact outside_update (fun _ => rfl) rfl other

theorem recovers_iff (cpu : ι) : Recovers ι program ↔ program.resets = true := by
  constructor
  · intro recovers
    rw [← Bool.not_eq_false]
    intro keeps
    obtain ⟨actions, final, run, uninitialised, abandoned⟩ := exists_abandoned keeps cpu
    exact abandoned.not_canQueue (recovers actions final run uninitialised)
  · intro resets actions state run uninitialised
    obtain ⟨settled, latched⟩ := latched_of_run run
    exact latched.canQueue resets uninitialised cpu

/-- **A failed `bpf_timer_init` is retried by two of the three programs.** Whatever
has run before and whoever is on the way, as long as the timer of
`phantom_timer_handler` or of `global_running_tracker_timer_init` is not initialised
a later context switch can still start it. `h2g_msg_timer_init` leaves `started` at
1, and there are runs after which no context switch ever starts its timer. -/
theorem failed_init_is_retried (cpu : ι) :
    Recovers ι phantomTimerHandler ∧ Recovers ι globalRunningTrackerTimerInit ∧
      ¬Recovers ι h2gMsgTimerInit := by
  refine ⟨(recovers_iff cpu).mpr rfl, (recovers_iff cpu).mpr rfl, ?_⟩
  intro recovers
  exact absurd ((recovers_iff cpu).mp recovers) Bool.false_ne_true

end Latch

end PhantomTracker.Host
