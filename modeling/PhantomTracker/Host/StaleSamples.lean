import PhantomTracker.Host.WindowHandover

/-!
Contract: the slots that an average uses against the slots written since the
buffer was reset.

Owns: the theorem that after the first two ticks no average uses a slot that an
earlier window has left behind, as long as the fold meets no slot that a handler
has reserved and not yet written, and a run in which it meets one.

Does not own: the journal argument behind the theorem.
-/

namespace PhantomTracker.Host

open PhantomTracker.Foundation

section Stale

variable {ι : Type}

/-- The handler has reserved the slot and not yet written it. -/
def CpuPc.reserves (key : VmKey) (buff : Buff) (idx : Nat) : CpuPc → Bool
  | .update _ vmName (.write _ chosen _ reserved) =>
      vmName = key ∧ chosen = buff ∧ reserved = idx
  | _ => false

/-- A callback of the fold waits for the slots it uses: when callback `k` runs,
no handler of the VM has slot `k` or `k + 1` reserved and not yet written. -/
def TickPc.Waits (key : VmKey) (cpus : ι → CpuPc) : TickPc → Prop
  | .fold old k _ => ∀ cpu, (cpus cpu).reserves key old k = false ∧
      (cpus cpu).reserves key old (k + 1) = false
  | _ => True

/-- Every callback of the run waits for the slots it uses. -/
def FoldGuard (key : VmKey) (machine : Machine ι) : Action ι → Prop
  | .tick _ => machine.tick.Waits key machine.cpus
  | _ => True

instance [Fintype ι] (key : VmKey) (cpus : ι → CpuPc) (pc : TickPc) :
    Decidable (pc.Waits key cpus) :=
  match pc with
  | .fold old k _ =>
      inferInstanceAs (Decidable (∀ cpu, (cpus cpu).reserves key old k = false ∧
        (cpus cpu).reserves key old (k + 1) = false))
  | .idle | .loadEnd | .loadStart _ | .test _ _ | .openNew _ _ _ | .reset _ _ | .swap _ _
  | .reserve _ _ | .writeEnd _ _ _ | .publish _ => isTrue trivial

instance [Fintype ι] (key : VmKey) (machine : Machine ι) (action : Action ι) :
    Decidable (FoldGuard key machine action) :=
  match action with
  | .tick _ => inferInstanceAs (Decidable (machine.tick.Waits key machine.cpus))
  | .switch _ _ | .advance _ _ => isTrue trivial

variable {key : VmKey} {maps : Buff → MapId} {host : HostState} {vm : VmT}

theorem reserves_of_writerOf {pc : CpuPc} {value : Int} {buff : Buff} {idx : Nat}
    (reserved : writerOf key pc = .reserved value buff idx) : pc.reserves key buff idx = true := by
  cases pc with
  | idle => cases reserved
  | enter locals => cases reserved
  | update locals vmName update =>
      by_cases own : vmName = key
      · subst own
        cases update <;> simp_all [writerOf, CpuPc.reserves]
      · rw [writerOf_foreign own] at reserved
        cases reserved

theorem fresh_of_filled {machine : Machine ι} {buff : Buff} {idx : Nat}
    (filled : (machine.view key maps vm).Filled buff idx)
    (written : ∀ cpu, (machine.cpus cpu).reserves key buff idx = false) :
    machine.fresh buff idx = true := by
  rcases filled with fresh | ⟨cpu, value, reserved⟩
  · exact fresh
  · have reserves := reserves_of_writerOf reserved
    rw [written cpu] at reserves
    cases reserves

/-- A fold that waits for its slots uses none that is left from an earlier
window. -/
theorem usesStale_of_allFilled {machine : Machine ι} {now : Nat}
    (collecting : Collecting key maps vm machine.host)
    (filled : (machine.view key maps vm).AllFilled vmMapMaxEntries)
    (guarded : FoldGuard key machine (.tick now)) (later : 2 ≤ machine.ticks) :
    usesStale machine.host maps machine.fresh machine.tick = false := by
  have drained := filled.swapper
  cases phase : machine.tick with
  | fold old k ctx =>
      simp only [FoldGuard, phase, TickPc.Waits] at guarded
      have below : (machine.view key maps vm).FilledBelow vmMapMaxEntries old
          (ctx.nbSamples + 1) := by
        unfold Journal.SwapperFilled at drained
        simp only [Machine.view, phase, swapperOf, swapsOf] at drained
        exact drained (by omega)
      simp only [usesStale, collecting.capacity, Bool.and_eq_false_imp, decide_eq_true_eq,
        Bool.not_eq_false', Bool.and_eq_true]
      rintro ⟨within, room⟩
      have first := below k (by omega) (by omega)
      have second := below (k + 1) (by omega) room
      exact ⟨fresh_of_filled first fun cpu => (guarded cpu).1,
        fresh_of_filled second fun cpu => (guarded cpu).2⟩
  | _ => rfl

/-- The invariant of a run: the slots of the journal are filled, and no average
has used a stale one. -/
structure NoStale (key : VmKey) (maps : Buff → MapId) (machine : Machine ι) : Prop where
  viewed : machine.Viewed key maps (Journal.AllFilled vmMapMaxEntries)
  unused : machine.usedStale = false

theorem NoStale.step [DecidableEq ι] {machine next : Machine ι} {action : Action ι}
    (noStale : NoStale key maps machine) (guarded : FoldGuard key machine action)
    (taken : machine.step key action = some next) : NoStale key maps next := by
  refine ⟨noStale.viewed.step (fun journal label after filled _ step =>
    filled.step u32Succ_le step) taken, ?_⟩
  cases action with
  | switch cpu event =>
      obtain ⟨_, rfl⟩ := Machine.step_switch taken
      exact noStale.unused
  | advance cpu env =>
      obtain ⟨_, _, _, rfl⟩ := Machine.step_advance taken
      exact noStale.unused
  | tick now =>
      obtain ⟨vm, collecting, _, filled⟩ := noStale.viewed
      obtain ⟨_, _, _, buffered, _, _, _, _, used, _⟩ := Machine.step_tick taken
      obtain rfl := Option.some.inj (buffered.symm.trans collecting.buffered)
      rw [used, noStale.unused, Bool.false_or, Bool.and_eq_false_imp, decide_eq_true_eq]
      exact usesStale_of_allFilled collecting filled guarded

/-- **No stale sample is weighted**, as long as the fold waits for the slots
that are reserved and not yet written. -/
theorem no_stale_sample_when_written [DecidableEq ι] {actions : List (Action ι)}
    {final : Machine ι} (collecting : Collecting key maps vm host)
    (run : GuardedRun (Machine.step key) (FoldGuard key) (Machine.quiet ι host) actions final) :
    final.usedStale = false := by
  have filled : ((Machine.quiet ι host).view key maps vm).AllFilled vmMapMaxEntries :=
    ⟨fun started => absurd started (Nat.not_succ_le_zero 0), trivial⟩
  have noStale : NoStale key maps final :=
    run.invariant (NoStale key maps) (fun _ _ _ known guarded taken => known.step guarded taken)
      ⟨Machine.viewed_quiet collecting filled, rfl⟩
  exact noStale.unused

end Stale

/-! ## A fold that overtakes a write -/

/-- Thread 7 is preempted at time 10 and returns at time 30, in the windows
that end at times 20 and 40. -/
def earlierWindows : List (Action Bool) :=
  tickAlone 0 0 ++ flipAlone 10 false ⟨7, 1, 0⟩ ++ tickAlone 20 2 ++
    flipAlone 30 false ⟨1, 7, 0⟩ ++ tickAlone 40 2

/-- Thread 8 is preempted at time 50. Its handler has reserved slot 1, which
still holds the sample of time 10, when the tick at time 60 averages. -/
def overtakenWrite : List (Action Bool) :=
  earlierWindows ++ handlerSteps 50 true ⟨8, 2, 0⟩ 6 ++ tickAlone 60 2

theorem stale_sample_weighted :
    ∃ final, GuardedRun (Machine.step (vmKey [97])) SchedGuard (Machine.quiet Bool pairCollecting)
        overtakenWrite final ∧ final.usedStale = true ∧
      final.published.head?.map Prod.snd = some 1 := by
  have check : (exec (Machine.step (vmKey [97])) (fun machine action =>
      schedCheck machine action = true) (Machine.quiet Bool pairCollecting) overtakenWrite).any
        (fun final => final.usedStale && decide (final.published.head?.map Prod.snd = some 1)) =
      true := by
    decide +kernel
  obtain ⟨final, executed, stale⟩ := (Option.any_eq_true _ _).mp check
  have run := (guardedRun_of_exec executed).mono fun _ _ => schedGuard_of_check
  rw [Bool.and_eq_true, decide_eq_true_eq] at stale
  exact ⟨final, run, stale.1, stale.2⟩

/-- The same switches, with the handler at time 50 completed before the tick. -/
def awaitedWrite : List (Action Bool) :=
  earlierWindows ++ flipAlone 50 true ⟨8, 2, 0⟩ ++ tickAlone 60 2

theorem awaited_write_not_stale :
    ∃ final, GuardedRun (Machine.step (vmKey [97])) (FoldGuard (vmKey [97]))
        (Machine.quiet Bool pairCollecting) awaitedWrite final ∧ final.ticks = 4 ∧
      final.published.head?.map Prod.snd = some 0 ∧ final.usedStale = false := by
  have check : (exec (Machine.step (vmKey [97])) (FoldGuard (vmKey [97]))
      (Machine.quiet Bool pairCollecting) awaitedWrite).any (fun final =>
        decide (final.ticks = 4) && decide (final.published.head?.map Prod.snd = some 0)) =
      true := by
    decide +kernel
  obtain ⟨final, executed, reached⟩ := (Option.any_eq_true _ _).mp check
  have run := guardedRun_of_exec executed
  rw [Bool.and_eq_true, decide_eq_true_eq, decide_eq_true_eq] at reached
  exact ⟨final, run, reached.1, reached.2, no_stale_sample_when_written collecting_pair run⟩

end PhantomTracker.Host
