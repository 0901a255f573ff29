import Mathlib.Data.List.Basic
import Mathlib.Logic.Function.Basic

/-!
Contract: runs of a deterministic labelled step function.

Owns: guarded runs, in which every action meets a condition on the state it is
taken from; the invariant rule over such runs; weakening and exchange of the
condition; the number of counted actions in a run; an executable form that produces guarded runs for a decidable
condition; and what one member of a system does to the others when it moves.

Does not own: any particular state, action or step function.
-/

namespace PhantomTracker.Foundation

universe u v w

variable {σ : Type u} {α : Type v}

/-- What holds of a member of a system after one of them has moved to `next`. -/
theorem update_cases {κ : Type w} [DecidableEq κ] {members : κ → σ} {moved target : κ} {next : σ}
    (holds : σ → Prop) (after : holds (Function.update members moved next target)) :
    (target = moved ∧ holds next) ∨ (target ≠ moved ∧ holds (members target)) := by
  by_cases same : target = moved
  · subst same
    rw [Function.update_self] at after
    exact Or.inl ⟨rfl, after⟩
  · rw [Function.update_of_ne same] at after
    exact Or.inr ⟨same, after⟩

/-- A run of `step` through the listed actions. Every action meets `guard` in
the state it is taken from. -/
inductive GuardedRun (step : σ → α → Option σ) (guard : σ → α → Prop) :
    σ → List α → σ → Prop where
  | nil (state : σ) : GuardedRun step guard state [] state
  | cons {state next final : σ} {action : α} {rest : List α}
      (allowed : guard state action) (taken : step state action = some next)
      (tail : GuardedRun step guard next rest final) :
      GuardedRun step guard state (action :: rest) final

namespace GuardedRun

variable {step : σ → α → Option σ} {guard : σ → α → Prop} {start final : σ}
  {actions : List α}

/-- What every guarded step preserves holds at the end of every guarded run. -/
theorem invariant (run : GuardedRun step guard start actions final) (holds : σ → Prop)
    (preserved : ∀ state action next, holds state → guard state action →
      step state action = some next → holds next)
    (initially : holds start) : holds final := by
  induction run with
  | nil state => exact initially
  | cons allowed taken _ inductionHypothesis =>
      exact inductionHypothesis (preserved _ _ _ initially allowed taken)

/-- A run under a condition is a run under every weaker condition. -/
theorem mono {weaker : σ → α → Prop} (run : GuardedRun step guard start actions final)
    (implies : ∀ state action, guard state action → weaker state action) :
    GuardedRun step weaker start actions final := by
  induction run with
  | nil state => exact .nil state
  | cons allowed taken _ inductionHypothesis =>
      exact .cons (implies _ _ allowed) taken inductionHypothesis

/-- Two conditions that agree wherever an invariant holds allow the same runs,
when the second of them preserves the invariant. -/
theorem guard_iff {first second : σ → α → Prop} (holds : σ → Prop)
    (agree : ∀ state action next, holds state → guard state action →
      step state action = some next → (first state action ↔ second state action))
    (preserved : ∀ state action next, holds state → guard state action → second state action →
      step state action = some next → holds next)
    (run : GuardedRun step guard start actions final) (initially : holds start) :
    GuardedRun step first start actions final ↔ GuardedRun step second start actions final := by
  induction run with
  | nil state => exact ⟨fun _ => .nil state, fun _ => .nil state⟩
  | @cons state next final action rest allowed taken _ inductionHypothesis =>
      have here := agree state action next initially allowed taken
      have there := fun met => inductionHypothesis
        (preserved state action next initially allowed met taken)
      constructor
      · rintro (_ | ⟨met, alsoTaken, tail⟩)
        obtain rfl := Option.some.inj (taken.symm.trans alsoTaken)
        exact .cons (here.mp met) taken ((there (here.mp met)).mp tail)
      · rintro (_ | ⟨met, alsoTaken, tail⟩)
        obtain rfl := Option.some.inj (taken.symm.trans alsoTaken)
        exact .cons (here.mpr met) taken ((there met).mpr tail)

/-- A number that every guarded step raises by one for the counted actions, and keeps for the
others, has grown by their number at the end of a run. -/
theorem countP_eq (counted : α → Bool) (number : σ → Nat) (holds : σ → Prop)
    (preserved : ∀ state action next, holds state → guard state action →
      step state action = some next → holds next)
    (grows : ∀ state action next, holds state → guard state action →
      step state action = some next →
      number next = number state + if counted action then 1 else 0)
    (run : GuardedRun step guard start actions final) (initially : holds start) :
    number final = number start + actions.countP counted := by
  induction run with
  | nil state => rfl
  | cons allowed taken _ inductionHypothesis =>
      rw [inductionHypothesis (preserved _ _ _ initially allowed taken),
        grows _ _ _ initially allowed taken, List.countP_cons]
      omega

/-- A step function that refuses nothing runs through any allowed actions. -/
theorem exists_run (total : ∀ state action, ∃ next, step state action = some next)
    (allowed : ∀ state, ∀ action ∈ actions, guard state action) (start : σ) :
    ∃ final, GuardedRun step guard start actions final := by
  induction actions generalizing start with
  | nil => exact ⟨start, .nil start⟩
  | cons action rest inductionHypothesis =>
      rcases total start action with ⟨next, taken⟩
      rcases inductionHypothesis (fun state other member =>
        allowed state other (List.mem_cons_of_mem action member)) next with ⟨final, run⟩
      exact ⟨final, .cons (allowed start action List.mem_cons_self) taken run⟩

end GuardedRun

/-- Execute the listed actions, stopping at the first one that the condition
or the step function refuses. -/
def exec (step : σ → α → Option σ) (guard : σ → α → Prop)
    [∀ state action, Decidable (guard state action)] : σ → List α → Option σ
  | state, [] => some state
  | state, action :: rest =>
      if guard state action then
        match step state action with
        | some next => exec step guard next rest
        | none => none
      else none

/-- A successful execution is a guarded run. -/
theorem guardedRun_of_exec {step : σ → α → Option σ} {guard : σ → α → Prop}
    [∀ state action, Decidable (guard state action)] {start final : σ} {actions : List α}
    (executed : exec step guard start actions = some final) :
    GuardedRun step guard start actions final := by
  induction actions generalizing start with
  | nil =>
      obtain rfl := Option.some.inj executed
      exact .nil _
  | cons action rest inductionHypothesis =>
      simp only [exec] at executed
      split at executed
      · split at executed
        · exact .cons ‹_› ‹_› (inductionHypothesis executed)
        · cases executed
      · cases executed

end PhantomTracker.Foundation
