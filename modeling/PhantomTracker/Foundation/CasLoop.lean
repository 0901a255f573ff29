import PhantomTracker.Foundation.Runs
import Mathlib.Logic.Function.Basic

/-!
Contract: bounded retry loops that change a shared value with compare-and-swap.

Owns: the atomic steps of a call, which loads the value, returns it unchanged
when a test says so, and otherwise tries to swap in an updated value, for at most
a fixed number of attempts; any number of callers that interleave such calls, and
what one of them can do; and the rule that a property of the value which every
tested update keeps holds of the value, and of every value returned, in every run.

Does not own: any particular value, test or update.
-/

namespace PhantomTracker.Foundation

universe u v w

/-- The operations that callers apply to a shared value. A loaded value that
`stops` an operation is returned as it is. -/
structure CasLoop (Op : Type u) (α : Type v) where
  stops : Op → α → Bool
  update : Op → α → α
  attempts : Nat

namespace CasLoop

/-- Where a caller stands. After the last attempt the value is loaded once more
and returned without a test. -/
inductive Pc (Op : Type u) (α : Type v) where
  | idle
  | load (op : Op) (attempt : Nat)
  | swap (op : Op) (attempt : Nat) (old : α)
  | reload (op : Op)
  | returned (value : α)

structure State (ι : Type w) (Op : Type u) (α : Type v) where
  value : α
  calls : ι → Pc Op α

inductive Action (ι : Type w) (Op : Type u) where
  | call (caller : ι) (op : Op)
  | advance (caller : ι)
  | leave (caller : ι)

/-- No call is in progress. -/
def State.start (ι : Type w) (Op : Type u) {α : Type v} (value : α) : State ι Op α :=
  ⟨value, fun _ => .idle⟩

variable {ι : Type w} {Op : Type u} {α : Type v} [DecidableEq ι] [DecidableEq α]

/-- One atomic step of a call. -/
def next (loop : CasLoop Op α) (value : α) : Pc Op α → Option (α × Pc Op α)
  | .load op attempt =>
      if loop.stops op value then some (value, .returned value)
      else some (value, .swap op attempt value)
  | .swap op attempt old =>
      if value = old then some (loop.update op old, .returned (loop.update op old))
      else if attempt + 1 < loop.attempts then some (value, .load op (attempt + 1))
      else some (value, .reload op)
  | .reload _ => some (value, .returned value)
  | .idle => none
  | .returned _ => none

def step (loop : CasLoop Op α) (state : State ι Op α) : Action ι Op → Option (State ι Op α)
  | .call caller op =>
      match state.calls caller with
      | .idle => some { state with calls := Function.update state.calls caller (.load op 0) }
      | _ => none
  | .advance caller =>
      (loop.next state.value (state.calls caller)).map fun next =>
        ⟨next.1, Function.update state.calls caller next.2⟩
  | .leave caller =>
      match state.calls caller with
      | .returned _ => some { state with calls := Function.update state.calls caller .idle }
      | _ => none

/-! ## One caller -/

/-- The operation whose loop a caller is in. -/
def Pc.operation : Pc Op α → Option Op
  | .load op _ => some op
  | .swap op _ _ => some op
  | .reload op => some op
  | .idle => none
  | .returned _ => none

/-- What one caller can do to the value and to its own call: an atomic step of the call,
or outside of the loop nothing, the start of a call or its end. -/
inductive Move (loop : CasLoop Op α) (value : α) (pc : Pc Op α) : α → Pc Op α → Prop where
  | advance {after : α} {pcAfter : Pc Op α} (taken : loop.next value pc = some (after, pcAfter)) :
      Move loop value pc after pcAfter
  | stay (outside : pc.operation = none) : Move loop value pc value pc
  | call (op : Op) (idle : pc = .idle) : Move loop value pc value (.load op 0)
  | leave {result : α} (returned : pc = .returned result) : Move loop value pc value .idle

/-- A move of one caller is a step of the loop, or it changes nothing. -/
theorem Move.step {loop : CasLoop Op α} {state : State ι Op α} {caller : ι} {value : α}
    {pc : Pc Op α} (move : loop.Move state.value (state.calls caller) value pc) :
    (⟨value, Function.update state.calls caller pc⟩ : State ι Op α) = state ∨
      ∃ action, loop.step state action =
        some ⟨value, Function.update state.calls caller pc⟩ := by
  cases move with
  | advance taken =>
      refine Or.inr ⟨.advance caller, ?_⟩
      simp only [CasLoop.step, taken, Option.map_some]
  | stay outside =>
      left
      rw [Function.update_eq_self]
  | call op idle =>
      refine Or.inr ⟨.call caller op, ?_⟩
      simp only [CasLoop.step, idle]
  | leave returned =>
      refine Or.inr ⟨.leave caller, ?_⟩
      simp only [CasLoop.step, returned]

/-! ## What every tested update keeps -/

/-- The property survives every update whose test it passes. -/
def Keeps (loop : CasLoop Op α) (good : α → Prop) : Prop :=
  ∀ op value, good value → loop.stops op value = false → good (loop.update op value)

/-- What a caller carries has the property: a value about to be swapped has also
passed the test. -/
def PcGood (loop : CasLoop Op α) (good : α → Prop) : Pc Op α → Prop
  | .swap op _ old => good old ∧ loop.stops op old = false
  | .returned value => good value
  | _ => True

structure Good (loop : CasLoop Op α) (good : α → Prop) (state : State ι Op α) : Prop where
  value : good state.value
  calls : ∀ caller, loop.PcGood good (state.calls caller)

section Invariant

variable {loop : CasLoop Op α} {good : α → Prop}

theorem next_good (keeps : loop.Keeps good) {value after : α} {pc pcAfter : Pc Op α}
    (holds : good value) (pcHolds : loop.PcGood good pc)
    (taken : loop.next value pc = some (after, pcAfter)) :
    good after ∧ loop.PcGood good pcAfter := by
  cases pc with
  | idle => cases taken
  | returned result => cases taken
  | reload op =>
      cases taken
      exact ⟨holds, holds⟩
  | load op attempt =>
      cases stops : loop.stops op value with
      | true =>
          simp only [next, stops, if_true] at taken
          cases taken
          exact ⟨holds, holds⟩
      | false =>
          simp only [next, stops, Bool.false_eq_true, if_false] at taken
          cases taken
          exact ⟨holds, holds, stops⟩
  | swap op attempt old =>
      simp only [next] at taken
      split_ifs at taken
      · cases taken
        have swapped := keeps op old pcHolds.1 pcHolds.2
        exact ⟨swapped, swapped⟩
      · cases taken
        exact ⟨holds, trivial⟩
      · cases taken
        exact ⟨holds, trivial⟩

omit [DecidableEq α] in
theorem Good.update {state : State ι Op α} (holds : loop.Good good state) {caller : ι}
    {value : α} {pc : Pc Op α} (valueHolds : good value) (pcHolds : loop.PcGood good pc) :
    loop.Good good ⟨value, Function.update state.calls caller pc⟩ := by
  refine ⟨valueHolds, fun other => ?_⟩
  show loop.PcGood good (Function.update state.calls caller pc other)
  by_cases same : other = caller
  · rw [same, Function.update_self]
    exact pcHolds
  · rw [Function.update_of_ne same]
    exact holds.calls other

theorem Good.step (keeps : loop.Keeps good) {state after : State ι Op α} {action : Action ι Op}
    (holds : loop.Good good state) (taken : loop.step state action = some after) :
    loop.Good good after := by
  cases action with
  | call caller op =>
      simp only [CasLoop.step] at taken
      split at taken
      · cases taken
        exact holds.update holds.value trivial
      · cases taken
  | advance caller =>
      obtain ⟨⟨value, pc⟩, moved, result⟩ := Option.map_eq_some_iff.mp taken
      have good := next_good keeps holds.value (holds.calls caller) moved
      rw [← result]
      exact holds.update good.1 good.2
  | leave caller =>
      simp only [CasLoop.step] at taken
      split at taken
      · cases taken
        exact holds.update holds.value trivial
      · cases taken

omit [DecidableEq ι] [DecidableEq α] in
theorem good_start {value : α} (holds : good value) :
    loop.Good good (State.start ι Op value) :=
  ⟨holds, fun _ => trivial⟩

/-- **Bounds of a shared value.** A property that every tested update keeps
holds of the value in every run, whatever the callers do. -/
theorem good_of_run (keeps : loop.Keeps good) {value : α} {actions : List (Action ι Op)}
    {final : State ι Op α} (holds : good value)
    (run : GuardedRun loop.step (fun _ _ => True) (.start ι Op value) actions final) :
    loop.Good good final :=
  run.invariant (loop.Good good) (fun _ _ _ kept _ taken => kept.step keeps taken)
    (good_start holds)

end Invariant

end CasLoop

end PhantomTracker.Foundation
