import Mathlib.Algebra.BigOperators.Intervals

/-!
Contract: step functions of discrete time, their integrals, and sequences of
samples that record them.

Owns: a step function as an initial value with the changes made to it, the
condition under which a sequence of timestamped samples records a step function,
how such a sequence grows, and that the integral of the function is the sum of
the sampled values weighted with the times between samples.

Does not own: where samples are kept, or arithmetic that can overflow.
-/

namespace PhantomTracker.Foundation

universe u

variable {M : Type u}

/-! ## Traces -/

/-- A step function: the value it starts with and its changes, newest first. -/
structure Trace (M : Type u) where
  initial : M
  changes : List (Nat × M)

namespace Trace

def record (trace : Trace M) (time : Nat) (value : M) : Trace M :=
  { trace with changes := (time, value) :: trace.changes }

/-- The value at time `t`: that of the newest change made at or before `t`. -/
def valueAt (trace : Trace M) (t : Nat) : M :=
  match trace.changes.find? (fun change => change.1 ≤ t) with
  | some change => change.2
  | none => trace.initial

@[simp] theorem valueAt_record (trace : Trace M) (time : Nat) (value : M) (t : Nat) :
    (trace.record time value).valueAt t = if time ≤ t then value else trace.valueAt t := by
  unfold valueAt record
  rw [List.find?_cons]
  by_cases reached : time ≤ t
  · simp [reached]
  · simp [reached]

/-- Recording the value that the function has anyway changes nothing. -/
theorem valueAt_record_same {trace : Trace M} {time : Nat} {value : M}
    (holds : ∀ t, time ≤ t → trace.valueAt t = value) :
    (trace.record time value).valueAt = trace.valueAt := by
  funext t
  rw [valueAt_record]
  by_cases reached : time ≤ t
  · rw [if_pos reached, holds t reached]
  · rw [if_neg reached]

end Trace

/-! ## Samples -/

/-- The samples `0 .. last` record the function `f` from the time of the first
one on. -/
structure Sampled (f : Nat → M) (value : Nat → M) (time : Nat → Nat) (last : Nat) : Prop where
  ordered : ∀ k < last, time k ≤ time (k + 1)
  between : ∀ k < last, ∀ t, time k ≤ t → t < time (k + 1) → f t = value k
  after : ∀ t, time last ≤ t → f t = value last

namespace Sampled

variable {f : Nat → M} {value : Nat → M} {time : Nat → Nat} {last : Nat}

theorem single (constant : ∀ t, time 0 ≤ t → f t = value 0) : Sampled f value time 0 where
  ordered _ below := absurd below (Nat.not_lt_zero _)
  between _ below := absurd below (Nat.not_lt_zero _)
  after := constant

theorem time_le_time (sampled : Sampled f value time last) {first second : Nat}
    (ordered : first ≤ second) (within : second ≤ last) : time first ≤ time second := by
  induction second with
  | zero =>
      obtain rfl : first = 0 := by omega
      exact le_rfl
  | succ second inductionHypothesis =>
      by_cases here : first = second + 1
      · rw [here]
      · have earlier := inductionHypothesis (by omega) (by omega)
        exact earlier.trans (sampled.ordered second (by omega))

/-- One more sample, at the time from which on the function has a new value. -/
theorem extend (sampled : Sampled f value time last) {f' value' : Nat → M} {time' : Nat → Nat}
    (sameValue : ∀ k ≤ last, value' k = value k) (sameTime : ∀ k ≤ last, time' k = time k)
    (later : time last ≤ time' (last + 1)) (before : ∀ t < time' (last + 1), f' t = f t)
    (fromThere : ∀ t, time' (last + 1) ≤ t → f' t = value' (last + 1)) :
    Sampled f' value' time' (last + 1) where
  ordered k below := by
    by_cases newest : k = last
    · rw [newest, sameTime last le_rfl]
      exact later
    · rw [sameTime k (by omega), sameTime (k + 1) (by omega)]
      exact sampled.ordered k (by omega)
  between k below t reached earlier := by
    rw [sameTime k (by omega)] at reached
    rw [sameValue k (by omega)]
    by_cases newest : k = last
    · subst newest
      rw [before t earlier]
      exact sampled.after t reached
    · rw [sameTime (k + 1) (by omega)] at earlier
      have bound : time (k + 1) ≤ time last := sampled.time_le_time (by omega) le_rfl
      rw [before t (by omega)]
      exact sampled.between k (by omega) t reached earlier
  after := fromThere

/-- **The integral is the weighted sum of the samples.** -/
theorem integral [AddCommMonoid M] (sampled : Sampled f value time last) :
    ∑ t ∈ Finset.Ico (time 0) (time last), f t =
      ∑ k ∈ Finset.range last, (time (k + 1) - time k) • value k := by
  -- By induction on how many of the samples are summed.
  suffices upTo : ∀ n ≤ last, ∑ t ∈ Finset.Ico (time 0) (time n), f t =
      ∑ k ∈ Finset.range n, (time (k + 1) - time k) • value k from upTo last le_rfl
  intro n within
  induction n with
  | zero => rw [Finset.Ico_self, Finset.sum_empty, Finset.range_zero, Finset.sum_empty]
  | succ n inductionHypothesis =>
      have first : time 0 ≤ time n := sampled.time_le_time (Nat.zero_le n) (by omega)
      have next : time n ≤ time (n + 1) := sampled.ordered n (by omega)
      have constant : ∑ t ∈ Finset.Ico (time n) (time (n + 1)), f t =
          (time (n + 1) - time n) • value n := by
        rw [← Nat.card_Ico, ← Finset.sum_const]
        refine Finset.sum_congr rfl fun t member => ?_
        obtain ⟨reached, earlier⟩ := Finset.mem_Ico.mp member
        exact sampled.between n (by omega) t reached earlier
      rw [← Finset.sum_Ico_consecutive f first next, inductionHypothesis (by omega), constant,
        Finset.sum_range_succ]

end Sampled

end PhantomTracker.Foundation
