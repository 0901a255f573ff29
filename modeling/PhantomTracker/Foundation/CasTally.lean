import PhantomTracker.Foundation.CasLoop
import Mathlib.Algebra.BigOperators.Group.Finset.Basic
import Mathlib.Algebra.Order.BigOperators.Group.Finset
import Mathlib.Data.Fintype.BigOperators

/-!
Contract: how often the callers of a bounded retry loop can fail.

Owns: the tally of successful swaps and of calls that gave up, and the charge
of every failed attempt to a swap of another caller, which bounds the calls that
give up by the swaps that succeed.

Does not own: what an operation that gave up leaves undone.
-/

namespace PhantomTracker.Foundation

universe u v w

namespace CasLoop

variable {ι : Type w} {Op : Type u} {α : Type v}

/-! ## The tally -/

/-- What the calls of a run have come to: the number of swaps that succeeded,
and the operations of the calls that returned after their last attempt, newest
first. -/
structure Tally (Op : Type u) where
  swaps : Nat
  giveUps : List Op

variable [DecidableEq α]

/-- The tally after a step of a caller that stands at the given point. -/
def Tally.record (tally : Tally Op) (value : α) : Pc Op α → Tally Op
  | .swap _ _ old => if value = old then { tally with swaps := tally.swaps + 1 } else tally
  | .reload op => { tally with giveUps := op :: tally.giveUps }
  | _ => tally

theorem Tally.record_of_outside {tally : Tally Op} {value : α} {pc : Pc Op α}
    (outside : pc.operation = none) : tally.record value pc = tally := by
  cases pc with
  | idle => rfl
  | returned result => rfl
  | _ => cases outside

theorem Tally.record_giveUps {tally : Tally Op} {value : α} {pc : Pc Op α}
    (retries : ∀ op, pc ≠ .reload op) : (tally.record value pc).giveUps = tally.giveUps := by
  cases pc with
  | swap op attempt old =>
      simp only [Tally.record]
      split <;> rfl
  | reload op => exact absurd rfl (retries op)
  | _ => rfl

/-! ## The charge -/

/-- The failed attempts of a call, counting the swap that is bound to fail. -/
def effort (loop : CasLoop Op α) (value : α) : Pc Op α → Nat
  | .load _ attempt => attempt
  | .swap _ attempt old => attempt + if value = old then 0 else 1
  | .reload _ => loop.attempts
  | _ => 0

section Effort

variable {loop : CasLoop Op α}

/-- Another value makes at most one more attempt fail. -/
theorem effort_le_succ (value after : α) (pc : Pc Op α) :
    loop.effort after pc ≤ loop.effort value pc + 1 := by
  cases pc with
  | swap op attempt old =>
      simp only [effort]
      split <;> split <;> omega
  | _ => exact Nat.le_succ _

variable [Fintype ι]

/-- **The charge.** The attempts that have failed are paid for by the swaps that
succeeded, each of which pays for one attempt of every other caller. -/
def Charged (loop : CasLoop Op α) (value : α) (calls : ι → Pc Op α) (tally : Tally Op) : Prop :=
  ∑ caller, loop.effort value (calls caller) + loop.attempts * tally.giveUps.length ≤
    (Fintype.card ι - 1) * tally.swaps

variable [DecidableEq ι] {value after : α} {calls : ι → Pc Op α} {tally : Tally Op} {caller : ι}
  {pc : Pc Op α}

/-- What one caller's move does to a sum over the callers. -/
theorem sum_effort_update (loop : CasLoop Op α) (value : α) (calls : ι → Pc Op α) (caller : ι)
    (pc : Pc Op α) :
    ∑ other, loop.effort value (Function.update calls caller pc other) +
        loop.effort value (calls caller) =
      ∑ other, loop.effort value (calls other) + loop.effort value pc := by
  have moved : (fun other => loop.effort value (Function.update calls caller pc other)) =
      Function.update (fun other => loop.effort value (calls other)) caller
        (loop.effort value pc) := by
    funext other
    exact Function.apply_update (fun _ => loop.effort value) calls caller pc other
  have rest := Finset.sum_erase_add Finset.univ (fun other => loop.effort value (calls other))
    (Finset.mem_univ caller)
  rw [moved, Finset.sum_update_of_mem (Finset.mem_univ caller), Finset.sdiff_singleton_eq_erase]
  omega

/-- A move that makes no more attempts fail needs no payment. -/
theorem Charged.move (charged : loop.Charged value calls tally)
    (less : loop.effort value pc ≤ loop.effort value (calls caller)) :
    loop.Charged value (Function.update calls caller pc) tally := by
  have sum := sum_effort_update loop value calls caller pc
  unfold Charged at charged ⊢
  omega

/-- A successful swap pays one attempt of every other caller. -/
theorem Charged.swapped (charged : loop.Charged value calls tally) (after : α)
    (done : ∀ value, loop.effort value pc = 0) :
    loop.Charged after (Function.update calls caller pc)
      { tally with swaps := tally.swaps + 1 } := by
  have others : ∑ other ∈ Finset.univ.erase caller, loop.effort after
      (Function.update calls caller pc other) ≤
        ∑ other ∈ Finset.univ.erase caller, (loop.effort value (calls other) + 1) := by
    apply Finset.sum_le_sum
    intro other member
    rw [Function.update_of_ne (Finset.ne_of_mem_erase member)]
    exact effort_le_succ value after (calls other)
  have own := Finset.sum_erase_add Finset.univ
    (fun other => loop.effort after (Function.update calls caller pc other))
    (Finset.mem_univ caller)
  have before := Finset.sum_erase_add Finset.univ
    (fun other => loop.effort value (calls other)) (Finset.mem_univ caller)
  simp only [Function.update_self, done] at own
  rw [Finset.sum_add_distrib, ← Finset.card_eq_sum_ones,
    Finset.card_erase_of_mem (Finset.mem_univ caller), Finset.card_univ] at others
  unfold Charged at charged ⊢
  rw [Nat.mul_add, Nat.mul_one]
  show _ + loop.attempts * tally.giveUps.length ≤ _
  omega

/-- A call that gives up has used all its attempts. -/
theorem Charged.gaveUp (charged : loop.Charged value calls tally) (op : Op)
    (spent : loop.effort value (calls caller) = loop.attempts)
    (done : loop.effort value pc = 0) :
    loop.Charged value (Function.update calls caller pc)
      { tally with giveUps := op :: tally.giveUps } := by
  have sum := sum_effort_update loop value calls caller pc
  unfold Charged at charged ⊢
  rw [List.length_cons, Nat.mul_add, Nat.mul_one]
  show _ ≤ (Fintype.card ι - 1) * tally.swaps
  omega

/-- An atomic step of a call keeps the charge. -/
theorem Charged.advance (charged : loop.Charged value calls tally)
    (taken : loop.next value (calls caller) = some (after, pc)) :
    loop.Charged after (Function.update calls caller pc)
      (tally.record value (calls caller)) := by
  cases stands : calls caller with
  | idle =>
      rw [stands] at taken
      cases taken
  | returned result =>
      rw [stands] at taken
      cases taken
  | load op attempt =>
      rw [stands] at taken
      simp only [next] at taken
      split_ifs at taken
      · cases taken
        exact charged.move (Nat.zero_le _)
      · cases taken
        apply charged.move
        rw [stands]
        simp [effort]
  | swap op attempt old =>
      rw [stands] at taken
      simp only [next] at taken
      split_ifs at taken with same below
      · cases taken
        simp only [Tally.record, if_pos same]
        exact charged.swapped _ fun _ => rfl
      · cases taken
        simp only [Tally.record, if_neg same]
        apply charged.move
        rw [stands]
        simp [effort, same]
      · cases taken
        simp only [Tally.record, if_neg same]
        apply charged.move
        rw [stands]
        simp only [effort, if_neg same]
        omega
  | reload op =>
      rw [stands] at taken
      cases taken
      exact charged.gaveUp op (by rw [stands]; rfl) rfl

/-- Every move of one caller keeps the charge. -/
theorem Charged.step (charged : loop.Charged value calls tally)
    (move : loop.Move value (calls caller) after pc) :
    loop.Charged after (Function.update calls caller pc)
      (tally.record value (calls caller)) := by
  cases move with
  | advance taken => exact charged.advance taken
  | stay outside =>
      rw [Tally.record_of_outside outside]
      exact charged.move (Nat.le_refl _)
  | call op idle =>
      rw [Tally.record_of_outside (by rw [idle]; rfl)]
      exact charged.move (Nat.zero_le _)
  | leave returned =>
      rw [Tally.record_of_outside (by rw [returned]; rfl)]
      exact charged.move (Nat.zero_le _)

omit [DecidableEq ι] in
theorem charged_start (loop : CasLoop Op α) (value : α) {calls : ι → Pc Op α}
    (outside : ∀ caller, (calls caller).operation = none) : loop.Charged value calls ⟨0, []⟩ := by
  have none : ∀ caller ∈ Finset.univ, loop.effort value (calls caller) = 0 := by
    intro caller _
    have here := outside caller
    cases stands : calls caller with
    | idle => rfl
    | returned result => rfl
    | _ =>
        rw [stands] at here
        cases here
  unfold Charged
  rw [Finset.sum_eq_zero none]
  simp

omit [DecidableEq ι] in
/-- The calls that gave up took all their attempts from swaps of others. -/
theorem Charged.giveUps_le (charged : loop.Charged value calls tally) :
    loop.attempts * tally.giveUps.length ≤ (Fintype.card ι - 1) * tally.swaps :=
  (Nat.le_add_left _ _).trans charged

end Effort

end CasLoop

end PhantomTracker.Foundation
