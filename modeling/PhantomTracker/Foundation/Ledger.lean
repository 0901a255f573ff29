import Mathlib.Data.Multiset.AddSub
import Mathlib.Algebra.BigOperators.Group.List.Basic
import Mathlib.Algebra.Order.Group.Multiset

/-!
Contract: what a program holds of the resources that it acquires and releases.

Owns: the ledger of held resources, in which a release of something that is not
held is recorded as a fault, and that releasing what a list names, in any order,
undoes having acquired it.

Does not own: any particular resource.
-/

namespace PhantomTracker.Foundation

universe u

/-- The resources held, and those that were released while they were not held. -/
structure Ledger (κ : Type u) where
  held : Multiset κ
  faults : Multiset κ

namespace Ledger

variable {κ : Type u}

def acquire (resource : κ) (ledger : Ledger κ) : Ledger κ :=
  { ledger with held := resource ::ₘ ledger.held }

variable [DecidableEq κ]

def release (resource : κ) (ledger : Ledger κ) : Ledger κ :=
  if resource ∈ ledger.held then { ledger with held := ledger.held.erase resource }
  else { ledger with faults := resource ::ₘ ledger.faults }

/-- Release the listed resources, the first one first. -/
def releaseAll (resources : List κ) (ledger : Ledger κ) : Ledger κ :=
  resources.foldl (fun ledger resource => ledger.release resource) ledger

@[simp] theorem release_acquire (resource : κ) (ledger : Ledger κ) :
    (ledger.acquire resource).release resource = ledger := by
  simp [acquire, release]

theorem release_of_mem {resource : κ} {ledger : Ledger κ} (held : resource ∈ ledger.held) :
    ledger.release resource = ⟨ledger.held.erase resource, ledger.faults⟩ :=
  if_pos held

/-- Releasing one of the resources on top of a base. -/
theorem release_add_cons (base owned faults : Multiset κ) (resource : κ) :
    release resource ⟨base + resource ::ₘ owned, faults⟩ = ⟨base + owned, faults⟩ := by
  have held : resource ∈ base + resource ::ₘ owned := by simp
  rw [release_of_mem held, Multiset.add_cons, Multiset.erase_cons_head]

/-- Releasing exactly what is held on top of a base leaves the base. -/
theorem releaseAll_add (base faults : Multiset κ) (resources : List κ) :
    releaseAll resources ⟨base + ↑resources, faults⟩ = ⟨base, faults⟩ := by
  induction resources with
  | nil => simp [releaseAll]
  | cons resource rest inductionHypothesis =>
      have first := release_add_cons base ↑rest faults resource
      show releaseAll rest (release resource ⟨base + ↑(resource :: rest), faults⟩) = _
      rw [← Multiset.cons_coe, first]
      exact inductionHypothesis

end Ledger

end PhantomTracker.Foundation
