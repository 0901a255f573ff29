import PhantomTracker.Foundation.FiniteMap
import Mathlib.Algebra.BigOperators.Group.Finset.Basic
import Mathlib.Data.Fintype.BigOperators

/-!
Contract: counting the members of a finite family that are in a given phase.

Owns: the census of a family under a Boolean predicate; how updating one member
moves the census; and its comparison with the number of map entries that the
members own.

Does not own: what the members or their phases are.
-/

namespace PhantomTracker.Foundation

open PhantomTracker.Foundation.FiniteMap

universe u v w x

variable {ι : Type u} {α : Type v} [Fintype ι]

/-- Number of members of `family` that satisfy `p`. -/
def census (p : α → Bool) (family : ι → α) : Nat :=
  (Finset.univ.filter fun member => p (family member) = true).card

theorem census_eq_sum (p : α → Bool) (family : ι → α) :
    census p family = ∑ member, (p (family member)).toNat := by
  unfold census
  rw [Finset.card_filter]
  refine Finset.sum_congr rfl fun member _ => ?_
  cases p (family member) <;> rfl

/-- Updating one member moves the census by what the member counted before and
counts now. -/
theorem census_update [DecidableEq ι] (p : α → Bool) (family : ι → α) (member : ι)
    (phase : α) :
    census p (Function.update family member phase) + (p (family member)).toNat =
      census p family + (p phase).toNat := by
  have others : ∀ other ∈ Finset.univ.erase member,
      (p (Function.update family member phase other)).toNat = (p (family other)).toNat := by
    intro other present
    rw [Function.update_of_ne (Finset.ne_of_mem_erase present)]
  rw [census_eq_sum, census_eq_sum,
    ← Finset.add_sum_erase Finset.univ _ (Finset.mem_univ member),
    ← Finset.add_sum_erase Finset.univ (fun other => (p (family other)).toNat)
      (Finset.mem_univ member),
    Finset.sum_congr rfl others, Function.update_self]
  omega

/-- Updating a member to a phase of the same status leaves the census alone. -/
theorem census_update_of_same [DecidableEq ι] {p : α → Bool} {family : ι → α} {member : ι}
    {phase : α} (same : p phase = p (family member)) :
    census p (Function.update family member phase) = census p family := by
  have moved := census_update p family member phase
  rw [same] at moved
  omega

theorem census_eq_zero {p : α → Bool} {family : ι → α}
    (none : ∀ member, p (family member) = false) : census p family = 0 := by
  rw [census_eq_sum]
  refine Finset.sum_eq_zero fun member _ => ?_
  rw [none member, Bool.toNat_false]

theorem census_pos {p : α → Bool} {family : ι → α} (member : ι)
    (inside : p (family member) = true) : 0 < census p family :=
  Finset.card_pos.mpr ⟨member, Finset.mem_filter.mpr ⟨Finset.mem_univ member, inside⟩⟩

/-- With at most one member in phase `p`, two of them are the same. -/
theorem eq_of_census_le_one {p : α → Bool} {family : ι → α} (few : census p family ≤ 1)
    {left right : ι} (leftInside : p (family left) = true) (rightInside : p (family right) = true) :
    left = right :=
  Finset.card_le_one.mp few left (Finset.mem_filter.mpr ⟨Finset.mem_univ left, leftInside⟩) right
    (Finset.mem_filter.mpr ⟨Finset.mem_univ right, rightInside⟩)

/-- Members in phase `p`, each owning an entry of a finite map that satisfies
`q` and that no other such member owns, are at most as many as those entries. -/
theorem census_le_countWhere {κ : Type w} {ν : Type x} [DecidableEq κ] {p : α → Bool}
    {q : κ → ν → Bool} {family : ι → α} {map : FiniteMap κ ν} (owned : α → κ)
    (each : ∀ member, p (family member) = true →
      ∃ value, map.lookup (owned (family member)) = some value ∧
        q (owned (family member)) value = true)
    (distinct : ∀ left right, p (family left) = true → p (family right) = true →
      owned (family left) = owned (family right) → left = right) :
    census p family ≤ countWhere q map := by
  let keys : List κ := (map.entries.filter fun entry => q entry.1 entry.2).map Sigma.fst
  have inKeys : ∀ member, p (family member) = true → owned (family member) ∈ keys := by
    intro member inside
    obtain ⟨value, found, satisfies⟩ := each member inside
    have present : (⟨owned (family member), value⟩ : Sigma fun _ : κ => ν) ∈ map.entries :=
      AList.mem_lookup_iff.mp found
    exact List.mem_map.mpr ⟨_, List.mem_filter.mpr ⟨present, satisfies⟩, rfl⟩
  have image : ((Finset.univ.filter fun member => p (family member) = true).image
      fun member => owned (family member)) ⊆ keys.toFinset := by
    intro key member
    obtain ⟨owner, ownerInside, rfl⟩ := Finset.mem_image.mp member
    exact List.mem_toFinset.mpr (inKeys owner (Finset.mem_filter.mp ownerInside).2)
  calc census p family
      = ((Finset.univ.filter fun member => p (family member) = true).image
          fun member => owned (family member)).card := by
        refine (Finset.card_image_of_injOn ?_).symm
        intro left leftInside right rightInside same
        exact distinct left right (Finset.mem_filter.mp leftInside).2
          (Finset.mem_filter.mp rightInside).2 same
    _ ≤ keys.toFinset.card := Finset.card_le_card image
    _ ≤ keys.length := List.toFinset_card_le keys
    _ = countWhere q map := by
        rw [List.length_map]
        exact List.countP_eq_length_filter.symm

end PhantomTracker.Foundation
