import Mathlib.Data.List.Nodup
import Mathlib.Data.List.Perm.Subperm
import Mathlib.Data.Nat.ModEq
import Mathlib.Logic.Function.Basic

/-!
Contract: a log of fixed size whose entries go to slots that a wrapping cursor selects.

Owns: the slot of a cursor that counts modulo one number and is reduced modulo another, when
consecutive cursors select different slots, the contents of the slots after a list of
entries, and that entries in different slots are the contents of these slots.

Does not own: where a program keeps its slots or its cursor.
-/

namespace PhantomTracker.Foundation

/-! ## The cursor -/

/-- The slot that a cursor selects among the `count` slots from `first` on. The cursor is
kept modulo `modulus`. -/
def cursorSlot (first modulus count cursor : Nat) : Nat := first + cursor % modulus % count

section Cursor

variable {first modulus count start ticks : Nat}

theorem cursorSlot_bounds (positive : 0 < count) (cursor : Nat) :
    first ≤ cursorSlot first modulus count cursor ∧
      cursorSlot first modulus count cursor < first + count :=
  ⟨Nat.le_add_right _ _, Nat.add_lt_add_left (Nat.mod_lt _ positive) _⟩

/-- As long as the cursor does not wrap, fewer than `count` steps lead to another slot. -/
theorem cursorSlot_ne {i j : Nat} (before : i < j) (near : j < i + count) (inside : j < modulus) :
    cursorSlot first modulus count i ≠ cursorSlot first modulus count j := by
  intro equal
  unfold cursorSlot at equal
  rw [Nat.mod_eq_of_lt (before.trans inside), Nat.mod_eq_of_lt inside] at equal
  have congruent : i ≡ j [MOD count] := Nat.add_left_cancel equal
  have divides : count ∣ j - i := (Nat.modEq_iff_dvd' before.le).mp congruent
  have reached := Nat.le_of_dvd (Nat.sub_pos_of_lt before) divides
  omega

/-- A cursor that wraps at no multiple of `count` selects the slots of its last
`modulus % count` values again right after the wrap. -/
theorem cursorSlot_repeats (first : Nat) (begun : start < modulus) (positive : 0 < count)
    (uneven : ¬ count ∣ modulus) (enough : count ≤ ticks) (wraps : modulus < start + ticks) :
    ∃ i j, i < j ∧ j < i + count ∧ j < ticks ∧
      cursorSlot first modulus count (start + i) = cursorSlot first modulus count (start + j) := by
  have whole := Nat.div_add_mod modulus count
  have short := Nat.mod_lt modulus positive
  have remains : modulus % count ≠ 0 := fun none => uneven (Nat.dvd_of_mod_eq_zero none)
  generalize modulus % count = extra at *
  generalize modulus / count = rounds at *
  -- the first cursor at or after the last multiple of `count` below the wrap
  obtain ⟨offset, reached⟩ : ∃ offset, start + (count * rounds - start) = count * rounds + offset :=
    Nat.exists_eq_add_of_le (by omega)
  have wrapped : start + (count * rounds - start + extra) = offset + modulus := by omega
  refine ⟨count * rounds - start, count * rounds - start + extra, by omega, by omega, by omega, ?_⟩
  unfold cursorSlot
  rw [wrapped, Nat.add_mod_right, Nat.mod_eq_of_lt (by omega : offset < modulus), reached,
    Nat.mod_eq_of_lt (by omega : count * rounds + offset < modulus), Nat.mul_add_mod]

/-- Any `count` consecutive ones of the first `ticks` cursors select different slots exactly
when there are fewer of them, or none of them has wrapped. -/
theorem windows_nodup_iff (begun : start < modulus) (positive : 0 < count)
    (uneven : ¬ count ∣ modulus) :
    (∀ skipped, skipped + count ≤ ticks → ((List.range' skipped count).map
      fun tick => cursorSlot first modulus count (start + tick)).Nodup) ↔
      ticks < count ∨ start + ticks ≤ modulus := by
  constructor
  · intro different
    by_contra fails
    rw [not_or, Nat.not_lt, Nat.not_le] at fails
    rcases cursorSlot_repeats first begun positive uneven fails.1 fails.2 with
      ⟨i, j, before, near, inside, equal⟩
    have window := different (min i (ticks - count)) (by omega)
    have same := List.inj_on_of_nodup_map window (List.mem_range'_1.mpr (by omega))
      (List.mem_range'_1.mpr (by omega)) equal
    omega
  · intro holds skipped within
    have inside : start + ticks ≤ modulus := by omega
    apply List.Nodup.map_on _ List.nodup_range'
    intro i fromHere j fromThere equal
    rw [List.mem_range'_1] at fromHere fromThere
    rcases Nat.lt_trichotomy i j with before | same | after
    · exact absurd equal (cursorSlot_ne (by omega) (by omega) (by omega))
    · exact same
    · exact absurd equal.symm (cursorSlot_ne (by omega) (by omega) (by omega))

end Cursor

/-! ## The log -/

section Log

universe u v w

variable {ε : Type u} {κ : Type v} {α : Type w} [DecidableEq κ]

/-- What the slots hold after the entries, the newest of which comes first. -/
def logContents (slot : ε → κ) (value : ε → α) (initial : κ → α) : List ε → κ → α
  | [] => initial
  | entry :: earlier =>
      Function.update (logContents slot value initial earlier) (slot entry) (value entry)

variable {slot : ε → κ} {value : ε → α} {initial : κ → α} {recent : List ε}

/-- Entries in different slots are still there. -/
theorem logContents_recent (different : (recent.map slot).Nodup) (earlier : List ε) {entry : ε}
    (member : entry ∈ recent) :
    logContents slot value initial (recent ++ earlier) (slot entry) = value entry := by
  induction recent with
  | nil => cases member
  | cons newest rest inductionHypothesis =>
      rw [List.map_cons, List.nodup_cons] at different
      rw [List.cons_append, logContents]
      rcases List.mem_cons.mp member with rfl | older
      · exact Function.update_self _ _ _
      · have apart : slot entry ≠ slot newest := by
          intro same
          exact different.1 (same ▸ List.mem_map_of_mem older)
        rw [Function.update_of_ne apart]
        exact inductionHypothesis different.2 older

/-- Entries in different slots that are as many as the slots are what these hold. -/
theorem map_logContents_perm (different : (recent.map slot).Nodup) (earlier : List ε)
    {slots : List κ} (inside : ∀ entry ∈ recent, slot entry ∈ slots)
    (enough : slots.length ≤ recent.length) :
    (slots.map (logContents slot value initial (recent ++ earlier))).Perm (recent.map value) := by
  have covered : (recent.map slot).Subperm slots := by
    apply different.subperm
    intro target member
    rcases List.mem_map.mp member with ⟨entry, logged, rfl⟩
    exact inside entry logged
  have all : (recent.map slot).Perm slots :=
    covered.perm_of_length_le (by rw [List.length_map]; exact enough)
  have values : (recent.map slot).map (logContents slot value initial (recent ++ earlier)) =
      recent.map value := by
    rw [List.map_map]
    exact List.map_congr_left fun entry member => logContents_recent different earlier member
  exact values ▸ (all.map _).symm

end Log

end PhantomTracker.Foundation
