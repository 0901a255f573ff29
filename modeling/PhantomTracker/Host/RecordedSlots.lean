import PhantomTracker.Host.State

/-!
Contract: which slots of a sample array have been recorded since it was created.

Owns: the slots that an update records, and arrays whose other slots still hold
the zeros they were created with.

Does not own: when arrays are created and who updates them.
-/

namespace PhantomTracker.Host.SampleMap

/-- An update of slot `key` records it, unless the array refuses it. -/
def recordElem (map : SampleMap) (recorded : Nat → Bool) (key : Nat) : Nat → Bool :=
  if key < map.maxEntries then Function.update recorded key true else recorded

/-- Slots that are not recorded hold zeros. -/
def Blank (map : SampleMap) (recorded : Nat → Bool) : Prop :=
  ∀ k, recorded k = false → map.slot k = ⟨0, 0⟩

variable {map : SampleMap} {recorded : Nat → Bool} {key k : Nat}

theorem recordElem_of_ne (different : k ≠ key) : map.recordElem recorded key k = recorded k := by
  unfold recordElem
  split
  · exact Function.update_of_ne different _ _
  · rfl

theorem recordElem_self (below : key < map.maxEntries) :
    map.recordElem recorded key key = true := by
  unfold recordElem
  rw [if_pos below]
  exact Function.update_self _ _ _

theorem recordElem_of_recorded (already : recorded k = true) :
    map.recordElem recorded key k = true := by
  by_cases same : k = key
  · unfold recordElem
    split
    · rw [same]
      exact Function.update_self _ _ _
    · exact already
  · rw [recordElem_of_ne same]
    exact already

theorem recordElem_of_refused (refused : map.maxEntries ≤ key) :
    map.recordElem recorded key = recorded :=
  if_neg (Nat.not_lt.mpr refused)

theorem blank_fresh (maxEntries : Nat) (recorded : Nat → Bool) :
    (fresh maxEntries).Blank recorded :=
  fun _ _ => rfl

theorem Blank.update (blank : map.Blank recorded) (key : Nat) (sample : PhantomCount) :
    (map.updateElem key sample).Blank (map.recordElem recorded key) := by
  intro k unrecorded
  by_cases same : k = key
  · subst same
    by_cases below : k < map.maxEntries
    · rw [recordElem_self below] at unrecorded
      cases unrecorded
    · rw [recordElem_of_refused (Nat.not_lt.mp below)] at unrecorded
      have refused : map.updateElem k sample = map := if_neg below
      rw [refused]
      exact blank k unrecorded
  · rw [recordElem_of_ne same] at unrecorded
    rw [map.updateElem_slot_of_ne same]
    exact blank k unrecorded

end PhantomTracker.Host.SampleMap
