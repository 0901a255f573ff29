import Mathlib.Data.List.Nodup

/-!
Contract: walking through a hash map with a cursor that is a key, while entries
are stored and deleted.

Owns: the order in which such a walk goes through the keys, bucket by bucket with
the newest entry of a bucket first; the key after a cursor, which is the first
key of all when the cursor has gone; which keys a walk still has ahead of it and
which ones it has passed; and that neither is lost when other keys are stored or
deleted.

Does not own: the values under the keys, or what a walk does with a key.
-/

namespace PhantomTracker.Foundation

universe u

variable {κ : Type u}

/-- The keys of a hash map in the order of a walk: no key twice, and the buckets
one after the other. -/
structure WalkOrder (κ : Type u) (bucket : κ → Nat) where
  keys : List κ
  nodup : keys.Nodup
  sorted : keys.Pairwise fun first second => bucket first ≤ bucket second

namespace WalkOrder

variable {bucket : κ → Nat}

/-- A threshold splits the order into a front and a back. -/
theorem split_at {keys : List κ}
    (sorted : keys.Pairwise fun first second => bucket first ≤ bucket second) (threshold : Nat) :
    (keys.filter fun key => bucket key < threshold) ++
      (keys.filter fun key => threshold ≤ bucket key) = keys := by
  induction keys with
  | nil => rfl
  | cons key rest inductionHypothesis =>
      obtain ⟨head, tail⟩ := List.pairwise_cons.mp sorted
      by_cases below : bucket key < threshold
      · rw [List.filter_cons_of_pos (by simpa using below),
          List.filter_cons_of_neg (by simpa using below), List.cons_append,
          inductionHypothesis tail]
      · -- Nothing behind the key is below the threshold either.
        have none : (key :: rest).filter (fun key => bucket key < threshold) = [] := by
          apply List.filter_eq_nil_iff.mpr
          intro other member
          rcases List.mem_cons.mp member with rfl | behind
          · simpa using below
          · have above := head other behind
            simp only [decide_eq_true_eq]
            omega
        have all : (key :: rest).filter (fun key => threshold ≤ bucket key) = key :: rest := by
          apply List.filter_eq_self.mpr
          intro other member
          rcases List.mem_cons.mp member with rfl | behind
          · simpa using below
          · have above := head other behind
            simp only [decide_eq_true_eq]
            omega
        rw [none, all, List.nil_append]

/-- Nothing in front of the first of two keys matters for their sequence. -/
theorem pair_sublist_of_append {first second : κ} {front back : List κ} (absent : first ∉ front)
    (sequence : [first, second].Sublist (front ++ back)) : [first, second].Sublist back := by
  obtain ⟨left, right, halves, inFront, inBack⟩ := List.sublist_append_iff.mp sequence
  cases left with
  | nil =>
      rw [List.nil_append] at halves
      exact halves ▸ inBack
  | cons head rest =>
      rw [List.cons_append] at halves
      obtain ⟨rfl, _⟩ := List.cons.inj halves
      exact absurd (inFront.subset List.mem_cons_self) absent

/-- A key of the order, with what is in front of it and behind it. -/
theorem exists_split (order : WalkOrder κ bucket) {key : κ} (present : key ∈ order.keys) :
    ∃ front back, order.keys = front ++ key :: back ∧ key ∉ front ∧
      ∀ other ∈ back, other ∉ front ∧ other ≠ key := by
  have nodup := order.nodup
  obtain ⟨front, back, split⟩ := List.append_of_mem present
  rw [split] at nodup
  obtain ⟨_, behind, apart⟩ := List.nodup_append.mp nodup
  refine ⟨front, back, split, fun member => apart key member key List.mem_cons_self rfl,
    fun other member => ⟨fun inFront => ?_, fun same => ?_⟩⟩
  · exact apart other inFront other (List.mem_cons_of_mem _ member) rfl
  · exact (List.nodup_cons.mp behind).1 (same ▸ member)

variable [DecidableEq κ]

/-- The order after a key has been deleted. -/
def erase (order : WalkOrder κ bucket) (key : κ) : WalkOrder κ bucket where
  keys := order.keys.filter fun other => other ≠ key
  nodup := order.nodup.filter _
  sorted := order.sorted.filter _

theorem mem_erase {order : WalkOrder κ bucket} {key other : κ} :
    other ∈ (order.erase key).keys ↔ other ∈ order.keys ∧ other ≠ key := by
  simp [erase]

/-- The order after a key has been stored: it comes first in its bucket, also if
it has been there before. -/
def insert (order : WalkOrder κ bucket) (key : κ) : WalkOrder κ bucket where
  keys := ((order.erase key).keys.filter fun other => bucket other < bucket key) ++
    key :: (order.erase key).keys.filter fun other => bucket key ≤ bucket other
  nodup := by
    rw [List.nodup_middle, split_at (order.erase key).sorted, List.nodup_cons]
    exact ⟨fun member => (mem_erase.mp member).2 rfl, (order.erase key).nodup⟩
  sorted := by
    rw [List.pairwise_append, List.pairwise_cons]
    refine ⟨(order.erase key).sorted.filter _, ⟨fun other member => ?_,
      (order.erase key).sorted.filter _⟩, fun first front second back => ?_⟩
    · exact of_decide_eq_true (List.mem_filter.mp member).2
    · have low := of_decide_eq_true (List.mem_filter.mp front).2
      rcases List.mem_cons.mp back with rfl | behind
      · exact Nat.le_of_lt low
      · have high := of_decide_eq_true (List.mem_filter.mp behind).2
        omega

theorem erase_sublist_insert (order : WalkOrder κ bucket) (key : κ) :
    (order.erase key).keys.Sublist (order.insert key).keys := by
  rw [← split_at (order.erase key).sorted (bucket key)]
  exact (List.sublist_cons_self key _).append_left _

theorem mem_insert {order : WalkOrder κ bucket} {key other : κ} :
    other ∈ (order.insert key).keys ↔ other = key ∨ other ∈ order.keys := by
  have members : other ∈ (order.insert key).keys ↔
      other = key ∨ other ∈ (order.erase key).keys := by
    rw [← split_at (order.erase key).sorted (bucket key)]
    simp only [insert, List.mem_append, List.mem_cons]
    tauto
  rw [members, mem_erase]
  tauto

/-! ## The key after a cursor -/

/-- The keys behind a cursor that is in the list. -/
def after (cursor : κ) (keys : List κ) : List κ := (keys.dropWhile fun key => key ≠ cursor).tail

theorem after_append {cursor : κ} {front back : List κ} (absent : cursor ∉ front) :
    after cursor (front ++ cursor :: back) = back := by
  unfold after
  rw [List.dropWhile_append_of_pos, List.dropWhile_cons_of_neg, List.tail_cons]
  · simp
  · intro key member
    have different : key ≠ cursor := fun same => absent (same ▸ member)
    simpa using different

/-- A key is behind the cursor if the order has the two in this sequence. -/
theorem mem_after_iff {order : WalkOrder κ bucket} {cursor key : κ}
    (present : cursor ∈ order.keys) :
    key ∈ after cursor order.keys ↔ [cursor, key].Sublist order.keys := by
  obtain ⟨front, back, split, absent, _⟩ := order.exists_split present
  rw [split, after_append absent]
  constructor
  · intro behind
    exact List.sublist_append_of_sublist_right
      (List.Sublist.cons_cons _ (List.singleton_sublist.mpr behind))
  · intro sequence
    exact List.singleton_sublist.mp
      (List.cons_sublist_cons.mp (pair_sublist_of_append absent sequence))

theorem pair_sublist_trans {order : WalkOrder κ bucket} {first second third : κ}
    (left : [first, second].Sublist order.keys) (right : [second, third].Sublist order.keys) :
    [first, third].Sublist order.keys := by
  have present : first ∈ order.keys := left.subset List.mem_cons_self
  obtain ⟨front, back, split, absent, apart⟩ := order.exists_split present
  have behind := (mem_after_iff present).mpr left
  rw [split, after_append absent] at behind
  obtain ⟨notInFront, different⟩ := apart second behind
  rw [← mem_after_iff present, split, after_append absent]
  rw [split, List.append_cons] at right
  have further := pair_sublist_of_append (by simp [notInFront, different]) right
  exact further.subset (List.mem_cons_of_mem _ List.mem_cons_self)

/-- The keys that a walk goes through from a cursor on. -/
def ahead (order : WalkOrder κ bucket) : Option κ → List κ
  | none => order.keys
  | some cursor => if cursor ∈ order.keys then after cursor order.keys else order.keys

theorem ahead_of_mem {order : WalkOrder κ bucket} {cursor : κ} (stands : cursor ∈ order.keys) :
    order.ahead (some cursor) = after cursor order.keys :=
  if_pos stands

theorem ahead_of_not_mem {order : WalkOrder κ bucket} {cursor : κ} (gone : cursor ∉ order.keys) :
    order.ahead (some cursor) = order.keys :=
  if_neg gone

theorem ahead_suffix (order : WalkOrder κ bucket) (cursor : Option κ) :
    order.ahead cursor <:+ order.keys := by
  cases cursor with
  | none => exact List.suffix_refl _
  | some cursor =>
      by_cases stands : cursor ∈ order.keys
      · rw [ahead_of_mem stands]
        exact (List.tail_suffix _).trans (List.dropWhile_suffix _)
      · simp [ahead_of_not_mem stands]

/-- The key after the cursor, if there is one. -/
def getNextKey (order : WalkOrder κ bucket) (cursor : Option κ) : Option κ :=
  (order.ahead cursor).head?

theorem mem_of_getNextKey {order : WalkOrder κ bucket} {cursor : Option κ} {key : κ}
    (next : order.getNextKey cursor = some key) : key ∈ order.keys :=
  (order.ahead_suffix cursor).subset (List.mem_of_head? next)

/-- Behind the next key is what was ahead of the cursor but for that key. -/
theorem ahead_eq_cons {order : WalkOrder κ bucket} {cursor : Option κ} {key : κ}
    (next : order.getNextKey cursor = some key) :
    order.ahead cursor = key :: order.ahead (some key) := by
  obtain ⟨front, split⟩ := order.ahead_suffix cursor
  obtain ⟨rest, shape⟩ := List.head?_eq_some_iff.mp next
  have nodup := order.nodup
  rw [shape] at split
  rw [← split] at nodup
  have absent : key ∉ front := fun member =>
    (List.nodup_append.mp nodup).2.2 key member key List.mem_cons_self rfl
  rw [shape, ahead_of_mem (mem_of_getNextKey next), ← split, after_append absent]

end WalkOrder

/-! ## Walks -/

/-- Where a walk stands: it asks for the key after the cursor, it looks at a key,
or it has been told that there is no further key. -/
inductive WalkPc (κ : Type u) where
  | fetch (cursor : Option κ)
  | visit (key : κ)
  | finished
deriving DecidableEq, Repr

namespace WalkOrder

variable {bucket : κ → Nat} [DecidableEq κ] {order : WalkOrder κ bucket}

/-- Where a walk stands after it has asked for the next key. -/
def advance (order : WalkOrder κ bucket) (cursor : Option κ) : WalkPc κ :=
  match order.getNextKey cursor with
  | some key => .visit key
  | none => .finished

/-- A key is ahead of a cursor: not in an earlier bucket, and behind the cursor
while that is there. If the cursor goes and comes back, it comes first in its
bucket, so the key is still ahead of it. -/
def Ahead (order : WalkOrder κ bucket) (cursor key : κ) : Prop :=
  bucket cursor ≤ bucket key ∧ (cursor ∈ order.keys → [cursor, key].Sublist order.keys)

/-- A walk still has to come to the key. -/
def Pending (order : WalkOrder κ bucket) : WalkPc κ → κ → Prop
  | .fetch none, _ => True
  | .fetch (some cursor), key => order.Ahead cursor key
  | .visit current, key => key = current ∨ order.Ahead current key
  | .finished, _ => False

theorem Ahead.erase {cursor key removed : κ} (pending : order.Ahead cursor key)
    (kept : key ≠ removed) : (order.erase removed).Ahead cursor key := by
  refine ⟨pending.1, fun present => ?_⟩
  obtain ⟨before, different⟩ := mem_erase.mp present
  have sequence := (pending.2 before).filter fun other => other ≠ removed
  rw [List.filter_eq_self.mpr (by simp [different, kept])] at sequence
  exact sequence

theorem Ahead.insert {cursor key stored : κ} (pending : order.Ahead cursor key)
    (present : key ∈ order.keys) (kept : key ≠ stored) :
    (order.insert stored).Ahead cursor key := by
  refine ⟨pending.1, fun member => ?_⟩
  by_cases same : cursor = stored
  · subst same
    -- The cursor comes first in its bucket, and the key is in that bucket or a later one.
    have behind : key ∈ (order.erase cursor).keys.filter
        fun other => bucket cursor ≤ bucket other :=
      List.mem_filter.mpr ⟨mem_erase.mpr ⟨present, kept⟩, decide_eq_true pending.1⟩
    exact List.sublist_append_of_sublist_right
      (List.Sublist.cons_cons _ (List.singleton_sublist.mpr behind))
  · have before : cursor ∈ order.keys := (mem_insert.mp member).resolve_left same
    have kept := (pending.erase kept).2 (mem_erase.mpr ⟨before, same⟩)
    exact kept.trans (order.erase_sublist_insert stored)

/-- Deleting another key loses nothing. -/
theorem Pending.erase {pc : WalkPc κ} {key removed : κ} (pending : order.Pending pc key)
    (kept : key ≠ removed) : (order.erase removed).Pending pc key := by
  cases pc with
  | fetch cursor =>
      cases cursor with
      | none => trivial
      | some cursor => exact Ahead.erase pending kept
  | visit current => exact pending.imp_right fun behind => behind.erase kept
  | finished => exact pending

/-- Storing another key loses nothing. -/
theorem Pending.insert {pc : WalkPc κ} {key stored : κ} (pending : order.Pending pc key)
    (present : key ∈ order.keys) (kept : key ≠ stored) :
    (order.insert stored).Pending pc key := by
  cases pc with
  | fetch cursor =>
      cases cursor with
      | none => trivial
      | some cursor => exact Ahead.insert pending present kept
  | visit current => exact pending.imp_right fun behind => behind.insert present kept
  | finished => exact pending

theorem mem_ahead_of_pending {cursor : Option κ} {key : κ}
    (pending : order.Pending (.fetch cursor) key) (present : key ∈ order.keys) :
    key ∈ order.ahead cursor := by
  cases cursor with
  | none => exact present
  | some cursor =>
      by_cases stands : cursor ∈ order.keys
      · rw [ahead_of_mem stands]
        exact (mem_after_iff stands).mpr (pending.2 stands)
      · rw [ahead_of_not_mem stands]
        exact present

theorem pending_of_mem_ahead {current key : κ} (stands : current ∈ order.keys)
    (behind : key ∈ order.ahead (some current)) : order.Ahead current key := by
  rw [ahead_of_mem stands] at behind
  have sequence := (mem_after_iff stands).mp behind
  have sorted := order.sorted.sublist sequence
  exact ⟨(List.pairwise_cons.mp sorted).1 key List.mem_cons_self, fun _ => sequence⟩

/-- Asking for the next key loses nothing. -/
theorem Pending.advance {cursor : Option κ} {key : κ}
    (pending : order.Pending (.fetch cursor) key) (present : key ∈ order.keys) :
    order.Pending (order.advance cursor) key := by
  have member := mem_ahead_of_pending pending present
  unfold WalkOrder.advance
  cases next : order.getNextKey cursor with
  | none =>
      have empty : order.ahead cursor = [] := List.head?_eq_none_iff.mp next
      rw [empty] at member
      exact absurd member List.not_mem_nil
  | some current =>
      rw [ahead_eq_cons next] at member
      rcases List.mem_cons.mp member with here | behind
      · exact Or.inl here
      · exact Or.inr (pending_of_mem_ahead (mem_of_getNextKey next) behind)

/-! ## Keys that a walk has passed -/

/-- A key is behind a walk whose cursor stays in the map. -/
def Passed (order : WalkOrder κ bucket) : WalkPc κ → κ → Prop
  | .fetch none, _ => False
  | .fetch (some cursor), key =>
      cursor ∈ order.keys ∧ (key = cursor ∨ [key, cursor].Sublist order.keys)
  | .visit current, key => [key, current].Sublist order.keys
  | .finished, _ => True

/-- A new key changes nothing about the sequence of the others. -/
theorem sublist_insert_of_new {stored first second : κ} (new : stored ∉ order.keys)
    (sequence : [first, second].Sublist order.keys) :
    [first, second].Sublist (order.insert stored).keys := by
  have unchanged : (order.erase stored).keys = order.keys := by
    apply List.filter_eq_self.mpr
    intro other member
    have different : other ≠ stored := fun same => new (same ▸ member)
    simpa using different
  rw [← unchanged] at sequence
  exact sequence.trans (order.erase_sublist_insert stored)

theorem Passed.insert {pc : WalkPc κ} {key stored : κ} (passed : order.Passed pc key)
    (new : stored ∉ order.keys) : (order.insert stored).Passed pc key := by
  cases pc with
  | fetch cursor =>
      cases cursor with
      | none => exact passed
      | some cursor =>
          exact ⟨mem_insert.mpr (Or.inr passed.1),
            passed.2.imp_right fun sequence => sublist_insert_of_new new sequence⟩
  | visit current => exact sublist_insert_of_new new passed
  | finished => trivial

theorem Passed.advance {cursor : Option κ} {key : κ} (passed : order.Passed (.fetch cursor) key) :
    order.Passed (order.advance cursor) key := by
  cases cursor with
  | none => exact passed.elim
  | some cursor =>
      obtain ⟨stands, place⟩ := passed
      unfold WalkOrder.advance
      cases next : order.getNextKey (some cursor) with
      | none => trivial
      | some current =>
          have behind : current ∈ order.ahead (some cursor) := List.mem_of_head? next
          rw [ahead_of_mem stands] at behind
          have sequence := (mem_after_iff stands).mp behind
          rcases place with rfl | earlier
          · exact sequence
          · exact pair_sublist_trans earlier sequence

omit [DecidableEq κ] in
/-- A walk does not come to a key that it has passed. -/
theorem Passed.ne {current key : κ} (passed : order.Passed (.visit current) key) :
    key ≠ current := by
  rintro rfl
  have twice := order.nodup.sublist passed
  simp at twice

end WalkOrder

end PhantomTracker.Foundation
