import Mathlib.Data.Nat.Basic
import Mathlib.Logic.Function.Basic

/-!
Contract: a journal of a changing value, kept in two buffers of fixed capacity
that a swapper exchanges while writers append to them.

Owns: the journal and its atomic steps, in which a writer settles the value,
chooses the active buffer, reserves a slot and fills it, and the swapper opens
the other buffer, swaps, and drains the one that was active; and which slots a
drained buffer has had filled since its index was reset.

Does not own: when the newest entry is the current value, what the value is, how a
writer settles it, or what draining computes.
-/

namespace PhantomTracker.Foundation

universe u v w

/-- A type with exactly two elements and the exchange of the two. -/
class TwoSided (β : Type u) where
  other : β → β
  other_ne : ∀ side : β, other side ≠ side
  eq_other_of_ne : ∀ {left right : β}, left ≠ right → left = other right

open TwoSided

/-- Where a writer stands. -/
inductive Appender (β : Type u) (V : Type v) where
  | away
  | settled (value : V)
  | chosen (value : V) (side : β)
  | reserved (value : V) (side : β) (idx : Nat)

/-- Where the swapper stands. `old` is the side that was active when it
started. -/
inductive Swapper (β : Type u) (V : Type v) where
  | away
  | loaded (value : V)
  | opening (value : V) (old : β)
  | opened (old : β)
  | reset (old : β)
  | swapped (old : β)
  | closing (old : β) (idx : Nat)
  | draining (old : β) (last : Nat)

/-- The journal. `fresh` records which slots of a side have been filled since
its index was last reset, where the first slot counts as filled when the side is
opened, and `swaps` counts the swaps. -/
@[ext] structure Journal (ι : Type w) (β : Type u) (V : Type v) where
  value : V
  active : β
  index : β → Nat
  slot : β → Nat → V
  fresh : β → Nat → Bool
  writers : ι → Appender β V
  swapper : Swapper β V
  swaps : Nat

variable {ι : Type w} {β : Type u} {V : Type v}

namespace Appender

/-- The value is settled and no slot is reserved for it yet. -/
def Appending (writer : Appender β V) (value : V) : Prop :=
  writer = .settled value ∨ ∃ side, writer = .chosen value side

/-- The writer has chosen the side and not yet filled a slot of it. -/
def Holds (writer : Appender β V) (side : β) : Prop :=
  (∃ value, writer = .chosen value side) ∨ ∃ value idx, writer = .reserved value side idx

end Appender

namespace Journal

variable [DecidableEq ι] [DecidableEq β]

/-- Fill a slot. A slot past the capacity does not exist. -/
def put (capacity : Nat) (journal : Journal ι β V) (side : β) (idx : Nat) (value : V) :
    Journal ι β V :=
  if idx < capacity then
    { journal with
      slot := Function.update journal.slot side (Function.update (journal.slot side) idx value)
      fresh := Function.update journal.fresh side (Function.update (journal.fresh side) idx true) }
  else journal

def setWriter (journal : Journal ι β V) (member : ι) (writer : Appender β V) : Journal ι β V :=
  { journal with writers := Function.update journal.writers member writer }

def setIndex (journal : Journal ι β V) (side : β) (idx : Nat) : Journal ι β V :=
  { journal with index := Function.update journal.index side idx }

def setSwapper (journal : Journal ι β V) (swapper : Swapper β V) : Journal ι β V :=
  { journal with swapper := swapper }

def clear (journal : Journal ι β V) (side : β) : Journal ι β V :=
  { journal with fresh := Function.update journal.fresh side fun _ => false }

/-- Forget all slots but the first, which opening the side has just filled. -/
def clearRest (journal : Journal ι β V) (side : β) : Journal ι β V :=
  { journal with
    fresh := Function.update journal.fresh side fun idx => decide (idx = 0) && journal.fresh side idx }

end Journal

/-- The names of the atomic steps. -/
inductive Label (ι : Type w) where
  | settle (member : ι)
  | choose (member : ι)
  | reserve (member : ι)
  | fill (member : ι)
  | load
  | pick
  | openNew
  | reset
  | swap
  | reserveEnd
  | fillEnd
  | finish

namespace Journal

variable [DecidableEq ι] [DecidableEq β] [TwoSided β]

/-- The atomic steps. `next` is the increment of an index. -/
inductive Step (capacity : Nat) (next : Nat → Nat) (journal : Journal ι β V) :
    Label ι → Journal ι β V → Prop where
  | settle (member : ι) (value : V) (current : journal.writers member = .away) :
      Step capacity next journal (.settle member)
        ({ journal with value := value }.setWriter member (.settled value))
  | choose (member : ι) {value : V} (current : journal.writers member = .settled value) :
      Step capacity next journal (.choose member)
        (journal.setWriter member (.chosen value journal.active))
  | reserve (member : ι) {value : V} {side : β}
      (current : journal.writers member = .chosen value side) :
      Step capacity next journal (.reserve member)
        ((journal.setIndex side (next (journal.index side))).setWriter member
          (.reserved value side (journal.index side)))
  | fill (member : ι) {value : V} {side : β} {idx : Nat}
      (current : journal.writers member = .reserved value side idx) :
      Step capacity next journal (.fill member)
        ((journal.put capacity side idx value).setWriter member .away)
  | load (current : journal.swapper = .away) :
      Step capacity next journal .load (journal.setSwapper (.loaded journal.value))
  | pick {value : V} (current : journal.swapper = .loaded value) :
      Step capacity next journal .pick (journal.setSwapper (.opening value journal.active))
  | openNew {value : V} {old : β} (current : journal.swapper = .opening value old) :
      Step capacity next journal .openNew
        (((journal.clear (other old)).put capacity (other old) 0 value).setSwapper (.opened old))
  | reset {old : β} (current : journal.swapper = .opened old) :
      Step capacity next journal .reset
        (((journal.clearRest (other old)).setIndex (other old) 1).setSwapper (.reset old))
  | swap {old : β} (current : journal.swapper = .reset old) :
      Step capacity next journal .swap
        ({ journal with
          active := if journal.active = old then other old else journal.active
          swaps := journal.swaps + 1 }.setSwapper (.swapped old))
  | reserveEnd {old : β} (current : journal.swapper = .swapped old) :
      Step capacity next journal .reserveEnd
        ((journal.setIndex old (next (journal.index old))).setSwapper
          (.closing old (journal.index old)))
  | fillEnd {old : β} {idx : Nat} (value : V) (current : journal.swapper = .closing old idx) :
      Step capacity next journal .fillEnd
        ((journal.put capacity old idx value).setSwapper (.draining old idx))
  | finish {old : β} {last : Nat} (current : journal.swapper = .draining old last) :
      Step capacity next journal .finish (journal.setSwapper .away)

section Fields

omit [DecidableEq ι] [TwoSided β]

variable (capacity : Nat) (journal : Journal ι β V) (side : β) (idx : Nat) (value : V)

@[simp] theorem put_value : (journal.put capacity side idx value).value = journal.value := by
  unfold put
  split <;> rfl

@[simp] theorem put_active : (journal.put capacity side idx value).active = journal.active := by
  unfold put
  split <;> rfl

@[simp] theorem put_index : (journal.put capacity side idx value).index = journal.index := by
  unfold put
  split <;> rfl

@[simp] theorem put_writers : (journal.put capacity side idx value).writers = journal.writers := by
  unfold put
  split <;> rfl

@[simp] theorem put_swapper : (journal.put capacity side idx value).swapper = journal.swapper := by
  unfold put
  split <;> rfl

@[simp] theorem put_swaps : (journal.put capacity side idx value).swaps = journal.swaps := by
  unfold put
  split <;> rfl

theorem put_eq : journal.put capacity side idx value =
    { journal with
      slot := if idx < capacity then
          Function.update journal.slot side (Function.update (journal.slot side) idx value)
        else journal.slot
      fresh := if idx < capacity then
          Function.update journal.fresh side (Function.update (journal.fresh side) idx true)
        else journal.fresh } := by
  unfold put
  split <;> rfl

theorem put_slot_same {capacity idx : Nat} (below : idx < capacity) :
    (journal.put capacity side idx value).slot side idx = value := by
  unfold put
  rw [if_pos below]
  simp

theorem put_slot_of_ne {target : β} {position : Nat}
    (different : target ≠ side ∨ position ≠ idx) :
    (journal.put capacity side idx value).slot target position = journal.slot target position := by
  unfold put
  split
  · by_cases same : target = side
    · subst same
      simp [different.resolve_left fun ne => ne rfl]
    · simp [same]
  · rfl

theorem put_fresh_same {capacity idx : Nat} (below : idx < capacity) :
    (journal.put capacity side idx value).fresh side idx = true := by
  unfold put
  rw [if_pos below]
  simp

theorem put_fresh_of_fresh {target : β} {position : Nat}
    (already : journal.fresh target position = true) :
    (journal.put capacity side idx value).fresh target position = true := by
  unfold put
  split
  · by_cases same : target = side
    · subst same
      by_cases samePosition : position = idx
      · subst samePosition
        simp
      · simp [samePosition, already]
    · simp [same, already]
  · exact already

end Fields

/-! ## Slots filled since an index was reset -/

/-- The slot has been filled since the index of its side was reset, or a writer
has reserved it. -/
def Filled (journal : Journal ι β V) (side : β) (idx : Nat) : Prop :=
  journal.fresh side idx = true ∨ ∃ member value, journal.writers member = .reserved value side idx

/-- The slots below `bound`. -/
def FilledBelow (capacity : Nat) (journal : Journal ι β V) (side : β) (bound : Nat) : Prop :=
  ∀ idx < bound, idx < capacity → journal.Filled side idx

/-- What is known of the swapper's two sides in each phase. -/
def SwapperFilled (capacity : Nat) (journal : Journal ι β V) : Prop :=
  match journal.swapper with
  | .opening _ old => old = journal.active
  | .opened old => old = journal.active ∧ (0 < capacity → journal.fresh (other old) 0 = true)
  | .reset old =>
      old = journal.active ∧
        journal.FilledBelow capacity (other old) (journal.index (other old))
  | .swapped old =>
      old ≠ journal.active ∧
        (2 ≤ journal.swaps → journal.FilledBelow capacity old (journal.index old))
  | .closing old idx => 2 ≤ journal.swaps → journal.FilledBelow capacity old idx
  | .draining old last => 2 ≤ journal.swaps → journal.FilledBelow capacity old (last + 1)
  | _ => True

/-- Every slot below the index of the active side is filled, once a side has
been opened, and so is every slot the swapper drains. -/
structure AllFilled (capacity : Nat) (journal : Journal ι β V) : Prop where
  active : 1 ≤ journal.swaps →
    journal.FilledBelow capacity journal.active (journal.index journal.active)
  swapper : journal.SwapperFilled capacity

section Filled

variable {capacity : Nat} {next : Nat → Nat} {journal after : Journal ι β V} {label : Label ι}
  {side : β} {idx : Nat}

omit [DecidableEq β] [TwoSided β] in
/-- A writer that has not reserved the slot moves. -/
theorem Filled.setWriter (filled : journal.Filled side idx) {member : ι} (writer : Appender β V)
    (elsewhere : ∀ value, journal.writers member ≠ .reserved value side idx) :
    (journal.setWriter member writer).Filled side idx := by
  rcases filled with fresh | ⟨owner, value, reserved⟩
  · exact Or.inl fresh
  · have different : owner ≠ member := by
      rintro rfl
      exact elsewhere value reserved
    exact Or.inr ⟨owner, value, (Function.update_of_ne different _ _).trans reserved⟩

omit [DecidableEq ι] [TwoSided β] in
theorem Filled.put (filled : journal.Filled side idx) (target : β) (position : Nat) (value : V) :
    (journal.put capacity target position value).Filled side idx := by
  rcases filled with fresh | ⟨owner, held, reserved⟩
  · exact Or.inl (journal.put_fresh_of_fresh capacity target position value fresh)
  · exact Or.inr ⟨owner, held, by rw [put_writers]; exact reserved⟩

/-- What a step of a writer leaves: the swapper, and every filled slot. -/
structure WriterMove (capacity : Nat) (before after : Journal ι β V) : Prop where
  swapper : after.swapper = before.swapper
  active : after.active = before.active
  swaps : after.swaps = before.swaps
  fresh : ∀ side idx, before.fresh side idx = true → after.fresh side idx = true
  filled : ∀ side idx, idx < capacity → before.Filled side idx → after.Filled side idx
  filledIndex : ∀ side, before.FilledBelow capacity side (before.index side) →
    after.FilledBelow capacity side (after.index side)

omit [DecidableEq β] [TwoSided β] in
theorem Step.writerMove_settle (member : ι) (value : V)
    (current : journal.writers member = .away) :
    WriterMove capacity journal
      ({ journal with value := value }.setWriter member (.settled value)) := by
  have filled : ∀ side idx, journal.Filled side idx →
      ({ journal with value := value }.setWriter member (.settled value)).Filled side idx := by
    intro side idx filled
    have unchanged : { journal with value := value }.Filled side idx := filled
    refine unchanged.setWriter _ fun held reserved => ?_
    rw [show journal.writers member = _ from reserved] at current
    cases current
  exact ⟨rfl, rfl, rfl, fun _ _ fresh => fresh, fun side idx _ => filled side idx,
    fun side below idx small within => filled side idx (below idx small within)⟩

omit [DecidableEq β] [TwoSided β] in
theorem Step.writerMove_choose (member : ι) {value : V}
    (current : journal.writers member = .settled value) :
    WriterMove capacity journal (journal.setWriter member (.chosen value journal.active)) := by
  have filled : ∀ side idx, journal.Filled side idx →
      (journal.setWriter member (.chosen value journal.active)).Filled side idx := by
    intro side idx filled
    refine filled.setWriter _ fun held reserved => ?_
    rw [reserved] at current
    cases current
  exact ⟨rfl, rfl, rfl, fun _ _ fresh => fresh, fun side idx _ => filled side idx,
    fun side below idx small within => filled side idx (below idx small within)⟩

omit [TwoSided β] in
/-- The one writer step that moves an index leaves its own reservation below
it. -/
theorem Step.writerMove_reserve (increment : ∀ idx, next idx ≤ idx + 1) (member : ι) {value : V}
    {target : β} (current : journal.writers member = .chosen value target) :
    WriterMove capacity journal
      ((journal.setIndex target (next (journal.index target))).setWriter member
        (.reserved value target (journal.index target))) := by
  have filled : ∀ side idx, journal.Filled side idx →
      ((journal.setIndex target (next (journal.index target))).setWriter member
        (.reserved value target (journal.index target))).Filled side idx := by
    intro side idx filled
    have unchanged : (journal.setIndex target (next (journal.index target))).Filled side idx :=
      filled
    refine unchanged.setWriter _ fun held reserved => ?_
    rw [show journal.writers member = _ from reserved] at current
    cases current
  refine ⟨rfl, rfl, rfl, fun _ _ fresh => fresh, fun side idx _ => filled side idx, ?_⟩
  intro side below idx small within
  by_cases same : side = target
  · subst same
    have bound : idx < next (journal.index side) := by
      rw [show ((journal.setIndex side (next (journal.index side))).setWriter member
        (.reserved value side (journal.index side))).index side = _ from
          Function.update_self _ _ _] at small
      exact small
    have step := increment (journal.index side)
    by_cases own : idx = journal.index side
    · subst own
      exact Or.inr ⟨member, value, Function.update_self _ _ _⟩
    · exact filled side idx (below idx (by omega) within)
  · rw [show ((journal.setIndex target (next (journal.index target))).setWriter member
      (.reserved value target (journal.index target))).index side = journal.index side from
        Function.update_of_ne same _ _] at small
    exact filled side idx (below idx small within)

omit [TwoSided β] in
theorem Step.writerMove_fill (member : ι) {value : V} {target : β} {position : Nat}
    (current : journal.writers member = .reserved value target position) :
    WriterMove capacity journal
      ((journal.put capacity target position value).setWriter member .away) := by
  have filled : ∀ side idx, idx < capacity → journal.Filled side idx →
      ((journal.put capacity target position value).setWriter member .away).Filled side idx := by
    intro side idx below filled
    by_cases same : target = side ∧ position = idx
    · obtain ⟨rfl, rfl⟩ := same
      exact Or.inl (journal.put_fresh_same target value below)
    · refine (filled.put target position value).setWriter _ fun held reserved => same ?_
      rw [put_writers, current] at reserved
      cases reserved
      exact ⟨rfl, rfl⟩
  refine ⟨put_swapper .., put_active .., put_swaps .., ?_, filled, ?_⟩
  · intro side idx fresh
    exact journal.put_fresh_of_fresh capacity target position value fresh
  · intro side below idx small within
    rw [show ((journal.put capacity target position value).setWriter member .away).index =
      journal.index from put_index ..] at small
    exact filled side idx within (below idx small within)

omit [DecidableEq ι] [DecidableEq β] in
theorem AllFilled.writerMove (all : AllFilled capacity journal)
    (move : WriterMove capacity journal after) : AllFilled capacity after where
  active started := by
    rw [move.swaps] at started
    rw [move.active]
    exact move.filledIndex _ (all.active started)
  swapper := by
    have known := all.swapper
    unfold SwapperFilled at known ⊢
    rw [move.swapper, move.active, move.swaps]
    cases phase : journal.swapper with
    | away => trivial
    | loaded value => trivial
    | opening value old => rw [phase] at known; exact known
    | opened old =>
        rw [phase] at known
        exact ⟨known.1, fun positive => move.fresh _ _ (known.2 positive)⟩
    | reset old =>
        rw [phase] at known
        exact ⟨known.1, move.filledIndex _ known.2⟩
    | swapped old =>
        rw [phase] at known
        exact ⟨known.1, fun twice => move.filledIndex _ (known.2 twice)⟩
    | closing old idx =>
        rw [phase] at known
        exact fun twice position small within =>
          move.filled _ _ within (known twice position small within)
    | draining old last =>
        rw [phase] at known
        exact fun twice position small within =>
          move.filled _ _ within (known twice position small within)

omit [DecidableEq ι] [DecidableEq β] [TwoSided β] in
/-- A step of the swapper that touches neither slots nor indices of a side
leaves what is filled there. -/
theorem FilledBelow.of_same {bound : Nat} (filled : journal.FilledBelow capacity side bound)
    (fresh : after.fresh side = journal.fresh side) (writers : after.writers = journal.writers) :
    after.FilledBelow capacity side bound := by
  intro idx small within
  rcases filled idx small within with already | ⟨member, value, reserved⟩
  · exact Or.inl ((congrFun fresh idx).trans already)
  · exact Or.inr ⟨member, value, by rw [writers]; exact reserved⟩

omit [DecidableEq ι] in
theorem AllFilled.openNew (all : AllFilled capacity journal) {value : V} {old : β}
    (current : journal.swapper = .opening value old) :
    AllFilled capacity
      (((journal.clear (other old)).put capacity (other old) 0 value).setSwapper
        (.opened old)) := by
  have known := all.swapper
  unfold SwapperFilled at known
  rw [current] at known
  have elsewhere : journal.active ≠ other old := by
    rw [← known]
    exact (other_ne old).symm
  refine ⟨fun started => ?_, ?_⟩
  · have before := all.active (by simpa [setSwapper, clear] using started)
    have cleared : (journal.clear (other old)).FilledBelow capacity journal.active
        (journal.index journal.active) :=
      before.of_same (Function.update_of_ne elsewhere _ _) rfl
    rw [show ((put capacity (journal.clear (other old)) (other old) 0 value).setSwapper
        (.opened old)).active = journal.active from put_active ..,
      show ((put capacity (journal.clear (other old)) (other old) 0 value).setSwapper
        (.opened old)).index = journal.index from put_index ..]
    intro idx small within
    exact (cleared idx small within).put (other old) 0 value
  · refine ⟨by simp [setSwapper, clear, known], fun positive => ?_⟩
    exact (journal.clear (other old)).put_fresh_same (other old) value positive

omit [DecidableEq ι] in
theorem AllFilled.reset (all : AllFilled capacity journal) {old : β}
    (current : journal.swapper = .opened old) :
    AllFilled capacity
      (((journal.clearRest (other old)).setIndex (other old) 1).setSwapper (.reset old)) := by
  have known := all.swapper
  unfold SwapperFilled at known
  rw [current] at known
  have elsewhere : journal.active ≠ other old := by
    rw [← known.1]
    exact (other_ne old).symm
  refine ⟨fun started => ?_, known.1, ?_⟩
  · have before := all.active started
    show FilledBelow capacity _ journal.active
      (Function.update journal.index (other old) 1 journal.active)
    rw [Function.update_of_ne elsewhere]
    exact before.of_same (Function.update_of_ne elsewhere _ _) rfl
  · intro idx small within
    rw [show (((journal.clearRest (other old)).setIndex (other old) 1).setSwapper
      (.reset old)).index (other old) = 1 from Function.update_self _ _ _] at small
    obtain rfl : idx = 0 := by omega
    left
    show Function.update journal.fresh (other old) _ (other old) 0 = true
    rw [Function.update_self, known.2 within]
    rfl

omit [DecidableEq ι] in
theorem AllFilled.swap (all : AllFilled capacity journal) {old : β}
    (current : journal.swapper = .reset old) :
    AllFilled capacity
      ({ journal with
        active := if journal.active = old then other old else journal.active
        swaps := journal.swaps + 1 }.setSwapper (.swapped old)) := by
  have known := all.swapper
  unfold SwapperFilled at known
  rw [current] at known
  obtain ⟨same, opened⟩ := known
  have exchanged : (if journal.active = old then other old else journal.active) = other old :=
    if_pos same.symm
  rw [exchanged]
  refine ⟨fun _ => opened, (other_ne old).symm, fun twice => ?_⟩
  have started : 1 ≤ journal.swaps := by
    have : 2 ≤ journal.swaps + 1 := twice
    omega
  have before := all.active started
  rw [← same] at before
  exact before

omit [DecidableEq ι] in
theorem AllFilled.reserveEnd (all : AllFilled capacity journal) {old : β}
    (current : journal.swapper = .swapped old) :
    AllFilled capacity
      ((journal.setIndex old (next (journal.index old))).setSwapper
        (.closing old (journal.index old))) := by
  have known := all.swapper
  unfold SwapperFilled at known
  rw [current] at known
  refine ⟨fun started => ?_, known.2⟩
  have before := all.active started
  show FilledBelow capacity _ journal.active (Function.update journal.index old _ journal.active)
  rw [Function.update_of_ne known.1.symm]
  exact before

omit [DecidableEq ι] in
theorem AllFilled.fillEnd (all : AllFilled capacity journal) {old : β} {idx : Nat} (value : V)
    (current : journal.swapper = .closing old idx) :
    AllFilled capacity ((journal.put capacity old idx value).setSwapper (.draining old idx)) := by
  have known := all.swapper
  unfold SwapperFilled at known
  rw [current] at known
  refine ⟨fun started => ?_, ?_⟩
  · have before := all.active (by simpa [setSwapper] using started)
    rw [show ((put capacity journal old idx value).setSwapper (.draining old idx)).active =
        journal.active from put_active ..,
      show ((put capacity journal old idx value).setSwapper (.draining old idx)).index =
        journal.index from put_index ..]
    intro position small within
    exact (before position small within).put old idx value
  · show 2 ≤ (journal.put capacity old idx value).swaps → _
    rw [put_swaps]
    intro twice position small within
    by_cases last : position = idx
    · subst last
      exact Or.inl (journal.put_fresh_same old value within)
    · exact (known twice position (by omega) within).put old idx value

/-- **Every step keeps the slots filled.** -/
theorem AllFilled.step (increment : ∀ idx, next idx ≤ idx + 1)
    (all : AllFilled capacity journal) (step : Step capacity next journal label after) :
    AllFilled capacity after := by
  cases step with
  | settle member value current =>
      exact all.writerMove (Step.writerMove_settle member value current)
  | choose member current => exact all.writerMove (Step.writerMove_choose member current)
  | reserve member current =>
      exact all.writerMove (Step.writerMove_reserve increment member current)
  | fill member current => exact all.writerMove (Step.writerMove_fill member current)
  | load current => exact ⟨all.active, trivial⟩
  | pick current => exact ⟨all.active, rfl⟩
  | openNew current => exact all.openNew current
  | reset current => exact all.reset current
  | swap current => exact all.swap current
  | reserveEnd current => exact all.reserveEnd current
  | fillEnd value current => exact all.fillEnd value current
  | finish current => exact ⟨all.active, trivial⟩

end Filled

end Journal

end PhantomTracker.Foundation
