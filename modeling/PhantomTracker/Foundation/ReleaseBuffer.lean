import PhantomTracker.Foundation.Runs
import Mathlib.Data.Finset.Basic

/-!
Contract: stores that reach memory out of order.

Owns: one writer's program of plain and release stores, the states in which some of
the issued stores have not reached memory, the rule by which they get there (two
stores to one place stay in order, and a release store comes after all earlier ones),
what a reader can conclude from a release store that it sees, and that the memory is
the one of the stores taken in order once all have arrived.

Does not own: several writers, or loads that are reordered.
-/

namespace PhantomTracker.Foundation

universe u v

structure Store (κ : Type u) (α : Type v) where
  place : κ
  value : α
  release : Bool

/-- Of the stores of a program, `issued` have been issued, and those in `pending` have
not reached memory. `shown` is the store whose value a place holds. -/
structure Buffered (κ : Type u) (α : Type v) where
  issued : Nat
  pending : Finset Nat
  memory : κ → α
  shown : κ → Option Nat

inductive BufferAction where
  | issue
  | drain (store : Nat)

namespace Buffered

variable {κ : Type u} {α : Type v}

def start (memory : κ → α) : Buffered κ α := ⟨0, ∅, memory, fun _ => none⟩

variable [DecidableEq κ]

/-- A store can reach memory when no earlier store to its place is on its way and, for a
release store, no earlier store at all. -/
def step (program : Nat → Store κ α) (state : Buffered κ α) : BufferAction → Option (Buffered κ α)
  | .issue => some { state with
      issued := state.issued + 1
      pending := insert state.issued state.pending }
  | .drain store =>
      if store ∈ state.pending ∧
          (∀ other ∈ state.pending, other < store →
            (program other).place ≠ (program store).place) ∧
          ((program store).release = true → ∀ other ∈ state.pending, store ≤ other) then
        some { state with
          pending := state.pending.erase store
          memory := Function.update state.memory (program store).place (program store).value
          shown := Function.update state.shown (program store).place (some store) }
      else none

/-- What a place shows is a store to it that has arrived, and comes before the stores to
that place that have not. A release store that shows comes before all that have not. -/
structure Shows (program : Nat → Store κ α) (state : Buffered κ α) (place : κ) (store : Nat) :
    Prop where
  issued : store < state.issued
  placed : (program store).place = place
  stored : state.memory place = (program store).value
  coherent : ∀ other ∈ state.pending, (program other).place = place → store < other
  released : (program store).release = true → ∀ other ∈ state.pending, store < other

/-- The invariant. -/
structure Ordered (program : Nat → Store κ α) (memory : κ → α) (state : Buffered κ α) :
    Prop where
  pending : ∀ store ∈ state.pending, store < state.issued
  shows : ∀ place store, state.shown place = some store → Shows program state place store
  arrived : ∀ store < state.issued, store ∉ state.pending →
    ∃ later, state.shown (program store).place = some later ∧ store ≤ later
  untouched : ∀ place, state.shown place = none → state.memory place = memory place

variable {program : Nat → Store κ α} {memory : κ → α} {state next : Buffered κ α}

omit [DecidableEq κ] in
theorem ordered_start (program : Nat → Store κ α) (memory : κ → α) :
    Ordered program memory (start memory) where
  pending _ member := absurd member (Finset.notMem_empty _)
  shows _ _ shown := by cases shown
  arrived _ below := absurd below (Nat.not_lt_zero _)
  untouched _ _ := rfl

omit [DecidableEq κ] in
theorem Ordered.issue (ordered : Ordered program memory state) :
    Ordered program memory { state with
      issued := state.issued + 1
      pending := insert state.issued state.pending } where
  pending store member := by
    rcases Finset.mem_insert.mp member with rfl | before
    · exact Nat.lt_succ_self _
    · exact Nat.lt_succ_of_lt (ordered.pending store before)
  shows place store shown := by
    have shows := ordered.shows place store shown
    refine ⟨Nat.lt_succ_of_lt shows.issued, shows.placed, shows.stored, ?_, ?_⟩
    · intro other member same
      rcases Finset.mem_insert.mp member with rfl | before
      · exact shows.issued
      · exact shows.coherent other before same
    · intro release other member
      rcases Finset.mem_insert.mp member with rfl | before
      · exact shows.issued
      · exact shows.released release other before
  arrived store below absent := by
    have different : store ≠ state.issued := fun same =>
      absent (Finset.mem_insert.mpr (Or.inl same))
    exact ordered.arrived store (Nat.lt_of_le_of_ne (Nat.le_of_lt_succ below) different)
      fun member => absent (Finset.mem_insert_of_mem member)
  untouched := ordered.untouched

theorem Ordered.drain (ordered : Ordered program memory state) {store : Nat}
    (member : store ∈ state.pending)
    (first : ∀ other ∈ state.pending, other < store →
      (program other).place ≠ (program store).place)
    (release : (program store).release = true → ∀ other ∈ state.pending, store ≤ other) :
    Ordered program memory { state with
      pending := state.pending.erase store
      memory := Function.update state.memory (program store).place (program store).value
      shown := Function.update state.shown (program store).place (some store) } where
  pending other remains := ordered.pending other (Finset.mem_of_mem_erase remains)
  shows place shown here := by
    dsimp only at here
    by_cases same : place = (program store).place
    · subst same
      rw [Function.update_self] at here
      obtain rfl := Option.some.inj here
      refine ⟨ordered.pending store member, rfl, Function.update_self .., ?_, ?_⟩
      · intro other remains placed
        obtain ⟨different, before⟩ := Finset.mem_erase.mp remains
        rcases Nat.lt_or_gt_of_ne different with earlier | later
        · exact absurd placed (first other before earlier)
        · exact later
      · intro released other remains
        obtain ⟨different, before⟩ := Finset.mem_erase.mp remains
        exact Nat.lt_of_le_of_ne (release released other before) different.symm
    · rw [Function.update_of_ne same] at here
      have shows := ordered.shows place shown here
      refine ⟨shows.issued, shows.placed, (Function.update_of_ne same _ _).trans shows.stored,
        ?_, ?_⟩
      · exact fun other remains => shows.coherent other (Finset.mem_of_mem_erase remains)
      · exact fun released other remains =>
          shows.released released other (Finset.mem_of_mem_erase remains)
  arrived other below absent := by
    by_cases own : other = store
    · subst own
      exact ⟨other, Function.update_self .., Nat.le_refl _⟩
    · have before : other ∉ state.pending := fun pending =>
        absent (Finset.mem_erase.mpr ⟨own, pending⟩)
      obtain ⟨later, shown, order⟩ := ordered.arrived other below before
      by_cases same : (program other).place = (program store).place
      · -- What the place showed came before this store, which was still on its way.
        have overtaken := (ordered.shows _ later shown).coherent store member same.symm
        exact ⟨store, by rw [same]; exact Function.update_self .., by omega⟩
      · exact ⟨later, (Function.update_of_ne same _ _).trans shown, order⟩
  untouched place hidden := by
    dsimp only at hidden
    by_cases same : place = (program store).place
    · rw [same, Function.update_self] at hidden
      cases hidden
    · rw [Function.update_of_ne same] at hidden
      exact (Function.update_of_ne same _ _).trans (ordered.untouched place hidden)

theorem Ordered.step {action : BufferAction} (ordered : Ordered program memory state)
    (taken : state.step program action = some next) : Ordered program memory next := by
  cases action with
  | issue =>
      obtain rfl := Option.some.inj taken
      exact ordered.issue
  | drain store =>
      simp only [Buffered.step] at taken
      split at taken
      case isTrue allowed =>
          obtain rfl := Option.some.inj taken
          exact ordered.drain allowed.1 allowed.2.1 allowed.2.2
      case isFalse => cases taken

/-- What a place shows is only ever replaced by a later store. -/
theorem Ordered.shown_step {action : BufferAction} (ordered : Ordered program memory state)
    (taken : state.step program action = some next) {place : κ} {store : Nat}
    (shown : state.shown place = some store) :
    ∃ later, next.shown place = some later ∧ store ≤ later := by
  cases action with
  | issue =>
      obtain rfl := Option.some.inj taken
      exact ⟨store, shown, Nat.le_refl _⟩
  | drain other =>
      simp only [Buffered.step] at taken
      split at taken
      case isTrue allowed =>
          obtain rfl := Option.some.inj taken
          by_cases same : place = (program other).place
          · have order := (ordered.shows place store shown).coherent other allowed.1 same.symm
            exact ⟨other, by rw [same]; exact Function.update_self .., Nat.le_of_lt order⟩
          · exact ⟨store, (Function.update_of_ne same _ _).trans shown, Nat.le_refl _⟩
      case isFalse => cases taken

/-- A run of the writer and its buffer. -/
abbrev Run (program : Nat → Store κ α) : Buffered κ α → List BufferAction → Buffered κ α → Prop :=
  GuardedRun (step program) fun _ _ => True

theorem Ordered.run {actions : List BufferAction} {final : Buffered κ α}
    (ordered : Ordered program memory state) (run : Run program state actions final) :
    Ordered program memory final :=
  run.invariant (Ordered program memory) (fun _ _ _ holds _ taken => holds.step taken) ordered

/-- What a place shows at the end of a run is no older than before. -/
theorem Ordered.shown_run {actions : List BufferAction} {final : Buffered κ α}
    (ordered : Ordered program memory state) (run : Run program state actions final) {place : κ}
    {store : Nat} (shown : state.shown place = some store) :
    ∃ later, final.shown place = some later ∧ store ≤ later := by
  induction run generalizing store with
  | nil state => exact ⟨store, shown, Nat.le_refl _⟩
  | cons _ taken _ inductionHypothesis =>
      obtain ⟨middle, shownNext, order⟩ := ordered.shown_step taken shown
      obtain ⟨later, shownFinal, rest⟩ := inductionHypothesis (ordered.step taken) shownNext
      exact ⟨later, shownFinal, Nat.le_trans order rest⟩

omit [DecidableEq κ] in
/-- **What a release store shows.** Once a place shows a release store, every store
before it has arrived: its place shows it or a later one. -/
theorem Ordered.of_release (ordered : Ordered program memory state) {place : κ} {store : Nat}
    (shown : state.shown place = some store) (release : (program store).release = true)
    {earlier : Nat} (before : earlier < store) :
    ∃ later, state.shown (program earlier).place = some later ∧ earlier ≤ later := by
  have shows := ordered.shows place store shown
  apply ordered.arrived earlier (Nat.lt_trans before shows.issued)
  intro pending
  have after := shows.released release earlier pending
  omega

/-! ## All stores have arrived -/

/-- The memory after the first stores of a program, taken in order. -/
def sequential (program : Nat → Store κ α) (memory : κ → α) : Nat → κ → α
  | 0 => memory
  | count + 1 => Function.update (sequential program memory count) (program count).place
      (program count).value

/-- A place holds what was last stored there. -/
theorem sequential_last {place : κ} {store count : Nat} (below : store < count)
    (placed : (program store).place = place)
    (last : ∀ other, store < other → other < count → (program other).place ≠ place) :
    sequential program memory count place = (program store).value := by
  induction count with
  | zero => exact absurd below (Nat.not_lt_zero store)
  | succ count inductionHypothesis =>
      by_cases newest : store = count
      · subst newest
        rw [sequential, ← placed, Function.update_self]
      · have earlier : store < count := by omega
        rw [sequential, Function.update_of_ne
          (last count earlier (Nat.lt_succ_self count)).symm]
        exact inductionHypothesis earlier fun other after low =>
          last other after (Nat.lt_succ_of_lt low)

theorem sequential_untouched {place : κ} {count : Nat}
    (never : ∀ other < count, (program other).place ≠ place) :
    sequential program memory count place = memory place := by
  induction count with
  | zero => rfl
  | succ count inductionHypothesis =>
      rw [sequential, Function.update_of_ne (never count (Nat.lt_succ_self count)).symm]
      exact inductionHypothesis fun other low => never other (Nat.lt_succ_of_lt low)

/-- With nothing on its way, the memory is the one of the stores taken in order. -/
theorem Ordered.memory_eq_sequential (ordered : Ordered program memory state)
    (settled : state.pending = ∅) :
    state.memory = sequential program memory state.issued := by
  funext place
  have arrived : ∀ store < state.issued, ∃ later,
      state.shown (program store).place = some later ∧ store ≤ later := by
    intro store below
    apply ordered.arrived store below
    rw [settled]
    exact Finset.notMem_empty store
  cases shown : state.shown place with
  | none =>
      rw [ordered.untouched place shown, sequential_untouched]
      rintro store below rfl
      obtain ⟨later, found, -⟩ := arrived store below
      cases shown.symm.trans found
  | some store =>
      have shows := ordered.shows place store shown
      rw [shows.stored, sequential_last shows.issued shows.placed]
      rintro other after below rfl
      obtain ⟨later, found, order⟩ := arrived other below
      obtain rfl := Option.some.inj (shown.symm.trans found)
      omega

end Buffered

end PhantomTracker.Foundation
