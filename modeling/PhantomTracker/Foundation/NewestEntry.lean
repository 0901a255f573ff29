import PhantomTracker.Foundation.DoubleBuffer
import PhantomTracker.Foundation.Runs

/-!
Contract: when the newest entry of a double-buffered journal is its current
value.

Owns: the order that writers and swapper have to keep, the invariant that this
order maintains, and that at rest the last slot of the active side then holds
the current value.

Does not own: the journal and its steps.
-/

namespace PhantomTracker.Foundation.Journal

open TwoSided

universe u v w

variable {ι : Type w} {β : Type u} {V : Type v} [DecidableEq ι] [DecidableEq β] [TwoSided β]

/-- The swapper has loaded the value and not yet swapped. -/
def HandingOver : Swapper β V → Prop
  | .loaded _ => True
  | .opening _ _ => True
  | .opened _ => True
  | .reset _ => True
  | _ => False

/-- The order to keep. A writer settles a value only while no other writer has
one that it has not reserved a slot for, and not between the swapper's load and
its swap. A side is opened only when no writer still holds it. No slot past the
capacity is reserved. -/
def Ordered (capacity : Nat) (journal : Journal ι β V) : Label ι → Prop
  | .settle _ =>
      (∀ member value, ¬ (journal.writers member).Appending value) ∧
        ¬ HandingOver journal.swapper
  | .reserve member =>
      ∀ value side, journal.writers member = .chosen value side → journal.index side < capacity
  | .openNew =>
      ∀ value old, journal.swapper = .opening value old →
        ∀ member, ¬ (journal.writers member).Holds (other old)
  | .reserveEnd => ∀ old, journal.swapper = .swapped old → journal.index old < capacity
  | _ => True

def SwapperCurrent (journal : Journal ι β V) : Swapper β V → Prop
  | .loaded value => value = journal.value
  | .opening value old => value = journal.value ∧ old = journal.active
  | .opened old =>
      old = journal.active ∧ journal.slot (other old) 0 = journal.value ∧
        ∀ member, ¬ (journal.writers member).Holds (other old)
  | .reset old =>
      old = journal.active ∧ journal.slot (other old) 0 = journal.value ∧
        (∀ member, ¬ (journal.writers member).Holds (other old)) ∧ journal.index (other old) = 1
  | .swapped old => old ≠ journal.active
  | .closing old _ => old ≠ journal.active
  | _ => True

/-- The current value is on its way to the active side, or has its last slot
reserved, or stands in it. -/
def NewestAt (journal : Journal ι β V) : Prop :=
  1 ≤ journal.index journal.active ∧
    ((∃ member, journal.writers member = .settled journal.value ∨
        journal.writers member = .chosen journal.value journal.active) ∨
      (∃ member, journal.writers member =
        .reserved journal.value journal.active (journal.index journal.active - 1)) ∨
      ((∀ member value, journal.writers member ≠
          .reserved value journal.active (journal.index journal.active - 1)) ∧
        journal.slot journal.active (journal.index journal.active - 1) = journal.value))

structure Newest (capacity : Nat) (journal : Journal ι β V) : Prop where
  bounded : ∀ side, journal.index side ≤ capacity
  lone : ∀ first second value other, (journal.writers first).Appending value →
    (journal.writers second).Appending other → first = second
  current : ∀ member value, (journal.writers member).Appending value → value = journal.value
  below : ∀ member value side idx, journal.writers member = .reserved value side idx →
    idx < journal.index side
  distinct : ∀ first second value other side idx,
    journal.writers first = .reserved value side idx →
    journal.writers second = .reserved other side idx → first = second
  swapper : journal.SwapperCurrent journal.swapper
  newest : 1 ≤ journal.swaps → journal.NewestAt

section Writers

omit [DecidableEq β] [TwoSided β]

variable {journal : Journal ι β V} {member : ι} {writer : Appender β V}

/-- A property of a writer after one of them has moved. -/
theorem writers_setWriter_cases (holds : Appender β V → Prop) {target : ι}
    (after : holds ((journal.setWriter member writer).writers target)) :
    (target = member ∧ holds writer) ∨ (target ≠ member ∧ holds (journal.writers target)) :=
  update_cases holds after

theorem writers_setWriter_of_ne {target : ι} (different : target ≠ member) :
    (journal.setWriter member writer).writers target = journal.writers target :=
  Function.update_of_ne different _ _

theorem not_appending_reserved {value held : V} {side : β} {idx : Nat} :
    ¬ (Appender.reserved held side idx : Appender β V).Appending value := by
  rintro (settled | ⟨_, chosen⟩)
  · cases settled
  · cases chosen

theorem not_appending_away {value : V} : ¬ (Appender.away : Appender β V).Appending value := by
  rintro (settled | ⟨_, chosen⟩)
  · cases settled
  · cases chosen

/-- The reservations after a writer has moved to a phase without one. -/
theorem reserved_of_setWriter {target : ι} {value : V} {side : β} {idx : Nat}
    (unreserved : ∀ value side idx, writer ≠ .reserved value side idx)
    (reserved : (journal.setWriter member writer).writers target = .reserved value side idx) :
    journal.writers target = .reserved value side idx := by
  rcases writers_setWriter_cases (· = .reserved value side idx) reserved with
    ⟨_, own⟩ | ⟨_, unmoved⟩
  · exact absurd own (unreserved value side idx)
  · exact unmoved

/-- The reservations after a writer has made one. -/
theorem reserved_of_setWriter_reserved {target : ι} {value held : V} {side place : β}
    {slot idx : Nat}
    (reserved : (journal.setWriter member (.reserved value side slot)).writers target =
      .reserved held place idx) :
    (target = member ∧ place = side ∧ idx = slot) ∨
      (target ≠ member ∧ journal.writers target = .reserved held place idx) := by
  rcases writers_setWriter_cases (· = .reserved held place idx) reserved with
    ⟨rfl, own⟩ | ⟨moved, unmoved⟩
  · cases own
    exact Or.inl ⟨rfl, rfl, rfl⟩
  · exact Or.inr ⟨moved, unmoved⟩

theorem not_holds_away (side : β) : ¬ (Appender.away : Appender β V).Holds side := by
  rintro (⟨_, chosen⟩ | ⟨_, _, reserved⟩)
  · cases chosen
  · cases reserved

theorem holds_chosen {value : V} {side place : β}
    (holds : (Appender.chosen value side : Appender β V).Holds place) : side = place := by
  rcases holds with ⟨_, chosen⟩ | ⟨_, _, reserved⟩
  · exact (Appender.chosen.inj chosen).2
  · cases reserved

theorem holds_reserved {value : V} {side place : β} {idx : Nat}
    (holds : (Appender.reserved value side idx : Appender β V).Holds place) : side = place := by
  rcases holds with ⟨_, chosen⟩ | ⟨_, _, reserved⟩
  · cases chosen
  · exact (Appender.reserved.inj reserved).2.1

/-- A side that no writer holds stays so when a writer moves elsewhere. -/
theorem unheld_setWriter {side : β} (unheld : ∀ target, ¬ (journal.writers target).Holds side)
    (elsewhere : ¬ writer.Holds side) (target : ι) :
    ¬ ((journal.setWriter member writer).writers target).Holds side := by
  intro holds
  rcases writers_setWriter_cases (·.Holds side) holds with ⟨_, own⟩ | ⟨_, unmoved⟩
  · exact elsewhere own
  · exact unheld target unmoved

end Writers

section Indices

variable {capacity : Nat} {journal : Journal ι β V} {target : β} {idx : Nat}

omit [DecidableEq ι] [TwoSided β] in
theorem setIndex_bounded (bounded : ∀ side, journal.index side ≤ capacity)
    (room : idx ≤ capacity) (side : β) : (journal.setIndex target idx).index side ≤ capacity := by
  show Function.update journal.index target idx side ≤ capacity
  by_cases own : side = target
  · subst own
    rw [Function.update_self]
    exact room
  · rw [Function.update_of_ne own]
    exact bounded side

omit [DecidableEq ι] [TwoSided β] in
theorem index_le_setIndex (grows : journal.index target ≤ idx) (side : β) :
    journal.index side ≤ (journal.setIndex target idx).index side := by
  show journal.index side ≤ Function.update journal.index target idx side
  by_cases own : side = target
  · subst own
    rw [Function.update_self]
    exact grows
  · rw [Function.update_of_ne own]

end Indices

omit [DecidableEq ι] [DecidableEq β] in
/-- What the swapper relies on survives a step that keeps the value and the active side, and
on a side that no writer holds also the first slot and the index, and lets no writer in. -/
theorem SwapperCurrent.kept {journal after : Journal ι β V} {swapper : Swapper β V}
    (known : journal.SwapperCurrent swapper) (sameValue : after.value = journal.value)
    (sameActive : after.active = journal.active)
    (unheld : ∀ side, side ≠ journal.active → (∀ target, ¬ (journal.writers target).Holds side) →
      (∀ target, ¬ (after.writers target).Holds side) ∧
        after.slot side 0 = journal.slot side 0 ∧ after.index side = journal.index side) :
    after.SwapperCurrent swapper := by
  cases swapper with
  | opened old =>
      obtain ⟨same, stands, none⟩ := known
      obtain ⟨noneAfter, slot, _⟩ := unheld (other old) (same ▸ other_ne old) none
      exact ⟨same.trans sameActive.symm, by rw [slot, stands, sameValue], noneAfter⟩
  | reset old =>
      obtain ⟨same, stands, none, one⟩ := known
      obtain ⟨noneAfter, slot, index⟩ := unheld (other old) (same ▸ other_ne old) none
      exact ⟨same.trans sameActive.symm, by rw [slot, stands, sameValue], noneAfter,
        index.trans one⟩
  | loaded held => exact known.trans sameValue.symm
  | opening held old => exact ⟨known.1.trans sameValue.symm, known.2.trans sameActive.symm⟩
  | swapped old => exact fun same => known (same.trans sameActive)
  | closing old idx => exact fun same => known (same.trans sameActive)
  | away => trivial
  | draining old last => trivial

section Steps

variable {capacity : Nat} {next : Nat → Nat} {journal : Journal ι β V} {member : ι}

omit [DecidableEq β] in
/-- A writer that moves to a phase without a reservation keeps the others below the index. -/
theorem Newest.below_setWriter (newest : Newest capacity journal) {writer : Appender β V}
    (unreserved : ∀ value side idx, writer ≠ .reserved value side idx) (target : ι) (value : V)
    (side : β) (idx : Nat)
    (reserved : (journal.setWriter member writer).writers target = .reserved value side idx) :
    idx < journal.index side :=
  newest.below target value side idx (reserved_of_setWriter unreserved reserved)

omit [DecidableEq β] in
/-- It keeps the reservations of the others distinct, too. -/
theorem Newest.distinct_setWriter (newest : Newest capacity journal) {writer : Appender β V}
    (unreserved : ∀ value side idx, writer ≠ .reserved value side idx) (first second : ι)
    (value other : V) (side : β) (idx : Nat)
    (firstReserved : (journal.setWriter member writer).writers first = .reserved value side idx)
    (secondReserved : (journal.setWriter member writer).writers second =
      .reserved other side idx) : first = second :=
  newest.distinct first second value other side idx
    (reserved_of_setWriter unreserved firstReserved)
    (reserved_of_setWriter unreserved secondReserved)

omit [DecidableEq β] in
theorem Newest.settle (newest : Newest capacity journal) (value : V)
    (ordered : journal.Ordered capacity (.settle member)) :
    Newest capacity ({ journal with value := value }.setWriter member (.settled value)) := by
  obtain ⟨noneAppending, notHandingOver⟩ := ordered
  have onlyMember : ∀ target held,
      (({ journal with value := value }.setWriter member (.settled value)).writers
        target).Appending held → target = member ∧ held = value := by
    intro target held appending
    rcases writers_setWriter_cases (·.Appending held) appending with ⟨same, own⟩ | ⟨_, before⟩
    · rcases own with settled | ⟨_, chosen⟩
      · cases settled
        exact ⟨same, rfl⟩
      · cases chosen
    · exact absurd before (noneAppending target held)
  refine ⟨newest.bounded, ?_, ?_, ?_, ?_, ?_, ?_⟩
  · intro first second held other firstAppends secondAppends
    rw [(onlyMember first held firstAppends).1, (onlyMember second other secondAppends).1]
  · intro target held appending
    exact (onlyMember target held appending).2
  · exact newest.below_setWriter fun _ _ _ same => by cases same
  · exact newest.distinct_setWriter fun _ _ _ same => by cases same
  · -- The phases that remain say nothing about the value or the writers.
    have known := newest.swapper
    show SwapperCurrent _ journal.swapper
    cases phase : journal.swapper with
    | loaded held => rw [phase] at notHandingOver; exact absurd trivial notHandingOver
    | opening held old => rw [phase] at notHandingOver; exact absurd trivial notHandingOver
    | opened old => rw [phase] at notHandingOver; exact absurd trivial notHandingOver
    | reset old => rw [phase] at notHandingOver; exact absurd trivial notHandingOver
    | swapped old => rw [phase] at known; exact known
    | closing old idx => rw [phase] at known; exact known
    | away => trivial
    | draining old last => trivial
  · intro started
    exact ⟨(newest.newest started).1, Or.inl ⟨member, Or.inl (Function.update_self _ _ _)⟩⟩

omit [DecidableEq β] in
theorem Newest.choose (newest : Newest capacity journal) {value : V}
    (current : journal.writers member = .settled value) :
    Newest capacity (journal.setWriter member (.chosen value journal.active)) := by
  have same : value = journal.value := newest.current member value (Or.inl current)
  have before : ∀ target held,
      ((journal.setWriter member (.chosen value journal.active)).writers target).Appending held →
        ∃ earlier, (journal.writers target).Appending earlier ∧ held = journal.value := by
    intro target held appending
    rcases writers_setWriter_cases (·.Appending held) appending with ⟨rfl, own⟩ | ⟨_, unmoved⟩
    · refine ⟨value, Or.inl current, ?_⟩
      rcases own with settled | ⟨_, chosen⟩
      · cases settled
      · cases chosen
        exact same
    · exact ⟨held, unmoved, newest.current target held unmoved⟩
  refine ⟨newest.bounded, ?_, ?_, ?_, ?_, ?_, ?_⟩
  · intro first second held other firstAppends secondAppends
    obtain ⟨firstEarlier, firstBefore, _⟩ := before first held firstAppends
    obtain ⟨secondEarlier, secondBefore, _⟩ := before second other secondAppends
    exact newest.lone first second firstEarlier secondEarlier firstBefore secondBefore
  · intro target held appending
    obtain ⟨_, _, settled⟩ := before target held appending
    exact settled
  · exact newest.below_setWriter fun _ _ _ same => by cases same
  · exact newest.distinct_setWriter fun _ _ _ same => by cases same
  · -- The chosen side is the active one, which is not the side being opened.
    refine newest.swapper.kept rfl rfl fun side inactive none => ⟨?_, rfl, rfl⟩
    exact unheld_setWriter none fun holds => inactive (holds_chosen holds).symm
  · intro started
    refine ⟨(newest.newest started).1, Or.inl ⟨member, Or.inr ?_⟩⟩
    rw [show (journal.setWriter member (.chosen value journal.active)).writers member =
      .chosen value journal.active from Function.update_self _ _ _, same]
    rfl

/-- A reservation on the active side is the newest one, and one on the other side leaves the
active side alone. -/
theorem Newest.newestAt_reserve (newest : Newest capacity journal) {value : V} {side : β}
    (current : journal.writers member = .chosen value side) (position : journal.NewestAt) :
    NewestAt ((journal.setIndex side (journal.index side + 1)).setWriter member
      (.reserved value side (journal.index side))) := by
  have appends : (journal.writers member).Appending value := Or.inr ⟨side, current⟩
  obtain ⟨positive, position⟩ := position
  unfold NewestAt
  by_cases own : side = journal.active
  · subst own
    have advanced : ((journal.setIndex journal.active (journal.index journal.active + 1)).setWriter
        member (.reserved value journal.active (journal.index journal.active))).index
          journal.active = journal.index journal.active + 1 := Function.update_self _ _ _
    rw [show ((journal.setIndex journal.active (journal.index journal.active + 1)).setWriter
      member (.reserved value journal.active (journal.index journal.active))).active =
        journal.active from rfl, advanced]
    refine ⟨Nat.le_add_left 1 _, Or.inr (Or.inl ⟨member, ?_⟩)⟩
    rw [newest.current member value appends]
    exact Function.update_self _ _ _
  · have unmoved : ((journal.setIndex side (journal.index side + 1)).setWriter member
        (.reserved value side (journal.index side))).index journal.active =
          journal.index journal.active := Function.update_of_ne (Ne.symm own) _ _
    rw [show ((journal.setIndex side (journal.index side + 1)).setWriter member
      (.reserved value side (journal.index side))).active = journal.active from rfl, unmoved]
    refine ⟨positive, Or.inr ?_⟩
    rcases position with ⟨target, appending⟩ | ⟨target, reserved⟩ | ⟨none, stands⟩
    · -- The value on its way would be the one of this writer, which is on the other side.
      have appended : (journal.writers target).Appending journal.value :=
        appending.imp id fun chosen => ⟨journal.active, chosen⟩
      obtain rfl := newest.lone target member _ _ appended appends
      rw [current] at appending
      rcases appending with settled | chosen
      · cases settled
      · exact absurd (Appender.chosen.inj chosen).2 own
    · have moved : target ≠ member := by
        rintro rfl
        rw [current] at reserved
        cases reserved
      exact Or.inl ⟨target, (writers_setWriter_of_ne moved).trans reserved⟩
    · refine Or.inr ⟨fun target held reserved => ?_, stands⟩
      rcases reserved_of_setWriter_reserved reserved with ⟨_, place, _⟩ | ⟨_, before⟩
      · exact own place.symm
      · exact none target held before

theorem Newest.reserve (increment : ∀ idx, idx < capacity → next idx = idx + 1)
    (newest : Newest capacity journal) {value : V} {side : β}
    (current : journal.writers member = .chosen value side)
    (ordered : journal.Ordered capacity (.reserve member)) :
    Newest capacity
      ((journal.setIndex side (next (journal.index side))).setWriter member
        (.reserved value side (journal.index side))) := by
  have room : journal.index side < capacity := ordered value side current
  rw [increment _ room]
  have appends : (journal.writers member).Appending value := Or.inr ⟨side, current⟩
  have holdsSide : (journal.writers member).Holds side := Or.inl ⟨value, current⟩
  have quiet : ∀ target held,
      ¬ (((journal.setIndex side (journal.index side + 1)).setWriter member
        (.reserved value side (journal.index side))).writers target).Appending held := by
    intro target held appending
    rcases writers_setWriter_cases (·.Appending held) appending with ⟨_, own⟩ | ⟨moved, unmoved⟩
    · exact not_appending_reserved own
    · exact moved (newest.lone target member held value unmoved appends)
  refine ⟨setIndex_bounded newest.bounded room, ?_, ?_, ?_, ?_, ?_, ?_⟩
  · intro first second held other firstAppends
    exact absurd firstAppends (quiet first held)
  · intro target held appending
    exact absurd appending (quiet target held)
  · intro target held place idx reserved
    rcases reserved_of_setWriter_reserved reserved with ⟨_, rfl, rfl⟩ | ⟨_, unmoved⟩
    · show _ < Function.update journal.index place (journal.index place + 1) place
      rw [Function.update_self]
      exact Nat.lt_succ_self _
    · exact lt_of_lt_of_le (newest.below target held place idx unmoved)
        (index_le_setIndex (Nat.le_succ _) place)
  · intro first second held other place idx firstReserved secondReserved
    rcases reserved_of_setWriter_reserved firstReserved with
      ⟨rfl, rfl, rfl⟩ | ⟨_, firstBefore⟩
    · rcases reserved_of_setWriter_reserved secondReserved with ⟨rfl, _⟩ | ⟨_, secondBefore⟩
      · rfl
      · exact absurd (newest.below second other place _ secondBefore) (lt_irrefl _)
    · rcases reserved_of_setWriter_reserved secondReserved with ⟨_, rfl, rfl⟩ | ⟨_, secondBefore⟩
      · exact absurd (newest.below first held place _ firstBefore) (lt_irrefl _)
      · exact newest.distinct first second held other place idx firstBefore secondBefore
  · refine newest.swapper.kept rfl rfl fun place _ none => ?_
    have elsewhere : side ≠ place := by
      rintro rfl
      exact none member holdsSide
    exact ⟨unheld_setWriter none fun holds => elsewhere (holds_reserved holds), rfl,
      Function.update_of_ne elsewhere.symm _ _⟩
  · intro started
    exact newest.newestAt_reserve current (newest.newest started)

omit [TwoSided β] in
/-- Only other writers have a reservation once a slot is filled. -/
theorem reserved_of_fill {value held : V} {side place : β} {idx position : Nat} {target : ι}
    (reserved : ((journal.put capacity side idx value).setWriter member .away).writers target =
      .reserved held place position) :
    target ≠ member ∧ journal.writers target = .reserved held place position := by
  rcases writers_setWriter_cases (· = .reserved held place position) reserved with
    ⟨_, own⟩ | ⟨moved, unmoved⟩
  · cases own
  · rw [put_writers] at unmoved
    exact ⟨moved, unmoved⟩

/-- Filling the newest slot puts the current value there, and filling another one leaves the
newest entry alone. -/
theorem Newest.newestAt_fill (newest : Newest capacity journal) {value : V} {side : β} {idx : Nat}
    (current : journal.writers member = .reserved value side idx) (position : journal.NewestAt) :
    NewestAt ((journal.put capacity side idx value).setWriter member .away) := by
  have within : idx < capacity :=
    lt_of_lt_of_le (newest.below member value side idx current) (newest.bounded side)
  have unmoved : ∀ target, target ≠ member →
      ((journal.put capacity side idx value).setWriter member .away).writers target =
        journal.writers target := by
    intro target moved
    rw [writers_setWriter_of_ne moved, put_writers]
  obtain ⟨positive, position⟩ := position
  unfold NewestAt
  rw [show ((journal.put capacity side idx value).setWriter member .away).active =
      journal.active from put_active ..,
    show ((journal.put capacity side idx value).setWriter member .away).index =
      journal.index from put_index ..,
    show ((journal.put capacity side idx value).setWriter member .away).value =
      journal.value from put_value ..]
  refine ⟨positive, ?_⟩
  rcases position with ⟨target, appending⟩ | ⟨target, reserved⟩ | ⟨none, stands⟩
  · have moved : target ≠ member := by
      rintro rfl
      rw [current] at appending
      rcases appending with settled | chosen
      · cases settled
      · cases chosen
    rw [← unmoved target moved] at appending
    exact Or.inl ⟨target, appending⟩
  · by_cases own : target = member
    · -- The newest entry itself is filled.
      subst own
      rw [current] at reserved
      cases reserved
      refine Or.inr (Or.inr ⟨fun other held otherReserved => ?_,
        journal.put_slot_same _ _ within⟩)
      obtain ⟨moved, earlier⟩ := reserved_of_fill otherReserved
      exact moved (newest.distinct other target held _ _ _ earlier current)
    · exact Or.inr (Or.inl ⟨target, (unmoved target own).trans reserved⟩)
  · refine Or.inr (Or.inr ⟨fun target held reserved =>
      none target held (reserved_of_fill reserved).2, ?_⟩)
    have elsewhere : journal.active ≠ side ∨ journal.index journal.active - 1 ≠ idx := by
      by_contra both
      rw [not_or, not_not, not_not] at both
      apply none member value
      rw [current, both.1, ← both.2, both.1]
    exact (journal.put_slot_of_ne capacity side idx value elsewhere).trans stands

theorem Newest.fill (newest : Newest capacity journal) {value : V} {side : β} {idx : Nat}
    (current : journal.writers member = .reserved value side idx) :
    Newest capacity ((journal.put capacity side idx value).setWriter member .away) := by
  have before : ∀ target held, (((journal.put capacity side idx value).setWriter member
      .away).writers target).Appending held → (journal.writers target).Appending held := by
    intro target held appending
    rcases writers_setWriter_cases (·.Appending held) appending with ⟨_, own⟩ | ⟨_, unmoved⟩
    · exact absurd own not_appending_away
    · rw [put_writers] at unmoved
      exact unmoved
  have sameIndex : ((journal.put capacity side idx value).setWriter member .away).index =
      journal.index := put_index ..
  have sameValue : ((journal.put capacity side idx value).setWriter member .away).value =
      journal.value := put_value ..
  refine ⟨?_, ?_, ?_, ?_, ?_, ?_, ?_⟩
  · rw [sameIndex]
    exact newest.bounded
  · intro first second held other firstAppends secondAppends
    exact newest.lone first second held other (before first held firstAppends)
      (before second other secondAppends)
  · intro target held appending
    rw [sameValue]
    exact newest.current target held (before target held appending)
  · intro target held place position reserved
    rw [sameIndex]
    exact newest.below target held place position (reserved_of_fill reserved).2
  · intro first second held other place position firstReserved secondReserved
    exact newest.distinct first second held other place position
      (reserved_of_fill firstReserved).2 (reserved_of_fill secondReserved).2
  · rw [show ((journal.put capacity side idx value).setWriter member .away).swapper =
      journal.swapper from put_swapper ..]
    refine newest.swapper.kept sameValue (put_active ..) fun place _ none => ⟨?_, ?_, ?_⟩
    · refine unheld_setWriter ?_ (not_holds_away place)
      rw [put_writers]
      exact none
    · refine journal.put_slot_of_ne capacity side idx value (Or.inl ?_)
      rintro rfl
      exact none member (Or.inr ⟨value, idx, current⟩)
    · rw [sameIndex]
  · intro started
    rw [show ((journal.put capacity side idx value).setWriter member .away).swaps =
      journal.swaps from put_swaps ..] at started
    exact newest.newestAt_fill current (newest.newest started)

omit [DecidableEq ι] [DecidableEq β] in
/-- A step of the swapper that leaves value, writers, indices and the active
side alone, and the slots of the active side. -/
theorem Newest.swapperStep (newest : Newest capacity journal) {after : Journal ι β V}
    (sameValue : after.value = journal.value) (sameWriters : after.writers = journal.writers)
    (sameIndex : after.index = journal.index) (sameActive : after.active = journal.active)
    (sameSwaps : after.swaps = journal.swaps)
    (sameSlot : after.slot journal.active = journal.slot journal.active)
    (known : after.SwapperCurrent after.swapper) : Newest capacity after := by
  refine ⟨?_, ?_, ?_, ?_, ?_, known, ?_⟩
  · rw [sameIndex]; exact newest.bounded
  · rw [sameWriters]; exact newest.lone
  · rw [sameWriters, sameValue]; exact newest.current
  · rw [sameWriters, sameIndex]; exact newest.below
  · rw [sameWriters]; exact newest.distinct
  · rw [sameSwaps]
    intro started
    have position := newest.newest started
    unfold NewestAt at position ⊢
    rw [sameActive, sameIndex, sameWriters, sameValue, sameSlot]
    exact position

omit [DecidableEq ι] in
theorem Newest.openNew (positive : 0 < capacity) (newest : Newest capacity journal) {value : V}
    {old : β} (current : journal.swapper = .opening value old)
    (ordered : journal.Ordered capacity .openNew) :
    Newest capacity
      (((journal.clear (other old)).put capacity (other old) 0 value).setSwapper
        (.opened old)) := by
  have known := newest.swapper
  rw [current] at known
  obtain ⟨sameValue, sameSide⟩ := known
  refine newest.swapperStep (put_value ..) (put_writers ..) (put_index ..) (put_active ..)
    (put_swaps ..) ?_ ⟨?_, ?_, ?_⟩
  · funext idx
    refine (journal.clear (other old)).put_slot_of_ne capacity (other old) 0 value (Or.inl ?_)
    rw [← sameSide]
    exact (other_ne old).symm
  · exact sameSide.trans
      ((journal.clear (other old)).put_active capacity (other old) 0 value).symm
  · show ((journal.clear (other old)).put capacity (other old) 0 value).slot (other old) 0 =
      ((journal.clear (other old)).put capacity (other old) 0 value).value
    rw [put_slot_same _ _ _ positive, put_value]
    exact sameValue
  · intro target
    show ¬ (((journal.clear (other old)).put capacity (other old) 0 value).writers target).Holds _
    rw [put_writers]
    exact ordered value old current target

omit [DecidableEq ι] in
theorem Newest.reset (positive : 0 < capacity) (newest : Newest capacity journal) {old : β}
    (current : journal.swapper = .opened old) :
    Newest capacity
      (((journal.clearRest (other old)).setIndex (other old) 1).setSwapper (.reset old)) := by
  have known := newest.swapper
  rw [current] at known
  obtain ⟨sameSide, stands, none⟩ := known
  have elsewhere : journal.active ≠ other old := by
    rw [← sameSide]
    exact (other_ne old).symm
  have activeIndex : (((journal.clearRest (other old)).setIndex (other old) 1).setSwapper
      (.reset old)).index journal.active = journal.index journal.active :=
    Function.update_of_ne elsewhere _ _
  refine ⟨?_, newest.lone, newest.current, ?_, newest.distinct, ⟨sameSide, stands, none, ?_⟩, ?_⟩
  · have bounded : ∀ side, (journal.clearRest (other old)).index side ≤ capacity := newest.bounded
    exact setIndex_bounded bounded positive
  · intro target held side idx reserved
    have own : side ≠ other old := by
      rintro rfl
      exact none target (Or.inr ⟨held, idx, reserved⟩)
    show idx < Function.update journal.index (other old) 1 side
    rw [Function.update_of_ne own]
    exact newest.below target held side idx reserved
  · exact Function.update_self _ _ _
  · intro started
    have position := newest.newest started
    unfold NewestAt at position ⊢
    rw [show (((journal.clearRest (other old)).setIndex (other old) 1).setSwapper
      (.reset old)).active = journal.active from rfl, activeIndex]
    exact position

omit [DecidableEq ι] in
theorem Newest.swap (newest : Newest capacity journal) {old : β}
    (current : journal.swapper = .reset old) :
    Newest capacity
      ({ journal with
        active := if journal.active = old then other old else journal.active
        swaps := journal.swaps + 1 }.setSwapper (.swapped old)) := by
  have known := newest.swapper
  rw [current] at known
  obtain ⟨sameSide, stands, none, one⟩ := known
  have exchanged : (if journal.active = old then other old else journal.active) = other old :=
    if_pos sameSide.symm
  rw [exchanged]
  refine ⟨newest.bounded, newest.lone, newest.current, newest.below, newest.distinct,
    (other_ne old).symm, fun _ => ⟨le_of_eq one.symm, Or.inr (Or.inr ⟨?_, ?_⟩)⟩⟩
  · intro target held reserved
    exact none target (Or.inr ⟨held, _, reserved⟩)
  · show journal.slot (other old) (journal.index (other old) - 1) = journal.value
    rw [one]
    exact stands

omit [DecidableEq ι] in
theorem Newest.reserveEnd (increment : ∀ idx, idx < capacity → next idx = idx + 1)
    (newest : Newest capacity journal) {old : β} (current : journal.swapper = .swapped old)
    (ordered : journal.Ordered capacity .reserveEnd) :
    Newest capacity
      ((journal.setIndex old (next (journal.index old))).setSwapper
        (.closing old (journal.index old))) := by
  have known := newest.swapper
  rw [current] at known
  have room : journal.index old < capacity := ordered old current
  rw [increment _ room]
  have activeIndex : ((journal.setIndex old (journal.index old + 1)).setSwapper
      (.closing old (journal.index old))).index journal.active = journal.index journal.active :=
    Function.update_of_ne (Ne.symm known) _ _
  refine ⟨setIndex_bounded newest.bounded room, newest.lone, newest.current, ?_, newest.distinct,
    known, ?_⟩
  · intro target held side idx reserved
    exact lt_of_lt_of_le (newest.below target held side idx reserved)
      (index_le_setIndex (Nat.le_succ _) side)
  · intro started
    have position := newest.newest started
    unfold NewestAt at position ⊢
    rw [show ((journal.setIndex old (journal.index old + 1)).setSwapper
      (.closing old (journal.index old))).active = journal.active from rfl, activeIndex]
    exact position

omit [DecidableEq ι] in
theorem Newest.fillEnd (newest : Newest capacity journal) {old : β} {idx : Nat} (value : V)
    (current : journal.swapper = .closing old idx) :
    Newest capacity ((journal.put capacity old idx value).setSwapper (.draining old idx)) := by
  have known := newest.swapper
  rw [current] at known
  refine newest.swapperStep (put_value ..) (put_writers ..) (put_index ..) (put_active ..)
    (put_swaps ..) ?_ trivial
  funext position
  exact journal.put_slot_of_ne capacity old idx value (Or.inl (Ne.symm known))

/-- **An ordered step keeps the newest entry current.** -/
theorem Newest.step (positive : 0 < capacity)
    (increment : ∀ idx, idx < capacity → next idx = idx + 1) {label : Label ι}
    {after : Journal ι β V} (newest : Newest capacity journal)
    (ordered : journal.Ordered capacity label) (step : Step capacity next journal label after) :
    Newest capacity after := by
  cases step with
  | settle member value current => exact newest.settle value ordered
  | choose member current => exact newest.choose current
  | reserve member current => exact newest.reserve increment current ordered
  | fill member current => exact newest.fill current
  | load current => exact newest.swapperStep rfl rfl rfl rfl rfl rfl rfl
  | pick current =>
      have known := newest.swapper
      rw [current] at known
      exact newest.swapperStep rfl rfl rfl rfl rfl rfl ⟨known, rfl⟩
  | openNew current => exact newest.openNew positive current ordered
  | reset current => exact newest.reset positive current
  | swap current => exact newest.swap current
  | reserveEnd current => exact newest.reserveEnd increment current ordered
  | fillEnd value current => exact newest.fillEnd value current
  | finish current => exact newest.swapperStep rfl rfl rfl rfl rfl rfl trivial

omit [DecidableEq ι] [DecidableEq β] in
/-- At rest the last slot of the active side holds the current value. -/
theorem Newest.at_rest (newest : Newest capacity journal)
    (rest : ∀ member, journal.writers member = .away) (started : 1 ≤ journal.swaps) :
    1 ≤ journal.index journal.active ∧ journal.index journal.active ≤ capacity ∧
      journal.slot journal.active (journal.index journal.active - 1) = journal.value := by
  obtain ⟨positive, position⟩ := newest.newest started
  refine ⟨positive, newest.bounded journal.active, ?_⟩
  rcases position with ⟨target, settled | chosen⟩ | ⟨target, reserved⟩ | ⟨_, stands⟩
  · rw [rest target] at settled
    cases settled
  · rw [rest target] at chosen
    cases chosen
  · rw [rest target] at reserved
    cases reserved
  · exact stands

end Steps

end PhantomTracker.Foundation.Journal
