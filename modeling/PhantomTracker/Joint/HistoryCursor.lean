import PhantomTracker.Foundation.CyclicLog
import PhantomTracker.Joint.H2gPage

/-!
Contract: the history slots of the host-to-guest page, as the cursor of a VM selects them.

Owns: the cursor along switches and ticks, the slots that the ticks of a run write, the page
as the log of the published watermarks, and that the history holds the newest watermarks
exactly until the 32-bit cursor wraps.

Does not own: the words in a watermark, or the clock timer, which writes to the same slots.
-/

namespace PhantomTracker.Joint

open PhantomTracker.Foundation
open PhantomTracker.Shmem
open PhantomTracker.Host

/-- The slots that `next_history_slot` returns. -/
def historySlots : List Nat := List.range' h2gFirstHistorySlot h2gHistorySlotCount

theorem mem_historySlots {slot : Nat} :
    slot ∈ historySlots ↔ h2gFirstHistorySlot ≤ slot ∧ slot < nrHostIvshmemMsgs :=
  List.mem_range'_1

/-- The slot of a tick that finds `cursor` in `h2g_history_index`, modulo 2^32. -/
def historySlot (cursor : Nat) : Nat :=
  cursorSlot h2gFirstHistorySlot (2 ^ 32) h2gHistorySlotCount cursor

theorem h2gHistorySlotCount_pos : 0 < h2gHistorySlotCount := by decide

/-- 2^32 is 4 modulo the number of history slots. -/
theorem h2gHistorySlotCount_not_dvd : ¬ h2gHistorySlotCount ∣ 2 ^ 32 := by decide

theorem historySlot_mem (cursor : Nat) : historySlot cursor ∈ historySlots :=
  mem_historySlots.mpr (cursorSlot_bounds h2gHistorySlotCount_pos cursor)

/-! ## The cursor of one VM -/

/-- The VM has both of its buffers, and its history cursor is `cursor`. -/
structure CursorAt (key : VmKey) (cursor : Nat) (host : HostState) : Prop where
  found : ∃ vm, host.vms.lookup key = some vm ∧ vm.h2gHistoryIndex = cursor
  buffered : ∀ buff, (host.mapRegistry.lookup (collectionBuff buff key)).isSome

section Cursor

variable {key : VmKey} {cursor : Nat} {host : HostState}

theorem CursorAt.switch (placed : CursorAt key cursor host) (input : SwitchInput) :
    CursorAt key cursor (phantomSwitchHandler input host) := by
  apply phantomSwitchHandler_preserves (CursorAt key cursor) _ input placed
  intro now before after half placed
  cases half with
  | stay => exact placed
  | flip half _ _ =>
      rcases placed with ⟨⟨vm, found, index⟩, buffered⟩
      rcases switchHalf_h2gHistoryIndex half now _ found with ⟨moved, foundMoved, kept⟩
      refine ⟨⟨moved, foundMoved, kept.trans index⟩, ?_⟩
      rw [switchHalf_mapRegistry]
      exact buffered

/-- A tick publishes in the slot of the cursor, and advances it. -/
theorem CursorAt.tick (placed : CursorAt key cursor host) (clock : TickClock)
    (lastIdleAvg : Option Nat) :
    ∃ after watermark, callbackFn clock lastIdleAvg key host = (after, some watermark) ∧
      watermark.index = h2gFirstHistorySlot + cursor % h2gHistorySlotCount ∧
      CursorAt key (u32Succ cursor) after := by
  rcases placed with ⟨⟨vm, found, rfl⟩, buffered⟩
  rcases Option.isSome_iff_exists.mp (buffered vm.active) with ⟨old, foundOld⟩
  rcases Option.isSome_iff_exists.mp (buffered vm.active.other) with ⟨new, foundNew⟩
  refine ⟨(callbackFn clock lastIdleAvg key host).1, _,
    Prod.ext rfl (callbackFn_watermark clock lastIdleAvg found foundOld foundNew), rfl,
    ⟨vm.ticked, ?_, ?_⟩, ?_⟩
  · rw [callbackFn_of_buffered found foundOld foundNew]
    exact AList.lookup_insert _
  · exact ticked_h2gHistoryIndex vm
  · rw [callbackFn_mapRegistry]
    exact buffered

end Cursor

/-! ## Ticks of a run -/

def H2gAction.isPhantomTick : H2gAction → Bool
  | .phantomTick _ _ => true
  | _ => false

/-- The number of ticks of the phantom timer. -/
def phantomTicks (actions : List H2gAction) : Nat := actions.countP H2gAction.isPhantomTick

namespace H2gState

/-- The page after `ticks` ticks, all of which have published: their slots are accepted, any
63 consecutive ones of them went to different slots, and once there have been 63 of them, the
history slots hold the newest 63 watermarks, and the latest slot the newest one. -/
structure Cycles (registry : HostRegistry) (ticks : Nat) (state : H2gState) : Prop where
  published : state.published.length = ticks
  accepted : ∀ watermark ∈ state.published, ∀ memory msg,
    hostIvshmemH2gWriteMsg ((sharing registry memory).devices 1) watermark.index (some msg) =
      .ok (mirrored memory watermark.index msg)
  different : ∀ skipped, skipped + h2gHistorySlotCount ≤ ticks →
    (((state.published.reverse.drop skipped).take h2gHistorySlotCount).map
      Watermark.index).Nodup
  recent : h2gHistorySlotCount ≤ ticks →
    (historySlots.map (h2gMsg state.memory)).Perm
      ((state.published.take h2gHistorySlotCount).map watermarkMsg)
  latest : ∀ newest earlier, state.published = newest :: earlier →
    h2gMsg state.memory h2gLatestSlot = watermarkMsg newest

/-- The page is the log of the published watermarks, which went to the slots of consecutive
cursors. -/
structure Logged (key : VmKey) (cursor : Nat) (memory : Memory) (state : H2gState) : Prop where
  placed : CursorAt key ((cursor + state.published.length) % 2 ^ 32) state.host
  slots : state.published.reverse.map Watermark.index =
    (List.range state.published.length).map fun tick => historySlot (cursor + tick)
  history : ∀ slot, slot ≠ h2gLatestSlot → h2gMsg state.memory slot =
    logContents Watermark.index watermarkMsg (h2gMsg memory) state.published slot

variable {registry : HostRegistry} {backend : HostIvshmemBackend} {key : VmKey} {cursor : Nat}
  {memory : Memory} {state next : H2gState}

theorem logged_start {host : HostState} (placed : CursorAt key cursor host)
    (begun : cursor < 2 ^ 32) (memory : Memory) :
    (start host memory).Logged key cursor memory where
  placed := by
    have same : (cursor + (start host memory).published.length) % 2 ^ 32 = cursor :=
      Nat.mod_eq_of_lt begun
    rw [same]
    exact placed
  slots := rfl
  history _ _ := rfl

/-- A tick adds a watermark in the slot of the next cursor. -/
theorem Logged.phantomTick (logged : state.Logged key cursor memory)
    (first : registry.devices 1 = some backend) (clock : TickClock) (lastIdleAvg : Option Nat) :
    ∃ host watermark,
      state.step registry key (.phantomTick clock lastIdleAvg) =
        some (state.publish host watermark) ∧
      (state.publish host watermark).Logged key cursor memory := by
  rcases logged.placed.tick clock lastIdleAvg with ⟨host, watermark, ticked, slot, placed⟩
  refine ⟨host, watermark, step_phantomTick first ticked, ?_, ?_, ?_⟩
  · have advanced : u32Succ ((cursor + state.published.length) % 2 ^ 32) =
        (cursor + (state.publish host watermark).published.length) % 2 ^ 32 :=
      Nat.mod_add_mod _ _ _
    rw [← advanced]
    exact placed
  · have newest : watermark.index = historySlot (cursor + state.published.length) := slot
    show (watermark :: state.published).reverse.map Watermark.index =
      (List.range (state.published.length + 1)).map _
    rw [List.reverse_cons, List.map_append, logged.slots, List.range_succ, List.map_append,
      List.map_singleton, List.map_singleton, newest]
  · intro slot notLatest
    show h2gMsg (mirrored state.memory watermark.index (watermarkMsg watermark)) slot =
      Function.update (logContents Watermark.index watermarkMsg (h2gMsg memory) state.published)
        watermark.index (watermarkMsg watermark) slot
    rw [h2gMsg_mirrored, Function.update_apply, ← logged.history slot notLatest]
    simp only [notLatest, false_or]

theorem Logged.step (logged : state.Logged key cursor memory)
    (first : registry.devices 1 = some backend) {action : H2gAction}
    (silent : state.ClockSilent action) (taken : state.step registry key action = some next) :
    next.Logged key cursor memory ∧ next.published.length =
      state.published.length + if action.isPhantomTick then 1 else 0 := by
  cases action with
  | switch input =>
      obtain rfl := Option.some.inj taken
      exact ⟨⟨logged.placed.switch input, logged.slots, logged.history⟩, rfl⟩
  | phantomTick clock lastIdleAvg =>
      rcases logged.phantomTick first clock lastIdleAvg with ⟨host, watermark, stepped, after⟩
      obtain rfl := Option.some.inj (stepped.symm.trans taken)
      exact ⟨after, rfl⟩
  | clockInit =>
      obtain rfl := Option.some.inj taken
      refine ⟨⟨logged.placed, logged.slots, ?_⟩, rfl⟩
      dsimp only
      rw [show state.write registry 0 0 = state.memory from write_latest registry state 0]
      exact logged.history
  | clockTick now => exact silent.elim

/-! ## What the log says about the page -/

/-- The slots of a window of ticks. -/
theorem Logged.window_slots (logged : state.Logged key cursor memory) {skipped count : Nat}
    (within : skipped + count ≤ state.published.length) :
    ((state.published.reverse.drop skipped).take count).map Watermark.index =
      (List.range' skipped count).map fun tick => historySlot (cursor + tick) := by
  rw [List.map_take, List.map_drop, logged.slots, ← List.map_drop, ← List.map_take,
    List.range_eq_range', List.drop_range', List.take_range'_of_length_ge (by omega), Nat.zero_add,
    Nat.mul_one]

theorem Logged.slot_mem (logged : state.Logged key cursor memory) {watermark : Watermark}
    (member : watermark ∈ state.published) : watermark.index ∈ historySlots := by
  have listed : watermark.index ∈ state.published.reverse.map Watermark.index :=
    List.mem_map_of_mem (List.mem_reverse.mpr member)
  rw [logged.slots] at listed
  rcases List.mem_map.mp listed with ⟨tick, _, slot⟩
  rw [← slot]
  exact historySlot_mem _

/-- When the newest watermarks are in different slots, the history slots hold them. -/
theorem Logged.history_perm (logged : state.Logged key cursor memory)
    (enough : h2gHistorySlotCount ≤ state.published.length)
    (different : ((state.published.take h2gHistorySlotCount).map Watermark.index).Nodup) :
    (historySlots.map (h2gMsg state.memory)).Perm
      ((state.published.take h2gHistorySlotCount).map watermarkMsg) := by
  have contents : historySlots.map (h2gMsg state.memory) = historySlots.map
      (logContents Watermark.index watermarkMsg (h2gMsg memory)
        (state.published.take h2gHistorySlotCount ++
          state.published.drop h2gHistorySlotCount)) := by
    rw [List.take_append_drop]
    apply List.map_congr_left
    intro slot member
    exact logged.history slot (Nat.ne_of_gt (mem_historySlots.mp member).1)
  rw [contents]
  apply map_logContents_perm different
  · intro watermark member
    exact logged.slot_mem (List.mem_of_mem_take member)
  · rw [List.length_take, Nat.min_eq_left enough]
    exact List.length_range'.le

/-- The windows of a run are in different slots exactly when it is short, or no tick finds a
cursor that has wrapped. -/
theorem Logged.different_iff (logged : state.Logged key cursor memory) (begun : cursor < 2 ^ 32) :
    (∀ skipped, skipped + h2gHistorySlotCount ≤ state.published.length →
      (((state.published.reverse.drop skipped).take h2gHistorySlotCount).map
        Watermark.index).Nodup) ↔
      state.published.length < h2gHistorySlotCount ∨
        cursor + state.published.length ≤ 2 ^ 32 := by
  rw [← windows_nodup_iff begun h2gHistorySlotCount_pos h2gHistorySlotCount_not_dvd]
  apply forall₂_congr
  intro skipped within
  rw [logged.window_slots within]
  rfl

/-- The newest watermarks are the last window. -/
theorem last_window {count : Nat} (enough : count ≤ state.published.length) :
    (state.published.reverse.drop (state.published.length - count)).take count =
      (state.published.take count).reverse := by
  rw [List.drop_reverse, Nat.sub_sub_self enough]
  apply List.take_of_length_le
  rw [List.length_reverse]
  exact List.length_take_le _ _

theorem Logged.cycles (logged : state.Logged key cursor memory) (sound : state.Sound)
    (first : registry.devices 1 = some backend)
    (different : ∀ skipped, skipped + h2gHistorySlotCount ≤ state.published.length →
      (((state.published.reverse.drop skipped).take h2gHistorySlotCount).map
        Watermark.index).Nodup) :
    state.Cycles registry state.published.length where
  published := rfl
  accepted watermark member memory msg := by
    have slot := mem_historySlots.mp (logged.slot_mem member)
    exact bpfHostIvshmemH2gWrite_history first memory slot.1 slot.2 msg
  different := different
  recent enough := by
    apply logged.history_perm enough
    have window := different (state.published.length - h2gHistorySlotCount) (by omega)
    rw [last_window enough, List.map_reverse, List.nodup_reverse] at window
    exact window
  latest := sound.latest

/-! ## Runs -/

section Run

variable {host : HostState} {actions : List H2gAction} {final : H2gState}

/-- Every tick of a run has published, and the page at its end is the log of the
watermarks. -/
theorem logged_of_run (first : registry.devices 1 = some backend)
    (placed : CursorAt key cursor host) (begun : cursor < 2 ^ 32) (memory : Memory)
    (run : GuardedRun (H2gState.step registry key) ClockSilent (start host memory) actions
      final) :
    final.Logged key cursor memory ∧ final.Sound ∧
      final.published.length = phantomTicks actions := by
  have initially := logged_start placed begun memory
  refine ⟨?_, ?_, ?_⟩
  · apply run.invariant (Logged key cursor memory) _ initially
    exact fun _ _ _ logged silent taken => (logged.step first silent taken).1
  · apply run.invariant Sound _ (sound_start host memory)
    exact fun _ _ _ sound silent taken => sound.step first silent taken
  · have counted := GuardedRun.countP_eq H2gAction.isPhantomTick
      (fun state => state.published.length) (Logged key cursor memory)
      (fun _ _ _ logged silent taken => (logged.step first silent taken).1)
      (fun _ _ _ logged silent taken => (logged.step first silent taken).2) run initially
    exact counted.trans (Nat.zero_add _)

/-- **The history cursor.** In every run in which the phantom timer is the only writer, the
history cycles exactly when the run has fewer ticks than there are history slots, or no more
ticks than the cursor of its first tick is away from 2^32. -/
theorem history_cycles_iff (first : registry.devices 1 = some backend) {vm : VmT}
    (found : host.vms.lookup key = some vm)
    (buffered : ∀ buff, (host.mapRegistry.lookup (collectionBuff buff key)).isSome)
    (representable : vm.h2gHistoryIndex < 2 ^ 32) (memory : Memory)
    (run : GuardedRun (H2gState.step registry key) ClockSilent (start host memory) actions
      final) :
    final.Cycles registry (phantomTicks actions) ↔
      phantomTicks actions < h2gHistorySlotCount ∨
        vm.h2gHistoryIndex + phantomTicks actions ≤ 2 ^ 32 := by
  have placed : CursorAt key vm.h2gHistoryIndex host := ⟨⟨vm, found, rfl⟩, buffered⟩
  rcases logged_of_run first placed representable memory run with ⟨logged, sound, counted⟩
  rw [← counted, ← logged.different_iff representable]
  exact ⟨Cycles.different, logged.cycles sound first⟩

end Run

/-! ## One VM that has just been registered -/

theorem step_total (registry : HostRegistry) (key : VmKey) (state : H2gState)
    (action : H2gAction) : ∃ next, state.step registry key action = some next := by
  cases action with
  | phantomTick clock lastIdleAvg =>
      unfold H2gState.step
      dsimp only
      cases callbackFn clock lastIdleAvg key state.host with
      | mk host result =>
          cases result with
          | none => exact ⟨_, rfl⟩
          | some watermark => exact ⟨_, rfl⟩
  | switch _ => exact ⟨_, rfl⟩
  | clockInit => exact ⟨_, rfl⟩
  | clockTick _ => exact ⟨_, rfl⟩

/-- A tick of the lone VM. -/
def loneTick : H2gAction := .phantomTick ⟨10, 10, 10⟩ (some 3)

/-- Any number of ticks of the lone VM can be run. -/
theorem exists_loneRun (ticks : Nat) :
    ∃ final, GuardedRun (H2gState.step loneRegistry (vmKey loneName.bytes)) ClockSilent
        (start loneHost fun _ => 0) (List.replicate ticks loneTick) final := by
  apply GuardedRun.exists_run (step_total _ _)
  intro state action member
  rw [List.eq_of_mem_replicate member]
  trivial

theorem phantomTicks_replicate (ticks : Nat) :
    phantomTicks (List.replicate ticks loneTick) = ticks :=
  List.countP_replicate

theorem cursorAt_loneHost : CursorAt (vmKey loneName.bytes) 0 loneHost := by
  have entry : (loneHost.vms.lookup (vmKey loneName.bytes)).map VmT.h2gHistoryIndex = some 0 := by
    decide +kernel
  rcases Option.map_eq_some_iff.mp entry with ⟨vm, found, cursor⟩
  refine ⟨⟨vm, found, cursor⟩, ?_⟩
  intro buff
  cases buff <;> decide +kernel

/-- After a thousand ticks the history holds the newest 63 watermarks. -/
theorem thousand_ticks_cycle :
    ∃ final, GuardedRun (H2gState.step loneRegistry (vmKey loneName.bytes)) ClockSilent
        (start loneHost fun _ => 0) (List.replicate 1000 loneTick) final ∧
      final.Cycles loneRegistry 1000 := by
  rcases exists_loneRun 1000 with ⟨final, run⟩
  rcases cursorAt_loneHost with ⟨⟨vm, found, cursor⟩, buffered⟩
  have cycles := history_cycles_iff loneRegistry_first found buffered (by omega) (fun _ => 0) run
  rw [phantomTicks_replicate, cursor] at cycles
  exact ⟨final, run, cycles.mpr (Or.inr (by decide))⟩

/-- The cursor wraps at the last one of 2^32 + 1 ticks, which comes back to slot 1 after four
ticks, and overwrites the watermark there. -/
theorem wrapped_cursor_repeats_slot :
    ∃ final, GuardedRun (H2gState.step loneRegistry (vmKey loneName.bytes)) ClockSilent
        (start loneHost fun _ => 0) (List.replicate (2 ^ 32 + 1) loneTick) final ∧
      ((final.published.reverse.drop (2 ^ 32 - 4)).take 5).map Watermark.index =
        [1, 2, 3, 4, 1] ∧
      ¬ final.Cycles loneRegistry (2 ^ 32 + 1) := by
  rcases exists_loneRun (2 ^ 32 + 1) with ⟨final, run⟩
  rcases logged_of_run loneRegistry_first cursorAt_loneHost (by decide) _ run with
    ⟨logged, _, counted⟩
  rw [phantomTicks_replicate] at counted
  refine ⟨final, run, ?_, ?_⟩
  · rw [logged.window_slots (by rw [counted]; decide)]
    decide
  · intro cycles
    have different := cycles.different
    rw [← counted, logged.different_iff (by decide), counted] at different
    exact absurd different (by decide)

end H2gState

end PhantomTracker.Joint
