import PhantomTracker.Host.Timer
import PhantomTracker.Host.ToolExecutions
import PhantomTracker.Joint.Composition

/-!
Contract: the host-to-guest page and its two publishers.

Owns: the fields of a packed watermark, `h2g_msg_timer_callback` and
`h2g_msg_timer_init`, the machine in which switch events, ticks of the phantom
timer and executions of the clock timer take turns on one page, and that the page
holds watermarks only, the newest of them in its latest slot, as long as the clock
timer does not fire.

Does not own: the average in a watermark, or VMs whose backend is not the first
one.
-/

namespace PhantomTracker.Joint

open PhantomTracker.Foundation
open PhantomTracker.Shmem
open PhantomTracker.Host

/-! ## The fields of a watermark -/

/-- Bits 32 to 63 of a message. -/
def tsField (msg : UInt64) : Nat := msg.toNat / 2 ^ 32

/-- Bits 16 to 31 of a message. -/
def phantomField (msg : UInt64) : Nat := msg.toNat / 2 ^ 16 % 2 ^ 16

/-- Bits 0 to 15 of a message. -/
def idleField (msg : UInt64) : Nat := msg.toNat % 2 ^ 16

/-- The message that `write_watermark` hands to the kfunc. -/
def watermarkMsg (watermark : Watermark) : UInt64 := UInt64.ofNat watermark.msg

/-- The three parts of a watermark do not overlap. -/
theorem watermark_msg_eq (watermark : Watermark) :
    watermark.msg = watermark.ts % 2 ^ 32 * 2 ^ 32 +
      ((watermark.phantomAvg % 2 ^ 64).toNat % 2 ^ 16 * 2 ^ 16 + watermark.idleAvg % 2 ^ 16) := by
  have idle : watermark.idleAvg &&& 0xffff = watermark.idleAvg % 2 ^ 16 :=
    Nat.and_two_pow_sub_one_eq_mod _ 16
  have phantom : (watermark.phantomAvg % 2 ^ 64).toNat &&& 0xffff =
      (watermark.phantomAvg % 2 ^ 64).toNat % 2 ^ 16 := Nat.and_two_pow_sub_one_eq_mod _ 16
  have ts : watermark.ts &&& 0xffffffff = watermark.ts % 2 ^ 32 :=
    Nat.and_two_pow_sub_one_eq_mod _ 32
  have shifted : u64 ((watermark.ts % 2 ^ 32) <<< 32) = (watermark.ts % 2 ^ 32) <<< 32 := by
    unfold u64
    rw [Nat.shiftLeft_eq]
    omega
  have low :
      ((watermark.phantomAvg % 2 ^ 64).toNat % 2 ^ 16) <<< 16 ||| watermark.idleAvg % 2 ^ 16 =
      (watermark.phantomAvg % 2 ^ 64).toNat % 2 ^ 16 * 2 ^ 16 + watermark.idleAvg % 2 ^ 16 := by
    rw [← Nat.shiftLeft_add_eq_or_of_lt (Nat.mod_lt _ (by decide)), Nat.shiftLeft_eq]
  unfold Watermark.msg
  rw [idle, phantom, ts, shifted, Nat.or_assoc, low, ← Nat.shiftLeft_add_eq_or_of_lt (by omega),
    Nat.shiftLeft_eq]

theorem watermark_msg_lt (watermark : Watermark) : watermark.msg < 2 ^ 64 := by
  rw [watermark_msg_eq]
  omega

theorem watermarkMsg_toNat (watermark : Watermark) :
    (watermarkMsg watermark).toNat = watermark.msg := by
  unfold watermarkMsg
  rw [UInt64.toNat_ofNat', Nat.mod_eq_of_lt (watermark_msg_lt watermark)]

/-- A reader gets back the timestamp modulo 2^32. -/
theorem watermarkMsg_tsField (watermark : Watermark) :
    tsField (watermarkMsg watermark) = watermark.ts % 2 ^ 32 := by
  have parts := watermark_msg_eq watermark
  unfold tsField
  rw [watermarkMsg_toNat]
  omega

/-- A reader gets back the averages modulo 2^16. -/
theorem watermarkMsg_fields (watermark : Watermark) :
    phantomField (watermarkMsg watermark) = (watermark.phantomAvg % 2 ^ 16).toNat ∧
      idleField (watermarkMsg watermark) = watermark.idleAvg % 2 ^ 16 := by
  have parts := watermark_msg_eq watermark
  unfold phantomField idleField
  rw [watermarkMsg_toNat]
  omega

/-! ## The page -/

/-- Address of a slot of the host-to-guest page. -/
def h2gSlot (index : Nat) : Nat := hostIvshmemH2gOffset + index * hostIvshmemMsgSize

/-- The message in a slot. -/
def h2gMsg (memory : Memory) (index : Nat) : UInt64 := memory.load64 (h2gSlot index)

/-- The region after a message has been written to a history slot and mirrored. -/
def mirrored (memory : Memory) (index : Nat) (msg : UInt64) : Memory :=
  (memory.store64 (h2gSlot index) msg).store64 (h2gSlot h2gLatestSlot) msg

theorem h2gMsg_store64_of_ne (memory : Memory) {index other : Nat} (different : other ≠ index)
    (msg : UInt64) : h2gMsg (memory.store64 (h2gSlot index) msg) other = h2gMsg memory other := by
  unfold h2gMsg
  apply Memory.load64_store64_disjoint
  unfold h2gSlot hostIvshmemMsgSize
  omega

theorem h2gMsg_mirrored (memory : Memory) (index : Nat) (msg : UInt64) (other : Nat) :
    h2gMsg (mirrored memory index msg) other =
      if other = h2gLatestSlot ∨ other = index then msg else h2gMsg memory other := by
  unfold mirrored
  by_cases latest : other = h2gLatestSlot
  · rw [if_pos (Or.inl latest), latest]
    exact Memory.load64_store64 _ _ _
  · rw [h2gMsg_store64_of_ne _ latest]
    by_cases history : other = index
    · rw [if_pos (Or.inr history), history]
      exact Memory.load64_store64 _ _ _
    · rw [if_neg (not_or.mpr ⟨latest, history⟩), h2gMsg_store64_of_ne _ history]

/-- A write to a history slot is accepted. -/
theorem bpfHostIvshmemH2gWrite_history {registry : HostRegistry} {backend : HostIvshmemBackend}
    (first : registry.devices 1 = some backend) (memory : Memory) {index : Nat}
    (above : h2gFirstHistorySlot ≤ index) (below : index < nrHostIvshmemMsgs) (msg : UInt64) :
    bpfHostIvshmemH2gWrite (sharing registry memory) index (some msg) =
      .ok (mirrored memory index msg) := by
  have accepted : ¬ (index = h2gLatestSlot ∨ index ≥ nrHostIvshmemMsgs) := by
    unfold h2gFirstHistorySlot at above
    unfold h2gLatestSlot
    omega
  have backed : backendMem ((sharing registry memory).devices 1) = some memory := by
    unfold sharing backendMem
    dsimp only
    rw [Function.update_self, first]
    rfl
  unfold bpfHostIvshmemH2gWrite hostIvshmemH2gWriteMsg
  rw [backed]
  exact if_neg accepted

/-! ## The publishers -/

/-- `hg_timer->index` after the increment and the two checks of
`h2g_msg_timer_callback`. -/
def nextClockSlot (index : Nat) : Nat :=
  let index := u32Succ index
  let index := if index ≥ nrHostIvshmemMsgs then h2gFirstHistorySlot else index
  if index < h2gFirstHistorySlot then h2gFirstHistorySlot else index

/-- The host maps, the shared region, the index of the clock timer, and what has
been written to the page so far: the watermarks, newest first, and the history
slots. -/
structure H2gState where
  host : HostState
  memory : Memory
  clockIndex : Nat
  published : List Watermark
  touched : List Nat

inductive H2gAction where
  | switch (input : SwitchInput)
  | phantomTick (clock : TickClock) (lastIdleAvg : Option Nat)
  | clockInit
  | clockTick (now : Nat)

namespace H2gState

/-- The region after a write whose result the publisher ignores. -/
def write (registry : HostRegistry) (state : H2gState) (index : Nat) (msg : UInt64) : Memory :=
  match bpfHostIvshmemH2gWrite (sharing registry state.memory) index (some msg) with
  | .ok memory => memory
  | .error _ => state.memory

/-- One execution of the handler, of `callback_fn` for the VM under `key`, of
`h2g_msg_timer_init` or of `h2g_msg_timer_callback`. -/
def step (registry : HostRegistry) (key : VmKey) (state : H2gState) : H2gAction → Option H2gState
  | .switch input => some { state with host := phantomSwitchHandler input state.host }
  | .phantomTick clock lastIdleAvg =>
      match callbackFn clock lastIdleAvg key state.host with
      | (host, none) => some { state with host := host }
      | (host, some watermark) => some { state with
          host := host
          memory := state.write registry watermark.index (watermarkMsg watermark)
          published := watermark :: state.published
          touched := watermark.index :: state.touched }
  | .clockInit => some { state with
      memory := state.write registry 0 0
      clockIndex := 0 }
  | .clockTick now =>
      let index := nextClockSlot state.clockIndex
      some { state with
        memory := state.write registry index (UInt64.ofNat (now / 1000))
        clockIndex := index
        touched := index :: state.touched }

/-- Nothing has been written to the page yet. -/
def start (host : HostState) (memory : Memory) : H2gState := ⟨host, memory, 0, [], []⟩

/-- After the first tick that publishes, every history slot written so far and
the latest slot hold a published watermark, and the fields of the latest slot are
the averages of the newest one. -/
def OneMeaning (state : H2gState) : Prop :=
  ∀ newest earlier, state.published = newest :: earlier →
    (∀ slot, slot = h2gLatestSlot ∨ slot ∈ state.touched →
      ∃ watermark ∈ state.published, h2gMsg state.memory slot = watermarkMsg watermark) ∧
    phantomField (h2gMsg state.memory h2gLatestSlot) = (newest.phantomAvg % 2 ^ 16).toNat ∧
    idleField (h2gMsg state.memory h2gLatestSlot) = newest.idleAvg % 2 ^ 16

/-- The clock timer does not fire. -/
def ClockSilent (_ : H2gState) : H2gAction → Prop
  | .clockTick _ => False
  | _ => True

/-! ## Runs without the clock timer -/

/-- The page holds published watermarks in the slots written so far, and the
newest one in the latest slot. -/
structure Sound (state : H2gState) : Prop where
  history : ∀ slot ∈ state.touched,
    ∃ watermark ∈ state.published, h2gMsg state.memory slot = watermarkMsg watermark
  latest : ∀ newest earlier, state.published = newest :: earlier →
    h2gMsg state.memory h2gLatestSlot = watermarkMsg newest

theorem sound_start (host : HostState) (memory : Memory) : (start host memory).Sound where
  history _ member := nomatch member
  latest _ _ published := nomatch published

variable {state next : H2gState} {registry : HostRegistry} {backend : HostIvshmemBackend}
  {key : VmKey}

theorem Sound.oneMeaning (sound : state.Sound) : state.OneMeaning := by
  intro newest earlier published
  have latest := sound.latest newest earlier published
  refine ⟨?_, ?_⟩
  · rintro slot (rfl | touched)
    · exact ⟨newest, published ▸ List.mem_cons_self, latest⟩
    · exact sound.history slot touched
  · rw [latest]
    exact watermarkMsg_fields newest

/-- A watermark goes to a history slot. -/
theorem callbackFn_history_slot {clock : TickClock} {lastIdleAvg : Option Nat}
    {host after : HostState} {watermark : Watermark}
    (ticked : callbackFn clock lastIdleAvg key host = (after, some watermark)) :
    h2gFirstHistorySlot ≤ watermark.index ∧ watermark.index < nrHostIvshmemMsgs := by
  rcases callbackFn_cases clock lastIdleAvg key host with
    idle | ⟨vm, old, new, found, first, second⟩
  · cases idle.symm.trans ticked
  · have published := Option.some.inj
      ((congrArg Prod.snd ticked).symm.trans (callbackFn_watermark clock lastIdleAvg found first second))
    have slots : h2gFirstHistorySlot + h2gHistorySlotCount = nrHostIvshmemMsgs := rfl
    have inside := Nat.mod_lt vm.h2gHistoryIndex (by decide : 0 < h2gHistorySlotCount)
    rw [published]
    dsimp only
    omega

/-- A write to a history slot reaches the page. -/
theorem write_history (first : registry.devices 1 = some backend) (state : H2gState) {index : Nat}
    (above : h2gFirstHistorySlot ≤ index) (below : index < nrHostIvshmemMsgs) (msg : UInt64) :
    state.write registry index msg = mirrored state.memory index msg := by
  unfold write
  rw [bpfHostIvshmemH2gWrite_history first _ above below]

/-- The state after a tick of the phantom timer that publishes. -/
def publish (state : H2gState) (host : HostState) (watermark : Watermark) : H2gState :=
  { state with
    host := host
    memory := mirrored state.memory watermark.index (watermarkMsg watermark)
    published := watermark :: state.published
    touched := watermark.index :: state.touched }

theorem step_phantomTick (first : registry.devices 1 = some backend) {clock : TickClock}
    {lastIdleAvg : Option Nat} {host : HostState} {watermark : Watermark}
    (ticked : callbackFn clock lastIdleAvg key state.host = (host, some watermark)) :
    state.step registry key (.phantomTick clock lastIdleAvg) =
      some (state.publish host watermark) := by
  rcases callbackFn_history_slot ticked with ⟨above, below⟩
  unfold H2gState.step
  dsimp only
  rw [ticked]
  dsimp only
  rw [write_history first state above below]
  rfl

theorem Sound.publish (sound : state.Sound) (host : HostState) (watermark : Watermark) :
    (state.publish host watermark).Sound := by
  refine ⟨fun slot touched => ?_, fun newest earlier published => ?_⟩
  · unfold H2gState.publish
    dsimp only
    rw [h2gMsg_mirrored]
    split
    · exact ⟨watermark, List.mem_cons_self, rfl⟩
    · rename_i elsewhere
      rcases List.mem_cons.mp touched with own | before
      · exact absurd (Or.inr own) elsewhere
      · rcases sound.history slot before with ⟨old, member, holds⟩
        exact ⟨old, List.mem_cons_of_mem _ member, holds⟩
  · obtain rfl := (List.cons.inj published).1
    unfold H2gState.publish
    dsimp only
    rw [h2gMsg_mirrored, if_pos (Or.inl rfl)]

theorem Sound.phantomTick (sound : state.Sound) (first : registry.devices 1 = some backend)
    {clock : TickClock} {lastIdleAvg : Option Nat}
    (taken : state.step registry key (.phantomTick clock lastIdleAvg) = some next) :
    next.Sound := by
  cases ticked : callbackFn clock lastIdleAvg key state.host with
  | mk host result =>
      cases result with
      | none =>
          unfold H2gState.step at taken
          dsimp only at taken
          rw [ticked] at taken
          obtain rfl := Option.some.inj taken
          exact ⟨sound.history, sound.latest⟩
      | some watermark =>
          obtain rfl := Option.some.inj ((step_phantomTick first ticked).symm.trans taken)
          exact sound.publish host watermark

/-- The clock timer starts with a write to the latest slot, which is refused. -/
theorem write_latest (registry : HostRegistry) (state : H2gState) (msg : UInt64) :
    state.write registry h2gLatestSlot msg = state.memory := by
  unfold write bpfHostIvshmemH2gWrite hostIvshmemH2gWriteMsg
  cases backendMem ((sharing registry state.memory).devices 1) with
  | none => rfl
  | some memory => rfl

theorem Sound.step (sound : state.Sound) (first : registry.devices 1 = some backend)
    {action : H2gAction} (silent : state.ClockSilent action)
    (taken : state.step registry key action = some next) : next.Sound := by
  cases action with
  | switch input =>
      obtain rfl := Option.some.inj taken
      exact ⟨sound.history, sound.latest⟩
  | phantomTick clock lastIdleAvg => exact sound.phantomTick first taken
  | clockInit =>
      obtain rfl := Option.some.inj taken
      have refused : state.write registry 0 0 = state.memory := write_latest registry state 0
      constructor
      · dsimp only
        rw [refused]
        exact sound.history
      · dsimp only
        rw [refused]
        exact sound.latest
  | clockTick now => exact silent.elim

/-- **One meaning for the page.** In every run in which the clock timer does not
fire, the page holds published watermarks, and the newest one in its latest slot. -/
theorem one_meaning_when_clock_silent (first : registry.devices 1 = some backend) (host : HostState)
    (memory : Memory) {actions : List H2gAction} {final : H2gState}
    (run : GuardedRun (H2gState.step registry key) ClockSilent (start host memory) actions final) :
    final.OneMeaning := by
  have sound : final.Sound := by
    apply run.invariant Sound _ (sound_start host memory)
    intro state action next sound silent taken
    exact sound.step first silent taken
  exact sound.oneMeaning

instance (state : H2gState) : (action : H2gAction) → Decidable (state.ClockSilent action)
  | .switch _ => inferInstanceAs (Decidable True)
  | .phantomTick _ _ => inferInstanceAs (Decidable True)
  | .clockInit => inferInstanceAs (Decidable True)
  | .clockTick _ => inferInstanceAs (Decidable False)

end H2gState

/-! ## One VM -/

/-- The registry with the region of one VM with one vCPU. -/
def loneRegistry : HostRegistry :=
  ⟨1, Function.update (fun _ => none) 1 (some (firstBackend 1))⟩

theorem loneRegistry_first : loneRegistry.devices 1 = some (firstBackend 1) :=
  rfl

namespace H2gState

/-- Two ticks of the phantom timer, with the start of the clock timer between
them. -/
theorem silent_clock_one_meaning :
    ∃ final, GuardedRun (H2gState.step loneRegistry (vmKey loneName.bytes)) ClockSilent
        (start loneHost fun _ => 0)
        [.phantomTick ⟨10, 10, 10⟩ (some 3), .clockInit, .phantomTick ⟨20, 20, 20⟩ (some 4)]
        final ∧
      final.published.length = 2 ∧ final.OneMeaning := by
  have executed : (exec (H2gState.step loneRegistry (vmKey loneName.bytes)) ClockSilent
      (start loneHost fun _ => 0)
      [.phantomTick ⟨10, 10, 10⟩ (some 3), .clockInit, .phantomTick ⟨20, 20, 20⟩ (some 4)]).any
      (fun final => decide (final.published.length = 2)) = true := by
    decide +kernel
  rcases (Option.any_eq_true _ _).mp executed with ⟨final, reached, two⟩
  have run := guardedRun_of_exec reached
  exact ⟨final, run, of_decide_eq_true two,
    one_meaning_when_clock_silent loneRegistry_first loneHost (fun _ => 0) run⟩

/-- A tick of the clock timer after one of the phantom timer: the latest slot holds
the clock, which a reader takes for an idle average of 5000. -/
theorem clock_read_as_watermark :
    ∃ final, GuardedRun (H2gState.step loneRegistry (vmKey loneName.bytes)) (fun _ _ => True)
        (start loneHost fun _ => 0) [.phantomTick ⟨10, 10, 10⟩ (some 3), .clockTick 5000000]
        final ∧
      idleField (h2gMsg final.memory h2gLatestSlot) = 5000 ∧ ¬ final.OneMeaning := by
  have executed : (exec (H2gState.step loneRegistry (vmKey loneName.bytes)) (fun _ _ => True)
      (start loneHost fun _ => 0)
      [.phantomTick ⟨10, 10, 10⟩ (some 3), .clockTick 5000000]).any
      (fun final => decide (idleField (h2gMsg final.memory h2gLatestSlot) = 5000 ∧
        final.published.map Watermark.idleAvg = [3])) = true := by
    decide +kernel
  rcases (Option.any_eq_true _ _).mp executed with ⟨final, reached, inspected⟩
  rcases of_decide_eq_true inspected with ⟨clock, idle⟩
  refine ⟨final, guardedRun_of_exec reached, clock, fun oneMeaning => ?_⟩
  rcases List.map_eq_cons_iff.mp idle with ⟨newest, earlier, published, average, _⟩
  have field := (oneMeaning newest earlier published).2.2
  rw [clock, average] at field
  cases field

end H2gState

end PhantomTracker.Joint
