import PhantomTracker.Foundation.ReleaseBuffer
import PhantomTracker.Joint.H2gPage
import PhantomTracker.Shmem.RegistryIoctl

/-!
Contract: in which order the guest sees the two stores of a host-to-guest message.

Owns: the stores of `host_ivshmem_h2g_write_msg` on a machine that delays and reorders
them, what a reader of the latest slot finds in the history afterwards, that this needs
the release store, and that the page is the one of the sequential writes once all
stores have arrived.

Does not own: two publishers that write at the same time, or which slots they choose.
-/

namespace PhantomTracker.Joint

open PhantomTracker.Foundation
open PhantomTracker.Shmem

/-- The stores of a sequence of messages, each given with its history slot: first the
history slot, then the latest slot, which the source writes with `smp_store_release`. -/
def publications (release : Bool) (writes : Nat → Nat × UInt64) (store : Nat) :
    Store Nat UInt64 :=
  if store % 2 = 0 then ⟨(writes (store / 2)).1, (writes (store / 2)).2, false⟩
  else ⟨h2gLatestSlot, (writes (store / 2)).2, release⟩

/-- `host_ivshmem_h2g_write_msg` accepts the writes. -/
def HistoryWrites (writes : Nat → Nat × UInt64) : Prop :=
  ∀ message, h2gFirstHistorySlot ≤ (writes message).1 ∧ (writes message).1 < nrHostIvshmemMsgs

section Stores

variable {release : Bool} {writes : Nat → Nat × UInt64}

theorem publications_history (message : Nat) :
    publications release writes (2 * message) =
      ⟨(writes message).1, (writes message).2, false⟩ := by
  have half : 2 * message / 2 = message := by omega
  unfold publications
  rw [if_pos (by omega), half]

theorem publications_latest (message : Nat) :
    publications release writes (2 * message + 1) =
      ⟨h2gLatestSlot, (writes message).2, release⟩ := by
  have half : (2 * message + 1) / 2 = message := by omega
  unfold publications
  rw [if_neg (by omega), half]

/-- Every store is the history store or the latest store of a message. -/
theorem publications_cases (store : Nat) :
    (∃ message, store = 2 * message) ∨ ∃ message, store = 2 * message + 1 := by
  rcases Nat.mod_two_eq_zero_or_one store with even | odd
  · exact Or.inl ⟨store / 2, by omega⟩
  · exact Or.inr ⟨store / 2, by omega⟩

/-- A store to a history slot belongs to a message for that slot. -/
theorem history_store (accepted : HistoryWrites writes) {message store : Nat}
    (placed : (publications release writes store).place = (writes message).1) :
    ∃ other, store = 2 * other ∧ (writes other).1 = (writes message).1 := by
  rcases publications_cases store with ⟨other, rfl⟩ | ⟨other, rfl⟩
  · rw [publications_history] at placed
    exact ⟨other, rfl, placed⟩
  · rw [publications_latest] at placed
    have positive := (accepted message).1
    rw [← show h2gLatestSlot = (writes message).1 from placed] at positive
    exact absurd positive (by decide)

/-- A store to the latest slot belongs to some message. -/
theorem latest_store (accepted : HistoryWrites writes) {store : Nat}
    (placed : (publications release writes store).place = h2gLatestSlot) :
    ∃ message, store = 2 * message + 1 := by
  rcases publications_cases store with ⟨message, rfl⟩ | ⟨message, rfl⟩
  · rw [publications_history] at placed
    have positive := (accepted message).1
    rw [show (writes message).1 = h2gLatestSlot from placed] at positive
    exact absurd positive (by decide)
  · exact ⟨message, rfl⟩

end Stores

/-! ## What a reader of the latest slot finds -/

/-- Whoever has seen a message in the latest slot finds, at any later time, that message
or a later one both in its history slot and in the latest slot. -/
def PublishesInOrder (release : Bool) : Prop :=
  ∀ (writes : Nat → Nat × UInt64) (page : Nat → UInt64) (before after : List BufferAction)
    (seen later : Buffered Nat UInt64) (message : Nat), HistoryWrites writes →
    Buffered.Run (publications release writes) (Buffered.start page) before seen →
    seen.shown h2gLatestSlot = some (2 * message + 1) →
    Buffered.Run (publications release writes) seen after later →
    (∃ newer, message ≤ newer ∧ (writes newer).1 = (writes message).1 ∧
        later.memory (writes message).1 = (writes newer).2) ∧
      ∃ newer, message ≤ newer ∧ later.memory h2gLatestSlot = (writes newer).2

theorem publishesInOrder_release : PublishesInOrder true := by
  intro writes page before after seen later message accepted reached shown run
  have ordered : Buffered.Ordered (publications true writes) page seen :=
    (Buffered.ordered_start _ page).run reached
  have final := ordered.run run
  constructor
  · -- The release store arrived after the history store of its message.
    have released : (publications true writes (2 * message + 1)).release = true := by
      rw [publications_latest]
    obtain ⟨there, shownThere, order⟩ :=
      ordered.of_release shown released (Nat.lt_succ_self (2 * message))
    rw [publications_history] at shownThere
    obtain ⟨store, shownLater, newer⟩ := ordered.shown_run run shownThere
    have shows := final.shows _ store shownLater
    obtain ⟨other, rfl, same⟩ := history_store accepted shows.placed
    have stored := shows.stored
    rw [publications_history] at stored
    exact ⟨other, by omega, same, stored⟩
  · obtain ⟨store, shownLater, newer⟩ := ordered.shown_run run shown
    have shows := final.shows _ store shownLater
    obtain ⟨other, rfl⟩ := latest_store accepted shows.placed
    have stored := shows.stored
    rw [publications_latest] at stored
    exact ⟨other, by omega, stored⟩

/-- With a plain store the latest slot can show a message that its history slot does not
have. -/
theorem not_publishesInOrder_plain : ¬PublishesInOrder false := by
  intro inOrder
  have accepted : HistoryWrites fun _ => (1, 1) := fun _ =>
    show h2gFirstHistorySlot ≤ 1 ∧ 1 < nrHostIvshmemMsgs by decide
  have check : (exec (Buffered.step (publications false fun _ => (1, 1))) (fun _ _ => True)
      (Buffered.start fun _ => 0) [.issue, .issue, .drain 1]).any (fun seen =>
        decide (seen.shown h2gLatestSlot = some 1 ∧ seen.memory 1 = 0)) = true := by
    decide
  obtain ⟨seen, executed, both⟩ := (Option.any_eq_true _ _).mp check
  obtain ⟨shown, absent⟩ := of_decide_eq_true both
  obtain ⟨⟨newer, -, -, stored⟩, -⟩ := inOrder (fun _ => (1, 1)) (fun _ => 0) _ [] seen seen 0
    accepted (guardedRun_of_exec executed) shown (.nil seen)
  rw [absent] at stored
  exact absurd stored (by decide)

/-- **The history is visible before the latest message.** On a machine that delays and
reorders the stores of the publisher, a reader that has seen a message in the latest
slot always finds that message or a later one in its history slot, and never an older
one in the latest slot, if and only if the store to the latest slot is a release
store, as it is in `host_ivshmem_h2g_write_msg`. -/
theorem history_before_latest_iff (release : Bool) :
    PublishesInOrder release ↔ release = true := by
  cases release with
  | true => exact iff_of_true publishesInOrder_release rfl
  | false => exact iff_of_false not_publishesInOrder_plain Bool.false_ne_true

/-! ## The page once all stores have arrived -/

/-- The region after the first messages have been written one after the other. -/
def writtenRegion (registry : HostRegistry) (writes : Nat → Nat × UInt64) (region : Memory) :
    Nat → Except Errno Memory
  | 0 => .ok region
  | count + 1 =>
      match writtenRegion registry writes region count with
      | .error ret => .error ret
      | .ok memory =>
          bpfHostIvshmemH2gWrite (sharing registry memory) (writes count).1
            (some (writes count).2)

theorem writtenRegion_eq {registry : HostRegistry} {backend : HostIvshmemBackend}
    (first : registry.devices 1 = some backend) {writes : Nat → Nat × UInt64}
    (accepted : HistoryWrites writes) (release : Bool) (region : Memory) (count : Nat) :
    ∃ memory, writtenRegion registry writes region count = .ok memory ∧
      ∀ slot, h2gMsg memory slot =
        Buffered.sequential (publications release writes) (h2gMsg region) (2 * count) slot := by
  induction count with
  | zero => exact ⟨region, rfl, fun _ => rfl⟩
  | succ count inductionHypothesis =>
      obtain ⟨memory, written, same⟩ := inductionHypothesis
      refine ⟨mirrored memory (writes count).1 (writes count).2, ?_, fun slot => ?_⟩
      · simp only [writtenRegion, written]
        exact bpfHostIvshmemH2gWrite_history first memory (accepted count).1 (accepted count).2 _
      · have twice : 2 * (count + 1) = 2 * count + 1 + 1 := by omega
        rw [h2gMsg_mirrored, twice, Buffered.sequential, Buffered.sequential, publications_latest,
          publications_history]
        by_cases latest : slot = h2gLatestSlot
        · rw [if_pos (Or.inl latest), latest, Function.update_self]
        · rw [Function.update_of_ne latest]
          by_cases history : slot = (writes count).1
          · rw [if_pos (Or.inr history), history, Function.update_self]
          · rw [if_neg (not_or.mpr ⟨latest, history⟩), Function.update_of_ne history]
            exact same slot

/-- **The delayed page is the sequential page.** However the stores of the messages are
delayed and reordered, with or without the release store, once all of them have arrived
every slot holds what the same calls of `bpf_host_ivshmem_h2g_write`, executed one
after the other, leave in it. -/
theorem settled_page_eq {registry : HostRegistry} {backend : HostIvshmemBackend}
    (first : registry.devices 1 = some backend) {writes : Nat → Nat × UInt64}
    (accepted : HistoryWrites writes) (release : Bool) (region : Memory)
    {actions : List BufferAction} {final : Buffered Nat UInt64} {count : Nat}
    (run : Buffered.Run (publications release writes) (Buffered.start (h2gMsg region)) actions
      final)
    (issued : final.issued = 2 * count) (settled : final.pending = ∅) :
    ∃ memory, writtenRegion registry writes region count = .ok memory ∧
      ∀ slot, final.memory slot = h2gMsg memory slot := by
  obtain ⟨memory, written, same⟩ := writtenRegion_eq first accepted release region count
  refine ⟨memory, written, fun slot => ?_⟩
  have ordered := (Buffered.ordered_start _ (h2gMsg region)).run run
  rw [same, ordered.memory_eq_sequential settled, issued]

/-- Messages that take turns in the first two history slots. -/
def alternating (message : Nat) : Nat × UInt64 :=
  (message % 2 + 1, if message % 2 = 0 then 10 else 11)

theorem alternating_history : HistoryWrites alternating := by
  intro message
  have room : 2 < nrHostIvshmemMsgs := by decide
  simp only [alternating, h2gFirstHistorySlot]
  omega

/-- The second message reaches its history slot before the first one reaches the latest
slot, and the page is the sequential one all the same. -/
theorem overtaking_settles :
    ∃ memory, writtenRegion (registered 1 HostRegistry.loaded) alternating (fun _ => 0) 2 =
        .ok memory ∧
      h2gMsg memory h2gLatestSlot = 11 ∧ h2gMsg memory 1 = 10 ∧ h2gMsg memory 2 = 11 := by
  have check : (exec (Buffered.step (publications true alternating)) (fun _ _ => True)
      (Buffered.start (h2gMsg fun _ => 0))
      [.issue, .issue, .issue, .issue, .drain 0, .drain 2, .drain 1, .drain 3]).any (fun final =>
        decide (final.issued = 2 * 2 ∧ final.pending = ∅ ∧ final.memory h2gLatestSlot = 11 ∧
          final.memory 1 = 10 ∧ final.memory 2 = 11)) = true := by
    decide
  obtain ⟨final, executed, facts⟩ := (Option.any_eq_true _ _).mp check
  obtain ⟨issued, settled, latest, one, two⟩ := of_decide_eq_true facts
  obtain ⟨memory, written, same⟩ := settled_page_eq
    (show (registered 1 HostRegistry.loaded).devices 1 = some _ from rfl)
    alternating_history true (fun _ => 0) (guardedRun_of_exec executed) issued settled
  exact ⟨memory, written, (same _).symm.trans latest, (same _).symm.trans one,
    (same _).symm.trans two⟩

end PhantomTracker.Joint
