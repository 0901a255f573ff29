import PhantomTracker.Host.NoLostUpdate
import PhantomTracker.Host.SerialRuns

/-!
Contract: a `sched_switch` event that is handled more than once.

Owns: when a half of `phantom_switch_handler` finds nothing to do, that a
complete handler leaves both halves with nothing to do for its own event, and
that a run in which some events reach several attached copies of the program ends
in the maps of the run in which each event reaches one.

Does not own: handlers that interleave, or a guest page that changes between two
copies of one event.
-/

namespace PhantomTracker.Host

open PhantomTracker.Foundation

/-- The same event with the same guest-to-host page. The clock may have moved. -/
structure SwitchInput.Repeats (again first : SwitchInput) : Prop where
  event : again.event = first.event
  g2hRead : again.g2hRead = first.g2hRead

theorem SwitchInput.Repeats.msg {again first : SwitchInput} (repeats : again.Repeats first)
    (vcpu : VcpuT) : again.msg vcpu = first.msg vcpu := by
  unfold SwitchInput.msg
  rw [repeats.g2hRead]

/-! ## Halves with nothing to do -/

/-- The incoming half does not flip the flag of the incoming task. -/
def IncomingDone (input : SwitchInput) (state : HostState) : Prop :=
  ∀ vcpu, state.vcpus.lookup input.event.nextPid = some vcpu →
    ¬ (input.msg vcpu = 1 ∧ vcpu.isPhantom = Half.incoming.expected)

/-- The outgoing half does not flip the flag of the outgoing task. -/
def OutgoingDone (input : SwitchInput) (prevState : Nat) (state : HostState) : Prop :=
  ∀ vcpu, state.vcpus.lookup input.event.prevPid = some vcpu →
    ¬ (input.msg vcpu = 1 ∧ (prevState = taskRunning ∨ prevState = taskWaking) ∧
      vcpu.isPhantom = Half.outgoing.expected)

section Halves

variable {input : SwitchInput} {state : HostState} {prevState : Nat}

theorem incomingSwitch_of_done (done : IncomingDone input state) :
    (incomingSwitch input state).1 = state := by
  unfold incomingSwitch
  cases found : state.vcpus.lookup input.event.nextPid with
  | none => rfl
  | some vcpu => simp only [if_neg (done vcpu found)]

theorem outgoingSwitch_of_done (done : OutgoingDone input prevState state) :
    outgoingSwitch input prevState state = state := by
  unfold outgoingSwitch
  cases found : state.vcpus.lookup input.event.prevPid with
  | none => rfl
  | some vcpu => simp only [if_neg (done vcpu found)]

theorem incomingDone_incomingSwitch (input : SwitchInput) (state : HostState) :
    IncomingDone input (incomingSwitch input state).1 := by
  intro after foundAfter
  cases found : state.vcpus.lookup input.event.nextPid with
  | none =>
      unfold incomingSwitch at foundAfter
      simp only [found] at foundAfter
      cases foundAfter
  | some vcpu =>
      rw [incomingSwitch_vcpus_own found] at foundAfter
      cases foundAfter
      by_cases fires : input.msg vcpu = 1 ∧ vcpu.isPhantom = 1
      · rw [if_pos fires]
        exact fun again => Nat.zero_ne_one again.2
      · rw [if_neg fires]
        exact fires

theorem outgoingDone_outgoingSwitch (input : SwitchInput) (prevState : Nat) (state : HostState) :
    OutgoingDone input prevState (outgoingSwitch input prevState state) := by
  intro after foundAfter
  unfold outgoingSwitch at foundAfter
  cases found : state.vcpus.lookup input.event.prevPid with
  | none =>
      simp only [found] at foundAfter
      cases foundAfter
  | some vcpu =>
      simp only [found] at foundAfter
      split at foundAfter
      case isTrue fires =>
          rw [switchHalf_vcpus, AList.lookup_insert] at foundAfter
          cases foundAfter
          exact fun again => Nat.one_ne_zero again.2.2
      case isFalse quiet =>
          rw [found] at foundAfter
          cases foundAfter
          exact quiet

/-- The outgoing half does not touch the entry of another task. -/
theorem IncomingDone.outgoingSwitch (done : IncomingDone input state)
    (different : input.event.prevPid ≠ input.event.nextPid) :
    IncomingDone input (outgoingSwitch input prevState state) := by
  intro vcpu found
  rw [outgoingSwitch_vcpus_of_ne different.symm] at found
  exact done vcpu found

end Halves

/-! ## Handling an event again -/

section Again

variable {first again : SwitchInput}

theorem incomingDone_again (repeats : again.Repeats first) {state : HostState}
    (done : IncomingDone first state) : IncomingDone again state := by
  intro vcpu found
  rw [repeats.event] at found
  rw [repeats.msg]
  exact done vcpu found

theorem outgoingDone_again (repeats : again.Repeats first) {state : HostState} {prevState : Nat}
    (done : OutgoingDone first prevState state) : OutgoingDone again prevState state := by
  intro vcpu found
  rw [repeats.event] at found
  rw [repeats.msg]
  exact done vcpu found

/-- After a handler, the incoming task is a vCPU exactly if it was one before. -/
theorem lookup_next_isSome (different : first.event.prevPid ≠ first.event.nextPid)
    (state : HostState) :
    ((phantomSwitchHandler first state).vcpus.lookup first.event.nextPid).isSome =
      (state.vcpus.lookup first.event.nextPid).isSome := by
  unfold phantomSwitchHandler
  dsimp only
  rw [outgoingSwitch_vcpus_of_ne different.symm]
  cases found : state.vcpus.lookup first.event.nextPid with
  | none =>
      unfold incomingSwitch
      simp only [found]
  | some vcpu =>
      rw [incomingSwitch_vcpus_own found]
      rfl

theorem phantomSwitchHandler_again (repeats : again.Repeats first)
    (different : first.event.prevPid ≠ first.event.nextPid) (state : HostState) :
    phantomSwitchHandler again (phantomSwitchHandler first state) =
      phantomSwitchHandler first state := by
  have incoming : IncomingDone again (phantomSwitchHandler first state) :=
    incomingDone_again repeats
      ((incomingDone_incomingSwitch first state).outgoingSwitch different)
  have prevState : (incomingSwitch again (phantomSwitchHandler first state)).2 =
      (incomingSwitch first state).2 := by
    rw [incomingSwitch_prevState, incomingSwitch_prevState, repeats.event,
      lookup_next_isSome different]
  have outgoing : OutgoingDone again (incomingSwitch first state).2
      (phantomSwitchHandler first state) :=
    outgoingDone_again repeats (outgoingDone_outgoingSwitch first _ _)
  calc phantomSwitchHandler again (phantomSwitchHandler first state)
      = outgoingSwitch again (incomingSwitch first state).2 (phantomSwitchHandler first state) := by
        show outgoingSwitch again (incomingSwitch again _).2 (incomingSwitch again _).1 = _
        rw [prevState, incomingSwitch_of_done incoming]
    _ = phantomSwitchHandler first state := outgoingSwitch_of_done outgoing

end Again

/-! ## Runs with several attached copies -/

/-- Complete handlers, one after the other. -/
def handleAll (inputs : List SwitchInput) (state : HostState) : HostState :=
  inputs.foldl (fun current input => phantomSwitchHandler input current) state

/-- An event and the further times it is handled, by copies of the program that
are attached at that moment. -/
structure Delivery where
  first : SwitchInput
  copies : List SwitchInput

/-- The copies see the event itself, which switches between two tasks. -/
structure Delivery.Regular (delivery : Delivery) : Prop where
  different : delivery.first.event.prevPid ≠ delivery.first.event.nextPid
  repeats : ∀ again ∈ delivery.copies, again.Repeats delivery.first

theorem handleAll_copies {first : SwitchInput} (different : first.event.prevPid ≠ first.event.nextPid)
    {copies : List SwitchInput} (repeats : ∀ again ∈ copies, SwitchInput.Repeats again first)
    (state : HostState) :
    handleAll copies (phantomSwitchHandler first state) = phantomSwitchHandler first state := by
  induction copies with
  | nil => rfl
  | cons again rest inductionHypothesis =>
      show handleAll rest (phantomSwitchHandler again (phantomSwitchHandler first state)) = _
      rw [phantomSwitchHandler_again (repeats again List.mem_cons_self) different]
      exact inductionHypothesis fun other member => repeats other (List.mem_cons_of_mem _ member)

/-- **Handling an event twice is handling it once.** The second run of the handler
changes nothing, and so a run in which copies of the program handle events again
ends in the same maps as the run without them. -/
theorem repeated_event_changes_nothing :
    (∀ (first again : SwitchInput) (state : HostState), again.Repeats first →
      first.event.prevPid ≠ first.event.nextPid →
      phantomSwitchHandler again (phantomSwitchHandler first state) =
        phantomSwitchHandler first state) ∧
    ∀ (deliveries : List Delivery) (state : HostState),
      (∀ delivery ∈ deliveries, delivery.Regular) →
      handleAll (deliveries.flatMap fun delivery => delivery.first :: delivery.copies) state =
        handleAll (deliveries.map Delivery.first) state := by
  refine ⟨fun first again state repeats different =>
    phantomSwitchHandler_again repeats different state, fun deliveries => ?_⟩
  induction deliveries with
  | nil => exact fun _ _ => rfl
  | cons delivery rest inductionHypothesis =>
      intro state regular
      have head := regular delivery List.mem_cons_self
      show handleAll ((delivery.first :: delivery.copies) ++ rest.flatMap _) state =
        handleAll (rest.map Delivery.first) (phantomSwitchHandler delivery.first state)
      have split : handleAll ((delivery.first :: delivery.copies) ++
          rest.flatMap fun other => other.first :: other.copies) state =
          handleAll (rest.flatMap fun other => other.first :: other.copies)
            (handleAll delivery.copies (phantomSwitchHandler delivery.first state)) :=
        List.foldl_append
      rw [split, handleAll_copies head.different head.repeats]
      exact inductionHypothesis _ fun other member =>
        regular other (List.mem_cons_of_mem _ member)

/-- Thread 7 is preempted by a task that is not a vCPU. -/
def preemptionAt (now : Nat) : SwitchInput := ⟨⟨7, 9, 0⟩, fun _ => some 1, now, now⟩

/-- A second copy handles the preemption again: it is counted once. -/
theorem preemption_counted_once :
    countOf (vmKey [97])
      (phantomSwitchHandler (preemptionAt 6) (phantomSwitchHandler (preemptionAt 5) pairHost)) =
        1 := by
  have same := repeated_event_changes_nothing.1 (preemptionAt 5) (preemptionAt 6) pairHost
    ⟨rfl, rfl⟩ (by decide)
  rw [same]
  decide +kernel

end PhantomTracker.Host
