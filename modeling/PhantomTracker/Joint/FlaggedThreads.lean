import PhantomTracker.Joint.ParkedPhantoms
import PhantomTracker.Host.SerialRuns

/-!
Contract: the flagged vCPU threads of a VM as a set.

Owns: when the flags, and with them the counter, show a set of threads, and what
each half of the handler and a tick make of that set.

Does not own: what it means for a thread to be in the set.
-/

namespace PhantomTracker.Joint

open PhantomTracker.Foundation
open PhantomTracker.Foundation.FiniteMap
open PhantomTracker.Host

/-- The vCPU of the thread has its flag set. -/
def FlaggedIn (host : HostState) (tid : Host.Tid) : Prop :=
  ∃ vcpu, host.vcpus.lookup tid = some vcpu ∧ vcpu.isPhantom = 1

/-- The flagged threads are those of the set, all vCPUs are those of one VM, and
its counter is balanced. -/
structure Shows (key : VmKey) (members : Finset Host.Tid) (host : HostState) : Prop where
  flags : ∀ tid, tid ∈ members ↔ FlaggedIn host tid
  oneVm : OneVm key (identityOf host)
  balances : ∃ vm, Balances host key 0 vm

section Shows

variable {key : VmKey} {members : Finset Host.Tid} {host : HostState} {input : SwitchInput}

/-- The counter is the number of members. -/
theorem Shows.countOf_eq (shows : Shows key members host) : countOf key host = members.card := by
  obtain ⟨vm, balances⟩ := shows.balances
  have flagged : flaggedOf key host.vcpus = members.card := by
    apply countWhere_eq_card
    intro tid
    rw [shows.flags]
    constructor
    · rintro ⟨vcpu, found, flag⟩
      have own := shows.oneVm.named tid _ _ (identityOf_of_lookup found)
      exact ⟨vcpu, found, decide_eq_true ⟨own, flag⟩⟩
    · rintro ⟨vcpu, found, flagged⟩
      exact ⟨vcpu, found, (of_decide_eq_true flagged).2⟩
  rw [countOf_of_found balances.found, balances.count, flagged]

/-- There are no more members than vCPU indices. -/
theorem Shows.card_le (shows : Shows key members host) {bound : Nat}
    (indices : ∀ tid name index, identityOf host tid = some (name, index) → index < bound) :
    members.card ≤ bound := by
  have identified : ∀ tid ∈ members, ∃ name index, identityOf host tid = some (name, index) := by
    intro tid member
    obtain ⟨vcpu, found, _⟩ := (shows.flags tid).mp member
    exact ⟨_, _, identityOf_of_lookup found⟩
  rw [← Finset.card_range bound]
  apply Finset.card_le_card_of_injOn (fun tid => ((identityOf host tid).map Prod.snd).getD 0)
  · intro tid member
    obtain ⟨name, index, identity⟩ := identified tid member
    simp only [identity]
    exact Finset.mem_coe.mpr (Finset.mem_range.mpr (indices tid name index identity))
  · intro tid member other otherMember same
    obtain ⟨name, index, identity⟩ := identified tid member
    obtain ⟨otherName, otherIndex, otherIdentity⟩ := identified other otherMember
    simp only [identity, otherIdentity, Option.map_some, Option.getD_some] at same
    subst same
    exact shows.oneVm.distinct tid other _ _ _ identity otherIdentity

theorem Shows.halfStep {now : Nat} {after : HostState} {membersAfter : Finset Host.Tid}
    (shows : Shows key members host) (step : HalfStep now host after)
    (flags : ∀ tid, tid ∈ membersAfter ↔ FlaggedIn after tid) : Shows key membersAfter after where
  flags := flags
  oneVm := by
    rw [identityOf_halfStep step]
    exact shows.oneVm
  balances := by
    obtain ⟨vm, balances⟩ := shows.balances
    exact balances.halfStep step

/-- The incoming half takes the thread that enters out of the set, if its slot
reads 1 whenever it is flagged. -/
theorem Shows.incoming (shows : Shows key members host)
    (reads : ∀ vcpu, host.vcpus.lookup input.event.nextPid = some vcpu → vcpu.isPhantom = 1 →
      input.msg vcpu = 1) :
    Shows key (members.erase input.event.nextPid) (incomingSwitch input host).1 := by
  apply shows.halfStep (incomingSwitch_halfStep input host)
  intro tid
  rw [Finset.mem_erase]
  by_cases entering : tid = input.event.nextPid
  · subst entering
    refine iff_of_false (fun both => both.1 rfl) ?_
    rintro ⟨after, found, flag⟩
    obtain ⟨vcpu, present, _⟩ :=
      lookup_of_identityOf_eq (identityOf_halfStep (incomingSwitch_halfStep input host)) found
    rw [incomingSwitch_vcpus_own present] at found
    obtain rfl := Option.some.inj found
    split at flag
    · cases flag
    · rename_i silent
      exact silent ⟨reads vcpu present flag, flag⟩
  · unfold FlaggedIn
    rw [incomingSwitch_vcpus_of_ne entering, shows.flags]
    exact and_iff_right entering

/-- What the outgoing half asks of the thread that leaves. -/
def Leaves (input : SwitchInput) (prevState : Nat) (host : HostState) : Prop :=
  ∃ vcpu, host.vcpus.lookup input.event.prevPid = some vcpu ∧ input.msg vcpu = 1 ∧
    (prevState = taskRunning ∨ prevState = taskWaking)

theorem flaggedIn_outgoingSwitch (shows : Shows key members host) (prevState : Nat) :
    FlaggedIn (outgoingSwitch input prevState host) input.event.prevPid ↔
      Leaves input prevState host ∨ FlaggedIn host input.event.prevPid := by
  unfold FlaggedIn Leaves outgoingSwitch
  cases found : host.vcpus.lookup input.event.prevPid with
  | none => simp [found]
  | some vcpu =>
      obtain ⟨vm, balances⟩ := shows.balances
      have own := shows.oneVm.named _ _ _ (identityOf_of_lookup found)
      have binary := balances.binary _ vcpu found own
      dsimp only
      split
      · rename_i fires
        rw [switchHalf_vcpus, AList.lookup_insert]
        exact iff_of_true ⟨_, rfl, rfl⟩ (Or.inl ⟨vcpu, rfl, fires.1, fires.2.1⟩)
      · rename_i silent
        rw [found]
        constructor
        · exact Or.inr
        · rintro (⟨entry, same, one, runnable⟩ | flagged)
          · obtain rfl := Option.some.inj same
            rcases binary with clear | flag
            · exact absurd ⟨one, runnable, clear⟩ silent
            · exact ⟨vcpu, rfl, flag⟩
          · exact flagged

/-- The outgoing half puts the thread that leaves into the set, if its slot reads
1 and the state that reaches the half is a runnable one. -/
theorem Shows.outgoing (shows : Shows key members host) {prevState : Nat} {counts : Bool}
    (exactly : counts = true ↔ Leaves input prevState host) :
    Shows key (if counts then insert input.event.prevPid members else members)
      (outgoingSwitch input prevState host) := by
  apply shows.halfStep (outgoingSwitch_halfStep input prevState host)
  intro tid
  by_cases leaving : tid = input.event.prevPid
  · subst leaving
    rw [flaggedIn_outgoingSwitch shows, ← exactly, ← shows.flags]
    cases counts with
    | true => simp
    | false => simp
  · unfold FlaggedIn
    rw [outgoingSwitch_vcpus_of_ne leaving, ← FlaggedIn, ← shows.flags]
    cases counts with
    | true => exact Finset.mem_insert.trans (or_iff_right leaving)
    | false => rfl

/-- A tick leaves the counter balanced. -/
theorem balances_callbackFn {room : Nat} {vm : VmT} (balances : Balances host key room vm)
    (clock : TickClock) (lastIdleAvg : Option Nat) :
    ∃ vmAfter, Balances (callbackFn clock lastIdleAvg key host).1 key room vmAfter := by
  rcases callbackFn_cases clock lastIdleAvg key host with
    idle | ⟨current, old, new, present, first, second⟩
  · rw [idle]
    exact ⟨vm, balances⟩
  · obtain rfl := Option.some.inj (balances.found.symm.trans present)
    refine ⟨vm.ticked, ?_, ?_, ?_, ?_⟩
    · rw [callbackFn_of_buffered present first second]
      exact AList.lookup_insert _
    · rw [ticked_phantomCount, callbackFn_vcpus]
      exact balances.count
    · rw [ticked_nbVcpus, callbackFn_vcpus]
      exact balances.ceiling
    · rw [callbackFn_vcpus]
      exact balances.binary

theorem identityOf_callbackFn (clock : TickClock) (lastIdleAvg : Option Nat) (vmName : VmKey)
    (host : HostState) :
    identityOf (callbackFn clock lastIdleAvg vmName host).1 = identityOf host := by
  unfold identityOf
  rw [callbackFn_vcpus]

/-- A tick leaves the set alone. -/
theorem Shows.tick (shows : Shows key members host) (clock : TickClock)
    (lastIdleAvg : Option Nat) : Shows key members (callbackFn clock lastIdleAvg key host).1 where
  flags tid := by
    unfold FlaggedIn
    rw [callbackFn_vcpus]
    exact shows.flags tid
  oneVm := by
    rw [identityOf_callbackFn]
    exact shows.oneVm
  balances := by
    obtain ⟨vm, balances⟩ := shows.balances
    exact balances_callbackFn balances clock lastIdleAvg

end Shows

end PhantomTracker.Joint
