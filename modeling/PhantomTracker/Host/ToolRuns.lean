import PhantomTracker.Foundation.Runs
import PhantomTracker.Host.ToolTasks

/-!
Contract: the accounting theorem over whole runs of the tools and the handler.

Owns: the invariant of the tool machine, its preservation by every step, the
theorem that the counter of a registered VM counts its flagged vCPUs, and runs
that drift when the tools are not used in order.

Does not own: what a single map operation does to an account.
-/

namespace PhantomTracker.Host

open PhantomTracker.Foundation

/-! ## The invariant of the tool machine -/

structure ToolInvariant (machine : ToolMachine) : Prop where
  tasks : ∀ pid, TaskHolds machine.host (machine.tasks pid)
  exclusive : ∀ first second vmName, (machine.tasks first).vmName = some vmName →
    (machine.tasks second).vmName = some vmName → first = second
  settled : ∀ vmName, machine.registered vmName = true →
    vmName.bytes.length < vmNameLen ∧ machine.Unclaimed vmName ∧
      ∃ vm, Balances machine.host (vmKey vmName.bytes) 0 vm

section Invariant

variable {machine : ToolMachine} {pid : ProcessId} {task : ToolTask}

theorem vmName_of_update {vmName : CString} {other : ProcessId}
    (sameVm : ∀ vmName, task.vmName = some vmName → (machine.tasks pid).vmName = some vmName)
    (works : (Function.update machine.tasks pid task other).vmName = some vmName) :
    (machine.tasks other).vmName = some vmName := by
  rcases update_cases (fun task : ToolTask => task.vmName = some vmName) works with
    ⟨rfl, own⟩ | ⟨_, unmoved⟩
  · exact sameVm vmName own
  · exact unmoved

/-- A process moves to a task of the same VM or ends, and the maps keep the
accounts of all other VMs. -/
theorem ToolInvariant.replace (invariant : ToolInvariant machine) {host : HostState}
    (holds : TaskHolds host task)
    (sameVm : ∀ vmName, task.vmName = some vmName →
      (machine.tasks pid).vmName = some vmName)
    (kept : ∀ vmName, vmName.bytes.length < vmNameLen →
      (machine.tasks pid).vmName ≠ some vmName → Keeps vmName machine.host host) :
    ToolInvariant ⟨host, Function.update machine.tasks pid task, machine.registered⟩ where
  tasks other := by
    show TaskHolds host (Function.update machine.tasks pid task other)
    by_cases same : other = pid
    · subst same
      rw [Function.update_self]
      exact holds
    · rw [Function.update_of_ne same]
      cases works : (machine.tasks other).vmName with
      | none =>
          cases current : machine.tasks other with
          | idle => trivial
          | _ => rw [current] at works; cases works
      | some vmName =>
          have short := (invariant.tasks other).short works
          have different : (machine.tasks pid).vmName ≠ some vmName := fun claimed =>
            same (invariant.exclusive other pid vmName works claimed)
          exact (invariant.tasks other).of_keeps works (kept vmName short different)
  exclusive first second vmName firstWorks secondWorks :=
    invariant.exclusive first second vmName (vmName_of_update sameVm firstWorks)
      (vmName_of_update sameVm secondWorks)
  settled vmName registered := by
    obtain ⟨short, unclaimed, vm, balances⟩ := invariant.settled vmName registered
    exact ⟨short, fun other works => unclaimed other (vmName_of_update sameVm works),
      (kept vmName short (unclaimed pid)).balances 0 vm balances⟩

theorem ToolInvariant.launch (invariant : ToolInvariant machine) {vmName : CString}
    {next : ToolMachine} (works : task.vmName = some vmName)
    (unclaimed : machine.Unclaimed vmName) (holds : TaskHolds machine.host task)
    (launched : machine.launch pid task vmName = some next) : ToolInvariant next := by
  have taken : next = ⟨machine.host, Function.update machine.tasks pid task,
      Function.update machine.registered vmName false⟩ := by
    unfold ToolMachine.launch at launched
    split at launched
    · exact (Option.some.inj launched).symm
    · cases launched
  subst taken
  refine ⟨fun other => ?_, fun first second name firstWorks secondWorks => ?_,
    fun name registered => ?_⟩
  · exact (Function.forall_update_iff machine.tasks fun _ task => TaskHolds machine.host task).mpr
      ⟨holds, fun other _ => invariant.tasks other⟩ other
  · rcases update_cases (fun task : ToolTask => task.vmName = some name) firstWorks with
      ⟨firstNew, firstStarts⟩ | ⟨_, firstWorked⟩ <;>
    rcases update_cases (fun task : ToolTask => task.vmName = some name) secondWorks with
      ⟨secondNew, secondStarts⟩ | ⟨_, secondWorked⟩
    · rw [firstNew, secondNew]
    · rw [← firstStarts, works] at secondWorked
      exact absurd secondWorked (unclaimed second)
    · rw [← secondStarts, works] at firstWorked
      exact absurd firstWorked (unclaimed first)
    · exact invariant.exclusive first second name firstWorked secondWorked
  · rcases update_cases (fun flag : Bool => flag = true) registered with
      ⟨_, started⟩ | ⟨different, before⟩
    · cases started
    · obtain ⟨short, free, balances⟩ := invariant.settled name before
      refine ⟨short, fun other claimed => ?_, balances⟩
      rcases update_cases (fun task : ToolTask => task.vmName = some name) claimed with
        ⟨_, own⟩ | ⟨_, unmoved⟩
      · exact different (Option.some.inj (own.symm.trans works))
      · exact free other unmoved

/-- The step that completes a registration leaves a balanced, unclaimed VM. -/
theorem ToolInvariant.complete (invariant : ToolInvariant machine) {vmName : CString}
    (completes : (machine.tasks pid).completes = some vmName) :
    vmName.bytes.length < vmNameLen ∧
      (∀ other, (Function.update machine.tasks pid .idle other).vmName ≠ some vmName) ∧
      ∃ vm, Balances machine.host (vmKey vmName.bytes) 0 vm := by
  obtain ⟨args, current, rfl⟩ : ∃ args, machine.tasks pid = .registerVcpus args [] ∧
      args.vmName = vmName := by
    generalize machine.tasks pid = task at completes
    cases task with
    | registerVcpus args temp =>
        cases temp with
        | nil => exact ⟨args, rfl, Option.some.inj completes⟩
        | cons qmpDetail temp => cases completes
    | _ => cases completes
  have holds := invariant.tasks pid
  rw [current] at holds
  obtain ⟨short, _, _, balances⟩ := holds
  refine ⟨short, fun other works => ?_, balances⟩
  rcases update_cases (fun task : ToolTask => task.vmName = some args.vmName) works with
    ⟨_, own⟩ | ⟨different, unmoved⟩
  · cases own
  · exact different (invariant.exclusive other pid args.vmName unmoved (by rw [current]; rfl))

theorem ToolTask.next_of_completes (state : HostState) {vmName : CString}
    (completes : task.completes = some vmName) :
    task.apply state = state ∧ task.next state = .idle := by
  cases task with
  | registerVcpus args temp =>
      cases temp with
      | nil => exact ⟨rfl, rfl⟩
      | cons qmpDetail temp => cases completes
  | _ => cases completes

theorem ToolInvariant.advance (invariant : ToolInvariant machine)
    (allowed : taskAdmissible machine.host (machine.tasks pid) = true) :
    ToolInvariant
      ⟨(machine.tasks pid).apply machine.host,
        Function.update machine.tasks pid ((machine.tasks pid).next machine.host),
        ToolMachine.complete machine.registered (machine.tasks pid).completes⟩ := by
  have moved := invariant.replace ((invariant.tasks pid).next allowed)
    (fun _ => ToolTask.next_vmName) (fun vmName short different => by
      cases works : (machine.tasks pid).vmName with
      | none =>
          cases current : machine.tasks pid with
          | idle => exact Keeps.refl vmName machine.host
          | _ => rw [current] at works; cases works
      | some other =>
          refine ToolTask.apply_keeps (invariant.tasks pid) allowed works short fun same => ?_
          exact different (same ▸ works))
  cases completes : (machine.tasks pid).completes with
  | none => exact moved
  | some vmName =>
      obtain ⟨sameHost, ended⟩ := ToolTask.next_of_completes machine.host completes
      rw [sameHost, ended] at moved ⊢
      refine ⟨moved.tasks, moved.exclusive, fun name registered => ?_⟩
      by_cases same : name = vmName
      · subst same
        exact invariant.complete completes
      · apply moved.settled name
        simp only [ToolMachine.complete] at registered
        rw [Function.update_of_ne same] at registered
        exact registered

/-- Every step of the tool machine preserves the invariant. -/
theorem ToolInvariant.step (invariant : ToolInvariant machine) {action : ToolAction}
    {next : ToolMachine} (allowed : admissible machine action = true)
    (orderly : Orderly machine action) (taken : machine.step action = some next) :
    ToolInvariant next := by
  cases action with
  | switch input =>
      obtain rfl := Option.some.inj taken
      have kept := phantomSwitchHandler_keeps input machine.host
      refine ⟨fun pid => ?_, invariant.exclusive, fun vmName registered => ?_⟩
      · show TaskHolds (phantomSwitchHandler input machine.host) (machine.tasks pid)
        cases works : (machine.tasks pid).vmName with
        | none =>
            cases current : machine.tasks pid with
            | idle => trivial
            | _ => rw [current] at works; cases works
        | some vmName => exact (invariant.tasks pid).of_keeps works (kept vmName)
      · obtain ⟨short, unclaimed, vm, balances⟩ := invariant.settled vmName registered
        exact ⟨short, unclaimed, (kept vmName).balances 0 vm balances⟩
  | beginRegister pid args =>
      obtain ⟨short, ceiling⟩ := of_decide_eq_true allowed
      obtain ⟨unclaimed, distinct⟩ := orderly
      have holds : TaskHolds machine.host (.registerScan args) := ⟨short, ceiling, distinct⟩
      exact invariant.launch rfl unclaimed holds taken
  | beginCleanup pid vmName =>
      have short : vmName.bytes.length < vmNameLen := of_decide_eq_true allowed
      have holds : TaskHolds machine.host (.cleanupRegistry vmName .one) := short
      exact invariant.launch rfl orderly holds taken
  | advance pid =>
      obtain rfl := Option.some.inj taken
      exact invariant.advance allowed
  | fail pid =>
      obtain ⟨task, failed, rfl⟩ := Option.map_eq_some_iff.mp taken
      exact invariant.replace ((invariant.tasks pid).onFailure orderly failed)
        (fun _ => ToolTask.onFailure_vmName failed) (fun vmName _ _ => Keeps.refl vmName _)
  | kill pid =>
      obtain rfl := Option.some.inj taken
      exact invariant.replace trivial (fun _ works => by cases works)
        (fun vmName _ _ => Keeps.refl vmName _)

end Invariant

/-- The maps as they are, before the first tool is started. -/
def ToolMachine.boot (host : HostState) : ToolMachine :=
  ⟨host, fun _ => .idle, fun _ => false⟩

theorem toolInvariant_boot (host : HostState) : ToolInvariant (ToolMachine.boot host) where
  tasks _ := trivial
  exclusive _ _ _ works := by cases works
  settled _ registered := by cases registered

/-- The condition on every action of a run. -/
def ToolGuard (machine : ToolMachine) (action : ToolAction) : Prop :=
  admissible machine action = true ∧ Orderly machine action

/-- Execute a run and look for a registered VM whose counter is wrong. -/
def driftCheck (host : HostState) (actions : List ToolAction) (vmName : CString) : Bool :=
  (exec ToolMachine.step (fun machine action => admissible machine action = true)
    (ToolMachine.boot host) actions).any fun final =>
      final.registered vmName &&
        (final.host.vms.lookup (vmKey vmName.bytes)).any fun vm =>
          decide (vm.phantomCount ≠ (flaggedOf (vmKey vmName.bytes) final.host.vcpus : Int))

/-- Some admissible run through the actions ends with a registered VM whose
counter is wrong. -/
def Drifts (host : HostState) (actions : List ToolAction) (vmName : CString) : Prop :=
  ∃ final, GuardedRun ToolMachine.step (fun machine action => admissible machine action = true)
      (ToolMachine.boot host) actions final ∧
    final.registered vmName = true ∧ ¬ Accounted final.host (vmKey vmName.bytes)

theorem drifts_of_check {host : HostState} {actions : List ToolAction} {vmName : CString}
    (check : driftCheck host actions vmName = true) : Drifts host actions vmName := by
  obtain ⟨final, executed, wrong⟩ := (Option.any_eq_true _ _).mp check
  obtain ⟨registered, miscounted⟩ := (Bool.and_eq_true _ _).mp wrong
  refine ⟨final, guardedRun_of_exec executed, registered, ?_⟩
  rintro ⟨vm, found, count, _⟩
  rw [found] at miscounted
  exact of_decide_eq_true miscounted count

/-- VM `a` with the listed vCPU threads and a ceiling of 2. -/
def driftArgs (tids : List Tid) : RegisterArgs :=
  ⟨tids.map fun tid => ⟨0, tid⟩, ⟨[97], by decide⟩, ⟨[], by decide⟩, 2⟩

/-- Thread 7 is preempted, or comes back, while its guest slot reads 1. -/
def preempt : ToolAction := .switch ⟨⟨7, 0, 0⟩, fun _ => some 1, 0, 0⟩

def comeBack : ToolAction := .switch ⟨⟨0, 7, 0⟩, fun _ => some 1, 0, 0⟩

/-- A list that names thread 7 twice. -/
def repeatedThreadRun : List ToolAction :=
  [.beginRegister 0 (driftArgs [7, 7]), .advance 0, .advance 0, .advance 0, .advance 0,
    preempt, .advance 0, .advance 0]

/-- Two registrations of one VM that overlap. -/
def overlappingRun : List ToolAction :=
  [.beginRegister 0 (driftArgs [7]), .advance 0, .advance 0,
    .beginRegister 1 (driftArgs [7]), .advance 1, .advance 1,
    .advance 0, .advance 0, .advance 0, preempt,
    .advance 1, comeBack, preempt, .advance 1, .advance 1]

/-- A cleanup that has scanned and is overtaken by a registration. -/
def overtakenCleanupRun : List ToolAction :=
  [.beginRegister 0 (driftArgs [7]), .advance 0, .advance 0, .advance 0, .advance 0, .advance 0,
    .beginCleanup 1 (driftArgs []).vmName, .advance 1, .advance 1, .advance 1, .advance 1,
    .beginRegister 0 (driftArgs [7]), .advance 0, .advance 0, .advance 0, .advance 0, .advance 0,
    .advance 0, preempt, .advance 1]

/-- A second registration whose stale-vCPU scan cannot allocate its list. -/
def failedScanRun : List ToolAction :=
  [.beginRegister 0 (driftArgs [7]), .advance 0, .advance 0, .advance 0, .advance 0, .advance 0,
    preempt, .beginRegister 0 (driftArgs [8]), .fail 0, .advance 0, .advance 0, .advance 0]

/-- An action that starts no tool and fails none. -/
def ToolAction.continues : ToolAction → Bool
  | .switch _ => true
  | .advance _ => true
  | _ => false

theorem orderly_of_continues {machine : ToolMachine} {action : ToolAction}
    (continues : action.continues = true) : Orderly machine action := by
  cases action with
  | switch input => trivial
  | advance pid => trivial
  | _ => cases continues

end PhantomTracker.Host
