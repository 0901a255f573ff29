import PhantomTracker.Foundation.PinScript

/-!
Contract: the host programs around the pinned maps.

Owns: the calls of the loaders of `create_maps`, `timer` and `global_running_tracker` and
of `register_vm` that look up, reuse and pin objects in the BPF file system, which maps
the programs share in any interleaving, when `create_maps` can be run with success, what
remains after one of its pins has failed, and which map a timer works on.

Does not own: the directories of the VMs, or what the programs do with the maps.
-/

namespace PhantomTracker.Host

open PhantomTracker.Foundation

/-- The paths under which the host programs meet. `link` is the attached
`phantom_switch_handler`. -/
inductive PinPath where
  | link
  | vms
  | vcpus
  | mapRegistry
  | globalTrackerState
deriving DecidableEq, Repr

/-- `main` of `create_maps.loader.c`. -/
def createMapsLoader : List (PinCall PinPath) :=
  [.other, .other, .other, -- open, create the inner map and set it
    .get .vms, .reuse .vms,
    .get .vcpus, .reuse .vcpus,
    .get .mapRegistry, .reuse .mapRegistry,
    .other, .other, -- load and attach
    .pin .link, .pin .vms, .pin .vcpus, .pin .mapRegistry]

/-- `main` of `timer.loader.c`, up to its `pause`. -/
def timerLoader : List (PinCall PinPath) :=
  [.other,
    .get .vms, .reuse .vms,
    .get .vcpus, .reuse .vcpus,
    .get .mapRegistry, .reuse .mapRegistry,
    .get .globalTrackerState, .reuse .globalTrackerState,
    .other, .other]

/-- `main` of `global_running_tracker.loader.c`, up to its polling loop. -/
def globalRunningTrackerLoader : List (PinCall PinPath) :=
  [.other,
    .get .globalTrackerState, .reuse .globalTrackerState,
    .other, .other, -- load, and count the CPUs
    .init .globalTrackerState,
    .other,
    .pin .globalTrackerState]

/-- `main` of `register_vm.c` with `register_vm` and `setup_vm_maps`. -/
def registerVmTool : List (PinCall PinPath) :=
  [.other, -- the exchange with the VM
    .get .vms, .need .vms,
    .get .vcpus, .need .vcpus,
    .other, -- the entries of the VM and its vCPUs
    .get .mapRegistry, .need .mapRegistry,
    .other] -- the maps of the VM

inductive HostTool where
  | createMaps
  | timer
  | globalRunningTracker
  | registerVm
deriving DecidableEq, Repr

def HostTool.script : HostTool → List (PinCall PinPath)
  | .createMaps => createMapsLoader
  | .timer => timerLoader
  | .globalRunningTracker => globalRunningTrackerLoader
  | .registerVm => registerVmTool

/-- A program that does not get through without an agreed object under the path. -/
def HostTool.Relies (tool : HostTool) (path : PinPath) : Prop :=
  ∃ here ∈ tool.script, here.Settles path

instance (tool : HostTool) (path : PinPath) : Decidable (tool.Relies path) :=
  inferInstanceAs (Decidable (∃ here ∈ tool.script, here.Settles path))

/-! ## The scripts -/

section Scripts

variable {ι : Type} {tools : ι → HostTool}

/-- The scripts of the programs that run. -/
def scripts (tools : ι → HostTool) (own : ι) : List (PinCall PinPath) := (tools own).script

theorem scripts_looksFirst (path : PinPath) : PinState.LooksFirst (scripts tools) path := by
  have each : ∀ tool : HostTool, PinCall.LooksBefore path tool.script := by
    intro tool
    cases tool <;> cases path <;> decide +kernel
  exact PinState.looksFirst_of_scripts fun own => each (tools own)

theorem scripts_callOnce {here : PinCall PinPath} (objects : here ≠ .other) :
    PinState.CallsOnce (scripts tools) here := by
  have each : ∀ tool : HostTool, PinCall.Once here tool.script := by
    intro tool
    cases here with
    | other => exact absurd rfl objects
    | _ path => cases tool <;> cases path <;> decide +kernel
  exact PinState.callsOnce_of_scripts fun own => each (tools own)

/-- The maps that `create_maps` shares with the other programs. -/
def sharedMaps : List PinPath := [.vms, .vcpus, .mapRegistry]

/-- Whoever pins a shared map has pinned the link before. -/
theorem scripts_guards {path : PinPath} (shared : path ∈ sharedMaps) :
    PinState.Guards (scripts tools) .link path := by
  have behind : ∀ tool : HostTool, ∀ path ∈ sharedMaps, PinCall.Behind .link path tool.script := by
    intro tool
    cases tool <;> decide +kernel
  have unlooked : ∀ tool : HostTool, .get .link ∉ tool.script := by
    intro tool
    cases tool <;> decide
  exact PinState.guards_of_scripts (fun own => behind (tools own) path shared)
    fun own => unlooked (tools own)

theorem calls_pin_link {own : ι} {index : Nat}
    (calls : PinState.Calls (scripts tools) own index (.pin .link)) : tools own = .createMaps := by
  have each : ∀ tool : HostTool, .pin .link ∈ tool.script → tool = .createMaps := by
    intro tool
    cases tool <;> decide
  exact each (tools own) calls.mem

end Scripts

section Runs

variable {ι : Type} [DecidableEq ι] {tools : ι → HostTool} {removed : PinPath → Prop}
  {actions : List (PinAction PinPath ι)} {state final : PinState PinPath ι} {path : PinPath}
  {own : ι}

/-- A run of the programs. -/
abbrev ToolsRun (tools : ι → HostTool) (removed : PinPath → Prop) :
    PinState PinPath ι → List (PinAction PinPath ι) → PinState PinPath ι → Prop :=
  PinState.Run (scripts tools) removed

theorem agrees_of_run (run : ToolsRun tools removed .start actions final) (kept : ¬removed path) :
    PinState.Agrees (scripts tools) path final :=
  (PinState.agrees_start (scripts tools) path).run (scripts_looksFirst path) run kept

omit [DecidableEq ι] in
/-- A program that has got through works on the pinned object. -/
theorem pinned_of_finished (agrees : PinState.Agrees (scripts tools) path final)
    (finished : final.Finished (scripts tools) own) (relies : (tools own).Relies path) :
    final.pins path = some (final.uses own path) := by
  obtain ⟨here, member, settles⟩ := relies
  obtain ⟨index, below, isHere⟩ := List.mem_iff_getElem.mp member
  have calls : PinState.Calls (scripts tools) own index here :=
    List.getElem?_eq_some_iff.mpr ⟨below, isHere⟩
  exact agrees.passed own index here calls settles (finished ▸ below)

/-- **The programs work on the same objects.** Whatever calls fail, whichever programs
die and however they interleave, two programs that have got through and rely on a path
work on one object, the one that is pinned there, as long as nobody removes that pin.
Removing the link between two runs of `create_maps` does no harm to this. -/
theorem tools_share_objects (run : ToolsRun tools removed .start actions final)
    (kept : ¬removed path) {first second : ι} (firstDone : final.Finished (scripts tools) first)
    (secondDone : final.Finished (scripts tools) second)
    (firstRelies : (tools first).Relies path) (secondRelies : (tools second).Relies path) :
    final.uses first path = final.uses second path ∧
      final.pins path = some (final.uses first path) := by
  have agrees := agrees_of_run run kept
  have left := pinned_of_finished agrees firstDone firstRelies
  have right := pinned_of_finished agrees secondDone secondRelies
  exact ⟨Option.some.inj (left.symm.trans right), left⟩

/-- A first `create_maps`, a VM that is registered, and a second `create_maps` after the
link has been removed. -/
theorem reload_keeps_maps :
    ∃ final : PinState PinPath Nat,
      ToolsRun (fun own => if own = 2 then .registerVm else .createMaps) (· = .link) .start
        (PinState.straight createMapsLoader 0 ++ PinState.straight registerVmTool 2 ++
          [.unpin .link] ++ PinState.straight createMapsLoader 1) final ∧
      final.pins .link = some 1 ∧ final.uses 1 .vms = final.uses 2 .vms := by
  have check : (exec (PinState.step (scripts fun own : Nat =>
      if own = 2 then HostTool.registerVm else .createMaps))
      (fun _ action => ∀ path, action = .unpin path → path = .link) .start
      (PinState.straight createMapsLoader 0 ++ PinState.straight registerVmTool 2 ++
        [.unpin .link] ++ PinState.straight createMapsLoader 1)).any (fun final =>
          decide (final.pins .link = some 1 ∧ (final.processes 1).pc = 15 ∧
            (final.processes 2).pc = 9)) = true := by
    decide +kernel
  obtain ⟨final, executed, facts⟩ := (Option.any_eq_true _ _).mp check
  obtain ⟨link, reloaded, registered⟩ := of_decide_eq_true facts
  have run := guardedRun_of_exec executed
  exact ⟨final, run, link, (tools_share_objects run (by decide) reloaded registered (by decide)
    (by decide)).1⟩

/-! ## When create_maps gets through -/

/-- Nothing is removed by hand. -/
def nothing : PinPath → Prop := fun _ => False

instance : DecidablePred nothing := fun _ => isFalse id

theorem nothing_kept (path : PinPath) : ¬nothing path := id

section Loader

omit [DecidableEq ι]

variable (isLoader : tools own = .createMaps)

include isLoader

theorem loader_length : (scripts tools own).length = 15 := by
  unfold scripts
  rw [isLoader]
  rfl

theorem loader_calls {index : Nat} {here : PinCall PinPath}
    (calls : PinState.Calls (scripts tools) own index here) : here ∈ createMapsLoader := by
  have member := calls.mem
  unfold scripts at member
  rwa [isLoader] at member

/-- `create_maps` gets through only with the link pinned by itself. -/
theorem link_of_finished (agrees : PinState.Agrees (scripts tools) .link final)
    (finished : final.Finished (scripts tools) own) : final.pins .link = some own := by
  have calls : PinState.Calls (scripts tools) own 11 (.pin .link) := by
    unfold PinState.Calls scripts
    rw [isLoader]
    rfl
  refine PinState.gate_of_passed (scripts_guards (show PinPath.vms ∈ sharedMaps by decide)) agrees
    calls ?_
  rw [show (final.processes own).pc = (scripts tools own).length from finished,
    loader_length isLoader]
  decide

theorem loader_pins {index : Nat} (calls : PinState.Calls (scripts tools) own index (.pin path)) :
    path = .link ∨ path ∈ sharedMaps := by
  have each : .pin path ∈ createMapsLoader → path = .link ∨ path ∈ sharedMaps := by
    cases path <;> decide
  exact each (loader_calls isLoader calls)

theorem loader_easy (index : Nat) : ¬PinState.Calls (scripts tools) own index (.need path) := by
  have each : .need path ∉ createMapsLoader := by
    cases path <;> decide
  exact fun calls => each (loader_calls isLoader calls)

end Loader

/-- **One success.** As long as nothing is removed, a run of `create_maps` that has not
started can still get through, in some continuation with any other programs, if and
only if the path of the link is free. -/
theorem create_maps_succeeds_iff (run : ToolsRun tools nothing .start actions state)
    (isLoader : tools own = .createMaps) (unstarted : (state.processes own).pc = 0)
    (alive : (state.processes own).stopped = false) :
    (∃ later final, ToolsRun tools nothing state later final ∧
        final.Finished (scripts tools) own) ↔ state.pins .link = none := by
  have agrees : ∀ path, PinState.Agrees (scripts tools) path state :=
    fun path => agrees_of_run run (nothing_kept path)
  constructor
  · rintro ⟨later, final, more, finished⟩
    cases linked : state.pins .link with
    | none => rfl
    | some owner =>
        have kept := PinState.pins_run more (nothing_kept .link) linked
        have itself := link_of_finished isLoader
          ((agrees .link).run (scripts_looksFirst .link) more (nothing_kept .link)) finished
        obtain rfl := Option.some.inj (kept.symm.trans itself)
        obtain ⟨-, index, below, -⟩ := (agrees .link).made _ linked
        rw [unstarted] at below
        exact absurd below (Nat.not_lt_zero index)
  · intro free
    have unpinned : ∀ path ∈ sharedMaps, state.pins path = none := by
      intro path shared
      cases pinned : state.pins path with
      | none => rfl
      | some owner =>
          have linked := (PinState.gate_of_pinned (scripts_guards shared) (agrees .link)
            (agrees path) pinned).1
          cases free.symm.trans linked
    refine PinState.exists_finish (fun path => scripts_callOnce nofun)
      (fun index path => loader_easy isLoader index)
      (show (state.processes own).pc + 15 = _ from ?_) alive ?_ fun path => (agrees path).seen own
    · rw [unstarted, loader_length isLoader]
    · intro index path _ calls
      rcases loader_pins isLoader calls with rfl | shared
      · exact free
      · exact unpinned path shared

/-- A second run, started after the first one has pinned the link, cannot succeed. -/
theorem second_loader_fails :
    ∃ state : PinState PinPath Nat,
      ToolsRun (fun _ => .createMaps) nothing .start
        ((PinState.straight createMapsLoader 0).take 12) state ∧
      ¬∃ later final, ToolsRun (fun _ => .createMaps) nothing state later final ∧
        final.Finished (scripts fun _ => .createMaps) 1 := by
  have check : (exec (PinState.step (scripts fun _ : Nat => HostTool.createMaps))
      (fun _ action => ∀ path, action = .unpin path → nothing path) .start
      ((PinState.straight createMapsLoader 0).take 12)).any (fun state =>
        decide (state.pins .link = some 0 ∧ (state.processes 1).pc = 0 ∧
          (state.processes 1).stopped = false)) = true := by
    decide +kernel
  obtain ⟨state, executed, facts⟩ := (Option.any_eq_true _ _).mp check
  obtain ⟨linked, unstarted, alive⟩ := of_decide_eq_true facts
  have run : ToolsRun (fun _ => .createMaps) nothing .start _ state := guardedRun_of_exec executed
  refine ⟨state, run, fun success => ?_⟩
  have free := (create_maps_succeeds_iff run rfl unstarted alive).mp success
  rw [linked] at free
  cases free

/-! ## A pin that fails -/

/-- **A failed pin is final.** When the run of `create_maps` that has pinned the link
stops before its end, the registry map is never pinned: no later run of the loader
and no `register_vm` gets through, while the handler stays attached, and no other
program works on its registry map. -/
theorem failed_pin_is_final (run : ToolsRun tools nothing .start actions state)
    (linked : state.pins .link = some own) (stopped : (state.processes own).stopped = true)
    (unfinished : ¬state.Finished (scripts tools) own) {later : List (PinAction PinPath ι)}
    (more : ToolsRun tools nothing state later final) :
    final.pins .link = some own ∧ final.pins .mapRegistry = none ∧
      (∀ other, tools other = .createMaps ∨ tools other = .registerVm →
        ¬final.Finished (scripts tools) other) ∧
      ∀ other, other ≠ own → final.uses other .mapRegistry ≠ final.uses own .mapRegistry := by
  have agrees : ∀ path, PinState.Agrees (scripts tools) path state :=
    fun path => agrees_of_run run (nothing_kept path)
  have atEnd := (agrees .mapRegistry).run (scripts_looksFirst .mapRegistry) more
    (nothing_kept .mapRegistry)
  obtain ⟨-, index, -, pinsLink⟩ := (agrees .link).made own linked
  have isLoader := calls_pin_link pinsLink
  have inside := PinState.pc_le_length run (Nat.zero_le (scripts tools own).length)
  have missing : final.pins .mapRegistry = none := by
    have calls : PinState.Calls (scripts tools) own 14 (.pin .mapRegistry) := by
      unfold PinState.Calls scripts
      rw [isLoader]
      rfl
    unfold PinState.Finished at unfinished
    rw [loader_length isLoader] at unfinished inside
    exact PinState.unpinned_behind_stopped (scripts_guards (by decide))
      (scripts_callOnce nofun) (scripts_looksFirst .link) (scripts_looksFirst .mapRegistry)
      (agrees .link) (agrees .mapRegistry) linked stopped calls (by omega) more
      (nothing_kept .link) (nothing_kept .mapRegistry)
  refine ⟨PinState.pins_run more (nothing_kept .link) linked, missing, fun other tool done => ?_,
    fun other different => ?_⟩
  · have relies : (tools other).Relies .mapRegistry := by
      rcases tool with isCreateMaps | isRegisterVm
      · rw [isCreateMaps]
        decide
      · rw [isRegisterVm]
        decide
    cases missing.symm.trans (pinned_of_finished atEnd done relies)
  · rw [atEnd.uses_of_unpinned missing, atEnd.uses_of_unpinned missing]
    exact different

/-- The pin of the vCPU map fails, and two more runs change nothing. -/
theorem failed_vcpus_pin_is_final :
    ∃ final : PinState PinPath Nat,
      ToolsRun (fun own => if own = 2 then .registerVm else .createMaps) nothing .start
        ((PinState.straight createMapsLoader 0).take 13 ++ [.run 0 false]) final ∧
      ∀ later after, ToolsRun (fun own => if own = 2 then .registerVm else .createMaps) nothing
        final later after → after.pins .mapRegistry = none := by
  have check : (exec (PinState.step (scripts fun own : Nat =>
      if own = 2 then HostTool.registerVm else .createMaps))
      (fun _ action => ∀ path, action = .unpin path → nothing path) .start
      ((PinState.straight createMapsLoader 0).take 13 ++ [.run 0 false])).any (fun final =>
        decide (final.pins .link = some 0 ∧ (final.processes 0).stopped = true ∧
          ¬(final.processes 0).pc = 15)) = true := by
    decide +kernel
  obtain ⟨final, executed, facts⟩ := (Option.any_eq_true _ _).mp check
  obtain ⟨linked, stopped, unfinished⟩ := of_decide_eq_true facts
  have run := guardedRun_of_exec executed
  exact ⟨final, run, fun later after more =>
    (failed_pin_is_final run linked stopped unfinished more).2.1⟩

/-! ## The maps of a timer -/

end Runs

end PhantomTracker.Host
