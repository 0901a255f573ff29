import PhantomTracker.Host.VmComponent

/-!
Contract: `timer_cb`, which ticks every VM.

Owns: the walk of `bpf_for_each_map_elem` over `vms`, and that each VM gets the
tick it would get alone in whatever order the walk visits them.

Does not own: the tick of one VM, or when the timer fires.
-/

namespace PhantomTracker.Host

open PhantomTracker.Foundation

/-- `timer_cb`: `bpf_for_each_map_elem` calls `callback_fn` for the keys of `vms` in
the order `walk`. The clock and the idle average are read anew for each of them. -/
def timerCb (clock : VmKey → TickClock) (lastIdleAvg : VmKey → Option Nat) :
    List VmKey → HostState → HostState × List Watermark
  | [], host => (host, [])
  | key :: rest, host =>
      let ticked := callbackFn (clock key) (lastIdleAvg key) key host
      let walked := timerCb clock lastIdleAvg rest ticked.1
      (walked.1, ticked.2.toList ++ walked.2)

section Walk

variable {clock : VmKey → TickClock} {lastIdleAvg : VmKey → Option Nat} {walk : List VmKey}
  {host : HostState}

/-- A VM that the walk does not visit is left alone. -/
theorem Sees.walkForeign {key : VmKey} {maps : Buff → MapId} {view : VmView}
    (sees : Sees key maps host view) (fitting : ∀ other ∈ walk, FittingKey other)
    (unvisited : key ∉ walk) : Sees key maps (timerCb clock lastIdleAvg walk host).1 view := by
  induction walk generalizing host with
  | nil => exact sees
  | cons first rest inductionHypothesis =>
      have different : first ≠ key := fun same => unvisited (same ▸ List.mem_cons_self)
      exact inductionHypothesis
        (sees.tickForeign (fitting first List.mem_cons_self) different _ _)
        (fun other member => fitting other (List.mem_cons_of_mem first member))
        (fun member => unvisited (List.mem_cons_of_mem first member))

/-- **One tick for every VM, in any order.** When every VM has a fitting name and
buffers of its own, one `timer_cb` publishes for each VM the watermark that it
would publish alone, in the order of the walk, and leaves each VM as its own tick
would. Neither depends on the order. -/
theorem timerCb_ticks_each_vm_alone (clock : VmKey → TickClock)
    (lastIdleAvg : VmKey → Option Nat) {maps : VmKey → Buff → MapId} {views : VmKey → VmView}
    (once : walk.Nodup) (fitting : ∀ key ∈ walk, FittingKey key)
    (sees : ∀ key ∈ walk, Sees key (maps key) host (views key)) :
    (timerCb clock lastIdleAvg walk host).2 =
        walk.map (fun key => (views key).watermark (clock key) (lastIdleAvg key)) ∧
      ∀ key ∈ walk, Sees key (maps key) (timerCb clock lastIdleAvg walk host).1
        ((views key).ticked (clock key)) := by
  induction walk generalizing host with
  | nil => exact ⟨rfl, fun key member => by cases member⟩
  | cons first rest inductionHypothesis =>
      rw [List.nodup_cons] at once
      have restFitting : ∀ key ∈ rest, FittingKey key := fun key member =>
        fitting key (List.mem_cons_of_mem first member)
      obtain ⟨ticked, published⟩ := (sees first List.mem_cons_self).tick (clock first)
        (lastIdleAvg first)
      have others : ∀ key ∈ rest, Sees key (maps key)
          (callbackFn (clock first) (lastIdleAvg first) first host).1 (views key) := by
        intro key member
        have different : first ≠ key := fun same => once.1 (same ▸ member)
        exact (sees key (List.mem_cons_of_mem first member)).tickForeign
          (fitting first List.mem_cons_self) different _ _
      obtain ⟨watermarks, after⟩ := inductionHypothesis once.2 restFitting others
      constructor
      · simp only [timerCb, published, Option.toList_some, List.map_cons, watermarks,
          List.singleton_append]
      · intro key member
        rcases List.mem_cons.mp member with rfl | later
        · exact ticked.walkForeign restFitting once.1
        · exact after key later

end Walk

/-- Two VMs that have just been registered. -/
def twoVms : HostState := tenant.run (neighbour.run emptyHost)

/-- The registration of each of them. -/
def setupOf (key : VmKey) : VmSetup := if key = vmKey [97] then neighbour else tenant

theorem sees_twoVms (key : VmKey) (known : key = vmKey [97] ∨ key = vmKey [97, 97]) :
    FittingKey key ∧ Sees key (setupOf key).created twoVms (freshView (setupOf key).args) := by
  rcases known with rfl | rfl
  · refine ⟨⟨neighbour.name, registrable_neighbour.fits, rfl⟩, ?_⟩
    have foreign : ∀ qmpDetail ∈ tenant.args.vcpus,
        ownThread (vmKey [97]) (neighbour.run emptyHost) qmpDetail.threadId = false := by
      intro qmpDetail member
      obtain rfl := List.mem_singleton.mp member
      decide +kernel
    have registered := (sees_run registrable_neighbour).registerForeign registrable_neighbour.fits
      registrable_tenant.fits (by decide) foreign none true
    exact registered.setupForeign registrable_neighbour.fits registrable_tenant.fits (by decide)
      ⟨registrable_tenant.newMaps.distinct, registrable_tenant.newMaps.unused⟩ none
  · exact ⟨⟨tenant.name, registrable_tenant.fits, rfl⟩, sees_run registrable_tenant⟩

/-- The timer walks the two VMs in either order. -/
theorem two_vms_in_either_order :
    (timerCb (fun _ => ⟨7, 8, 9⟩) (fun _ => some 2) [vmKey [97], vmKey [97, 97]] twoVms).2 =
      (timerCb (fun _ => ⟨7, 8, 9⟩) (fun _ => some 2)
        [vmKey [97, 97], vmKey [97]] twoVms).2.reverse := by
  have known : ∀ walk ∈ [[vmKey [97], vmKey [97, 97]], [vmKey [97, 97], vmKey [97]]],
      ∀ key ∈ walk, key = vmKey [97] ∨ key = vmKey [97, 97] := by decide
  have forth := timerCb_ticks_each_vm_alone (fun _ => ⟨7, 8, 9⟩) (fun _ => some 2) (by decide)
    (fun key member => (sees_twoVms key (known [vmKey [97], vmKey [97, 97]] (by decide) key member)).1)
    (fun key member => (sees_twoVms key (known [vmKey [97], vmKey [97, 97]] (by decide) key member)).2)
  have back := timerCb_ticks_each_vm_alone (fun _ => ⟨7, 8, 9⟩) (fun _ => some 2) (by decide)
    (fun key member => (sees_twoVms key (known [vmKey [97, 97], vmKey [97]] (by decide) key member)).1)
    (fun key member => (sees_twoVms key (known [vmKey [97, 97], vmKey [97]] (by decide) key member)).2)
  rw [forth.1, back.1]
  rfl

end PhantomTracker.Host
