import PhantomTracker.Foundation.CursorWalk
import PhantomTracker.Foundation.Runs
import PhantomTracker.Host.ToolExecutions

/-!
Contract: `cleanup_stale_vcpus` call by call, while other programs change the
`vcpus` map.

Owns: the map with the order in which `bpf_map_get_next_key` goes through it, the
walk with its growing buffer, the deletions, and the programs that store, delete
and flag entries of other VMs in between; what each call can do; and the theorem
that a walk collects the stale keys that a scan in one step collects.

Does not own: what the deletions do to other VMs, deletions that fail, or two
processes that work on one VM.
-/

namespace PhantomTracker.Host

open PhantomTracker.Foundation

/-! ## The map -/

/-- The `vcpus` map and the order of its keys. -/
structure VcpuTable (bucket : Tid → Nat) where
  vcpus : FiniteMap Tid VcpuT
  order : WalkOrder Tid bucket
  keyed : ∀ tid, tid ∈ order.keys ↔ (vcpus.lookup tid).isSome = true

namespace VcpuTable

variable {bucket : Tid → Nat}

def empty : VcpuTable bucket where
  vcpus := ∅
  order := ⟨[], List.nodup_nil, List.Pairwise.nil⟩
  keyed _ := by simp

/-- `bpf_map_update_elem` with `BPF_ANY`. -/
def updateElem (table : VcpuTable bucket) (tid : Tid) (vcpu : VcpuT) : VcpuTable bucket where
  vcpus := table.vcpus.insert tid vcpu
  order := table.order.insert tid
  keyed other := by
    rw [WalkOrder.mem_insert, table.keyed]
    by_cases same : other = tid
    · subst same
      simp
    · rw [AList.lookup_insert_ne same]
      simp [same]

/-- `bpf_map_delete_elem`. -/
def deleteElem (table : VcpuTable bucket) (tid : Tid) : VcpuTable bucket where
  vcpus := table.vcpus.erase tid
  order := table.order.erase tid
  keyed other := by
    rw [WalkOrder.mem_erase, table.keyed]
    by_cases same : other = tid
    · subst same
      simp
    · rw [AList.lookup_erase_ne same]
      simp [same]

/-- A write of the handler to the flag of an entry, in place. -/
def setFlag (table : VcpuTable bucket) (tid : Tid) (isPhantom : Nat) : VcpuTable bucket :=
  match found : table.vcpus.lookup tid with
  | none => table
  | some vcpu =>
      { vcpus := table.vcpus.insert tid { vcpu with isPhantom := isPhantom }
        order := table.order
        keyed := fun other => by
          rw [table.keyed]
          by_cases same : other = tid
          · subst same
            simp [found]
          · rw [AList.lookup_insert_ne same] }

theorem setFlag_order (table : VcpuTable bucket) (tid : Tid) (isPhantom : Nat) :
    (table.setFlag tid isPhantom).order = table.order := by
  unfold setFlag
  split <;> rfl

theorem setFlag_owned (table : VcpuTable bucket) (tid : Tid) (isPhantom : Nat)
    (vmName : CString) :
    ownedBy vmName (table.setFlag tid isPhantom).vcpus = ownedBy vmName table.vcpus := by
  unfold setFlag
  split
  · rfl
  · rename_i vcpu found
    funext other
    show ownedBy vmName (table.vcpus.insert tid _) other = _
    rw [ownedBy_insert]
    split
    · rename_i same
      subst same
      unfold ownedBy
      rw [found]
      rfl
    · rfl

theorem mem_order_of_owned {table : VcpuTable bucket} {vmName : CString} {tid : Tid}
    (owned : ownedBy vmName table.vcpus tid = true) : tid ∈ table.order.keys := by
  obtain ⟨vcpu, found, _⟩ := ownedBy_iff.mp owned
  rw [table.keyed, found]
  rfl

end VcpuTable

/-! ## The machine -/

/-- The calls of the scan, and those of other programs. -/
inductive ScanAction where
  | getNextKey
  | lookupElem (reallocated : Bool)
  | deleteElem
  | otherUpdate (tid : Tid) (vcpu : VcpuT)
  | otherDelete (tid : Tid)
  | handlerFlag (tid : Tid) (isPhantom : Nat)

/-- The map after a call of another program. -/
def VcpuTable.otherCall {bucket : Tid → Nat} (table : VcpuTable bucket) :
    ScanAction → Option (VcpuTable bucket)
  | .otherUpdate tid vcpu => some (table.updateElem tid vcpu)
  | .otherDelete tid => some (table.deleteElem tid)
  | .handlerFlag tid isPhantom => some (table.setFlag tid isPhantom)
  | .getNextKey | .lookupElem _ | .deleteElem => none

inductive ScanPc where
  | walk (pc : WalkPc Tid)
  | delete (keys : List Tid)
  /-- `realloc` has failed: the buffer is freed and nothing is deleted. -/
  | skipped
deriving DecidableEq, Repr

/-- The map, where the scan stands, and `keys_to_delete` with its capacity.
`deleted` records the entries that the deletions have found. -/
structure ScanState (bucket : Tid → Nat) where
  table : VcpuTable bucket
  pc : ScanPc
  keysToDelete : List Tid
  capacity : Nat
  deleted : List VcpuT

namespace ScanState

section Machine

variable {bucket : Tid → Nat}

/-- The first loop has ended when there is no further key. -/
def afterFetch (state : ScanState bucket) : WalkPc Tid → ScanState bucket
  | .finished => { state with pc := .delete state.keysToDelete }
  | pc => { state with pc := .walk pc }

/-- Append a key, after the buffer has been doubled if it is full. -/
def collect (state : ScanState bucket) (key : Tid) (reallocated : Bool) : ScanState bucket :=
  if state.keysToDelete.length ≥ state.capacity then
    if reallocated then
      { state with
        pc := .walk (.fetch (some key))
        keysToDelete := state.keysToDelete ++ [key]
        capacity := state.capacity * 2 }
    else { state with pc := .skipped }
  else
    { state with
      pc := .walk (.fetch (some key))
      keysToDelete := state.keysToDelete ++ [key] }

/-- The first of the collected keys has been deleted. -/
def afterDelete (state : ScanState bucket) (key : Tid) (keys : List Tid) : ScanState bucket :=
  { state with
    table := state.table.deleteElem key
    pc := .delete keys
    deleted := (state.table.vcpus.lookup key).toList ++ state.deleted }

def step (vmName : CString) (state : ScanState bucket) : ScanAction → Option (ScanState bucket)
  | .getNextKey =>
      match state.pc with
      | .walk (.fetch cursor) => some (state.afterFetch (state.table.order.advance cursor))
      | _ => none
  | .lookupElem reallocated =>
      match state.pc with
      | .walk (.visit key) =>
          if ownedBy vmName state.table.vcpus key then some (state.collect key reallocated)
          else some { state with pc := .walk (.fetch (some key)) }
      | _ => none
  | .deleteElem =>
      match state.pc with
      | .delete (key :: keys) => some (state.afterDelete key keys)
      | _ => none
  | action => (state.table.otherCall action).map fun table => { state with table := table }

/-- The scan at its start, with room for 1024 keys. -/
def start (table : VcpuTable bucket) : ScanState bucket :=
  ⟨table, .walk (.fetch none), [], 1024, []⟩

/-- Other programs leave the entries of the VM alone and store none for it. -/
def Apart (vmName : CString) (state : ScanState bucket) : ScanAction → Prop
  | .otherUpdate tid vcpu =>
      ownedBy vmName state.table.vcpus tid = false ∧ vcpu.vmName.text ≠ vmName.bytes
  | .otherDelete tid => ownedBy vmName state.table.vcpus tid = false
  | _ => True

abbrev ScanRun (vmName : CString) (guard : ScanState bucket → ScanAction → Prop) :
    ScanState bucket → List ScanAction → ScanState bucket → Prop :=
  GuardedRun (step vmName) guard

end Machine

/-! ## What a call can do -/

section Calls

variable {bucket : Tid → Nat} {vmName : CString} {table : VcpuTable bucket} {tid : Tid}

/-- A change of the map that the walk for the VM does not notice: the VM owns what
it owned, and no key that it owns is lost from what lies ahead. -/
structure Unnoticed (vmName : CString) (before after : VcpuTable bucket) : Prop where
  owned : ownedBy vmName after.vcpus = ownedBy vmName before.vcpus
  ahead : ∀ pc tid, ownedBy vmName before.vcpus tid = true → before.order.Pending pc tid →
    after.order.Pending pc tid

theorem unnoticed_updateElem {vcpu : VcpuT} (foreign : ownedBy vmName table.vcpus tid = false)
    (other : vcpu.vmName.text ≠ vmName.bytes) :
    Unnoticed vmName table (table.updateElem tid vcpu) where
  owned := by
    funext key
    show ownedBy vmName (table.vcpus.insert tid vcpu) key = _
    rw [ownedBy_insert]
    split
    · rename_i same
      rw [same, foreign]
      exact decide_eq_false other
    · rfl
  ahead pc key owned pending := by
    have different : key ≠ tid := by
      rintro rfl
      rw [foreign] at owned
      cases owned
    exact pending.insert (VcpuTable.mem_order_of_owned owned) different

theorem unnoticed_deleteElem (foreign : ownedBy vmName table.vcpus tid = false) :
    Unnoticed vmName table (table.deleteElem tid) where
  owned := by
    funext key
    show ownedBy vmName (table.vcpus.erase tid) key = _
    rw [ownedBy_erase]
    by_cases same : key = tid
    · rw [same, foreign, Bool.and_false]
    · rw [decide_eq_true same, Bool.true_and]
  ahead pc key owned pending := by
    apply pending.erase
    rintro rfl
    rw [foreign] at owned
    cases owned

theorem unnoticed_setFlag (isPhantom : Nat) :
    Unnoticed vmName table (table.setFlag tid isPhantom) where
  owned := table.setFlag_owned tid isPhantom vmName
  ahead pc key _ pending := by
    rw [VcpuTable.setFlag_order]
    exact pending

theorem unnoticed_otherCall {state : ScanState bucket} {action : ScanAction}
    {after : VcpuTable bucket} (apart : state.Apart vmName action)
    (changed : state.table.otherCall action = some after) :
    Unnoticed vmName state.table after := by
  cases action with
  | otherUpdate tid vcpu =>
      obtain rfl := Option.some.inj changed
      exact unnoticed_updateElem apart.1 apart.2
  | otherDelete tid =>
      obtain rfl := Option.some.inj changed
      exact unnoticed_deleteElem apart
  | handlerFlag tid isPhantom =>
      obtain rfl := Option.some.inj changed
      exact unnoticed_setFlag isPhantom
  | getNextKey | lookupElem _ | deleteElem => cases changed

/-- What each call does. -/
inductive Effect (vmName : CString) (state : ScanState bucket) :
    ScanAction → ScanState bucket → Prop where
  | fetch (cursor : Option Tid) (stands : state.pc = .walk (.fetch cursor)) :
      Effect vmName state .getNextKey (state.afterFetch (state.table.order.advance cursor))
  | collect (key : Tid) (reallocated : Bool) (stands : state.pc = .walk (.visit key))
      (own : ownedBy vmName state.table.vcpus key = true) :
      Effect vmName state (.lookupElem reallocated) (state.collect key reallocated)
  | pass (key : Tid) (reallocated : Bool) (stands : state.pc = .walk (.visit key))
      (foreign : ownedBy vmName state.table.vcpus key = false) :
      Effect vmName state (.lookupElem reallocated)
        { state with pc := .walk (.fetch (some key)) }
  | delete (key : Tid) (keys : List Tid) (stands : state.pc = .delete (key :: keys)) :
      Effect vmName state .deleteElem (state.afterDelete key keys)
  | other (action : ScanAction) (table : VcpuTable bucket)
      (changed : state.table.otherCall action = some table) :
      Effect vmName state action { state with table := table }

theorem effect_step {state next : ScanState bucket} {action : ScanAction}
    (taken : state.step vmName action = some next) : Effect vmName state action next := by
  unfold step at taken
  split at taken
  · split at taken
    · rename_i cursor stands
      obtain rfl := Option.some.inj taken
      exact .fetch cursor stands
    · cases taken
  · split at taken
    · rename_i key stands
      split at taken
      · rename_i own
        obtain rfl := Option.some.inj taken
        exact .collect key _ stands own
      · rename_i foreign
        obtain rfl := Option.some.inj taken
        exact .pass key _ stands (Bool.not_eq_true _ ▸ foreign)
    · cases taken
  · split at taken
    · rename_i key keys stands
      obtain rfl := Option.some.inj taken
      exact .delete key keys stands
    · cases taken
  · obtain ⟨table, changed, rfl⟩ := Option.map_eq_some_iff.mp taken
    exact .other action table changed

end Calls

/-! ## The walk collects what the VM owns -/

section Collecting

variable {bucket : Tid → Nat} {vmName : CString} {state next : ScanState bucket}
  {owned : Tid → Bool}

/-- The VM owns the keys it owned at the start, and none has been deleted. -/
def Untouched (vmName : CString) (owned : Tid → Bool) (state : ScanState bucket) : Prop :=
  ownedBy vmName state.table.vcpus = owned ∧ state.deleted = []

/-- The walk has collected keys of the VM only, and every other one is ahead. -/
structure Walking (owned : Tid → Bool) (state : ScanState bucket) (pc : WalkPc Tid) : Prop where
  unfinished : pc ≠ .finished
  own : ∀ tid ∈ state.keysToDelete, owned tid = true
  covered : ∀ tid, owned tid = true → tid ∈ state.keysToDelete ∨ state.table.order.Pending pc tid

/-- All keys of the VM have been collected, and those in the map are still to be
deleted. -/
structure Deleting (vmName : CString) (owned : Tid → Bool) (state : ScanState bucket)
    (keys : List Tid) : Prop where
  collected : ∀ tid, tid ∈ state.keysToDelete ↔ owned tid = true
  remaining : ∀ tid, ownedBy vmName state.table.vcpus tid = true → tid ∈ keys
  begun : keys.length < state.keysToDelete.length ∨ state.Untouched vmName owned
  bound : keys.length ≤ state.keysToDelete.length

structure Sound (vmName : CString) (owned : Tid → Bool) (state : ScanState bucket) : Prop where
  fits : 0 < state.capacity ∧ state.keysToDelete.length ≤ state.capacity
  walking : ∀ pc, state.pc = .walk pc → state.Untouched vmName owned ∧ state.Walking owned pc
  deleting : ∀ keys, state.pc = .delete keys → state.Deleting vmName owned keys

theorem sound_start (vmName : CString) (table : VcpuTable bucket) :
    (start table).Sound vmName (ownedBy vmName table.vcpus) where
  fits := ⟨Nat.succ_pos _, Nat.zero_le _⟩
  walking pc stands := by
    cases stands
    exact ⟨⟨rfl, rfl⟩, nofun, fun _ member => absurd member List.not_mem_nil,
      fun _ _ => Or.inr trivial⟩
  deleting := nofun

theorem Sound.fetch (sound : state.Sound vmName owned) {cursor : Option Tid}
    (stands : state.pc = .walk (.fetch cursor)) :
    (state.afterFetch (state.table.order.advance cursor)).Sound vmName owned := by
  obtain ⟨untouched, _, own, covered⟩ := sound.walking _ stands
  have ahead : ∀ tid, owned tid = true → tid ∈ state.keysToDelete ∨
      state.table.order.Pending (state.table.order.advance cursor) tid := by
    intro tid owns
    refine (covered tid owns).imp_right fun pending => pending.advance ?_
    rw [← untouched.1] at owns
    exact VcpuTable.mem_order_of_owned owns
  cases reached : state.table.order.advance cursor with
  | finished =>
      rw [reached] at ahead
      have collected : ∀ tid, tid ∈ state.keysToDelete ↔ owned tid = true :=
        fun tid => ⟨own tid, fun owns => (ahead tid owns).resolve_right id⟩
      refine ⟨sound.fits, nofun, fun keys standsAt => ?_⟩
      cases standsAt
      refine ⟨collected, fun tid owns => (collected tid).mpr ?_, Or.inr untouched, le_rfl⟩
      rw [← untouched.1]
      exact owns
  | fetch cursor | visit key =>
      rw [reached] at ahead
      refine ⟨sound.fits, fun pc standsAt => ?_, nofun⟩
      cases standsAt
      exact ⟨untouched, nofun, own, ahead⟩

theorem Sound.collect (sound : state.Sound vmName owned) {key : Tid} (reallocated : Bool)
    (stands : state.pc = .walk (.visit key))
    (owns : ownedBy vmName state.table.vcpus key = true) :
    (state.collect key reallocated).Sound vmName owned := by
  obtain ⟨untouched, _, own, covered⟩ := sound.walking _ stands
  obtain ⟨positive, fits⟩ := sound.fits
  have ownAfter : ∀ tid ∈ state.keysToDelete ++ [key], owned tid = true := by
    intro tid member
    rcases List.mem_append.mp member with earlier | here
    · exact own tid earlier
    · rw [List.mem_singleton.mp here, ← untouched.1]
      exact owns
  have coveredAfter : ∀ tid, owned tid = true → tid ∈ state.keysToDelete ++ [key] ∨
      state.table.order.Pending (.fetch (some key)) tid := by
    intro tid ownsTid
    rcases covered tid ownsTid with earlier | rfl | behind
    · exact Or.inl (List.mem_append_left _ earlier)
    · exact Or.inl (List.mem_append_right _ List.mem_cons_self)
    · exact Or.inr behind
  have longer : (state.keysToDelete ++ [key]).length = state.keysToDelete.length + 1 :=
    List.length_append
  unfold ScanState.collect
  split
  · split
    · refine ⟨⟨by dsimp only; omega, by dsimp only; omega⟩, fun pc standsAt => ?_, nofun⟩
      cases standsAt
      exact ⟨untouched, nofun, ownAfter, coveredAfter⟩
    · exact ⟨sound.fits, nofun, nofun⟩
  · refine ⟨⟨positive, by dsimp only; omega⟩, fun pc standsAt => ?_, nofun⟩
    cases standsAt
    exact ⟨untouched, nofun, ownAfter, coveredAfter⟩

theorem Sound.pass (sound : state.Sound vmName owned) {key : Tid}
    (stands : state.pc = .walk (.visit key))
    (foreign : ownedBy vmName state.table.vcpus key = false) :
    Sound vmName owned { state with pc := .walk (.fetch (some key)) } := by
  obtain ⟨untouched, _, own, covered⟩ := sound.walking _ stands
  refine ⟨sound.fits, fun pc standsAt => ?_, nofun⟩
  cases standsAt
  refine ⟨untouched, nofun, own, fun tid owns => (covered tid owns).imp_right ?_⟩
  rintro (rfl | behind)
  · rw [← untouched.1, foreign] at owns
    cases owns
  · exact behind

theorem Sound.delete (sound : state.Sound vmName owned) {key : Tid} {keys : List Tid}
    (stands : state.pc = .delete (key :: keys)) :
    (state.afterDelete key keys).Sound vmName owned := by
  obtain ⟨collected, remaining, _, bound⟩ := sound.deleting _ stands
  rw [List.length_cons] at bound
  refine ⟨sound.fits, nofun, fun rest standsAt => ?_⟩
  cases standsAt
  refine ⟨collected, fun tid owns => ?_, Or.inl bound, Nat.le_of_succ_le bound⟩
  have both : decide (tid ≠ key) = true ∧ ownedBy vmName state.table.vcpus tid = true := by
    rw [← Bool.and_eq_true, ← ownedBy_erase]
    exact owns
  rcases List.mem_cons.mp (remaining tid both.2) with same | later
  · exact absurd same (of_decide_eq_true both.1)
  · exact later

theorem Sound.other (sound : state.Sound vmName owned) {table : VcpuTable bucket}
    (unnoticed : Unnoticed vmName state.table table) :
    Sound vmName owned { state with table := table } := by
  have kept : state.Untouched vmName owned →
      Untouched vmName owned { state with table := table } :=
    fun untouched => ⟨unnoticed.owned.trans untouched.1, untouched.2⟩
  refine ⟨sound.fits, fun pc stands => ?_, fun keys stands => ?_⟩
  · obtain ⟨untouched, unfinished, own, covered⟩ := sound.walking pc stands
    refine ⟨kept untouched, unfinished, own, fun tid owns => ?_⟩
    exact (covered tid owns).imp_right (unnoticed.ahead pc tid (untouched.1 ▸ owns))
  · obtain ⟨collected, remaining, begun, bound⟩ := sound.deleting keys stands
    refine ⟨collected, fun tid owns => remaining tid ?_, begun.imp_right kept, bound⟩
    rw [← unnoticed.owned]
    exact owns

theorem Sound.step (sound : state.Sound vmName owned) {action : ScanAction}
    (apart : state.Apart vmName action) (effect : Effect vmName state action next) :
    next.Sound vmName owned := by
  cases effect with
  | fetch cursor stands => exact sound.fetch stands
  | collect key reallocated stands own => exact sound.collect reallocated stands own
  | pass key reallocated stands foreign => exact sound.pass stands foreign
  | delete key keys stands => exact sound.delete stands
  | other action table changed => exact sound.other (unnoticed_otherCall apart changed)

theorem sound_run {table : VcpuTable bucket} {actions : List ScanAction}
    (run : ScanRun vmName (Apart vmName) (start table) actions state) :
    state.Sound vmName (ownedBy vmName table.vcpus) := by
  apply run.invariant (Sound vmName (ownedBy vmName table.vcpus)) _ (sound_start vmName table)
  intro current action after sound apart taken
  exact sound.step apart (effect_step taken)

end Collecting

/-! ## The walk can end -/

section Ending

variable {bucket : Tid → Nat} {vmName : CString} {state : ScanState bucket}

/-- The scan gets to its deletions by calls of its own. -/
def CanEnd (vmName : CString) (state : ScanState bucket) : Prop :=
  ∃ more final keys, ScanRun vmName (Apart vmName) state more final ∧ final.pc = .delete keys

theorem collect_true (state : ScanState bucket) (key : Tid) :
    (state.collect key true).pc = .walk (.fetch (some key)) ∧
      (state.collect key true).table = state.table := by
  unfold collect
  split <;> exact ⟨rfl, rfl⟩

/-- A look at a key leads back to the next request. -/
theorem lookupElem_fetches (vmName : CString) {key : Tid}
    (stands : state.pc = .walk (.visit key)) :
    ∃ next, state.step vmName (.lookupElem true) = some next ∧
      next.pc = .walk (.fetch (some key)) ∧ next.table = state.table := by
  unfold step
  simp only [stands]
  split
  · exact ⟨_, rfl, collect_true state key⟩
  · exact ⟨_, rfl, rfl, rfl⟩

theorem step_getNextKey (vmName : CString) {cursor : Option Tid}
    (stands : state.pc = .walk (.fetch cursor)) :
    state.step vmName .getNextKey =
      some (state.afterFetch (state.table.order.advance cursor)) := by
  unfold step
  simp only [stands]

theorem canEnd_fetch (vmName : CString) {cursor : Option Tid}
    (stands : state.pc = .walk (.fetch cursor)) : state.CanEnd vmName := by
  -- By induction on the number of keys ahead of the cursor.
  induction size : (state.table.order.ahead cursor).length generalizing state cursor with
  | zero =>
      have fetched := step_getNextKey vmName stands
      have last : state.table.order.advance cursor = .finished := by
        unfold WalkOrder.advance WalkOrder.getNextKey
        rw [List.length_eq_zero_iff.mp size]
        rfl
      rw [last] at fetched
      exact ⟨[.getNextKey], _, state.keysToDelete, .cons trivial fetched (.nil _), rfl⟩
  | succ count inductionHypothesis =>
      have fetched := step_getNextKey vmName stands
      cases next : state.table.order.getNextKey cursor with
      | none =>
          rw [List.head?_eq_none_iff.mp next] at size
          cases size
      | some key =>
          have visit : state.table.order.advance cursor = .visit key := by
            unfold WalkOrder.advance
            rw [next]
          rw [visit] at fetched
          obtain ⟨after, looked, standsAfter, sameTable⟩ :=
            @lookupElem_fetches bucket (state.afterFetch (.visit key)) vmName key rfl
          have shorter : (after.table.order.ahead (some key)).length = count := by
            rw [WalkOrder.ahead_eq_cons next, List.length_cons] at size
            rw [sameTable]
            exact Nat.succ.inj size
          obtain ⟨more, final, keys, run, ended⟩ := inductionHypothesis standsAfter shorter
          exact ⟨.getNextKey :: .lookupElem true :: more, final, keys,
            .cons trivial fetched (.cons trivial looked run), ended⟩

theorem canEnd_walk (vmName : CString) {pc : WalkPc Tid} (stands : state.pc = .walk pc)
    (unfinished : pc ≠ .finished) : state.CanEnd vmName := by
  cases pc with
  | fetch cursor => exact canEnd_fetch vmName stands
  | visit key =>
      obtain ⟨next, looked, standsAfter, _⟩ := lookupElem_fetches vmName stands
      obtain ⟨more, final, keys, run, ended⟩ := canEnd_fetch vmName standsAfter
      exact ⟨.lookupElem true :: more, final, keys, .cons trivial looked run, ended⟩
  | finished => exact absurd rfl unfinished

end Ending

/-! ## The scan -/

section Main

variable {bucket : Tid → Nat} {vmName : CString} {table : VcpuTable bucket}
  {actions : List ScanAction} {state : ScanState bucket}

/-- **The walk is as good as one step.** Whatever other programs do to entries of
other VMs between its calls, as long as they leave those of the VM alone and store
none for it, a walk that ends has collected the keys that a scan in
one step collects at its start, though perhaps more than once; it stays within its
buffer, it can always end, and after the deletions no entry of the VM is left. -/
theorem walk_collects_stale (run : ScanRun vmName (Apart vmName) (start table) actions state) :
    state.keysToDelete.length ≤ state.capacity ∧
    (∀ pc, state.pc = .walk pc → state.CanEnd vmName) ∧
    ∀ keys, state.pc = .delete keys →
      (∀ tid, tid ∈ state.keysToDelete ↔ tid ∈ Host.keysToDelete vmName table.vcpus) ∧
      (keys = [] → Host.keysToDelete vmName state.table.vcpus = []) := by
  have sound := sound_run run
  refine ⟨sound.fits.2, fun pc stands => ?_, fun keys stands => ⟨fun tid => ?_, fun done => ?_⟩⟩
  · exact canEnd_walk vmName stands (sound.walking pc stands).2.unfinished
  · rw [(sound.deleting keys stands).collected tid, mem_keysToDelete]
  · apply List.eq_nil_iff_forall_not_mem.mpr
    intro tid member
    have left := (sound.deleting keys stands).remaining tid (mem_keysToDelete.mp member)
    rw [done] at left
    cases left

end Main

/-! ## A walk that starts again -/

instance {bucket : Tid → Nat} (vmName : CString) (state : ScanState bucket) :
    (action : ScanAction) → Decidable (state.Apart vmName action)
  | .otherUpdate tid vcpu => inferInstanceAs (Decidable
      (ownedBy vmName state.table.vcpus tid = false ∧ vcpu.vmName.text ≠ vmName.bytes))
  | .otherDelete tid => inferInstanceAs (Decidable (ownedBy vmName state.table.vcpus tid = false))
  | .getNextKey | .lookupElem _ | .deleteElem | .handlerFlag _ _ => inferInstanceAs (Decidable True)

/-- A stale entry of VM `a` under thread 2 and one of VM `b` under thread 3, in
buckets of their own. -/
def neighbours : VcpuTable id :=
  (VcpuTable.empty.updateElem 2 ⟨0, vmKey [97], 0⟩).updateElem 3 ⟨0, vmKey [98], 0⟩

/-- VM `b` is cleaned up while the walk for VM `a` stands at its thread. -/
def restartedWalk : List ScanAction :=
  [.getNextKey, .lookupElem true, .getNextKey, .lookupElem true, .otherDelete 3, .getNextKey,
    .lookupElem true, .getNextKey]

theorem restarted_run :
    ∃ state, ScanRun loneName (Apart loneName) (start neighbours) restartedWalk state ∧
      state.pc = .delete [2, 2] ∧ state.keysToDelete = [2, 2] := by
  have check : (exec (step loneName) (Apart loneName) (start neighbours) restartedWalk).any
      (fun state => decide (state.pc = .delete [2, 2] ∧ state.keysToDelete = [2, 2])) = true := by
    decide +kernel
  obtain ⟨state, executed, reached⟩ := (Option.any_eq_true _ _).mp check
  exact ⟨state, guardedRun_of_exec executed, of_decide_eq_true reached⟩

/-- The walk for VM `a` comes to its thread twice and collects it twice, and nothing
else. -/
theorem restarted_walk_collects :
    ∃ state, ScanRun loneName (Apart loneName) (start neighbours) restartedWalk state ∧
      state.keysToDelete = [2, 2] ∧
      ∀ tid, tid ∈ state.keysToDelete ↔ tid ∈ Host.keysToDelete loneName neighbours.vcpus := by
  obtain ⟨state, run, stands, twice⟩ := restarted_run
  exact ⟨state, run, twice, ((walk_collects_stale run).2.2 [2, 2] stands).1⟩

end ScanState

end PhantomTracker.Host
