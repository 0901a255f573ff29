import PhantomTracker.Foundation.Runs

/-!
Contract: processes that look up and pin objects under common paths.

Owns: straight-line scripts of such processes, their runs in any interleaving with
failing calls, with processes that die and with pins that are removed by hand, which
object a process ends up with under a path that is not removed, what a path that every
script pins first decides about the paths pinned after it, decidable checks of single
scripts that these results need, and when a script can still be run to its end.

Does not own: what the objects are, or what a process does with them.
-/

namespace PhantomTracker.Foundation

universe u v

/-- One call of a script: a call that concerns no path, a lookup, the check that it has
found something, the adoption of what it has found, and where nothing was found the
setting up and the pinning of an object of one's own. -/
inductive PinCall (κ : Type u) where
  | other
  | get (path : κ)
  | need (path : κ)
  | reuse (path : κ)
  | init (path : κ)
  | pin (path : κ)
deriving DecidableEq

/-- The calls after which a process works with the object under a path. -/
def PinCall.Settles {κ : Type u} (path : κ) : PinCall κ → Prop
  | .need target => target = path
  | .pin target => target = path
  | _ => False

instance {κ : Type u} [DecidableEq κ] (path : κ) : DecidablePred (PinCall.Settles path)
  | .need target => inferInstanceAs (Decidable (target = path))
  | .pin target => inferInstanceAs (Decidable (target = path))
  | .other | .get _ | .reuse _ | .init _ => isFalse id

/-- A process in its script. Objects are named after the process that created them. -/
structure PinProcess (κ : Type u) (ι : Type v) where
  pc : Nat
  found : κ → Option ι
  stopped : Bool

structure PinState (κ : Type u) (ι : Type v) where
  pins : κ → Option ι
  processes : ι → PinProcess κ ι

inductive PinAction (κ : Type u) (ι : Type v) where
  | run (own : ι) (succeeds : Bool)
  | kill (own : ι)
  | unpin (path : κ)

variable {κ : Type u} {ι : Type v}

namespace PinProcess

def start : PinProcess κ ι := ⟨0, fun _ => none, false⟩

def next (process : PinProcess κ ι) : PinProcess κ ι := { process with pc := process.pc + 1 }

def stop (process : PinProcess κ ι) : PinProcess κ ι := { process with stopped := true }

/-- The process with what it has found under a path. -/
def look [DecidableEq κ] (process : PinProcess κ ι) (path : κ) (result : Option ι) :
    PinProcess κ ι :=
  ⟨process.pc + 1, Function.update process.found path result, process.stopped⟩

/-- The object that a process works with: the one it has found, or its own. -/
def uses (process : PinProcess κ ι) (own : ι) (path : κ) : ι := (process.found path).getD own

end PinProcess

namespace PinState

def start : PinState κ ι := ⟨fun _ => none, fun _ => .start⟩

def uses (state : PinState κ ι) (own : ι) (path : κ) : ι := (state.processes own).uses own path

/-- A process has made all calls of its script. -/
def Finished (script : ι → List (PinCall κ)) (state : PinState κ ι) (own : ι) : Prop :=
  (state.processes own).pc = (script own).length

variable [DecidableEq κ]

/-- The pins and the process after a call that succeeds or fails. A lookup that fails is
taken for a free path. -/
def call (own : ι) (succeeds : Bool) (pins : κ → Option ι) (process : PinProcess κ ι) :
    PinCall κ → (κ → Option ι) × PinProcess κ ι
  | .other => (pins, if succeeds then process.next else process.stop)
  | .get path => (pins, process.look path (if succeeds then pins path else none))
  | .need path => (pins, if (process.found path).isSome then process.next else process.stop)
  | .reuse path =>
      (pins, if (process.found path).isNone || succeeds then process.next else process.stop)
  | .init path =>
      (pins, if (process.found path).isSome || succeeds then process.next else process.stop)
  | .pin path =>
      if (process.found path).isSome then (pins, process.next)
      else if succeeds && (pins path).isNone then
        (Function.update pins path (some own), process.next)
      else (pins, process.stop)

variable [DecidableEq ι]

def step (script : ι → List (PinCall κ)) (state : PinState κ ι) :
    PinAction κ ι → Option (PinState κ ι)
  | .run own succeeds =>
      if (state.processes own).stopped then none
      else
        match (script own)[(state.processes own).pc]? with
        | none => none
        | some here =>
            let (pins, process) := call own succeeds state.pins (state.processes own) here
            some ⟨pins, Function.update state.processes own process⟩
  | .kill own => some { state with
      processes := Function.update state.processes own (state.processes own).stop }
  | .unpin path => some { state with pins := Function.update state.pins path none }

/-- A run in which only the paths in `removed` are removed by hand. -/
abbrev Run (script : ι → List (PinCall κ)) (removed : κ → Prop) :
    PinState κ ι → List (PinAction κ ι) → PinState κ ι → Prop :=
  GuardedRun (step script) fun _ action => ∀ path, action = .unpin path → removed path

omit [DecidableEq κ] [DecidableEq ι] in
theorem unpins_iff (removed : κ → Prop) (target : κ) :
    (∀ path, (.unpin target : PinAction κ ι) = .unpin path → removed path) ↔ removed target :=
  ⟨fun all => all target rfl, fun holds _ same => PinAction.unpin.inj same ▸ holds⟩

instance (removed : κ → Prop) [DecidablePred removed] (action : PinAction κ ι) :
    Decidable (∀ path, action = .unpin path → removed path) :=
  match action with
  | .unpin target => decidable_of_iff (removed target) (unpins_iff removed target).symm
  | .run _ _ | .kill _ => isTrue fun _ => nofun

omit [DecidableEq κ] [DecidableEq ι] in
/-- The calls of a script, all of which succeed. -/
def straight (script : List (PinCall κ)) (own : ι) : List (PinAction κ ι) :=
  script.map fun _ => .run own true

/-! ## What a call does -/

omit [DecidableEq ι] in
/-- What a call can do to the pins and to its process. -/
inductive Effect (own : ι) (pins : κ → Option ι) (process : PinProcess κ ι) :
    PinCall κ → (κ → Option ι) → PinProcess κ ι → Prop where
  | stop (here : PinCall κ) : Effect own pins process here pins process.stop
  | pass {here : PinCall κ} (blind : ∀ path, here ≠ .get path)
      (adopted : ∀ path, here.Settles path → process.found path ≠ none) :
      Effect own pins process here pins process.next
  | look (path : κ) {result : Option ι} (seen : result = none ∨ result = pins path) :
      Effect own pins process (.get path) pins (process.look path result)
  | pin {path : κ} (free : pins path = none) (unseen : process.found path = none) :
      Effect own pins process (.pin path) (Function.update pins path (some own)) process.next

omit [DecidableEq ι] in
theorem effect_call (own : ι) (succeeds : Bool) (pins : κ → Option ι) (process : PinProcess κ ι)
    (here : PinCall κ) :
    Effect own pins process here (call own succeeds pins process here).1
      (call own succeeds pins process here).2 := by
  cases here with
  | other =>
      cases succeeds with
      | true => exact .pass (fun _ => nofun) fun _ => nofun
      | false => exact .stop _
  | need path =>
      simp only [call]
      split_ifs with adopted
      · refine .pass (fun _ => nofun) ?_
        rintro _ rfl
        exact Option.isSome_iff_ne_none.mp adopted
      · exact .stop _
  | init path =>
      simp only [call]
      split
      · exact .pass (fun _ => nofun) fun _ => nofun
      · exact .stop _
  | get path =>
      cases succeeds with
      | true => exact .look path (Or.inr rfl)
      | false => exact .look path (Or.inl rfl)
  | reuse path =>
      simp only [call]
      split
      · exact .pass (fun _ => nofun) fun _ => nofun
      · exact .stop _
  | pin path =>
      simp only [call]
      split_ifs with adopted free
      · refine .pass (fun _ => nofun) ?_
        rintro _ rfl
        exact Option.isSome_iff_ne_none.mp adopted
      · rw [Bool.and_eq_true, Option.isNone_iff_eq_none] at free
        exact .pin free.2 (by simpa using adopted)
      · exact .stop _

variable {script : ι → List (PinCall κ)} {removed : κ → Prop} {state next final : PinState κ ι}
  {action : PinAction κ ι} {actions : List (PinAction κ ι)} {path gate : κ} {own : ι}

/-- What a step can do. -/
theorem step_cases (taken : state.step script action = some next) :
    (∃ mover succeeds here pins process, action = .run mover succeeds ∧
        (state.processes mover).stopped = false ∧
        (script mover)[(state.processes mover).pc]? = some here ∧
        Effect mover state.pins (state.processes mover) here pins process ∧
        next = ⟨pins, Function.update state.processes mover process⟩) ∨
      (∃ mover, action = .kill mover ∧ next = { state with
        processes := Function.update state.processes mover (state.processes mover).stop }) ∨
      ∃ path, action = .unpin path ∧
        next = { state with pins := Function.update state.pins path none } := by
  cases action with
  | run mover succeeds =>
      simp only [step] at taken
      split at taken
      · cases taken
      · rename_i running
        split at taken
        · cases taken
        · rename_i here stands
          obtain rfl := Option.some.inj taken
          exact Or.inl ⟨mover, succeeds, here, _, _, rfl, by simpa using running, stands,
            effect_call mover succeeds state.pins (state.processes mover) here, rfl⟩
  | kill mover =>
      obtain rfl := Option.some.inj taken
      exact Or.inr (Or.inl ⟨mover, rfl, rfl⟩)
  | unpin path =>
      obtain rfl := Option.some.inj taken
      exact Or.inr (Or.inr ⟨path, rfl, rfl⟩)

/-- A pin that is not removed stays. -/
theorem pins_step (taken : state.step script action = some next) (kept : action ≠ .unpin path)
    {owner : ι} (pinned : state.pins path = some owner) : next.pins path = some owner := by
  rcases step_cases taken with ⟨mover, -, here, pins, process, -, -, -, effect, rfl⟩ |
    ⟨mover, -, rfl⟩ | ⟨other, rfl, rfl⟩
  · cases effect with
    | pin free unseen =>
        rename_i target
        have different : path ≠ target := fun same => by
          rw [← same, pinned] at free
          cases free
        exact (Function.update_of_ne different _ _).trans pinned
    | _ => exact pinned
  · exact pinned
  · have different : path ≠ other := fun same => kept (by rw [same])
    exact (Function.update_of_ne different _ _).trans pinned

theorem pins_run (run : Run script removed state actions final) (kept : ¬removed path)
    {owner : ι} (pinned : state.pins path = some owner) : final.pins path = some owner :=
  run.invariant (fun state => state.pins path = some owner)
    (fun _ _ _ holds allowed taken =>
      pins_step taken (fun same => kept (allowed path same)) holds) pinned

/-- A process that has stopped makes no more calls. -/
theorem stopped_run (run : Run script removed state actions final)
    (stopped : (state.processes own).stopped = true) :
    final.processes own = state.processes own := by
  have stays : final.processes own = state.processes own ∧
      (final.processes own).stopped = true := by
    refine run.invariant (fun other => other.processes own = state.processes own ∧
      (other.processes own).stopped = true) ?_ ⟨rfl, stopped⟩
    intro state action next holds _ taken
    rcases step_cases taken with ⟨mover, -, here, pins, process, -, running, -, -, rfl⟩ |
      ⟨mover, -, rfl⟩ | ⟨other, -, rfl⟩
    · have different : own ≠ mover := fun same => by
        rw [← same, holds.2] at running
        cases running
      dsimp only
      rwa [Function.update_of_ne different]
    · dsimp only
      by_cases same : own = mover
      · subst same
        rw [Function.update_self]
        have still : (state.processes own).stop = state.processes own := by
          show (⟨_, _, true⟩ : PinProcess κ ι) = state.processes own
          rw [← holds.2]
        rwa [still]
      · rwa [Function.update_of_ne same]
    · exact holds
  exact stays.1

/-- No process leaves its script. -/
theorem pc_le_length (run : Run script removed state actions final)
    (inside : (state.processes own).pc ≤ (script own).length) :
    (final.processes own).pc ≤ (script own).length := by
  refine run.invariant (fun state => (state.processes own).pc ≤ (script own).length) ?_ inside
  intro state action next holds _ taken
  rcases step_cases taken with ⟨mover, -, here, pins, process, -, -, calls, effect, rfl⟩ |
    ⟨mover, -, rfl⟩ | ⟨path, -, rfl⟩
  · dsimp only
    by_cases moved : own = mover
    · subst moved
      have below : (state.processes own).pc < (script own).length :=
        (List.getElem?_eq_some_iff.mp calls).1
      rw [Function.update_self]
      cases effect with
      | stop => exact holds
      | _ => exact below
    · rwa [Function.update_of_ne moved]
  · dsimp only
    by_cases moved : own = mover
    · subst moved
      rw [Function.update_self]
      exact holds
    · rwa [Function.update_of_ne moved]
  · exact holds

/-! ## One path -/

/-- The call that a script makes at a position. -/
def Calls (script : ι → List (PinCall κ)) (own : ι) (index : Nat) (here : PinCall κ) : Prop :=
  (script own)[index]? = some here

/-- A lookup that does not fail. -/
theorem look_step (calls : Calls script own (state.processes own).pc (.get path))
    (taken : state.step script (.run own true) = some next) :
    (next.processes own).found path = state.pins path ∧
      (next.processes own).pc = (state.processes own).pc + 1 := by
  simp only [step] at taken
  split at taken
  · cases taken
  · rw [show (script own)[(state.processes own).pc]? = some (.get path) from calls] at taken
    obtain rfl := Option.some.inj taken
    simp only [call, PinProcess.look, Function.update_self, if_true, and_self]

/-- What a process has found stays when it does not look again. -/
theorem found_run (run : Run script removed state actions final)
    (looked : ∀ index, Calls script own index (.get path) → index < (state.processes own).pc) :
    (final.processes own).found path = (state.processes own).found path := by
  have stays : (final.processes own).found path = (state.processes own).found path ∧
      (state.processes own).pc ≤ (final.processes own).pc := by
    refine run.invariant (fun other =>
      (other.processes own).found path = (state.processes own).found path ∧
        (state.processes own).pc ≤ (other.processes own).pc) ?_ ⟨rfl, Nat.le_refl _⟩
    intro before action after holds _ taken
    rcases step_cases taken with ⟨mover, -, here, pins, process, -, -, calls, effect, rfl⟩ |
      ⟨mover, -, rfl⟩ | ⟨other, -, rfl⟩
    · dsimp only
      by_cases moved : own = mover
      · subst moved
        rw [Function.update_self]
        cases effect with
        | stop => exact holds
        | pass => exact ⟨holds.1, Nat.le_succ_of_le holds.2⟩
        | look target seen =>
            have different : path ≠ target := by
              rintro rfl
              exact absurd (looked _ calls) (Nat.not_lt.mpr holds.2)
            exact ⟨(Function.update_of_ne different _ _).trans holds.1,
              Nat.le_succ_of_le holds.2⟩
        | pin => exact ⟨holds.1, Nat.le_succ_of_le holds.2⟩
      · rwa [Function.update_of_ne moved]
    · dsimp only
      by_cases moved : own = mover
      · subst moved
        rw [Function.update_self]
        exact holds
      · rwa [Function.update_of_ne moved]
    · exact holds
  exact stays.1

/-- No script looks a path up after it has settled for an object. -/
def LooksFirst (script : ι → List (PinCall κ)) (path : κ) : Prop :=
  ∀ own look index here, Calls script own look (.get path) → Calls script own index here →
    here.Settles path → look < index

/-- What processes have to do with a path: what a lookup has found is still pinned, who
has settled for an object works with the pinned one, whose object it is has passed the
pinning without having found another, and who never looks has found nothing. -/
structure Agrees (script : ι → List (PinCall κ)) (path : κ) (state : PinState κ ι) : Prop where
  seen : ∀ own other, (state.processes own).found path = some other →
    state.pins path = some other
  passed : ∀ own index here, Calls script own index here → here.Settles path →
    index < (state.processes own).pc → state.pins path = some (state.uses own path)
  made : ∀ own, state.pins path = some own → (state.processes own).found path = none ∧
    ∃ index < (state.processes own).pc, Calls script own index (.pin path)
  blind : ∀ own, (∀ index, ¬Calls script own index (.get path)) →
    (state.processes own).found path = none

omit [DecidableEq κ] [DecidableEq ι] in
theorem agrees_start (script : ι → List (PinCall κ)) (path : κ) : Agrees script path start where
  seen _ _ found := by cases found
  passed _ _ _ _ _ below := absurd below (Nat.not_lt_zero _)
  made _ pinned := by cases pinned
  blind _ _ := rfl

section Preserved

variable {mover : ι} {pins : κ → Option ι} {process : PinProcess κ ι}

omit [DecidableEq κ] in
/-- A process that moves on without touching the path. -/
theorem Agrees.advance (agrees : Agrees script path state)
    (same : pins path = state.pins path)
    (found : process.found path = (state.processes mover).found path)
    (grows : (state.processes mover).pc ≤ process.pc)
    (adopted : ∀ index here, Calls script mover index here → here.Settles path →
      index < process.pc → index < (state.processes mover).pc ∨ process.found path ≠ none) :
    Agrees script path ⟨pins, Function.update state.processes mover process⟩ := by
  have foundAll : ∀ own, (Function.update state.processes mover process own).found path =
      (state.processes own).found path := by
    intro own
    by_cases moved : own = mover
    · subst moved
      rw [Function.update_self, found]
    · rw [Function.update_of_ne moved]
  have usesAll : ∀ own, (Function.update state.processes mover process own).uses own path =
      state.uses own path := by
    intro own
    unfold PinState.uses PinProcess.uses
    rw [foundAll]
  refine ⟨?_, ?_, ?_, ?_⟩
  · intro own other seen
    dsimp only at seen ⊢
    rw [foundAll] at seen
    exact same.trans (agrees.seen own other seen)
  · intro own index here calls settles below
    show pins path = some ((Function.update state.processes mover process own).uses own path)
    rw [same, usesAll]
    rcases update_cases (fun process : PinProcess κ ι => index < process.pc) below with
      ⟨rfl, passed⟩ | ⟨-, passed⟩
    · rcases adopted index here calls settles passed with before | hasFound
      · exact agrees.passed own index here calls settles before
      · obtain ⟨other, isOther⟩ := Option.ne_none_iff_exists'.mp hasFound
        rw [found] at isOther
        rw [agrees.seen own other isOther]
        unfold PinState.uses PinProcess.uses
        rw [isOther, Option.getD_some]
    · exact agrees.passed own index here calls settles passed
  · intro own pinned
    dsimp only at pinned ⊢
    rw [same] at pinned
    obtain ⟨unseen, index, below, calls⟩ := agrees.made own pinned
    rw [foundAll]
    refine ⟨unseen, index, ?_, calls⟩
    by_cases moved : own = mover
    · subst moved
      rw [Function.update_self]
      exact Nat.lt_of_lt_of_le below grows
    · rwa [Function.update_of_ne moved]
  · intro own blind
    dsimp only
    rw [foundAll]
    exact agrees.blind own blind

/-- A process that looks the path up. -/
theorem Agrees.look (agrees : Agrees script path state) (looksFirst : LooksFirst script path)
    (calls : Calls script mover (state.processes mover).pc (.get path)) {result : Option ι}
    (seen : result = none ∨ result = state.pins path) :
    Agrees script path ⟨state.pins, Function.update state.processes mover
      ((state.processes mover).look path result)⟩ := by
  have unpassed : ∀ index here, Calls script mover index here → here.Settles path →
      ¬index < (state.processes mover).pc + 1 := by
    intro index here callsHere settles below
    have order := looksFirst mover _ index here calls callsHere settles
    omega
  refine ⟨?_, ?_, ?_, ?_⟩
  · intro own other found
    rcases update_cases (fun process : PinProcess κ ι => process.found path = some other) found with
      ⟨rfl, here⟩ | ⟨-, here⟩
    · simp only [PinProcess.look, Function.update_self] at here
      rcases seen with rfl | rfl
      · cases here
      · exact here
    · exact agrees.seen own other here
  · intro own index here callsHere settles below
    rcases update_cases (fun process : PinProcess κ ι => index < process.pc) below with
      ⟨rfl, passed⟩ | ⟨different, passed⟩
    · exact absurd passed (unpassed index here callsHere settles)
    · have before := agrees.passed own index here callsHere settles passed
      unfold PinState.uses at before ⊢
      dsimp only
      rwa [Function.update_of_ne different]
  · intro own pinned
    obtain ⟨unseen, index, below, pins⟩ := agrees.made own pinned
    have different : own ≠ mover := by
      rintro rfl
      exact unpassed index _ pins rfl (Nat.lt_succ_of_lt below)
    dsimp only
    rw [Function.update_of_ne different]
    exact ⟨unseen, index, below, pins⟩
  · intro own blind
    have different : own ≠ mover := by
      rintro rfl
      exact blind _ calls
    dsimp only
    rw [Function.update_of_ne different]
    exact agrees.blind own blind

/-- A process that pins the path. -/
theorem Agrees.pin (agrees : Agrees script path state)
    (calls : Calls script mover (state.processes mover).pc (.pin path))
    (free : state.pins path = none) (unseen : (state.processes mover).found path = none) :
    Agrees script path ⟨Function.update state.pins path (some mover),
      Function.update state.processes mover (state.processes mover).next⟩ := by
  have foundAll : ∀ own, (Function.update state.processes mover
      (state.processes mover).next own).found path = none := by
    intro own
    by_cases moved : own = mover
    · subst moved
      rw [Function.update_self]
      exact unseen
    · rw [Function.update_of_ne moved]
      cases found : (state.processes own).found path with
      | none => rfl
      | some other => cases free.symm.trans (agrees.seen own other found)
  refine ⟨?_, ?_, ?_, fun own _ => foundAll own⟩
  · intro own other found
    cases (foundAll own).symm.trans found
  · intro own index here callsHere settles below
    rcases update_cases (fun process : PinProcess κ ι => index < process.pc) below with ⟨rfl, -⟩ |
      ⟨-, passed⟩
    · show Function.update state.pins path (some own) path = _
      unfold PinState.uses PinProcess.uses
      rw [foundAll, Function.update_self, Option.getD_none]
    · cases free.symm.trans (agrees.passed own index here callsHere settles passed)
  · intro own pinned
    dsimp only at pinned
    rw [Function.update_self] at pinned
    obtain rfl := Option.some.inj pinned
    refine ⟨foundAll mover, (state.processes mover).pc, ?_, calls⟩
    dsimp only
    rw [Function.update_self]
    exact Nat.lt_succ_self _

theorem Agrees.step (agrees : Agrees script path state) (looksFirst : LooksFirst script path)
    (taken : state.step script action = some next) (kept : action ≠ .unpin path) :
    Agrees script path next := by
  rcases step_cases taken with ⟨mover, -, here, pins, process, -, -, calls, effect, rfl⟩ |
    ⟨mover, -, rfl⟩ | ⟨other, rfl, rfl⟩
  · cases effect with
    | stop => exact agrees.advance rfl rfl (Nat.le_refl _) fun _ _ _ _ below => Or.inl below
    | pass blind adopted =>
        refine agrees.advance rfl rfl (Nat.le_succ _) fun index last callsLast settles below => ?_
        rcases Nat.lt_succ_iff_lt_or_eq.mp below with before | rfl
        · exact Or.inl before
        · obtain rfl := Option.some.inj (calls.symm.trans callsLast)
          exact Or.inr (adopted path settles)
    | look target seen =>
        by_cases same : target = path
        · subst same
          exact agrees.look looksFirst calls seen
        · refine agrees.advance rfl (Function.update_of_ne (Ne.symm same) _ _) (Nat.le_succ _)
            fun index last callsLast settles below => ?_
          rcases Nat.lt_succ_iff_lt_or_eq.mp below with before | rfl
          · exact Or.inl before
          · obtain rfl := Option.some.inj (calls.symm.trans callsLast)
            exact settles.elim
    | pin free unseen =>
        rename_i target
        by_cases same : target = path
        · subst same
          exact agrees.pin calls free unseen
        · refine agrees.advance (Function.update_of_ne (Ne.symm same) _ _) rfl (Nat.le_succ _)
            fun index last callsLast settles below => ?_
          rcases Nat.lt_succ_iff_lt_or_eq.mp below with before | rfl
          · exact Or.inl before
          · obtain rfl := Option.some.inj (calls.symm.trans callsLast)
            exact absurd settles same
  · exact agrees.advance rfl rfl (Nat.le_refl _) fun _ _ _ _ below => Or.inl below
  · have different : path ≠ other := fun same => kept (by rw [same])
    have same : Function.update state.pins other none path = state.pins path :=
      Function.update_of_ne different _ _
    exact ⟨fun own found seen => same.trans (agrees.seen own found seen),
      fun own index here calls settles below =>
        same.trans (agrees.passed own index here calls settles below),
      fun own pinned => agrees.made own (same.symm.trans pinned), agrees.blind⟩

end Preserved

theorem Agrees.run (agrees : Agrees script path state) (looksFirst : LooksFirst script path)
    (run : Run script removed state actions final) (kept : ¬removed path) :
    Agrees script path final :=
  run.invariant (Agrees script path)
    (fun _ _ _ holds allowed taken =>
      holds.step looksFirst taken fun same => kept (allowed path same)) agrees

omit [DecidableEq κ] [DecidableEq ι] in
/-- While nothing is pinned under the path, every process works with an object of its
own. -/
theorem Agrees.uses_of_unpinned (agrees : Agrees script path state)
    (unpinned : state.pins path = none) : state.uses own path = own := by
  unfold PinState.uses PinProcess.uses
  cases found : (state.processes own).found path with
  | none => rfl
  | some other => cases unpinned.symm.trans (agrees.seen own other found)

/-! ## A path that is pinned first -/

/-- Every script that pins `path` has pinned `gate` before, and no script looks `gate`
up. -/
structure Guards (script : ι → List (PinCall κ)) (gate path : κ) : Prop where
  before : ∀ own index, Calls script own index (.pin path) →
    ∃ first < index, Calls script own first (.pin gate)
  unlooked : ∀ own index, ¬Calls script own index (.get gate)

section Gate

omit [DecidableEq κ] [DecidableEq ι]

theorem uses_gate (guards : Guards script gate path) (agrees : Agrees script gate state) :
    state.uses own gate = own := by
  unfold PinState.uses PinProcess.uses
  rw [agrees.blind own (guards.unlooked own), Option.getD_none]

/-- Who has passed the gate has it pinned. -/
theorem gate_of_passed (guards : Guards script gate path) (agrees : Agrees script gate state)
    {index : Nat} (calls : Calls script own index (.pin gate))
    (below : index < (state.processes own).pc) : state.pins gate = some own := by
  rw [agrees.passed own index _ calls rfl below, uses_gate guards agrees]

/-- What is pinned behind the gate belongs to the process that has pinned the gate, and
that process works with it. -/
theorem gate_of_pinned (guards : Guards script gate path) (atGate : Agrees script gate state)
    (atPath : Agrees script path state) (pinned : state.pins path = some own) :
    state.pins gate = some own ∧ state.uses own path = own := by
  obtain ⟨unseen, index, below, calls⟩ := atPath.made own pinned
  obtain ⟨first, earlier, atFirst⟩ := guards.before own index calls
  refine ⟨gate_of_passed guards atGate atFirst (Nat.lt_trans earlier below), ?_⟩
  unfold PinState.uses PinProcess.uses
  rw [unseen, Option.getD_none]

end Gate

/-- No script makes the call twice. -/
def CallsOnce (script : ι → List (PinCall κ)) (here : PinCall κ) : Prop :=
  ∀ own first second, Calls script own first here → Calls script own second here →
    first = second

/-- When the process that has pinned the gate stops before it has pinned a path behind
it, that path is never pinned. -/
theorem unpinned_behind_stopped (guards : Guards script gate path)
    (once : CallsOnce script (.pin path))
    (looksGate : LooksFirst script gate) (looksPath : LooksFirst script path)
    (atGate : Agrees script gate state) (atPath : Agrees script path state)
    (owned : state.pins gate = some own) (stopped : (state.processes own).stopped = true)
    {index : Nat} (calls : Calls script own index (.pin path))
    (ahead : (state.processes own).pc ≤ index) (run : Run script removed state actions final)
    (keptGate : ¬removed gate) (keptPath : ¬removed path) : final.pins path = none := by
  cases pinned : final.pins path with
  | none => rfl
  | some owner =>
      have finalGate := atGate.run looksGate run keptGate
      have finalPath := atPath.run looksPath run keptPath
      have gateOwner := (gate_of_pinned guards finalGate finalPath pinned).1
      obtain rfl := Option.some.inj ((pins_run run keptGate owned).symm.trans gateOwner)
      obtain ⟨-, other, below, sameCall⟩ := finalPath.made own pinned
      rw [stopped_run run stopped] at below
      obtain rfl := once own index other calls sameCall
      omega

/-! ## Checks on single scripts

What is asked of the scripts above follows from decidable properties of each list of
calls. -/

end PinState

namespace PinCall

/-- Behind a call that settles for an object the path is not looked up. -/
def LooksBefore (path : κ) (calls : List (PinCall κ)) : Prop :=
  calls.Pairwise fun earlier later => earlier.Settles path → later ≠ .get path

/-- The call occurs at most once. -/
def Once (here : PinCall κ) (calls : List (PinCall κ)) : Prop :=
  calls.Pairwise fun earlier later => earlier = here → later ≠ here

/-- The path is pinned only behind the gate. -/
def Behind (gate path : κ) : List (PinCall κ) → Prop
  | [] => True
  | here :: rest => here ≠ .pin path ∧ (here = .pin gate ∨ Behind gate path rest)

section Decidable

variable [DecidableEq κ]

instance (path : κ) : DecidablePred (LooksBefore path) := fun calls =>
  inferInstanceAs (Decidable (calls.Pairwise _))

instance (here : PinCall κ) : DecidablePred (Once here) := fun calls =>
  inferInstanceAs (Decidable (calls.Pairwise _))

instance decidableBehind (gate path : κ) :
    (calls : List (PinCall κ)) → Decidable (Behind gate path calls)
  | [] => isTrue trivial
  | here :: rest =>
      have := decidableBehind gate path rest
      inferInstanceAs (Decidable (here ≠ .pin path ∧ (here = .pin gate ∨ Behind gate path rest)))

end Decidable

theorem Behind.exists_before {gate path : κ} {calls : List (PinCall κ)}
    (behind : Behind gate path calls) {index : Nat} (pins : calls[index]? = some (.pin path)) :
    ∃ first < index, calls[first]? = some (.pin gate) := by
  induction calls generalizing index with
  | nil => cases pins
  | cons here rest inductionHypothesis =>
      obtain ⟨different, before⟩ := behind
      cases index with
      | zero => exact absurd (Option.some.inj pins) different
      | succ index =>
          rcases before with rfl | later
          · exact ⟨0, Nat.succ_pos index, rfl⟩
          · obtain ⟨first, earlier, atFirst⟩ := inductionHypothesis later pins
            exact ⟨first + 1, Nat.succ_lt_succ earlier, atFirst⟩

end PinCall

namespace PinState

section Checks

variable {script : ι → List (PinCall κ)} {path gate : κ} {here : PinCall κ}

theorem Calls.mem {own : ι} {index : Nat} (calls : Calls script own index here) :
    here ∈ script own :=
  List.mem_of_getElem? calls

theorem Calls.related {own : ι} {first second : Nat} {earlier later : PinCall κ}
    {relates : PinCall κ → PinCall κ → Prop} (atFirst : Calls script own first earlier)
    (atSecond : Calls script own second later) (ordered : (script own).Pairwise relates)
    (before : first < second) : relates earlier later := by
  obtain ⟨firstBelow, rfl⟩ := List.getElem?_eq_some_iff.mp atFirst
  obtain ⟨secondBelow, rfl⟩ := List.getElem?_eq_some_iff.mp atSecond
  exact List.pairwise_iff_getElem.mp ordered first second firstBelow secondBelow before

theorem looksFirst_of_scripts (each : ∀ own, PinCall.LooksBefore path (script own)) :
    LooksFirst script path := by
  intro own look index settling looks calls settles
  by_contra late
  rcases Nat.lt_or_eq_of_le (Nat.le_of_not_lt late) with before | rfl
  · exact calls.related looks (each own) before settles rfl
  · obtain rfl := Option.some.inj (looks.symm.trans calls)
    exact settles

theorem callsOnce_of_scripts (each : ∀ own, PinCall.Once here (script own)) :
    CallsOnce script here := by
  intro own first second atFirst atSecond
  rcases Nat.lt_trichotomy first second with before | same | after
  · exact absurd rfl (atFirst.related atSecond (each own) before rfl)
  · exact same
  · exact absurd rfl (atSecond.related atFirst (each own) after rfl)

theorem guards_of_scripts (behind : ∀ own, PinCall.Behind gate path (script own))
    (unlooked : ∀ own, .get gate ∉ script own) : Guards script gate path where
  before own _ calls := (behind own).exists_before calls
  unlooked own _ calls := unlooked own calls.mem

end Checks

/-! ## Running a script to its end -/

variable [DecidableEq κ] [DecidableEq ι] {script : ι → List (PinCall κ)} {removed : κ → Prop}
  {state : PinState κ ι} {own : ι}

/-- A call that can succeed. -/
theorem exists_next (running : (state.processes own).stopped = false) {here : PinCall κ}
    (calls : Calls script own (state.processes own).pc here)
    (free : ∀ path, here = .pin path → state.pins path = none)
    (easy : ∀ path, here ≠ .need path)
    (seen : ∀ path other, (state.processes own).found path = some other →
      state.pins path = some other) :
    ∃ pins process, state.step script (.run own true) =
        some ⟨pins, Function.update state.processes own process⟩ ∧
      process.pc = (state.processes own).pc + 1 ∧ process.stopped = false ∧
      (∀ path, here ≠ .pin path → pins path = state.pins path) ∧
      ∀ path other, process.found path = some other → pins path = some other := by
  have step : state.step script (.run own true) =
      some ⟨(call own true state.pins (state.processes own) here).1,
        Function.update state.processes own
          (call own true state.pins (state.processes own) here).2⟩ := by
    simp only [PinState.step, running, Bool.false_eq_true, if_false]
    rw [show (script own)[(state.processes own).pc]? = some here from calls]
  refine ⟨_, _, step, ?_⟩
  cases here with
  | other => exact ⟨rfl, running, fun _ _ => rfl, seen⟩
  | get path =>
      refine ⟨rfl, running, fun _ _ => rfl, fun target other found => ?_⟩
      simp only [call, PinProcess.look, if_true] at found
      by_cases same : target = path
      · subst same
        rwa [Function.update_self] at found
      · rw [Function.update_of_ne same] at found
        exact seen target other found
  | need path => exact absurd rfl (easy path)
  | init path =>
      have passes : call own true state.pins (state.processes own) (.init path) =
          (state.pins, (state.processes own).next) := by
        simp only [call, Bool.or_true, if_true]
      rw [passes]
      exact ⟨rfl, running, fun _ _ => rfl, seen⟩
  | reuse path =>
      have passes : call own true state.pins (state.processes own) (.reuse path) =
          (state.pins, (state.processes own).next) := by
        simp only [call, Bool.or_true, if_true]
      rw [passes]
      exact ⟨rfl, running, fun _ _ => rfl, seen⟩
  | pin path =>
      have unpinned := free path rfl
      have unseen : (state.processes own).found path = none := by
        cases found : (state.processes own).found path with
        | none => rfl
        | some other => cases unpinned.symm.trans (seen path other found)
      have pinned : call own true state.pins (state.processes own) (.pin path) =
          (Function.update state.pins path (some own), (state.processes own).next) := by
        simp only [call, unseen, unpinned, Option.isSome_none, Option.isNone_none, Bool.and_self,
          Bool.false_eq_true, if_false, if_true]
      rw [pinned]
      refine ⟨rfl, running, fun target different => ?_, fun target other found => ?_⟩
      · exact Function.update_of_ne (fun same => different (by rw [same])) _ _
      · have before := seen target other found
        have different : target ≠ path := by
          rintro rfl
          cases unpinned.symm.trans before
        exact (Function.update_of_ne different _ _).trans before

/-- A process that needs nothing of others and finds the paths ahead of it free can run to
the end of its script. -/
theorem exists_finish (once : ∀ path, CallsOnce script (.pin path))
    (easy : ∀ index path, ¬Calls script own index (.need path)) {remaining : Nat}
    (length : (state.processes own).pc + remaining = (script own).length)
    (running : (state.processes own).stopped = false)
    (free : ∀ index path, (state.processes own).pc ≤ index → Calls script own index (.pin path) →
      state.pins path = none)
    (seen : ∀ path other, (state.processes own).found path = some other →
      state.pins path = some other) :
    ∃ actions final, Run script removed state actions final ∧ Finished script final own := by
  induction remaining generalizing state with
  | zero => exact ⟨[], state, .nil state, length⟩
  | succ remaining inductionHypothesis =>
      have inside : (state.processes own).pc < (script own).length := by omega
      have calls : Calls script own (state.processes own).pc
          (script own)[(state.processes own).pc] := List.getElem?_eq_getElem inside
      obtain ⟨pins, process, taken, pc, goesOn, same, seenNext⟩ := exists_next running calls
        (fun path isPin => free _ path (Nat.le_refl _) (isPin ▸ calls))
        (fun path isNeed => easy _ path (isNeed ▸ calls)) seen
      have here : (Function.update state.processes own process) own = process :=
        Function.update_self ..
      obtain ⟨actions, final, run, finished⟩ := @inductionHypothesis
        ⟨pins, Function.update state.processes own process⟩ (by dsimp only; rw [here]; omega)
        (by dsimp only; rw [here]; exact goesOn)
        (fun index path after isPin => by
          dsimp only at after ⊢
          rw [here, pc] at after
          rw [same path fun current => ?_]
          · exact free index path (by omega) isPin
          · -- The path has just been pinned, and no script pins it again.
            have twice := once path own _ index (current ▸ calls) isPin
            omega)
        (by dsimp only; rw [here]; exact seenNext)
      exact ⟨_, final, .cons (fun _ => by nofun) taken run, finished⟩

end PinState

end PhantomTracker.Foundation
