import Mathlib.Data.List.Basic

/-!
Contract: one component of a system, and what the rest of the system can do to it.

Owns: a machine that consumes inputs and emits outputs, the inputs that reach it
along a run of the system, and the rule that a component which every allowed
action simulates behaves along every run as it would alone, on the inputs routed
to it.

Does not own: the system, its actions, or how inputs are routed.
-/

namespace PhantomTracker.Foundation

universe u v w x y

variable {σ : Type u} {α : Type v} {υ : Type w} {ε : Type x} {ω : Type y}

/-! ## A machine with outputs -/

/-- The state after all inputs, and the outputs on the way. -/
def consume (step : υ → ε → υ × List ω) : υ → List ε → υ × List ω
  | view, [] => (view, [])
  | view, input :: rest =>
      let moved := step view input
      let done := consume step moved.1 rest
      (done.1, moved.2 ++ done.2)

theorem consume_append (step : υ → ε → υ × List ω) (view : υ) (first second : List ε) :
    consume step view (first ++ second) =
      ((consume step (consume step view first).1 second).1,
        (consume step view first).2 ++ (consume step (consume step view first).1 second).2) := by
  induction first generalizing view with
  | nil => rfl
  | cons input rest inductionHypothesis =>
      simp only [List.cons_append, consume, inductionHypothesis, List.append_assoc]

/-! ## A component of a system -/

/-- The inputs that the actions of a run route to a component. -/
def routed (apply : σ → α → σ) (route : σ → α → List ε) : σ → List α → List ε
  | _, [] => []
  | state, action :: rest => route state action ++ routed apply route (apply state action) rest

/-- The outputs of the actions of a run. -/
def emitted (apply : σ → α → σ) (emit : σ → α → List ω) : σ → List α → List ω
  | _, [] => []
  | state, action :: rest => emit state action ++ emitted apply emit (apply state action) rest

/-- Every action of a run is allowed where it is taken. -/
def AllowedRun (apply : σ → α → σ) (allowed : σ → α → Prop) : σ → List α → Prop
  | _, [] => True
  | state, action :: rest => allowed state action ∧ AllowedRun apply allowed (apply state action) rest

/-- A component of a system: how a state is seen, which inputs an action routes
to it, and that every allowed action moves it by these inputs alone. -/
structure Component (apply : σ → α → σ) (emit : σ → α → List ω)
    (step : υ → ε → υ × List ω) where
  sees : σ → υ → Prop
  allowed : σ → α → Prop
  route : σ → α → List ε
  simulates : ∀ {state view action}, sees state view → allowed state action →
    sees (apply state action) (consume step view (route state action)).1 ∧
      emit state action = (consume step view (route state action)).2

namespace Component

variable {apply : σ → α → σ} {emit : σ → α → List ω} {step : υ → ε → υ × List ω}

/-- Along every run the component does what its inputs make it do. -/
theorem run (component : Component apply emit step) {state : σ} {view : υ} {actions : List α}
    (sees : component.sees state view) (allowed : AllowedRun apply component.allowed state actions) :
    component.sees (actions.foldl apply state)
        (consume step view (routed apply component.route state actions)).1 ∧
      emitted apply emit state actions =
        (consume step view (routed apply component.route state actions)).2 := by
  induction actions generalizing state view with
  | nil => exact ⟨sees, rfl⟩
  | cons action rest inductionHypothesis =>
      obtain ⟨moved, output⟩ := component.simulates sees allowed.1
      obtain ⟨final, outputs⟩ := inductionHypothesis moved allowed.2
      simp only [routed, emitted, consume_append, List.foldl_cons]
      exact ⟨final, by rw [output, outputs]⟩

end Component

end PhantomTracker.Foundation
