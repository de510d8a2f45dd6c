import Mathlib.Data.List.Basic

/-!
# Guarded machines and their runs

A machine is a partial step function under named actions. The nondeterminism of an
interleaving lives in the choice of the action, so the step function stays executable and a
concrete run is a list of actions. Which actions the environment may take is a separate
relation between a state and an action: one machine is studied under several environments,
and "every step of the run meets a condition" is reachability under a stronger relation.
-/

namespace Machines

universe u v w

/-- Initial states and a partial step function under named actions. -/
structure Machine (σ : Type u) (α : Type v) where
  /-- The states a run may start from. -/
  start : σ → Prop
  /-- The state after an action, when the action is enabled. -/
  step : σ → α → Option σ

namespace Machine

variable {σ : Type u} {α : Type v} (machine : Machine σ α) (legal : σ → α → Prop)

/-- The states reached by runs all of whose actions are legal where they are taken. -/
inductive Reachable : σ → Prop where
  /-- A run may stop where it starts. -/
  | start {state : σ} : machine.start state → Reachable state
  /-- A run may take one more legal, enabled action. -/
  | next {state after : σ} {action : α} : Reachable state → legal state action →
      machine.step state action = some after → Reachable after

/-- One legal step, with its action. -/
structure Step (state : σ) (action : α) (after : σ) : Prop where
  /-- The environment may take the action here. -/
  allowed : legal state action
  /-- The action is enabled and leads there. -/
  taken : machine.step state action = some after

/-- A run from one state to another, with its actions in order. -/
inductive Run : σ → List α → σ → Prop where
  /-- The empty run. -/
  | nil (state : σ) : Run state [] state
  /-- A first step and the rest of the run. -/
  | cons {state middle after : σ} {action : α} {actions : List α} :
      machine.Step legal state action middle → Run middle actions after →
      Run state (action :: actions) after

variable {machine legal}

/-- A predicate that holds at the start and survives every legal step from a reachable state
holds in every reachable state. -/
theorem Reachable.invariant {holds : σ → Prop} (base : ∀ state, machine.start state → holds state)
    (kept : ∀ state action after, machine.Reachable legal state → holds state →
      legal state action → machine.step state action = some after → holds after)
    {state : σ} (reached : machine.Reachable legal state) : holds state := by
  induction reached with
  | start initial => exact base _ initial
  | next earlier allowed taken ih => exact kept _ _ _ earlier ih allowed taken

/-- Fewer legal actions reach fewer states. -/
theorem Reachable.weaken {stronger : σ → α → Prop}
    (implies : ∀ state action, stronger state action → legal state action)
    {state : σ} (reached : machine.Reachable stronger state) : machine.Reachable legal state := by
  induction reached with
  | start initial => exact .start initial
  | next _ allowed taken ih => exact ih.next (implies _ _ allowed) taken

/-- A run from a reachable state ends in a reachable state. -/
theorem Run.reachable {state after : σ} {actions : List α}
    (run : machine.Run legal state actions after) (reached : machine.Reachable legal state) :
    machine.Reachable legal after := by
  induction run with
  | nil => exact reached
  | cons first _ ih => exact ih (reached.next first.allowed first.taken)

/-- A property kept by every legal step from a reachable state is kept by every run. -/
theorem Run.preserves {holds : σ → Prop} {state after : σ} {actions : List α}
    (run : machine.Run legal state actions after) (reached : machine.Reachable legal state)
    (kept : ∀ state action after, machine.Reachable legal state → holds state →
      legal state action → machine.step state action = some after → holds after)
    (now : holds state) : holds after := by
  induction run with
  | nil => exact now
  | cons first _ ih =>
    exact ih (reached.next first.allowed first.taken)
      (kept _ _ _ reached now first.allowed first.taken)

/-- Take the actions in order, checking that each is legal where it is taken. -/
def execute (machine : Machine σ α) (legal : σ → α → Prop)
    [∀ state action, Decidable (legal state action)] : σ → List α → Option σ
  | state, [] => some state
  | state, action :: actions =>
    if legal state action then (machine.step state action).bind (machine.execute legal · actions)
    else none

/-- An execution that succeeds is a run. -/
theorem run_of_execute [∀ state action, Decidable (legal state action)] {state after : σ}
    {actions : List α} (done : machine.execute legal state actions = some after) :
    machine.Run legal state actions after := by
  induction actions generalizing state with
  | nil =>
    obtain rfl := Option.some.inj done
    exact .nil state
  | cons action actions ih =>
    simp only [execute] at done
    split at done
    · rename_i allowed
      obtain ⟨middle, taken, rest⟩ := Option.bind_eq_some_iff.mp done
      exact .cons ⟨allowed, taken⟩ (ih rest)
    · contradiction

/-- An execution from a start state that succeeds with a checked result names a reachable state
with that result. -/
theorem reachable_of_execute (machine : Machine σ α) (legal : σ → α → Prop)
    [∀ state action, Decidable (legal state action)] (state : σ) (actions : List α)
    (check : σ → Bool) (initial : machine.start state)
    (done : (machine.execute legal state actions).any check = true) :
    ∃ after, machine.Reachable legal after ∧ check after = true := by
  cases ran : machine.execute legal state actions with
  | none => simp [ran] at done
  | some after =>
    simp only [ran, Option.any_some] at done
    exact ⟨after, (run_of_execute ran).reachable (.start initial), done⟩

end Machine

/-- A view of a concrete machine in an abstract one: every concrete step is a legal abstract
step of the view, or leaves the view alone. -/
structure Refinement {σ : Type u} {α : Type v} {τ : Type w} {β : Type v}
    (concrete : Machine σ α) (legal : σ → α → Prop)
    (abstract : Machine τ β) (permitted : τ → β → Prop) where
  /-- The abstract state a concrete state stands for. -/
  view : σ → τ
  /-- Concrete runs start in views of abstract starts. -/
  starts : ∀ state, concrete.start state → abstract.start (view state)
  /-- A concrete step is an abstract step or a stutter. -/
  simulates : ∀ state action after, concrete.Reachable legal state → legal state action →
    concrete.step state action = some after →
    view after = view state ∨
      ∃ move, permitted (view state) move ∧ abstract.step (view state) move = some (view after)

/-- The view of a reachable state is a reachable abstract state. -/
theorem Refinement.reachable {σ : Type u} {α : Type v} {τ : Type w} {β : Type v}
    {concrete : Machine σ α} {legal : σ → α → Prop} {abstract : Machine τ β}
    {permitted : τ → β → Prop} (refinement : Refinement concrete legal abstract permitted)
    {state : σ} (reached : concrete.Reachable legal state) :
    abstract.Reachable permitted (refinement.view state) := by
  induction reached with
  | start initial => exact .start (refinement.starts _ initial)
  | next earlier allowed taken ih =>
    obtain same | ⟨move, may, moved⟩ := refinement.simulates _ _ _ earlier allowed taken
    · rw [same]
      exact ih
    · exact ih.next may moved

end Machines
