import Mathlib.Logic.Hydra
import Mathlib.Order.WellFounded
import Evix.Library.Exploration

/-!
# Runs without an end

A run without an end makes progress finitely often when every progress shrinks a measure in a
well-founded order and everything else leaves the measure alone. An exploration that lists
children only above a given depth has such a measure: the remaining depths of its positions, as
a multiset, of which each move replaces one by any number of smaller ones.
-/

namespace Machines

universe u v w x

variable {σ : Type u} {α : Type v}

/-- A run that never stops. -/
structure Endless (machine : Machine σ α) (legal : σ → α → Prop) where
  /-- The state at each moment. -/
  states : Nat → σ
  /-- The action at each moment. -/
  actions : Nat → α
  /-- It starts where runs start. -/
  starts : machine.start (states 0)
  /-- Every moment is followed by a step. -/
  steps : ∀ moment, machine.Step legal (states moment) (actions moment) (states (moment + 1))

namespace Endless

variable {machine : Machine σ α} {legal : σ → α → Prop}

/-- Every state of an endless run is reachable. -/
theorem reachable (run : Endless machine legal) (moment : Nat) :
    machine.Reachable legal (run.states moment) := by
  induction moment with
  | zero => exact .start run.starts
  | succ moment ih => exact ih.next (run.steps moment).allowed (run.steps moment).taken

/-- If every step shrinks a well-founded measure, or leaves the measure and a view alone, then
the view is constant from some moment on. -/
theorem settles {β : Type w} {γ : Type x} {smaller : β → β → Prop} (founded : WellFounded smaller)
    (measure : σ → β) (view : σ → γ)
    (progress : ∀ state action after, machine.Reachable legal state →
      machine.Step legal state action after → smaller (measure after) (measure state) ∨
        measure after = measure state ∧ view after = view state)
    (run : Endless machine legal) :
    ∃ last, ∀ moment, last ≤ moment → view (run.states moment) = view (run.states last) := by
  obtain ⟨_, ⟨last, rfl⟩, least⟩ := founded.has_min
    (Set.range fun moment => measure (run.states moment)) ⟨_, 0, rfl⟩
  -- From the moment of the least measure on, no step can shrink it.
  have still : ∀ moment, last ≤ moment →
      measure (run.states moment) = measure (run.states last) ∧
        view (run.states moment) = view (run.states last) := by
    intro moment later
    induction moment, later using Nat.le_induction with
    | base => exact ⟨rfl, rfl⟩
    | succ moment _ ih =>
      rcases progress _ _ _ (run.reachable moment) (run.steps moment) with shrinks | ⟨same, kept⟩
      · rw [ih.1] at shrinks
        exact absurd shrinks (least _ ⟨moment + 1, rfl⟩)
      · exact ⟨same.trans ih.1, kept.trans ih.2⟩
  exact ⟨last, fun moment later => (still moment later).2⟩

end Endless

/-- A run takes no more steps of a kind than a measure allows that no step increases and each step
of the kind decreases. -/
theorem Machine.Run.countP_le {machine : Machine σ α} {legal : σ → α → Prop} (measure : σ → Nat)
    (counts : α → Bool) {state after : σ} {actions : List α}
    (run : machine.Run legal state actions after) (reached : machine.Reachable legal state)
    (kept : ∀ state action after, machine.Reachable legal state →
      machine.Step legal state action after → measure after ≤ measure state)
    (shrinks : ∀ state action after, machine.Reachable legal state →
      machine.Step legal state action after → counts action = true →
        measure after < measure state) :
    actions.countP counts + measure after ≤ measure state := by
  induction run with
  | nil => simp
  | cons first _ ih =>
    have later := ih (reached.next first.allowed first.taken)
    have least := kept _ _ _ reached first
    rw [List.countP_cons]
    split
    · rename_i counted
      have fewer := shrinks _ _ _ reached first counted
      omega
    · omega

end Machines

namespace Exploration

open Machines Relation

universe u

variable {κ : Type u} {depth : Nat}

/-- Children are listed above a depth only. -/
def Shallow (depth : Nat) (_ : Frontier κ) : Move κ → Prop
  | .take _ => True
  | .visit path names => names ≠ [] → path.length < depth

/-- The remaining depth of a position that waits. -/
def waitingRank (depth : Nat) (path : List κ) : Nat := 2 * (depth - path.length) + 1

/-- The remaining depth of a position that is taken. -/
def takenRank (depth : Nat) (path : List κ) : Nat := 2 * (depth - path.length)

/-- The remaining depths of all positions that wait or are taken. -/
def Frontier.remaining (depth : Nat) (frontier : Frontier κ) : Multiset Nat :=
  frontier.waiting.map (waitingRank depth) + frontier.taken.map (takenRank depth)

/-- Taking a position shrinks its rank. -/
theorem takenRank_lt (path : List κ) : takenRank depth path < waitingRank depth path :=
  Nat.lt_succ_self _

/-- A child of a position above the depth has a smaller rank. -/
theorem waitingRank_child {path : List κ} (shallow : path.length < depth) (name : κ) :
    waitingRank depth (path ++ [name]) < takenRank depth path := by
  simp only [waitingRank, takenRank, List.length_append, List.length_singleton]
  omega

/-- The remaining depths shrink by replacing one by smaller ones. -/
theorem shrinking_founded : WellFounded (CutExpand ((· < ·) : Nat → Nat → Prop)) :=
  Nat.lt_wfRel.wf.cutExpand

variable [DecidableEq κ] {legal : Frontier κ → Move κ → Prop} {frontier after : Frontier κ}
  {move : Move κ}

/-- The rank of a position beside those of the others. -/
theorem map_rank_of_mem (rank : List κ → Nat) {paths : Multiset (List κ)} {path : List κ}
    (present : path ∈ paths) :
    paths.map rank = {rank path} + (paths.erase path).map rank := by
  rw [Multiset.singleton_add, ← Multiset.map_cons, Multiset.cons_erase present]

/-- Every move of a shallow exploration shrinks the remaining depths. -/
theorem remaining_shrinks (shallow : Shallow depth frontier move)
    (taken : (explorer κ).step frontier move = some after) :
    CutExpand (· < ·) (after.remaining depth) (frontier.remaining depth) := by
  cases move with
  | take path =>
    simp only [explorer, Option.ite_none_right_eq_some, Option.some.injEq] at taken
    obtain ⟨present, rfl⟩ := taken
    refine ⟨{takenRank depth path}, waitingRank depth path, ?_, ?_⟩
    · simpa using takenRank_lt path
    · simp only [Frontier.remaining]
      rw [map_rank_of_mem (waitingRank depth) present, Multiset.map_cons,
        ← Multiset.singleton_add]
      abel
  | visit path names =>
    simp only [explorer, Option.ite_none_right_eq_some, Option.some.injEq] at taken
    obtain ⟨present, rfl⟩ := taken
    refine ⟨(children (path, names) : Multiset (List κ)).map (waitingRank depth),
      takenRank depth path, ?_, ?_⟩
    · intro rank listed
      obtain ⟨child, member, rfl⟩ := Multiset.mem_map.mp listed
      obtain ⟨name, named, rfl⟩ := mem_children.mp (Multiset.mem_coe.mp member)
      exact waitingRank_child (shallow (List.ne_nil_of_mem named)) name
    · simp only [Frontier.remaining]
      rw [map_rank_of_mem (takenRank depth) present, Multiset.map_add]
      abel

/-- Every visit of a shallow exploration that lists children is above the depth. -/
theorem visited_shallow (shallow : ∀ state move, legal state move → Shallow depth state move)
    (reached : (explorer κ).Reachable legal frontier) :
    ∀ visit ∈ frontier.visited, visit.2 ≠ [] → visit.1.length < depth := by
  induction reached with
  | start initial =>
    cases initial
    simp
  | @next before after move _ allowed taken ih =>
    cases move with
    | take path =>
      simp only [explorer, Option.ite_none_right_eq_some, Option.some.injEq] at taken
      obtain ⟨_, rfl⟩ := taken
      exact ih
    | visit path names =>
      simp only [explorer, Option.ite_none_right_eq_some, Option.some.injEq] at taken
      obtain ⟨_, rfl⟩ := taken
      have last : ∀ visit ∈ [(path, names)], visit.2 ≠ [] → visit.1.length < depth :=
        List.forall_mem_singleton.mpr (shallow _ _ allowed)
      exact List.forall_mem_append.mpr ⟨ih, last⟩

/-- No position named by a shallow exploration is below the depth. -/
theorem named_shallow (shallow : ∀ state move, legal state move → Shallow depth state move)
    (reached : (explorer κ).Reachable legal frontier) {path : List κ}
    (member : path ∈ named frontier.visited) : path.length ≤ depth := by
  rcases mem_named.mp member with rfl | ⟨visit, visited, name, listed, rfl⟩
  · exact Nat.zero_le _
  · have above := visited_shallow shallow reached visit visited (List.ne_nil_of_mem listed)
    rw [List.length_append, List.length_singleton]
    exact above

end Exploration
