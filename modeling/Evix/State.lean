import Evix.Protocol
import Mathlib.Data.List.AList
import Mathlib.Data.List.Induction

/-!
# Warm evaluation state

The derivation graph of an evaluation, the accumulator that builds it from events, and the
difference between two graphs. A `HashMap` iterates in an unspecified order; the entries of
the association list here are one such order, and what is proved of a graph holds of every
order of its entries.
-/

namespace Evix

/-- `EvalGraph`: derivations by attribute path. -/
abbrev EvalGraph := AList fun _ : List String => Derivation

/-- `WarmState`. -/
structure WarmState where
  /-- Graph of the last completed evaluation. -/
  graph : EvalGraph := ∅
  /-- Errors of the last completed evaluation. -/
  errors : List EvalError := []
  /-- Whether some evaluation has completed. -/
  completed : Bool := false
  /-- Why the initial evaluation failed. -/
  error : Option String := none
  deriving DecidableEq

/-- `EvalAccumulator`. -/
structure EvalAccumulator where
  /-- Derivations recorded so far. -/
  graph : EvalGraph := ∅
  /-- Errors recorded so far. -/
  errors : List EvalError := []
  deriving DecidableEq

/-- `EvalAccumulator::record`. -/
def EvalAccumulator.record (accumulator : EvalAccumulator) : Event → EvalAccumulator
  | .derivation drv => { accumulator with graph := accumulator.graph.insert drv.attrPath drv }
  | .error failure => { accumulator with errors := accumulator.errors ++ [failure] }
  | .attrSet .. => accumulator

/-- The accumulator after a sequence of events. -/
def EvalAccumulator.recordAll (events : List Event) : EvalAccumulator := events.foldl record {}

namespace EvalAccumulator

/-- A sequence of events gives each path one derivation. -/
def Functional (events : List Event) : Prop :=
  ∀ drv other, .derivation drv ∈ events → .derivation other ∈ events →
    drv.attrPath = other.attrPath → drv = other

/-- Recording one more event. -/
theorem recordAll_concat (events : List Event) (event : Event) :
    recordAll (events ++ [event]) = (recordAll events).record event := by
  simp [recordAll]

/-- The errors recorded are the errors of the events, in order. -/
theorem recordAll_errors (events : List Event) :
    (recordAll events).errors = events.filterMap Event.error? := by
  induction events using List.reverseRecOn with
  | nil => rfl
  | append_singleton events event ih =>
    rw [recordAll_concat, List.filterMap_append, ← ih]
    cases event <;> simp [record, Event.error?]

/-- The graph recorded maps each path to the derivation an event gave for it. -/
theorem recordAll_lookup {events : List Event} (functional : Functional events)
    (path : List String) (drv : Derivation) :
    (recordAll events).graph.lookup path = some drv ↔
      .derivation drv ∈ events ∧ drv.attrPath = path := by
  induction events using List.reverseRecOn with
  | nil => simp [recordAll]
  | append_singleton events event ih =>
    have before : Functional events := fun first second here there =>
      functional first second (List.mem_append_left _ here) (List.mem_append_left _ there)
    rw [recordAll_concat]
    cases event with
    | attrSet attr attrPath attrs => simp [record, ih before]
    | error failure => simp [record, ih before]
    | derivation last =>
      by_cases same : path = last.attrPath
      · subst same
        simp only [record, AList.lookup_insert, Option.some.injEq]
        constructor
        · rintro rfl
          exact ⟨List.mem_append_right _ (List.mem_singleton_self _), rfl⟩
        · rintro ⟨member, equal⟩
          exact functional last drv (List.mem_append_right _ (List.mem_singleton_self _)) member
            equal.symm
      · have apart : drv.attrPath = path → drv ≠ last := by
          rintro rfl rfl
          exact same rfl
        simp only [record, AList.lookup_insert_ne same, ih before, List.mem_append,
          List.mem_singleton, Event.derivation.injEq]
        constructor
        · rintro ⟨member, equal⟩
          exact ⟨.inl member, equal⟩
        · rintro ⟨member | rfl, equal⟩
          · exact ⟨member, equal⟩
          · exact absurd rfl (apart equal)

end EvalAccumulator

/-- The entries of `graph` whose path has another derivation path, or none, in `other`. -/
def changedEntries (graph other : EvalGraph) : List Derivation :=
  graph.entries.filterMap fun entry =>
    match other.lookup entry.1 with
    | some drv => if drv.drvPath = entry.2.drvPath then none else some entry.2
    | none => some entry.2

/-- `diff_graphs`: its two loops differ only in the direction. -/
def diffGraphs (previous current : EvalGraph) (errors : List EvalError) : Diff where
  added := changedEntries current previous
  removed := changedEntries previous current
  errors := errors

end Evix
