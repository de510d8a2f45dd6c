import Evix.Library.Patch
import Evix.Verif.WarmGraph

/-!
# Differences of graphs

The difference of two graphs is a patch of their derivation paths. The differences a session
reports form a chain from the graph of its initial evaluation to its warm graph, as long as no
graph is stored between the moment an operation reads the warm graph and the moment it stores
its own.
-/

namespace Evix

open Machines

/-! ## A difference is a patch -/

/-- The map from attribute paths to derivation paths. -/
def EvalGraph.drvPaths (graph : EvalGraph) (path : List String) : Option String :=
  (graph.lookup path).map Derivation.drvPath

/-- Every derivation is filed under its attribute path. -/
def EvalGraph.Keyed (graph : EvalGraph) : Prop :=
  ∀ path drv, graph.lookup path = some drv → drv.attrPath = path

/-- Apply a difference to a map of derivation paths. -/
def applyDiff (drvPaths : List String → Option String) (diff : Diff) :
    List String → Option String :=
  Patch.apply (diff.removed.map Derivation.attrPath)
    (diff.added.map fun drv => (drv.attrPath, drv.drvPath)) drvPaths

/-- The same difference, up to the order in which a hash map is iterated. -/
structure Diff.Same (diff other : Diff) : Prop where
  /-- The same derivations are new or changed. -/
  added : diff.added.Perm other.added
  /-- The same derivations are gone or changed. -/
  removed : diff.removed.Perm other.removed
  /-- The errors are those of the later evaluation. -/
  errors : diff.errors = other.errors

section Graphs

variable {graph other before after : EvalGraph}

/-- What an accumulator has recorded is keyed. -/
theorem keyed_recordAll (events : List Event) :
    (EvalAccumulator.recordAll events).graph.Keyed := by
  induction events using List.reverseRecOn with
  | nil => nofun
  | append_singleton events event ih =>
    rw [EvalAccumulator.recordAll_concat]
    cases event with
    | attrSet | error => exact ih
    | derivation last =>
      intro path drv found
      by_cases same : path = last.attrPath
      · subst same
        simp only [EvalAccumulator.record, AList.lookup_insert, Option.some.injEq] at found
        rw [found]
      · simp only [EvalAccumulator.record, AList.lookup_insert_ne same] at found
        exact ih path drv found

/-- The changed entries are the derivations whose path has another derivation path, or none, in
the other graph. -/
theorem mem_changedEntries {drv : Derivation} : drv ∈ changedEntries graph other ↔
    ∃ path, graph.lookup path = some drv ∧ other.drvPaths path ≠ some drv.drvPath := by
  unfold changedEntries EvalGraph.drvPaths
  rw [List.mem_filterMap]
  constructor
  · rintro ⟨⟨path, there⟩, member, kept⟩
    have found : graph.lookup path = some there := AList.mem_lookup_iff.mpr member
    cases elsewhere : other.lookup path with
    | none =>
      simp only [elsewhere, Option.some.injEq] at kept
      subst kept
      exact ⟨path, found, by rw [elsewhere]; nofun⟩
    | some old =>
      simp only [elsewhere, Option.ite_none_left_eq_some, Option.some.injEq] at kept
      obtain ⟨changed, rfl⟩ := kept
      refine ⟨path, found, ?_⟩
      rw [elsewhere, Option.map_some]
      exact fun same => changed (Option.some.inj same)
  · rintro ⟨path, found, changed⟩
    refine ⟨⟨path, drv⟩, AList.mem_lookup_iff.mp found, ?_⟩
    cases elsewhere : other.lookup path with
    | none => rfl
    | some old =>
      rw [elsewhere, Option.map_some] at changed
      exact if_neg fun same => changed (congrArg some same)

/-- The difference of two keyed graphs is a patch of their derivation paths. -/
theorem isPatch_diffGraphs (old : before.Keyed) (new : after.Keyed) (errors : List EvalError) :
    Patch.IsPatch before.drvPaths after.drvPaths
      ((diffGraphs before after errors).removed.map Derivation.attrPath)
      ((diffGraphs before after errors).added.map fun drv => (drv.attrPath, drv.drvPath)) where
  removed := by
    intro key
    rw [List.mem_map]
    constructor
    · rintro ⟨drv, member, rfl⟩
      obtain ⟨path, found, changed⟩ := mem_changedEntries.mp member
      obtain rfl := old path drv found
      simp only [EvalGraph.drvPaths, found, Option.map_some] at changed ⊢
      exact ⟨nofun, changed.symm⟩
    · rintro ⟨present, changed⟩
      obtain ⟨drv, found⟩ : ∃ drv, before.lookup key = some drv := by
        cases found : before.lookup key with
        | none => exact absurd (by rw [EvalGraph.drvPaths, found]; rfl) present
        | some drv => exact ⟨drv, rfl⟩
      refine ⟨drv, mem_changedEntries.mpr ⟨key, found, ?_⟩, old key drv found⟩
      simp only [EvalGraph.drvPaths, found, Option.map_some] at changed ⊢
      exact changed.symm
  added := by
    intro key value
    rw [List.mem_map]
    constructor
    · rintro ⟨drv, member, same⟩
      obtain ⟨rfl, rfl⟩ := Prod.mk.inj same
      obtain ⟨path, found, changed⟩ := mem_changedEntries.mp member
      obtain rfl := new path drv found
      refine ⟨?_, changed⟩
      rw [EvalGraph.drvPaths, found]
      rfl
    · rintro ⟨present, changed⟩
      obtain ⟨drv, found, rfl⟩ := Option.map_eq_some_iff.mp present
      exact ⟨drv, mem_changedEntries.mpr ⟨key, found, changed⟩, by rw [new key drv found]⟩

/-- Graphs with the same entries have the same differences. -/
theorem diffGraphs_same (same : before.entries.Perm other.entries) {errors : List EvalError} :
    (diffGraphs before graph errors).Same (diffGraphs other graph errors) where
  added := by
    have lookup : ∀ path, before.lookup path = other.lookup path := fun path =>
      AList.perm_lookup same
    simp only [diffGraphs, changedEntries, lookup]
    exact List.Perm.refl _
  removed := same.filterMap _
  errors := rfl

end Graphs

/-! ## Differences in the order of their stores -/

/-- Stores one after the other, each over the graph the one before has stored. -/
inductive Linked (base : EvalGraph) : List Store → EvalGraph → Prop where
  /-- Nothing is stored. -/
  | nil : Linked base [] base
  /-- One more store. -/
  | snoc {stores : List Store} {before : EvalGraph} (graph : EvalGraph) (diff : Diff)
      (errors : List EvalError) : Linked base stores before →
      Linked base (stores ++ [⟨before, graph, diff, errors⟩]) graph

/-- No graph is stored between the moment a re-evaluation reads the warm graph and the moment it
stores its own: the warm graph is the one it has read. -/
def Undisturbed (session : Session) : SessionAction → Prop
  | .task index _ =>
    match session.tasks[index]? with
    | some ⟨_, .storing previous ..⟩ => previous.entries.Perm session.warm.graph.entries
    | _ => True
  | _ => True

instance (session : Session) (action : SessionAction) : Decidable (Undisturbed session action) := by
  unfold Undisturbed
  split
  · split <;> infer_instance
  · infer_instance

section Stores

variable {session after : Session} {base graph : EvalGraph} {stores : List Store}

/-- What a run in which no re-evaluation is disturbed keeps. -/
structure Session.Ordered (session : Session) : Prop where
  /-- The stores form a chain. -/
  linked : Linked session.base session.stores session.warm.graph
  /-- The graph of the initial evaluation is keyed. -/
  base : session.base.Keyed
  /-- So are the graphs stored. -/
  graphs : ∀ store ∈ session.stores, store.graph.Keyed
  /-- Differences are with the warm graph. -/
  exact : ∀ store ∈ session.stores,
    store.diff.Same (diffGraphs store.before store.graph store.errors)

/-- What a completed evaluation has accumulated is keyed. -/
theorem keyed_of_backs {id : Nat} {accumulator : EvalAccumulator}
    (backs : session.Backs id accumulator) : accumulator.graph.Keyed := by
  obtain ⟨evaluation, _, _, rfl⟩ := backs
  rw [evaluation.recorded]
  exact keyed_recordAll _

namespace Session.Ordered

/-- A step that stores nothing keeps the order. -/
theorem frame (ordered : session.Ordered) (same : after.graphs = session.graphs) :
    after.Ordered := by
  simp only [Session.graphs, Prod.mk.injEq] at same
  obtain ⟨graph, _, _, _, base, stores⟩ := same
  refine ⟨?_, ?_, ?_, ?_⟩
  · rw [graph, base, stores]
    exact ordered.linked
  · rw [base]
    exact ordered.base
  · rw [stores]
    exact ordered.graphs
  · rw [stores]
    exact ordered.exact

/-- A task that is not disturbed keeps the order. -/
theorem taskStep (ordered : session.Ordered) (sound : session.Sound) {index : Nat} {task : Task}
    {action : TaskAction} {place : Place} (found : session.tasks[index]? = some task)
    (allowed : Undisturbed session (.task index action))
    (taken : taskStep session task action = some (after, place)) : after.Ordered := by
  have backed := sound.backed task (List.mem_of_getElem? found)
  obtain same | ⟨id, accumulator, here, rfl⟩ | ⟨previous, id, accumulator, diff, here, rfl⟩ :=
    (taskStep_change taken).1.graphs
  · exact ordered.frame same
  · rw [here] at backed
    have initial : task.place.isInitial = true := by
      rw [here]
      rfl
    have incomplete := sound.incomplete task (List.mem_of_getElem? found) initial
    have warm := sound.warm
    unfold WarmBacked at warm
    rw [incomplete, if_neg nofun] at warm
    have none : (session.storeInitial id accumulator).stores = [] := warm.2.2.2
    refine ⟨?_, keyed_of_backs backed, ?_, ?_⟩
    · rw [none]
      exact .nil
    · rw [none]
      nofun
    · rw [none]
      nofun
  · obtain ⟨call, place⟩ := task
    subst here
    simp only [Undisturbed, found] at allowed
    obtain ⟨backs, rfl⟩ := backed
    refine ⟨.snoc _ _ _ ordered.linked, ordered.base, fun store member => ?_,
      fun store member => ?_⟩
    · obtain old | rfl := mem_concat member
      · exact ordered.graphs store old
      · exact keyed_of_backs backs
    · obtain old | rfl := mem_concat member
      · exact ordered.exact store old
      · exact diffGraphs_same allowed

/-- A step that is not disturbed keeps the order. -/
theorem step (ordered : session.Ordered) (sound : session.Sound) {action : SessionAction}
    (allowed : Undisturbed session action) (taken : sessionStep session action = some after) :
    after.Ordered := by
  obtain same | ⟨index, move, task, id, rfl, found, _⟩ := sessionStep_graphs taken
  · exact ordered.frame same
  · simp only [sessionStep, found] at taken
    obtain ⟨⟨next, place⟩, stepped, rfl⟩ := Option.map_eq_some_iff.mp taken
    exact (ordered.taskStep sound found allowed stepped).frame rfl

end Session.Ordered

end Stores

end Evix
