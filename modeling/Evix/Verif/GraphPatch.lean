import Evix.Verif.Diffs

/-!
# A difference as a minimal patch

`diff_graphs` on graphs that `record` has built, whatever the order in which their hash maps are
iterated: what it lists turns the one graph into the other, and nothing is listed without need.
-/

namespace Evix

/-- A graph that `record` has built from events, with its entries in any order. -/
def EvalGraph.Recorded (graph : EvalGraph) : Prop :=
  ∃ events, graph.entries.Perm (EvalAccumulator.recordAll events).graph.entries

/-- Delete the attribute paths of what is gone, then insert what is new by its attribute path. -/
def EvalGraph.patch (graph : EvalGraph) (diff : Diff) : EvalGraph :=
  diff.added.foldl (fun graph drv => graph.insert drv.attrPath drv)
    (diff.removed.foldl (fun graph drv => graph.erase drv.attrPath) graph)

section Graphs

variable {graph other before after : EvalGraph}

/-- What is recorded is keyed, in any order of the entries. -/
theorem EvalGraph.Recorded.keyed (recorded : graph.Recorded) : graph.Keyed := by
  obtain ⟨events, same⟩ := recorded
  intro path drv found
  apply keyed_recordAll events path drv
  rw [← AList.perm_lookup same]
  exact found

/-- Deleting a path from a graph erases it from the map of derivation paths. -/
theorem drvPaths_erase (graph : EvalGraph) (path : List String) :
    EvalGraph.drvPaths (graph.erase path) = Function.update graph.drvPaths path none := by
  funext key
  by_cases same : key = path
  · subst same
    rw [EvalGraph.drvPaths, AList.lookup_erase, Function.update_self]
    rfl
  · rw [EvalGraph.drvPaths, AList.lookup_erase_ne same, Function.update_of_ne same]
    rfl

/-- Inserting a derivation into a graph writes its derivation path. -/
theorem drvPaths_insert (graph : EvalGraph) (drv : Derivation) :
    EvalGraph.drvPaths (graph.insert drv.attrPath drv) =
      Function.update graph.drvPaths drv.attrPath (some drv.drvPath) := by
  funext key
  by_cases same : key = drv.attrPath
  · subst same
    rw [EvalGraph.drvPaths, AList.lookup_insert, Function.update_self]
    rfl
  · rw [EvalGraph.drvPaths, AList.lookup_insert_ne same, Function.update_of_ne same]
    rfl

/-- Patching a graph patches its map of derivation paths. -/
theorem drvPaths_patch (graph : EvalGraph) (diff : Diff) :
    (graph.patch diff).drvPaths = applyDiff graph.drvPaths diff := by
  have erased : ∀ (removed : List Derivation) (graph : EvalGraph),
      EvalGraph.drvPaths (removed.foldl (fun graph drv => graph.erase drv.attrPath) graph) =
        Patch.write ((removed.map Derivation.attrPath).map (·, none)) graph.drvPaths := by
    intro removed
    induction removed with
    | nil => exact fun _ => rfl
    | cons drv removed ih =>
      intro graph
      rw [List.foldl_cons, ih, drvPaths_erase]
      rfl
  have inserted : ∀ (added : List Derivation) (graph : EvalGraph),
      EvalGraph.drvPaths (added.foldl (fun graph drv => graph.insert drv.attrPath drv) graph) =
        Patch.write ((added.map fun drv => (drv.attrPath, drv.drvPath)).map
          fun entry => (entry.1, some entry.2)) graph.drvPaths := by
    intro added
    induction added with
    | nil => exact fun _ => rfl
    | cons drv added ih =>
      intro graph
      rw [List.foldl_cons, ih, drvPaths_insert]
      rfl
  rw [EvalGraph.patch, inserted, erased, applyDiff, Patch.apply, Patch.write_append]

/-- The changed entries of a keyed graph are entries of the graph. -/
theorem lookup_changedEntries (keyed : graph.Keyed) {drv : Derivation}
    (member : drv ∈ changedEntries graph other) : graph.lookup drv.attrPath = some drv := by
  obtain ⟨path, found, _⟩ := mem_changedEntries.mp member
  rw [keyed path drv found]
  exact found

/-- An entry that is listed as changed is listed as it is. -/
theorem eq_of_changed {elsewhere : Option Derivation} {drv listed : Derivation}
    (changed : (match elsewhere with
      | some old => if old.drvPath = drv.drvPath then none else some drv
      | none => some drv) = some listed) : drv = listed := by
  cases elsewhere with
  | none => exact Option.some.inj changed
  | some old => exact Option.some.inj (Option.ite_none_left_eq_some.mp changed).2

/-- No attribute path occurs twice among the changed entries of a keyed graph. -/
theorem nodup_changedEntries (keyed : graph.Keyed) :
    ((changedEntries graph other).map Derivation.attrPath).Nodup := by
  apply List.pairwise_map.mpr
  have apart := List.Pairwise.and_mem.mp graph.nodupKeys.pairwise_ne
  refine apart.filterMap _ fun first second ⟨here, there, differ⟩ drv kept next keptNext => ?_
  -- an entry that is kept is filed under its own attribute path
  have own : ∀ entry ∈ graph.entries, entry.2.attrPath = entry.1 := fun entry member =>
    keyed entry.1 entry.2 (AList.mem_lookup_iff.mpr member)
  rw [← eq_of_changed kept, ← eq_of_changed keptNext, own first here, own second there]
  exact differ

/-- The changed entries do not depend on the order of the other graph, and change their order with
that of their own. -/
theorem changedEntries_perm (own : before.entries.Perm graph.entries)
    (others : after.entries.Perm other.entries) :
    (changedEntries before after).Perm (changedEntries graph other) := by
  have lookup : ∀ path, after.lookup path = other.lookup path := fun path =>
    AList.perm_lookup others
  simp only [changedEntries, lookup]
  exact own.filterMap _

end Graphs

/-- The difference of two graphs that `record` has built: applied to the first it gives the
derivation paths of the second, it lists no attribute path twice and only entries of its graphs, it
is empty exactly between graphs of the same derivation paths, and the difference the other way
lists the same derivations in exchange, in whatever order the graphs are then iterated. -/
theorem diffGraphs_minimal {previous current : EvalGraph} (old : previous.Recorded)
    (new : current.Recorded) (errors : List EvalError) :
    let diff := diffGraphs previous current errors
    (previous.patch diff).drvPaths = current.drvPaths ∧
      (diff.removed.map Derivation.attrPath).Nodup ∧ (diff.added.map Derivation.attrPath).Nodup ∧
      (∀ drv ∈ diff.removed, previous.lookup drv.attrPath = some drv) ∧
      (∀ drv ∈ diff.added, current.lookup drv.attrPath = some drv) ∧
      (diff.removed = [] ∧ diff.added = [] ↔ previous.drvPaths = current.drvPaths) ∧
      ∀ (before after : EvalGraph) (others : List EvalError),
        before.entries.Perm previous.entries → after.entries.Perm current.entries →
        (diffGraphs after before others).added.Perm diff.removed ∧
          (diffGraphs after before others).removed.Perm diff.added := by
  intro diff
  have patch := isPatch_diffGraphs old.keyed new.keyed errors
  refine ⟨?_, nodup_changedEntries old.keyed, nodup_changedEntries new.keyed,
    fun drv member => lookup_changedEntries old.keyed member,
    fun drv member => lookup_changedEntries new.keyed member, ?_,
    fun before after others same other =>
      ⟨changedEntries_perm same other, changedEntries_perm other same⟩⟩
  · rw [drvPaths_patch]
    exact patch.apply_eq
  · rw [← patch.empty_iff, List.map_eq_nil_iff, List.map_eq_nil_iff]

/-- A derivation gone, one changed and one new. -/
theorem diffGraphs_minimal_changed :
    let job (name drvPath : String) : Derivation :=
      { (default : Derivation) with attr := name, attrPath := [name], drvPath }
    let graph (jobs : List Derivation) : EvalGraph :=
      (EvalAccumulator.recordAll (jobs.map .derivation)).graph
    let previous := graph [job "a" "1", job "b" "2", job "c" "3"]
    let current := graph [job "c" "3", job "b" "4", job "d" "5"]
    (previous.patch (diffGraphs previous current [])).drvPaths = current.drvPaths := by
  intro job graph previous current
  exact (@diffGraphs_minimal previous current ⟨_, .refl _⟩ ⟨_, .refl _⟩ []).1

end Evix
