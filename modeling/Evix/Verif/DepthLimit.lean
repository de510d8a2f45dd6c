import Evix.Eval
import Evix.Library.Fallible
import Evix.Library.Termination
import Evix.Verif.Traversal

/-!
# The traversal stops

A worker lists children only above the depth limit, whatever graph its root value is, so a run
is a shallow exploration: it dispatches no path below the limit, and the remaining depths of the
queued and the dispatched paths shrink with every dispatch and every completion.
-/

namespace Evix

open Machines Exploration Relation Fallible

/-! ## Answers above a depth -/

/-- No answer lists a name at a depth or below it. -/
def ListsAbove (depth : Nat) (allows : List String → Answer → Prop) : Prop :=
  ∀ path event, allows path (.ok event) → event.listed ≠ [] → path.length < depth

section Runs

variable {specs : List WorkerSpec} {allows : List String → Answer → Prop}
  {state after : RunState} {action : RunAction} {depth : Nat}

/-- A failure lists nothing, so answers that list names above a depth make every visit do so. -/
theorem listed_shallow (above : ListsAbove depth allows) (frontier : Frontier String)
    (move : Move String) (listed : Listed allows frontier move) : Shallow depth frontier move := by
  cases move with
  | take path => trivial
  | visit path names =>
    obtain ⟨spec, answer, allowed, rfl⟩ := listed
    cases answer with
    | ok event => exact above path event allowed
    | error report => exact fun some => absurd rfl some

/-- A dispatch or a completion shrinks the remaining depths, and nothing else changes them. -/
theorem remaining_step (first : 0 < specs.length) (plain : isForkedId specs 0 = false)
    (above : ListsAbove depth allows)
    (reached : (runMachine specs).Reachable (Answers allows) state)
    (step : (runMachine specs).Step (Answers allows) state action after) :
    CutExpand (· < ·) (after.frontier.remaining depth) (state.frontier.remaining depth) ∨
      after.frontier.remaining depth = state.frontier.remaining depth ∧
        (after.dispatched, after.handled) = (state.dispatched, state.handled) := by
  have move : RunMove specs state action after := runStep_moves step.taken
  cases move with
  | dispatch scanning listed member clean queued =>
    left
    exact remaining_shrinks (by exact trivial) (frontier_dispatch queued rfl rfl rfl)
  | @complete result rest spec waiting arrived found =>
    left
    have owns := (ledger_reachable first plain reached).owns arrived
    have given := (provenance_reachable reached).results result (by
      rw [arrived]
      exact List.mem_cons_self)
    have shallow := listed_shallow above state.frontier
      (.visit result.item.path (resultEvent spec result).listed)
      ⟨spec, result.event, given, by rw [resultEvent_eq]⟩
    exact remaining_shrinks shallow (frontier_complete owns)
  | _ => exact .inr ⟨rfl, rfl⟩

/-- A run dispatches no path below the depth. -/
theorem RunOf.dispatched_length (run : RunOf allows specs state)
    (above : ListsAbove depth allows) :
    ∀ entry ∈ state.dispatched, entry.2.path.length ≤ depth := by
  intro entry member
  have named : entry.2.path ∈ named state.frontier.visited := by
    rw [← Multiset.mem_coe, ← conserved run.explored, Multiset.mem_add, Multiset.mem_add]
    rcases List.mem_append.mp (run.ledger.settled.mem_iff.mp member) with owned | done
    · exact .inl (.inr (Multiset.mem_coe.mpr (List.mem_map.mpr ⟨entry, owned, rfl⟩)))
    · obtain ⟨handled, inside, rfl⟩ := List.mem_map.mp done
      right
      rw [visited_paths]
      exact Multiset.mem_coe.mpr (List.mem_map_of_mem inside)
  exact named_shallow (listed_shallow above) run.explored named

end Runs

/-! ## Workers that evaluate -/

section Worker

variable {Value StorePath : Type} (nix : Nix Value StorePath)
  (readers : JobReaders Value StorePath) (root : Value) (options : EvalOptions)

/-- A worker answers a path with what `process_attr` gives, or fails. -/
def Evaluates (path : List String) : Answer → Prop
  | .ok event => event = processAttr nix readers root path options
  | .error _ => True

/-- `make_job` makes a derivation. -/
theorem makeJob_derivation {value : Value} {path : List String} {drvPath : StorePath}
    {event : Event} (made : makeJob nix readers value path drvPath options = .ok event) :
    ∃ drv, event = .derivation drv := by
  obtain ⟨_, _, rest⟩ := bind_eq_ok made
  obtain ⟨_, _, rest⟩ := bind_eq_ok rest
  obtain ⟨_, _, returned⟩ := bind_eq_ok rest
  cases returned
  exact ⟨_, rfl⟩

/-- `process_attr` lists names above the depth limit only. -/
theorem processAttr_listed {path : List String}
    (lists : (processAttr nix readers root path options).listed ≠ []) :
    path.length < maxAttrDepth := by
  by_contra deep
  apply lists
  unfold processAttr
  split
  · rfl
  · split
    · rfl
    · split
      · split
        · rename_i made
          obtain ⟨drv, rfl⟩ := makeJob_derivation nix readers options made
          rfl
        · rfl
      · rw [if_pos (Nat.le_of_not_lt deep)]
        rfl
      · rfl

/-- For every evaluator, root value and option, and whatever its workers, its pool and the
interleaving: names are listed above the depth limit only, no path below the limit is dispatched,
and a run without an end dispatches and completes nothing more from some moment on. -/
theorem traversal_terminates :
    (∀ path attr attrPath attrs,
      processAttr nix readers root path options = .attrSet attr attrPath attrs → attrs ≠ [] →
        path.length < maxAttrDepth) ∧
    (∀ specs state, RunOf (Evaluates nix readers root options) specs state →
      ∀ entry ∈ state.dispatched, entry.2.path.length ≤ maxAttrDepth) ∧
    ∀ specs debug prepared openSlot config,
      runPool debug prepared openSlot config = .ok specs →
      ∀ run : Endless (runMachine specs) (Answers (Evaluates nix readers root options)),
        ∃ last, ∀ moment, last ≤ moment →
          (run.states moment).dispatched = (run.states last).dispatched ∧
            (run.states moment).handled = (run.states last).handled := by
  have above : ListsAbove maxAttrDepth (Evaluates nix readers root options) := by
    rintro path event rfl lists
    exact processAttr_listed nix readers root options lists
  refine ⟨?_, fun specs state run => run.dispatched_length above, ?_⟩
  · intro path attr attrPath attrs same lists
    apply processAttr_listed nix readers root options
    rw [same]
    exact lists
  · intro specs debug prepared openSlot config started run
    obtain ⟨first, plain⟩ := runPool_first started
    obtain ⟨last, still⟩ := run.settles shrinking_founded
      (fun state => state.frontier.remaining maxAttrDepth)
      (fun state => (state.dispatched, state.handled))
      fun state action after reached step => remaining_step first plain above reached step
    exact ⟨last, fun moment later => Prod.mk.inj (still moment later)⟩

end Worker

/-! ## A cycle -/

/-- An evaluator whose only value is an attribute set that has itself as its only attribute. -/
def cyclicNix : Nix Unit Unit where
  getAttr _ key := if key = "loop" then .ok () else .error "missing"
  autoCallFunction value := .ok value
  valueType _ := .attrs
  getDerivation _ := .ok none
  attrKeys _ := .ok ["loop"]
  asBool _ := .error "not a boolean"
  asString _ := .error "not a string"
  printPath _ := .error "no path"
  context context _ := context

/-- Readers that find nothing. -/
def noReaders : JobReaders Unit Unit where
  valueOutputPaths _ := .ok ∅
  outputPaths _ := ∅
  readMeta _ := .ok none
  readConstituents _ := none
  readInputDrvs _ := ∅
  registerGcRoot _ _ := .ok ()

/-- Options that recurse into everything. -/
def recurseOptions : EvalOptions := ⟨true, none, false, false⟩

/-- What a worker answers for a path into the cycle. -/
abbrev cyclicAttr (path : List String) : Event :=
  processAttr cyclicNix noReaders () path recurseOptions

/-- The cycle is entered until the limit, where it is an error. -/
example : cyclicAttr (List.replicate 63 "loop") =
      .attrSet (".".intercalate (List.replicate 63 "loop")) (List.replicate 63 "loop") ["loop"] ∧
    cyclicAttr (List.replicate 64 "loop") = attrError (List.replicate 64 "loop")
      "attrset exceeds the maximum traversal depth of 64" := by
  decide +kernel

/-- Workers that evaluate the cycle. -/
abbrev EvaluatesCycle : List String → Answer → Prop :=
  Evaluates cyclicNix noReaders () recurseOptions

instance (path : List String) : ∀ answer, Decidable (EvaluatesCycle path answer)
  | .ok event => inferInstanceAs (Decidable (event = cyclicAttr path))
  | .error _ => isTrue trivial

/-- A run in which nothing happens but that it is cancelled. -/
def cancelledForever : Endless (runMachine singleLocal) (Answers EvaluatesCycle) where
  states moment := { RunState.initial singleLocal with cancel := decide (0 < moment) }
  actions _ := .cancel
  starts := rfl
  steps moment := ⟨trivial, by simp [runMachine, runStep]⟩

/-- The root of the cycle and its child are dispatched. -/
theorem traversal_terminates_cycle :
    ([] : List String).length < maxAttrDepth ∧
    (∃ state : RunState, (∀ entry ∈ state.dispatched, entry.2.path.length ≤ maxAttrDepth) ∧
      state.dispatched = [(0, ⟨[]⟩), (0, ⟨["loop"]⟩)]) ∧
    ∃ last, ∀ moment, last ≤ moment →
      (cancelledForever.states moment).dispatched = (cancelledForever.states last).dispatched ∧
        (cancelledForever.states moment).handled = (cancelledForever.states last).handled := by
  have started : runPool (fun _ => "") (.ok ()) (fun _ => .error "") Config.default =
      .ok singleLocal := rfl
  obtain ⟨shallow, dispatched, terminates⟩ :=
    traversal_terminates cyclicNix noReaders () recurseOptions
  obtain ⟨state, reached, checked⟩ := Machine.reachable_of_execute (runMachine singleLocal)
    (Answers EvaluatesCycle) (.initial singleLocal)
    (.worker 0 (.connected (.ok ())) :: (round [] (cyclicAttr []) ++
      round ["loop"] (cyclicAttr ["loop"])))
    (fun state => state.dispatched = [(0, ⟨[]⟩), (0, ⟨["loop"]⟩)]) rfl (by decide +kernel)
  exact ⟨shallow [] "" [] ["loop"] rfl (List.cons_ne_nil _ _),
    ⟨state, dispatched _ state ⟨⟨_, _, _, _, started⟩, reached⟩, of_decide_eq_true checked⟩,
    terminates _ _ _ _ _ started cancelledForever⟩

end Evix
