import Evix.Verif.Traversal

/-!
# What a completed run has done

Workers answer from one attribute tree, or fail. A run that completes has then handled and
emitted every reached path exactly once, whatever the pool and the interleaving, and with
workers that do not fail the graph it accumulates is the one of the tree. Whether a run can
complete at all depends on the pool only through the systems it accepts.
-/

namespace Evix

open Machines Exploration

/-- The attribute tree workers answer from: the event of every path. -/
structure AttrTree where
  /-- The event of a path. -/
  event : List String → Event
  /-- Attribute sets list distinct names. -/
  names : ∀ path, (event path).listed.Nodup
  /-- A derivation has the path it is found at. -/
  paths : ∀ path drv, event path = .derivation drv → drv.attrPath = path
  /-- Errors are not fatal. -/
  errors : ∀ path, (event path).isFatal = false

namespace AttrTree

/-- A worker answers with the event of the path, or fails. -/
def Allows (tree : AttrTree) (path : List String) : Answer → Prop
  | .ok event => event = tree.event path
  | .error _ => True

/-- A worker answers with the event of the path. -/
def Honest (tree : AttrTree) (path : List String) (answer : Answer) : Prop :=
  answer = .ok (tree.event path)

/-- The names below a path. -/
def listing (tree : AttrTree) (path : List String) : List String := (tree.event path).listed

variable {tree : AttrTree}

/-- Honest workers are allowed. -/
theorem allows_of_honest {path : List String} {answer : Answer}
    (honest : tree.Honest path answer) : tree.Allows path answer := by
  rw [honest]
  rfl

/-- Answers from a tree list names once. -/
theorem allows_listsOnce : ListsOnce tree.Allows := by
  rintro path event rfl
  exact tree.names path

/-- Honest answers list names once. -/
theorem honest_listsOnce : ListsOnce tree.Honest := fun path event honest =>
  allows_listsOnce path event (allows_of_honest honest)

instance (path : List String) : ∀ answer, Decidable (tree.Allows path answer)
  | .ok event => inferInstanceAs (Decidable (event = tree.event path))
  | .error _ => isTrue trivial

instance (path : List String) : ∀ answer, Decidable (tree.Honest path answer)
  | .ok event => decidable_of_iff (event = tree.event path) (by simp [Honest])
  | .error _ => isFalse nofun

end AttrTree

section Runs

variable {tree : AttrTree} {specs : List WorkerSpec} {state : RunState}

/-- A run of workers that may answer less is a run of workers that may answer more. -/
theorem RunOf.weaken {fewer more : List String → Answer → Prop} (run : RunOf fewer specs state)
    (implies : ∀ path answer, fewer path answer → more path answer) : RunOf more specs state := by
  refine ⟨run.started, run.reached.weaken ?_⟩
  intro before action allowed
  cases action with
  | worker id move =>
    cases move with
    | answer path result => exact implies path _ allowed
    | _ => trivial
  | _ => trivial

/-- A run of honest workers is a run of workers that may fail. -/
theorem RunOf.of_honest (run : RunOf tree.Honest specs state) : RunOf tree.Allows specs state :=
  run.weaken fun _ _ honest => AttrTree.allows_of_honest honest

/-- An event of a run is the one of the tree or that of a failure. -/
theorem RunOf.handled_event (run : RunOf tree.Allows specs state) {entry : Handled}
    (member : entry ∈ state.handled) : entry.event = tree.event entry.path ∨
      ∃ spec ∈ specs, ∃ report, entry.event = workerFailureEvent spec ⟨entry.path⟩ report := by
  obtain ⟨allowed, spec, found, same⟩ := (provenance_reachable run.reached).handled entry member
  cases answer : entry.answer with
  | ok event =>
    rw [answer] at allowed same
    exact .inl (same.trans allowed)
  | error report =>
    rw [answer] at same
    exact .inr ⟨spec, List.mem_of_getElem? found, report, same⟩

/-- No event of a run lists more than the tree. -/
theorem RunOf.handled_listed (run : RunOf tree.Allows specs state) {entry : Handled}
    (member : entry ∈ state.handled) : entry.event.listed ⊆ tree.listing entry.path := by
  obtain same | ⟨spec, _, report, failed⟩ := run.handled_event member
  · rw [same]
    exact List.Subset.refl _
  · rw [failed]
    exact List.nil_subset _

/-- Handled paths are positions of the tree. -/
theorem RunOf.handled_position (run : RunOf tree.Allows specs state) {entry : Handled}
    (member : entry ∈ state.handled) : Position tree.listing entry.path := by
  refine position_of_visited run.explored (fun visit visited => ?_)
    (entry.path, entry.event.listed) (List.mem_map.mpr ⟨entry, member, rfl⟩)
  obtain ⟨other, handled, rfl⟩ := List.mem_map.mp visited
  exact run.handled_listed handled

/-- No event of a run is fatal. -/
theorem RunOf.handled_nonfatal (run : RunOf tree.Allows specs state) {entry : Handled}
    (member : entry ∈ state.handled) : entry.event.isFatal = false := by
  obtain same | ⟨spec, _, report, failed⟩ := run.handled_event member
  · rw [same]
    exact tree.errors entry.path
  · rw [failed]
    rfl

/-- Honest workers give the events of the tree. -/
theorem RunOf.honest_event (run : RunOf tree.Honest specs state) {entry : Handled}
    (member : entry ∈ state.handled) : entry.event = tree.event entry.path := by
  obtain ⟨honest, spec, _, same⟩ := (provenance_reachable run.reached).handled entry member
  rw [same, honest]
  rfl

end Runs

/-! ## Completed runs -/

/-- What a completed run has done. -/
structure Exhausted (tree : AttrTree) (specs : List WorkerSpec) (state : RunState) : Prop where
  /-- Every reached path was dispatched exactly once. -/
  dispatched : ∀ path, state.Reached path →
    (state.dispatched.map fun entry => entry.2.path).count path = 1
  /-- Only reached paths were dispatched. -/
  dispatchedOnly : ∀ entry ∈ state.dispatched, state.Reached entry.2.path
  /-- The event sink was called exactly once for every reached path. -/
  called : ∀ path, state.Reached path → (state.calls.map Prod.fst).count path = 1
  /-- The event sink was called for reached paths only. -/
  calledOnly : ∀ call ∈ state.calls, state.Reached call.1
  /-- It was given the event of the tree, or that of a failure. -/
  events : ∀ call ∈ state.calls, call.2 = tree.event call.1 ∨
    ∃ spec ∈ specs, ∃ report, call.2 = workerFailureEvent spec ⟨call.1⟩ report
  /-- No path is left to dispatch. -/
  todo : state.scheduler.todo = []
  /-- No path is in flight. -/
  active : state.scheduler.active = 0

/-- What a run has accumulated. -/
def RunState.accumulated (state : RunState) : EvalAccumulator :=
  .recordAll (state.calls.map Prod.snd)

/-- Two accumulators with the same graph, and the same errors up to order. -/
def SameResults (first second : EvalAccumulator) : Prop :=
  (∀ path, first.graph.lookup path = second.graph.lookup path) ∧ first.errors.Perm second.errors

section Completed

variable {tree : AttrTree} {specs : List WorkerSpec} {state : RunState}

/-- A completed run has an exhausted work list. -/
theorem RunOf.exhausted {allows : List String → Answer → Prop} (run : RunOf allows specs state)
    (completed : state.coordinator = .returned (.ok .completed)) :
    state.pending = [] ∧ state.frontier.waiting = 0 ∧ state.frontier.taken = 0 := by
  obtain ⟨todo, active⟩ := (chronicle_reachable run.reached).finished completed
  have empty : state.pending = [] :=
    List.length_eq_zero_iff.mp (run.ledger.active.symm.trans active)
  exact ⟨empty, by simp [RunState.frontier, todo], by simp [RunState.frontier, empty]⟩

/-- A completed run has handled exactly the reached paths. -/
theorem RunOf.handled_perm {allows : List String → Answer → Prop} (run : RunOf allows specs state)
    (completed : state.coordinator = .returned (.ok .completed)) :
    (state.handled.map Handled.path).Perm (named state.frontier.visited) := by
  obtain ⟨_, waiting, taken⟩ := run.exhausted completed
  rw [← RunOf.visited_paths]
  exact exhausted_perm run.explored waiting taken

/-- A completed run has emitted what it has handled. -/
theorem RunOf.calls_completed {allows : List String → Answer → Prop}
    (run : RunOf allows specs state)
    (completed : state.coordinator = .returned (.ok .completed)) :
    state.calls = state.handled.map Handled.call :=
  run.calls_eq (by rw [completed]; rfl)

/-- Honest workers list what the tree lists. -/
theorem RunOf.honest_listed (run : RunOf tree.Honest specs state) :
    ∀ visit ∈ state.frontier.visited, visit.2 = tree.listing visit.1 := by
  intro visit visited
  obtain ⟨entry, handled, rfl⟩ := List.mem_map.mp visited
  exact congrArg Event.listed (run.honest_event handled)

/-- A completed run of honest workers has handled every position of the tree. -/
theorem RunOf.handled_of_position (run : RunOf tree.Honest specs state)
    (completed : state.coordinator = .returned (.ok .completed)) {path : List String}
    (position : Position tree.listing path) : path ∈ state.handled.map Handled.path := by
  obtain ⟨_, waiting, taken⟩ := run.exhausted completed
  rw [← RunOf.visited_paths]
  exact visited_of_position run.explored waiting taken run.honest_listed position

/-- A completed run has done its work. -/
theorem RunOf.exhausted_of_completed (run : RunOf tree.Allows specs state)
    (completed : state.coordinator = .returned (.ok .completed)) :
    Exhausted tree specs state := by
  obtain ⟨empty, _, _⟩ := run.exhausted completed
  have paths := run.handled_perm completed
  have once : (state.handled.map Handled.path).Nodup := run.handled_nodup AttrTree.allows_listsOnce
  have calls : state.calls.map Prod.fst = state.handled.map Handled.path := by
    rw [run.calls_completed completed, List.map_map]
    rfl
  have sent : (state.dispatched.map fun entry => entry.2.path).Perm
      (state.handled.map Handled.path) := by
    have settled := run.ledger.settled.map fun entry => entry.2.path
    rw [empty, List.nil_append, List.map_map] at settled
    exact settled
  have count : ∀ path, state.Reached path → (state.handled.map Handled.path).count path = 1 := by
    intro path reached
    apply List.count_eq_one_of_mem once
    exact paths.mem_iff.mpr ((RunOf.reached_iff path).mp reached)
  have reached : ∀ path, path ∈ state.handled.map Handled.path → state.Reached path :=
    fun path member => (RunOf.reached_iff path).mpr (paths.mem_iff.mp member)
  obtain ⟨todo, active⟩ := (chronicle_reachable run.reached).finished completed
  constructor
  · intro path here
    rw [sent.count_eq]
    exact count path here
  · intro entry member
    exact reached _ (sent.mem_iff.mp (List.mem_map_of_mem member))
  · intro path here
    rw [calls]
    exact count path here
  · intro call member
    apply reached
    rw [← calls]
    exact List.mem_map_of_mem member
  · intro call member
    obtain ⟨entry, handled, _, rfl⟩ := run.mem_calls.mp member
    exact run.handled_event handled
  · exact todo
  · exact active

/-- A completed run of honest workers has emitted the events of the paths it handled. -/
theorem RunOf.events_completed (run : RunOf tree.Honest specs state)
    (completed : state.coordinator = .returned (.ok .completed)) :
    state.calls.map Prod.snd = (state.handled.map Handled.path).map tree.event := by
  rw [run.calls_completed completed, List.map_map, List.map_map]
  exact List.map_congr_left fun entry member => run.honest_event member

/-- Events of a tree give each path one derivation. -/
theorem AttrTree.functional (paths : List (List String)) :
    EvalAccumulator.Functional (paths.map tree.event) := by
  intro drv other here there same
  obtain ⟨path, _, first⟩ := List.mem_map.mp here
  obtain ⟨path', _, second⟩ := List.mem_map.mp there
  have paths : path = path' := by
    rw [← tree.paths path drv first, ← tree.paths path' other second, same]
  rw [paths, second] at first
  exact (Event.derivation.inj first).symm

/-- Accumulating the events of the same paths in another order gives the same results. -/
theorem AttrTree.sameResults {first second : List (List String)} (same : first.Perm second) :
    SameResults (.recordAll (first.map tree.event)) (.recordAll (second.map tree.event)) := by
  have events := same.map tree.event
  constructor
  · intro path
    apply Option.ext
    intro drv
    rw [EvalAccumulator.recordAll_lookup (AttrTree.functional first),
      EvalAccumulator.recordAll_lookup (AttrTree.functional second), events.mem_iff]
  · rw [EvalAccumulator.recordAll_errors, EvalAccumulator.recordAll_errors]
    exact events.filterMap _

/-- A completed run has dispatched and emitted every reached path exactly once, and any two
completed runs of workers that do not fail have accumulated the same results. -/
theorem completed_runs (tree : AttrTree) :
    (∀ specs state, RunOf tree.Allows specs state →
      state.coordinator = .returned (.ok .completed) → Exhausted tree specs state) ∧
    ∀ specs state specs' state', RunOf tree.Honest specs state → RunOf tree.Honest specs' state' →
      state.coordinator = .returned (.ok .completed) →
      state'.coordinator = .returned (.ok .completed) →
      SameResults state.accumulated state'.accumulated := by
  refine ⟨fun specs state run completed => run.exhausted_of_completed completed, ?_⟩
  intro specs state specs' state' run run' completed completed'
  have same := exhausted_unique (listed_distinct AttrTree.honest_listsOnce) run.explored
    run'.explored (run.exhausted completed).2 (run'.exhausted completed').2 run.honest_listed
    run'.honest_listed
  rw [RunOf.visited_paths, RunOf.visited_paths] at same
  unfold RunState.accumulated
  rw [run.events_completed completed, run'.events_completed completed']
  exact AttrTree.sameResults same

/-- A tree of one attribute set with a derivation and a broken attribute. -/
def smallTree : AttrTree where
  event
    | [] => .attrSet "" [] ["hello", "broken"]
    | ["hello"] => .derivation { (default : Derivation) with
        attrPath := ["hello"], system := "x86_64-linux", drvPath := "/nix/store/hello.drv" }
    | path => .error ⟨"", path, "assertion failed", false⟩
  names path := by
    split
    · decide
    · exact List.nodup_nil
    · exact List.nodup_nil
  paths path drv := by
    split
    · nofun
    · rintro ⟨⟩
      rfl
    · nofun
  errors path := by
    split <;> rfl

/-- The one worker that has connected evaluates the whole tree. -/
def smallRun : List RunAction :=
  .worker 0 (.connected (.ok ())) :: ((round [] (smallTree.event []) ++
    round ["hello"] (smallTree.event ["hello"])) ++
    round ["broken"] (smallTree.event ["broken"])) ++ [.coordinate, .coordinate]

/-- The small tree is evaluated by one worker, and by the first of two, to the same results. -/
theorem completed_runs_small : ∃ state state' : RunState,
    Exhausted smallTree singleLocal state ∧ SameResults state.accumulated state'.accumulated ∧
      state.calls.map Prod.fst = [[], ["hello"], ["broken"]] := by
  have single : runPool (fun _ => "") (.ok ()) (fun _ => .error "") Config.default =
      .ok singleLocal := rfl
  have pair : runPool (fun _ => "") (.ok ()) (fun index => .ok ⟨2 * index, 2 * index + 1⟩)
      { Config.default with workers := 2 } = .ok forkedPair := rfl
  obtain ⟨state, reached, checked⟩ := Machine.reachable_of_execute (runMachine singleLocal)
    (Answers smallTree.Honest) (.initial singleLocal) smallRun
    (fun state => state.coordinator = .returned (.ok .completed) ∧
      state.calls.map Prod.fst = [[], ["hello"], ["broken"]]) rfl (by decide)
  obtain ⟨state', reached', checked'⟩ := Machine.reachable_of_execute (runMachine forkedPair)
    (Answers smallTree.Honest) (.initial forkedPair) smallRun
    (fun state => state.coordinator = .returned (.ok .completed)) rfl (by decide)
  have run : RunOf smallTree.Honest singleLocal state := ⟨⟨_, _, _, _, single⟩, reached⟩
  have run' : RunOf smallTree.Honest forkedPair state' := ⟨⟨_, _, _, _, pair⟩, reached'⟩
  obtain ⟨completed, calls⟩ := of_decide_eq_true checked
  have completed' := of_decide_eq_true checked'
  exact ⟨state, state', (completed_runs smallTree).1 _ _ run.of_honest completed,
    (completed_runs smallTree).2 _ _ _ _ run run' completed completed', calls⟩

end Completed

/-! ## Systems the pool accepts -/

/-- Some worker of the pool accepts a system: a local one, a remote one for any system, or a
remote one that lists it. -/
def Accepted (specs : List WorkerSpec) (system : String) : Prop :=
  ∃ worker ∈ specs, (∃ workerExe fork, worker.kind = .local workerExe fork) ∨
    ∃ remote, worker.kind = .remote remote ∧ (remote.systems = [] ∨ system ∈ remote.systems)

/-- The check of the code is acceptance. -/
theorem accepted_iff {specs : List WorkerSpec} {system : String} :
    Accepted specs system ↔ ∃ worker ∈ specs, workerAcceptsSystem worker system = true := by
  refine exists_congr fun worker => and_congr_right fun _ => ?_
  cases kind : worker.kind with
  | «local» workerExe fork => simp [workerAcceptsSystem, kind]
  | remote remote => simp [workerAcceptsSystem, remoteAcceptsSystem, kind]

section Systems

variable {tree : AttrTree} {specs : List WorkerSpec} {state : RunState}

/-- A remote derivation passes exactly when its system is accepted. -/
theorem isEmitted_derivation {entry : Handled} {spec : WorkerSpec} {drv : Derivation}
    (found : specs[entry.worker]? = some spec) (remote : spec.isRemote = true)
    (derivation : entry.event = .derivation drv) :
    entry.isEmitted specs = true ↔ Accepted specs drv.system := by
  rw [accepted_iff]
  simp [Handled.isEmitted, found, derivation, eventDisposition_emit, remote]

/-- A result whose event is accepted if it is a derivation lets the run go on. -/
theorem isSmooth_of_accepted {entry : Handled} {spec : WorkerSpec}
    (found : specs[entry.worker]? = some spec) (nonfatal : entry.event.isFatal = false)
    (accepted : ∀ drv, entry.event = .derivation drv → Accepted specs drv.system) :
    entry.isSmooth specs = true := by
  simp only [Handled.isSmooth, nonfatal, Bool.not_false, Bool.and_true, Handled.isEmitted, found,
    Option.any_some, decide_eq_true_eq, eventDisposition_emit]
  intro drv derivation _
  exact accepted_iff.mp (accepted drv derivation)

/-- A handled result names a worker of the pool. -/
theorem RunOf.handled_spec {allows : List String → Answer → Prop} (run : RunOf allows specs state)
    {entry : Handled} (member : entry ∈ state.handled) :
    ∃ spec, specs[entry.worker]? = some spec := by
  obtain ⟨_, spec, found, _⟩ := (provenance_reachable run.reached).handled entry member
  exact ⟨spec, found⟩

/-- A call for the path of a handled result is the call of that result. -/
theorem RunOf.call_mem {allows : List String → Answer → Prop} (run : RunOf allows specs state)
    (once : ListsOnce allows) {entry : Handled} (member : entry ∈ state.handled) :
    entry.call ∈ state.calls ↔ entry.isEmitted specs = true := by
  rw [run.mem_calls]
  constructor
  · rintro ⟨other, handled, emitted, same⟩
    rwa [run.handled_inj once handled member (congrArg Prod.fst same)] at emitted
  · intro emitted
    exact ⟨entry, member, emitted, rfl⟩

/-- Whether a remote derivation is emitted, whether a run can complete and whether it can fail
for want of an owner depend on the accepted systems alone. -/
theorem derivations_accepted (tree : AttrTree) (specs : List WorkerSpec) :
    (∀ state, RunOf tree.Allows specs state → ∀ entry ∈ state.handled, ∀ spec drv,
      specs[entry.worker]? = some spec → spec.isRemote = true →
      entry.answer = .ok (.derivation drv) →
      ((entry.path, .derivation drv) ∈ state.calls ↔ Accepted specs drv.system)) ∧
    (∀ path drv, Position tree.listing path → tree.event path = .derivation drv →
      (∀ spec ∈ specs, spec.isRemote = true) → ¬ Accepted specs drv.system →
      ∀ state, RunOf tree.Honest specs state →
        state.coordinator ≠ .returned (.ok .completed) ∧
          .derivation drv ∉ state.calls.map Prod.snd) ∧
    ((∀ path drv, Position tree.listing path → tree.event path = .derivation drv →
        Accepted specs drv.system) →
      ∀ state, RunOf tree.Allows specs state → ∀ attr system,
        state.coordinator ≠ .returned (.error (.fatalItem (unownedError attr system))) ∧
          state.coordinator ≠
            .returned (.error (.fatalScheduler (unownedError attr system)))) := by
  refine ⟨?_, ?_, ?_⟩
  · intro state run entry member spec drv found remote answer
    obtain ⟨_, other, same, event⟩ := (provenance_reachable run.reached).handled entry member
    have derivation : entry.event = .derivation drv := by rw [event, answer]; rfl
    rw [← isEmitted_derivation found remote derivation,
      ← run.call_mem AttrTree.allows_listsOnce member, Handled.call, derivation]
  · intro path drv position derivation remotes refused state run
    have remote : ∀ {entry : Handled}, entry ∈ state.handled → entry.event = .derivation drv →
        entry.isEmitted specs = true → False := by
      intro entry member event emitted
      obtain ⟨spec, found⟩ := run.handled_spec member
      have owner := remotes spec (List.mem_of_getElem? found)
      exact refused ((isEmitted_derivation found owner event).mp emitted)
    constructor
    · intro completed
      obtain ⟨entry, member, rfl⟩ := List.mem_map.mp (run.handled_of_position completed position)
      have call : entry.call ∈ state.calls := by
        rw [run.calls_completed completed]
        exact List.mem_map_of_mem member
      exact remote member ((run.honest_event member).trans derivation)
        ((run.call_mem AttrTree.honest_listsOnce member).mp call)
    · intro called
      obtain ⟨call, member, event⟩ := List.mem_map.mp called
      obtain ⟨entry, handled, emitted, rfl⟩ := run.mem_calls.mp member
      exact remote handled event emitted
  · intro accepted state run attr system
    have smooth : ∀ entry ∈ state.handled, entry.isSmooth specs = true := by
      intro entry member
      obtain ⟨spec, found⟩ := run.handled_spec member
      refine isSmooth_of_accepted found (run.handled_nonfatal member) fun drv derivation => ?_
      obtain same | ⟨_, _, _, failed⟩ := run.handled_event member
      · exact accepted entry.path drv (run.handled_position member) (same.symm.trans derivation)
      · rw [failed] at derivation
        cases derivation
    have unfailed : state.coordinator.isFatal ≠ true := by
      intro fatal
      obtain ⟨entry, member, rough⟩ := (chronicle_reachable run.reached).failed fatal
      rw [smooth entry member] at rough
      cases rough
    constructor
    · intro returned
      exact unfailed (by rw [returned]; rfl)
    · intro returned
      exact unfailed (by rw [returned]; rfl)

/-- A pool of one connection to a remote for one system. -/
def remotePool (system : String) : List WorkerSpec :=
  [⟨0, "remote:tcp://a#0", .remote ⟨"tcp://a", [system], 1, none⟩⟩]

/-- The derivation of the small tree is emitted by a pool that accepts its system, which never
fails for want of an owner, and never by one that does not. -/
theorem derivations_accepted_small :
    (∃ state : RunState, (["hello"], smallTree.event ["hello"]) ∈ state.calls ∧
      ∀ attr system,
        state.coordinator ≠ .returned (.error (.fatalItem (unownedError attr system)))) ∧
    ∃ state : RunState, state.handled.map Handled.path = [[], ["hello"]] ∧
      state.coordinator ≠ .returned (.ok .completed) ∧
        smallTree.event ["hello"] ∉ state.calls.map Prod.snd := by
  have started : ∀ system, runPool (fun _ => "") (.ok ()) (fun _ => .error "")
      { Config.default with workers := 0, remotes := [⟨"tcp://a", [system], 1, none⟩] } =
        .ok (remotePool system) := fun _ => rfl
  let actions : List RunAction :=
    .worker 0 (.connected (.ok ())) :: (round [] (smallTree.event []) ++
      (round ["hello"] (smallTree.event ["hello"])).take 8)
  constructor
  · obtain ⟨state, reached, checked⟩ := Machine.reachable_of_execute
      (runMachine (remotePool "x86_64-linux")) (Answers smallTree.Honest)
      (.initial (remotePool "x86_64-linux")) actions
      (fun state => state.handled.map Handled.path = [[], ["hello"]]) rfl (by decide)
    have run : RunOf smallTree.Honest (remotePool "x86_64-linux") state :=
      ⟨⟨_, _, _, _, started _⟩, reached⟩
    have handled := of_decide_eq_true checked
    have seen : ["hello"] ∈ state.handled.map Handled.path := by
      rw [handled]
      decide
    obtain ⟨entry, member, path⟩ := List.mem_map.mp seen
    obtain ⟨spec, found⟩ := run.handled_spec member
    obtain ⟨honest, _⟩ := (provenance_reachable reached).handled entry member
    have owned : Accepted (remotePool "x86_64-linux") "x86_64-linux" :=
      ⟨_, List.mem_singleton_self _, .inr ⟨_, rfl, .inr (List.mem_singleton_self _)⟩⟩
    have remote : spec.isRemote = true := by
      obtain rfl := List.mem_singleton.mp (List.mem_of_getElem? found)
      rfl
    rw [path] at honest
    have emitted := (derivations_accepted smallTree (remotePool "x86_64-linux")).1 state
      run.of_honest entry member spec _ found remote honest
    rw [path] at emitted
    refine ⟨state, emitted.mpr owned, fun attr system => ?_⟩
    refine ((derivations_accepted smallTree (remotePool "x86_64-linux")).2.2 ?_ state
      run.of_honest attr system).1
    intro path drv _ derivation
    unfold smallTree at derivation
    dsimp only at derivation
    split at derivation
    · cases derivation
    · cases derivation
      exact owned
    · cases derivation
  · obtain ⟨state, reached, checked⟩ := Machine.reachable_of_execute
      (runMachine (remotePool "aarch64-linux")) (Answers smallTree.Honest)
      (.initial (remotePool "aarch64-linux")) actions
      (fun state => state.handled.map Handled.path = [[], ["hello"]]) rfl (by decide)
    have position : Position smallTree.listing ([] ++ ["hello"]) :=
      .child .root List.mem_cons_self
    refine ⟨state, of_decide_eq_true checked,
      (derivations_accepted smallTree (remotePool "aarch64-linux")).2.1 _ _ position rfl ?_ ?_
        state ⟨⟨_, _, _, _, started _⟩, reached⟩⟩
    · intro spec member
      obtain rfl := List.mem_singleton.mp member
      rfl
    · rintro ⟨worker, member, owner⟩
      obtain rfl := List.mem_singleton.mp member
      simp at owner

end Systems

end Evix
