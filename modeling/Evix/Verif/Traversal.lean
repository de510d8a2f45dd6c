import Evix.Library.Exploration
import Evix.State
import Evix.Verif.Bookkeeping
import Evix.Verif.Chronicle

/-!
# A run explores the attribute tree

A run refines the exploration of a tree from a shared work list: dispatching takes a position,
handling a result visits it and lists the children its event names. What a run emits, in which
order and how completely follows from the laws of such explorations.
-/

namespace Evix

open Machines Exploration

/-- The work list of a run. -/
def RunState.frontier (state : RunState) : Frontier String where
  waiting := (state.scheduler.todo.map WorkItem.path : List (List String))
  taken := (state.pending.map fun entry => entry.2.path : List (List String))
  visited := state.handled.map fun entry => (entry.path, entry.event.listed)

/-- A visit lists what an event for an allowed answer lists. -/
def Listed (allows : List String → Answer → Prop) (_ : Frontier String) : Move String → Prop
  | .take _ => True
  | .visit path names => ∃ spec answer, allows path answer ∧
      names = (answerEvent spec path answer).listed

/-- No allowed answer lists a name twice. -/
def ListsOnce (allows : List String → Answer → Prop) : Prop :=
  ∀ path event, allows path (.ok event) → event.listed.Nodup

section Refinement

variable {specs : List WorkerSpec} {allows : List String → Answer → Prop} {state : RunState}

/-- Dispatching takes the first waiting position. -/
theorem frontier_dispatch {after : RunState} {worker : Nat} {item : WorkItem}
    {todo : List WorkItem} (queued : state.scheduler.todo = item :: todo)
    (left : after.scheduler.todo = todo) (owned : after.pending = state.pending ++ [(worker, item)])
    (same : after.handled = state.handled) :
    (explorer String).step state.frontier (.take item.path) = some after.frontier := by
  have present : item.path ∈ state.frontier.waiting := by
    simp [RunState.frontier, queued]
  simp only [explorer]
  rw [if_pos present]
  simp only [RunState.frontier, queued, left, owned, same, List.map_cons, List.map_append,
    List.map_nil, Multiset.coe_erase, List.erase_cons_head, Multiset.cons_coe]
  rw [Multiset.coe_eq_coe.mpr (List.perm_append_singleton _ _)]

/-- Handling a result visits the position of its item. -/
theorem frontier_complete {result : WorkerResult} {rest : List WorkerMessage} {spec : WorkerSpec}
    (owns : (result.workerId, result.item) ∈ state.pending) :
    (explorer String).step state.frontier
        (.visit result.item.path (resultEvent spec result).listed) =
      some (handleResult specs { state with results := rest } spec result).frontier := by
  have present : result.item.path ∈ state.frontier.taken :=
    Multiset.mem_coe.mpr (List.mem_map.mpr ⟨_, owns, rfl⟩)
  have whole : state.frontier.taken = result.item.path ::ₘ
      (((state.pending.erase (result.workerId, result.item)).map fun entry => entry.2.path :
        List (List String)) : Multiset (List String)) :=
    Multiset.coe_eq_coe.mpr ((List.perm_cons_erase owns).map _)
  simp only [explorer]
  rw [if_pos present, whole, Multiset.erase_cons_head]
  simp only [RunState.frontier, handleResult, Scheduler.complete_todo, List.map_append]
  congr 2
  rw [← Multiset.coe_add, Scheduler.childItems, List.map_map]
  rfl

/-- A run of a pool is an exploration whose visits list what the answers list. -/
def explores (first : 0 < specs.length) (plain : isForkedId specs 0 = false) :
    Refinement (runMachine specs) (Answers allows) (explorer String) (Listed allows) where
  view := RunState.frontier
  starts := by
    rintro state rfl
    rfl
  simulates := by
    intro before action after reached allowed taken
    have move : RunMove specs before action after := runStep_moves taken
    cases move with
    | dispatch scanning listed member clean queued =>
      exact .inr ⟨.take _, trivial, frontier_dispatch queued rfl rfl rfl⟩
    | @complete result rest spec waiting arrived found =>
      have owns := (ledger_reachable first plain reached).owns arrived
      have given := (provenance_reachable reached).results result (by
        rw [arrived]
        exact List.mem_cons_self)
      refine .inr ⟨.visit _ _, ⟨spec, result.event, given, ?_⟩, frontier_complete owns⟩
      rw [resultEvent_eq]
    | _ => exact .inl rfl

/-- A failure lists nothing, so answers that list names once make every visit do so. -/
theorem listed_distinct (once : ListsOnce allows) (frontier : Frontier String)
    (move : Move String) (listed : Listed allows frontier move) : Distinct frontier move := by
  cases move with
  | take path => trivial
  | visit path names =>
    obtain ⟨spec, answer, allowed, rfl⟩ := listed
    cases answer with
    | ok event => exact once path event allowed
    | error report => exact List.nodup_nil

end Refinement

/-! ## Reached paths -/

/-- A path is reached when it is the root or a handled event of its parent names it. -/
def RunState.Reached (state : RunState) (path : List String) : Prop :=
  path = [] ∨ ∃ parent ∈ state.handled, ∃ name ∈ parent.event.listed, path = parent.path ++ [name]

/-- A run of a pool that an accepted configuration gives, up to some moment. -/
structure RunOf (allows : List String → Answer → Prop) (specs : List WorkerSpec)
    (state : RunState) : Prop where
  /-- The configuration is accepted and gives the pool. -/
  started : ∃ debug prepared openSlot config, runPool debug prepared openSlot config = .ok specs
  /-- The moment is reached by workers that give allowed answers. -/
  reached : (runMachine specs).Reachable (Answers allows) state

namespace RunOf

variable {specs : List WorkerSpec} {allows : List String → Answer → Prop} {state : RunState}

/-- The first worker of the pool is not forked. -/
theorem first (run : RunOf allows specs state) :
    0 < specs.length ∧ isForkedId specs 0 = false := by
  obtain ⟨debug, prepared, openSlot, config, started⟩ := run.started
  exact runPool_first started

/-- The records of the coordinator agree. -/
theorem ledger (run : RunOf allows specs state) : Ledger specs state :=
  ledger_reachable run.first.1 run.first.2 run.reached

/-- The work list is one of an exploration. -/
theorem explored (run : RunOf allows specs state) :
    (explorer String).Reachable (Listed allows) state.frontier :=
  (explores run.first.1 run.first.2).reachable run.reached

/-- Reached paths are the named positions of the exploration. -/
theorem reached_iff (path : List String) :
    state.Reached path ↔ path ∈ named state.frontier.visited := by
  simp [RunState.Reached, mem_named, RunState.frontier]

/-- The visited positions are the paths of the handled results. -/
theorem visited_paths : state.frontier.visited.map Prod.fst = state.handled.map Handled.path := by
  simp [RunState.frontier, Function.comp_def]

/-- No path is handled twice. -/
theorem handled_nodup (run : RunOf allows specs state) (once : ListsOnce allows) :
    (state.handled.map Handled.path).Nodup := by
  rw [← visited_paths]
  exact visited_nodup (listed_distinct once) run.explored

/-- Handled results with one path are one result. -/
theorem handled_inj (run : RunOf allows specs state) (once : ListsOnce allows)
    {first second : Handled} (here : first ∈ state.handled) (there : second ∈ state.handled)
    (same : first.path = second.path) : first = second :=
  List.inj_on_of_nodup_map (run.handled_nodup once) here there same

/-- The dispatched items are those that are taken and those that are visited. -/
theorem dispatched_perm (run : RunOf allows specs state) :
    ((state.dispatched.map fun entry => entry.2.path : List (List String)) :
      Multiset (List String)) =
      state.frontier.taken + (state.frontier.visited.map Prod.fst : List (List String)) := by
  have settled := run.ledger.settled.map fun entry => entry.2.path
  rw [visited_paths, RunState.frontier, Multiset.coe_add, Multiset.coe_eq_coe]
  rw [List.map_append, List.map_map] at settled
  exact settled

/-- No path is dispatched twice. -/
theorem dispatched_nodup (run : RunOf allows specs state) (once : ListsOnce allows) :
    (state.dispatched.map fun entry => entry.2.path).Nodup := by
  have all : (named state.frontier.visited : Multiset (List String)).Nodup :=
    named_nodup (listed_distinct once) run.explored
  rw [← conserved run.explored, add_assoc, ← run.dispatched_perm] at all
  exact (Multiset.nodup_add.mp all).2.1

/-- Only reached paths are dispatched. -/
theorem dispatched_reached (run : RunOf allows specs state) {entry : Nat × WorkItem}
    (sent : entry ∈ state.dispatched) : state.Reached entry.2.path := by
  have listed : entry.2.path ∈ ((state.dispatched.map fun entry => entry.2.path :
      List (List String)) : Multiset (List String)) :=
    Multiset.mem_coe.mpr (List.mem_map_of_mem sent)
  rw [reached_iff, ← Multiset.mem_coe, ← conserved run.explored, add_assoc, ← run.dispatched_perm]
  exact Multiset.mem_add.mpr (.inr listed)

/-- A call of the event sink is that of a handled result the pool let pass. -/
theorem mem_calls (run : RunOf allows specs state) {call : List String × Event} :
    call ∈ state.calls ↔
      ∃ entry ∈ state.handled, entry.isEmitted specs = true ∧ entry.call = call := by
  rw [(chronicle_reachable run.reached).calls]
  simp [and_assoc]

/-- In a run that has not failed the calls are the handled results. -/
theorem calls_eq (run : RunOf allows specs state) (clean : state.coordinator.isClean = true) :
    state.calls = state.handled.map Handled.call := by
  have chronicle := chronicle_reachable run.reached
  rw [chronicle.calls, List.filter_eq_self.mpr]
  intro entry member
  have smooth := chronicle.clean clean entry member
  simp only [Handled.isSmooth, Bool.and_eq_true] at smooth
  exact smooth.1

end RunOf

/-! ## The order of events -/

/-- Workers that answer a path with an event for it that lists distinct names, or fail. -/
def AnswersPath (path : List String) : Answer → Prop
  | .ok event => event.attrPath = path ∧ event.listed.Nodup
  | .error _ => True

instance (path : List String) : ∀ answer, Decidable (AnswersPath path answer)
  | .ok event => inferInstanceAs (Decidable (event.attrPath = path ∧ event.listed.Nodup))
  | .error _ => isTrue trivial

/-- A sequence of events from which a consumer can build the tree as it arrives. -/
structure Incremental (events : List Event) : Prop where
  /-- Attribute paths are distinct. -/
  distinct : (events.map Event.attrPath).Nodup
  /-- Every event below the root comes after an attribute set that names it. -/
  parents : ∀ before event later, events = before ++ event :: later →
    ∀ path name, event.attrPath = path ++ [name] →
      ∃ attr names, .attrSet attr path names ∈ before ∧ name ∈ names
  /-- Nothing follows a fatal error. -/
  fatalLast : ∀ before event later, events = before ++ event :: later →
    event.isFatal = true → later = []

section Order

variable {specs : List WorkerSpec} {state : RunState}

/-- The event of a path has that path. -/
theorem answerEvent_attrPath {spec : WorkerSpec} {path : List String} {answer : Answer}
    (allowed : AnswersPath path answer) : (answerEvent spec path answer).attrPath = path := by
  cases answer with
  | ok event => exact allowed.1
  | error report => rfl

/-- Handled events have the paths of their results. -/
theorem RunOf.handled_attrPath (run : RunOf AnswersPath specs state) {entry : Handled}
    (member : entry ∈ state.handled) : entry.event.attrPath = entry.path := by
  obtain ⟨allowed, spec, _, same⟩ := (provenance_reachable run.reached).handled entry member
  rw [same]
  exact answerEvent_attrPath allowed

/-- An event that lists a name is an attribute set. -/
theorem attrSet_of_listed {event : Event} {name : String} (listed : name ∈ event.listed) :
    ∃ attr names, event = .attrSet attr event.attrPath names ∧ name ∈ names := by
  cases event with
  | attrSet attr attrPath attrs => exact ⟨attr, attrs, rfl, listed⟩
  | derivation drv => cases listed
  | error failure => cases listed

/-- A place in the calls of the event sink is a place in the handled results. -/
theorem RunOf.calls_split {allows : List String → Answer → Prop} (run : RunOf allows specs state)
    {before later : List Event} {event : Event}
    (split : state.calls.map Prod.snd = before ++ event :: later) :
    ∃ front entry back, state.handled = front ++ entry :: back ∧
      front.map Handled.event = before ∧ entry.event = event ∧
      (later ≠ [] → back ≠ []) := by
  obtain ⟨rest, whole⟩ := (chronicle_reachable run.reached).calls_within
  have events := congrArg (List.map Prod.snd) whole
  rw [List.map_append, split, List.map_map] at events
  obtain ⟨front, tail, handled, before, after⟩ :=
    List.map_eq_append_iff.mp (events.symm.trans (List.append_assoc _ _ _))
  obtain ⟨entry, back, rfl, here, behind⟩ := List.map_eq_cons_iff.mp after
  refine ⟨front, entry, back, handled, before, here, fun some none => ?_⟩
  rw [none] at behind
  exact some (List.append_eq_nil_iff.mp behind.symm).1

/-- At every moment of every run, however it ends, the events handed to the sink can be built
into a tree as they arrive. -/
theorem calls_incremental (run : RunOf AnswersPath specs state) :
    Incremental (state.calls.map Prod.snd) where
  distinct := by
    have once : ListsOnce AnswersPath := fun path event allowed => allowed.2
    have paths : state.handled.map (Event.attrPath ∘ Handled.event) =
        state.handled.map Handled.path :=
      List.map_congr_left fun entry member => run.handled_attrPath member
    have fewer := ((chronicle_reachable run.reached).calls_within.map
      (Event.attrPath ∘ Prod.snd)).sublist
    rw [List.map_map] at fewer ⊢
    refine List.Nodup.sublist fewer ?_
    show (state.handled.map (Event.attrPath ∘ Handled.event)).Nodup
    rw [paths]
    exact run.handled_nodup once
  parents := by
    intro before event later split path name under
    obtain ⟨front, entry, back, handled, rfl, rfl, _⟩ := run.calls_split split
    have position : state.frontier.visited =
        (front.map fun old => (old.path, old.event.listed)) ++
          (entry.path, entry.event.listed) :: back.map fun new => (new.path, new.event.listed) := by
      simp [RunState.frontier, handled]
    rw [run.handled_attrPath (by simp [handled])] at under
    obtain root | ⟨visit, earlier, key, listed, same⟩ :=
      mem_named.mp (visited_named run.explored position)
    · simp [under] at root
    · obtain ⟨parent, member, rfl⟩ := List.mem_map.mp earlier
      obtain ⟨here, keys⟩ := List.append_inj' (under.symm.trans same) rfl
      obtain rfl := (List.cons.inj keys).1
      obtain ⟨attr, names, shape, names_mem⟩ := attrSet_of_listed listed
      refine ⟨attr, names, List.mem_map.mpr ⟨parent, member, ?_⟩, names_mem⟩
      rw [shape, here, run.handled_attrPath (by simp [handled, member])]
  fatalLast := by
    intro before event later split fatal
    obtain ⟨front, entry, back, handled, _, rfl, longer⟩ := run.calls_split split
    by_contra more
    have smooth := (chronicle_reachable run.reached).earlier entry (by
      rw [handled, List.dropLast_append_of_ne_nil (List.cons_ne_nil _ _),
        List.dropLast_cons_of_ne_nil (longer more)]
      simp)
    simp [Handled.isSmooth, fatal] at smooth

/-- A pool of one local worker. -/
def singleLocal : List WorkerSpec := [⟨0, "local", .local none .none⟩]

/-- The first worker of an idle pool is sent the next item, answers it, and the sink takes the
event. -/
def round (path : List String) (event : Event) : List RunAction :=
  [.coordinate, .coordinate, .coordinate, .coordinate, .worker 0 .command,
    .worker 0 (.answer path (.ok (event, .ready))), .worker 0 .proceed, .coordinate, .sink true,
    .worker 0 .proceed]

/-- A root and its child arrive in this order. -/
theorem calls_incremental_child : ∃ state : RunState, Incremental (state.calls.map Prod.snd) ∧
    state.calls.map (fun call => call.2.attrPath) = [[], ["a"]] := by
  have started : runPool (fun _ => "") (.ok ()) (fun _ => .error "") Config.default =
      .ok singleLocal := rfl
  obtain ⟨state, reached, checked⟩ := Machine.reachable_of_execute (runMachine singleLocal)
    (Answers AnswersPath) (.initial singleLocal)
    (.worker 0 (.connected (.ok ())) :: (round [] (.attrSet "" [] ["a"]) ++
      round ["a"] (.error ⟨"a", ["a"], "assertion failed", false⟩)))
    (fun state => state.calls.map (fun call => call.2.attrPath) = [[], ["a"]]) rfl (by decide)
  exact ⟨state, calls_incremental ⟨⟨_, _, _, _, started⟩, reached⟩, of_decide_eq_true checked⟩

end Order

end Evix
