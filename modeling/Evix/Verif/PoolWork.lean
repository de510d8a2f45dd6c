import Evix.Verif.Completion
import Evix.Verif.Pool

/-!
# What the processes of a pool do

The processes of the local workers evaluate what was dispatched to their worker, no path twice in
the whole pool; and what the coordinator handles from a local worker is an event that one of its
processes has produced, or one of the two failures of the worker.
-/

namespace Evix

open Machines LocalWorker

/-! ## What is given to the processes of a worker -/

/-- Replacing an entry of a list replaces what is listed for it. -/
theorem count_flatMap_set {α β : Type*} [BEq β] {list : List α} {index : Nat}
    {before : α} (after : α) (read : α → List β) (wanted : β)
    (found : list[index]? = some before) :
    ((list.set index after).flatMap read).count wanted + (read before).count wanted =
      (list.flatMap read).count wanted + (read after).count wanted := by
  induction list generalizing index with
  | nil => cases found
  | cons first rest ih =>
    cases index with
    | zero =>
      obtain rfl := Option.some.inj found
      rw [List.set_cons_zero, List.flatMap_cons, List.flatMap_cons, List.count_append,
        List.count_append]
      omega
    | succ index =>
      have later := ih found
      rw [List.set_cons_succ, List.flatMap_cons, List.flatMap_cons, List.count_append,
        List.count_append]
      omega

namespace LocalWorker

/-- The paths a process was given. -/
def Trace.paths (trace : Trace) : List (List String) := trace.works.map Prod.snd

namespace State

variable {spec : Spec} {before after : State} {action : LinkAction}

/-- How often a path was given to the processes of a worker, or is about to be. -/
def given (link : State) (path : List String) : Nat :=
  (link.traces.flatMap Trace.paths).count path + link.serving.writing.count path

/-- Whether the processes of a worker were given no more than it has taken up. -/
def Gives (link : State) : Prop := ∀ path, link.given path ≤ link.taken.count path

/-- A process that moves has the same work in the histories. -/
theorem traces_serve {index : Nat} {move : ProcessAction} {process changed : Process}
    (found : before.processes[index]? = some process)
    (moves : LocalWorker.runStep spec.config process move = some changed) :
    before.traces[index]? = some process.trace ∧
      (before.setProcess index changed).traces = before.traces.set index changed.trace ∧
      changed.trace.paths = process.trace.paths := by
  refine ⟨?_, List.map_set, ?_⟩
  · rw [traces, List.getElem?_map, found, Option.map_some]
  · rw [Trace.paths, Trace.paths, Process.trace, (produced_of_runStep moves).1]
    rfl

/-- A step gives its processes no more than it takes up. -/
theorem Gives.step (gives : before.Gives) (traced : Traced spec before after action) :
    after.Gives := by
  intro path
  have fewer := gives path
  unfold given at fewer ⊢
  cases traced with
  | same traces taken calm =>
    rw [traces, taken, calm, List.count_nil]
    omega
  | accept item given traces taken calm serving =>
    rw [calm, List.count_nil] at fewer
    rw [traces, taken, serving, Serving.writing, List.count_append]
    omega
  | spawn traces taken calm =>
    have none : (Trace.paths ⟨[], []⟩).count path = 0 := rfl
    rw [traces, taken, calm, List.flatMap_append, List.flatMap_singleton, List.count_append, none,
      List.count_nil]
    omega
  | write item place index trace sending held found traces taken calm =>
    set more : Trace := { trace with works := trace.works ++ [(place, item)] } with written
    have longer : more.paths.count path = trace.paths.count path + [item].count path := by
      rw [written, Trace.paths, List.map_append, List.count_append]
      rfl
    have moved := count_flatMap_set more Trace.paths path found
    rw [sending, Serving.writing] at fewer
    rw [traces, taken, calm, List.count_nil]
    omega
  | serve index move process changed given found moves result =>
    obtain ⟨there, traces, same⟩ := traces_serve found moves
    have moved := count_flatMap_set changed.trace Trace.paths path there
    rw [result, traces]
    rw [same] at moved
    have still : (before.setProcess index changed).serving = before.serving := rfl
    have items : (before.setProcess index changed).taken = before.taken := rfl
    rw [still, items]
    omega

/-- A task that leaves has given its processes no more. -/
theorem Gives.leave (gives : before.Gives) {serving : Serving} (left : serving.isOver = true) :
    (before.leave serving).Gives := by
  intro path
  have frame := before.frame_leave serving
  have fewer := gives path
  have quiet : serving.writing = [] := by
    cases serving with
    | ended | aborted => rfl
    | _ => cases left
  have there : (before.leave serving).serving = serving := rfl
  unfold given at fewer ⊢
  rw [frame.traces, frame.taken, there, quiet, List.count_nil]
  omega

/-- The processes have begun no more than they were given. -/
theorem Sound.begun_le (sound : before.Sound) (path : List String) :
    (before.processes.flatMap Process.begun).count path ≤ before.given path := by
  have each : ∀ processes : List Process, (∀ process ∈ processes, process.Sound) →
      (processes.flatMap Process.begun).count path ≤
        ((processes.map Process.trace).flatMap Trace.paths).count path := by
    intro processes own
    induction processes with
    | nil => exact Nat.le_refl _
    | cons process rest ih =>
      have first := ((own process List.mem_cons_self).begun.sublist).count_le path
      have others := ih fun other member => own other (List.mem_cons_of_mem _ member)
      rw [List.map_cons, List.flatMap_cons, List.flatMap_cons, List.count_append,
        List.count_append]
      exact Nat.add_le_add first others
  exact Nat.le_trans (each before.processes sound.processes) (Nat.le_add_right _ _)

end State

end LocalWorker

/-! ## What is on its way to a worker -/

/-- How often a path is on its way to a worker. -/
def RunState.underway (state : RunState) (worker : Nat) (path : List String) : Nat :=
  state.coordinator.sends worker ⟨path⟩ + (state.commands worker).count (.work ⟨path⟩)

/-- How often a path was dispatched to a worker. -/
def RunState.sent (state : RunState) (worker : Nat) (path : List String) : Nat :=
  state.dispatched.count (worker, ⟨path⟩)

section Channels

variable {specs : List WorkerSpec} {state after run : RunState} {action : RunAction}
  {capacity worker : Nat} {own : Spec} {before link : LocalWorker.State} {move : LinkAction}

/-- A step puts nothing on its way that is not dispatched. -/
theorem RunMove.underway_le (moves : RunMove specs state action after) (worker : Nat)
    (path : List String) :
    after.underway worker path + state.sent worker path ≤
      state.underway worker path + after.sent worker path := by
  cases moves with
  | cancel => exact Nat.le_refl _
  | finish reason =>
    simp only [RunState.underway, RunState.sent, Coordinator.sends]
    omega
  | scan top =>
    simp only [RunState.underway, RunState.sent, top, Coordinator.sends]
    exact Nat.le_refl _
  | @dispatch remaining chosen idle item todo scanning =>
    simp only [RunState.underway, RunState.sent, scanning, Coordinator.sends, List.count_append]
    by_cases same : chosen = worker ∧ item = ⟨path⟩
    · obtain ⟨rfl, rfl⟩ := same
      simp only [and_self, if_true, List.count_singleton_self]
      omega
    · rw [if_neg same]
      omega
  | skip scanning =>
    simp only [RunState.underway, RunState.sent, scanning, Coordinator.sends]
    exact Nat.le_refl _
  | @deliver remaining chosen item sending room =>
    simp only [RunState.underway, RunState.sent, RunState.setCommands, sending, Coordinator.sends]
    by_cases same : chosen = worker
    · subst same
      rw [Function.update_self, room]
      by_cases equal : item = ⟨path⟩ <;> simp [equal]
    · rw [Function.update_of_ne (Ne.symm same)]
      omega
  | listen scanned =>
    simp only [RunState.underway, RunState.sent, scanned, Coordinator.sends]
    exact Nat.le_refl _
  | join waiting first =>
    simp only [RunState.underway, RunState.sent, waiting, Coordinator.sends]
    exact Nat.le_refl _
  | complete waiting first found =>
    simp only [RunState.underway, RunState.sent, handleResult, afterCompletion_sends]
    omega
  | emitted emitting =>
    simp only [RunState.underway, RunState.sent, emitting, Coordinator.sends]
    exact Nat.le_refl _
  | clean returned left ended stopped =>
    have fewer := (stopped worker).count_le (.work ⟨path⟩)
    rw [List.count_append, List.count_singleton] at fewer
    simp only [RunState.underway, RunState.sent]
    simp at fewer
    omega
  | @worker id spec step task commands messages given found moves =>
    simp only [RunState.underway, RunState.sent, RunState.moved]
    by_cases same : worker = id
    · subst same
      have fewer := moves.commands_sublist.count_le (.work ⟨path⟩)
      rw [Function.update_self]
      omega
    · rw [Function.update_of_ne same]

/-- A task sends results of its own worker. -/
theorem LocalMove.result_worker {spec : WorkerSpec} {step : WorkerAction} {task moved : WorkerTask}
    {commands left : List WorkerCommand} {messages : List WorkerMessage}
    (moves : LocalMove spec worker step task commands moved left messages) {result : WorkerResult}
    (listed : .result result ∈ messages) : result.workerId = worker := by
  by_contra other
  have none := moves.results_own other result.item
  rw [List.countP_eq_zero] at none
  exact none _ listed (by simp [WorkerMessage.isResultOf])

/-- A result in the channel was there, or its worker has moved. -/
theorem RunMove.result_of (moves : RunMove specs state action after) {result : WorkerResult}
    (listed : .result result ∈ after.results) :
    .result result ∈ state.results ∨ ∃ step, action = .worker result.workerId step := by
  cases moves with
  | finish reason => exact .inl (reason.results_sublist.subset listed)
  | join waiting first | complete waiting first =>
    rw [first]
    exact .inl (List.mem_cons_of_mem _ listed)
  | @worker id spec step task commands messages given found moves =>
    obtain old | new := List.mem_append.mp listed
    · exact .inl old
    · rw [moves.result_worker new]
      exact .inr ⟨step, given⟩
  | _ => exact .inl listed

/-- A handled result was handled, or was in the channel. -/
theorem RunMove.handled_of (moves : RunMove specs state action after) {entry : Handled}
    (member : entry ∈ after.handled) : entry ∈ state.handled ∨
      .result ⟨entry.worker, ⟨entry.path⟩, entry.answer⟩ ∈ state.results := by
  cases moves with
  | complete waiting first found =>
    obtain old | new := List.mem_append.mp member
    · exact .inl old
    · obtain rfl := List.mem_singleton.mp new
      rw [first]
      exact .inr List.mem_cons_self
  | _ => exact .inl member

/-- The channel of a worker is not on the way to another. -/
theorem RunState.underway_other {commands : List WorkerCommand} {other : Nat}
    (apart : other ≠ worker) (path : List String) :
    (state.setCommands worker commands).underway other path = state.underway other path := by
  simp only [underway, setCommands]
  rw [Function.update_of_ne apart]

/-- A channel that loses commands has no more on its way. -/
theorem RunState.underway_setCommands {commands : List WorkerCommand}
    (fewer : commands.Sublist (state.commands worker)) (other : Nat) (path : List String) :
    (state.setCommands worker commands).underway other path ≤ state.underway other path := by
  by_cases same : other = worker
  · subst same
    have less := fewer.count_le (.work ⟨path⟩)
    simp only [underway, setCommands, Function.update_self]
    omega
  · exact Nat.le_of_eq (underway_other same path)

/-- What a local task takes up was on its way. -/
theorem channelStep_underway
    (channel : channelStep capacity worker state before link move = some run)
    (traced : State.Traced own before link move) (path : List String) :
    link.taken.count path + run.underway worker path ≤
      before.taken.count path + state.underway worker path := by
  have quiet : run.underway worker path ≤ state.underway worker path := by
    rcases channelStep_cases channel with ⟨commands, fewer, rfl⟩ | ⟨message, _, rfl⟩
    · exact RunState.underway_setCommands fewer worker path
    · exact Nat.le_refl _
  cases traced with
  | same _ taken | spawn _ taken | write _ _ _ _ _ _ _ _ taken =>
    rw [taken]
    omega
  | accept item given _ taken =>
    subst given
    have received : state.receive worker (some (.work ⟨item⟩)) = some run := channel
    obtain ⟨commands, queued, rfl⟩ := RunState.receive_some received
    simp only [taken, List.count_append, RunState.underway, RunState.setCommands,
      Function.update_self, queued]
    by_cases same : item = path
    · subst same
      simp
      omega
    · simp [same]
  | serve index step process changed given found moves result =>
    rw [result]
    exact Nat.add_le_add_left quiet _

end Channels

/-! ## What a worker vouches for -/

section Tasks

variable {own : Spec} {before after : LocalWorker.State} {action : LinkAction}
  {path : List String} {answer : Answer}

/-- Whether the processes of a worker have produced no less than before. -/
def LocalWorker.State.Grows (before after : LocalWorker.State) : Prop :=
  ∀ trace ∈ before.traces, ∃ later ∈ after.traces, trace.produced ⊆ later.produced

/-- Histories that are the same have grown. -/
theorem LocalWorker.State.grows_of_traces (same : after.traces = before.traces) :
    before.Grows after := by
  intro trace member
  exact ⟨trace, by rw [same]; exact member, List.Subset.refl _⟩

/-- An entry of a list is there after another one was replaced, or it is that one. -/
theorem mem_set_or_eq {α : Type*} {list : List α} {index : Nat} {here other : α} (there : α)
    (found : list[index]? = some here) (member : other ∈ list) :
    other ∈ list.set index there ∨ other = here := by
  obtain ⟨place, at_place⟩ := List.mem_iff_getElem?.mp member
  by_cases same : index = place
  · subst same
    exact .inr (Option.some.inj (at_place.symm.trans found))
  · rw [← List.getElem?_set_ne same (a := there)] at at_place
    exact .inl (List.mem_of_getElem? at_place)

/-- What the processes of a worker have produced stays produced. -/
theorem LocalWorker.State.Traced.grows (traced : State.Traced own before after action) :
    before.Grows after := by
  -- A history is replaced by one that has produced no less.
  have replaced : ∀ {index : Nat} {here : Trace} (there : Trace),
      before.traces[index]? = some here → here.produced ⊆ there.produced →
      after.traces = before.traces.set index there → before.Grows after := by
    intro index here there found more same trace member
    rw [same]
    obtain inside | rfl := mem_set_or_eq there found member
    · exact ⟨trace, inside, List.Subset.refl _⟩
    · exact ⟨there, List.mem_set (List.getElem?_eq_some_iff.mp found).1 _, more⟩
  cases traced with
  | same traces | accept _ _ traces => exact State.grows_of_traces traces
  | spawn traces =>
    intro trace member
    rw [traces]
    exact ⟨trace, List.mem_append_left _ member, List.Subset.refl _⟩
  | write path item index trace sending held found traces =>
    exact replaced { trace with works := trace.works ++ [(item, path)] } found
      (List.Subset.refl _) traces
  | serve index move process changed given found moves result =>
    obtain ⟨there, traces, _⟩ := State.traces_serve found moves
    refine replaced changed.trace there ?_ (by rw [result, traces])
    obtain ⟨_, same | ⟨path, event, _, _, more⟩⟩ := produced_of_runStep moves
    · rw [Process.trace, Process.trace, same]
      exact List.Subset.refl _
    · rw [Process.trace, Process.trace, more]
      exact List.subset_append_left _ _

/-- A worker goes on vouching for an answer. -/
theorem LocalWorker.State.Vouches.grow (vouches : before.Vouches own path answer)
    (grows : before.Grows after) : after.Vouches own path answer := by
  cases answer with
  | ok event =>
    obtain ⟨process, member, produced⟩ := vouches
    obtain ⟨later, there, more⟩ := grows process.trace (List.mem_map_of_mem member)
    obtain ⟨other, inside, rfl⟩ := List.mem_map.mp there
    exact ⟨other, inside, more produced⟩
  | error error => exact vouches

/-- A local task that follows its run has taken up, given and produced what it had. -/
theorem LocalTask.follow_link {task : LocalTask} (cancel : Bool) (there : WorkerTask)
    (gives : task.link.Gives) :
    (task.follow cancel there).link.Gives ∧
      (task.follow cancel there).link.taken = task.link.taken ∧
      task.link.Grows (task.follow cancel there).link := by
  have seen : (if cancel then { task.link with cancel := true } else task.link).Gives ∧
      (if cancel then { task.link with cancel := true } else task.link).taken = task.link.taken ∧
      (if cancel then { task.link with cancel := true } else task.link).traces =
        task.link.traces := by
    cases cancel with
    | true => exact ⟨gives, rfl, rfl⟩
    | false => exact ⟨gives, rfl, rfl⟩
  obtain ⟨stays, taken, traces⟩ := seen
  cases there with
  | aborted =>
    have frame := State.frame_leave
      (if cancel then { task.link with cancel := true } else task.link) .aborted
    exact ⟨stays.leave rfl, frame.taken.trans taken,
      State.grows_of_traces (frame.traces.trans traces)⟩
  | _ => exact ⟨stays, taken, State.grows_of_traces traces⟩

end Tasks

/-! ## Pools -/

section Pools

variable {setup : PoolSetup} {permitted : List String → Answer → Prop} {pool after : Pool}

/-- What a pool has dispatched, taken up and answered. -/
structure Pool.Accounted (setup : PoolSetup) (pool : Pool) : Prop where
  /-- The processes were given what their worker has taken up. -/
  gives : ∀ worker, (pool.locals worker).link.Gives
  /-- What a worker has taken up, or is about to, was dispatched to it. -/
  sent : ∀ worker path, (pool.locals worker).link.taken.count path +
    pool.run.underway worker path ≤ pool.run.sent worker path
  /-- A local worker vouches for its results. -/
  results : ∀ result, .result result ∈ pool.run.results →
    setup.isLocal result.workerId = true →
    (pool.locals result.workerId).link.Vouches (setup.localSpec result.workerId) result.item.path
      result.event
  /-- It vouches for those that were handled. -/
  handled : ∀ entry ∈ pool.run.handled, setup.isLocal entry.worker = true →
    (pool.locals entry.worker).link.Vouches (setup.localSpec entry.worker) entry.path entry.answer

namespace Pool.Accounted

/-- Tasks that keep what they have, under a run that keeps its records but may gain a message for
which its worker vouches, are accounted for. -/
theorem carry (accounted : pool.Accounted setup)
    (gives : ∀ worker, (after.locals worker).link.Gives)
    (sent : ∀ worker path, (after.locals worker).link.taken.count path +
      after.run.underway worker path ≤ after.run.sent worker path)
    (grows : ∀ worker, (pool.locals worker).link.Grows (after.locals worker).link)
    (results : ∀ result, .result result ∈ after.run.results →
      setup.isLocal result.workerId = true → .result result ∈ pool.run.results ∨
        (after.locals result.workerId).link.Vouches (setup.localSpec result.workerId)
          result.item.path result.event)
    (handled : ∀ entry ∈ after.run.handled, entry ∈ pool.run.handled ∨
      .result ⟨entry.worker, ⟨entry.path⟩, entry.answer⟩ ∈ pool.run.results) :
    after.Accounted setup := by
  refine ⟨gives, sent, fun result listed own => ?_, fun entry member own => ?_⟩
  · obtain old | new := results result listed own
    · exact (accounted.results result old own).grow (grows _)
    · exact new
  · obtain old | new := handled entry member
    · exact (accounted.handled entry old own).grow (grows _)
    · exact (accounted.results _ new own).grow (grows _)

/-- A step from outside keeps a pool accounted for. -/
theorem run {action : RunAction} (accounted : pool.Accounted setup)
    (taken : poolStep setup pool (.run action) = some after) : after.Accounted setup := by
  simp only [poolStep] at taken
  split at taken
  · rename_i outside
    obtain ⟨run, moved, rfl⟩ := Option.map_eq_some_iff.mp taken
    have move : RunMove setup.specs (pool.view setup) action run := runStep_moves moved
    have kept := fun worker =>
      LocalTask.follow_link run.cancel (run.tasks worker) (accounted.gives worker)
    refine accounted.carry (fun worker => (kept worker).1) (fun worker path => ?_)
      (fun worker => (kept worker).2.2) (fun result listed own => ?_) fun entry member => ?_
    · have fewer : run.underway worker path + pool.run.sent worker path ≤
          pool.run.underway worker path + run.sent worker path := move.underway_le worker path
      have before := accounted.sent worker path
      rw [(kept worker).2.1]
      show _ + run.underway worker path ≤ run.sent worker path
      omega
    · obtain old | ⟨step, rfl⟩ := move.result_of listed
      · exact .inl old
      · rw [PoolSetup.isOutside, own] at outside
        cases outside
    · exact move.handled_of member
  · cases taken

/-- The channels and the link of one worker move, and the rest stays. -/
theorem moved {run : RunState} {worker : Nat} {task : LocalTask} (accounted : pool.Accounted setup)
    (gives : task.link.Gives)
    (sent : ∀ path, task.link.taken.count path + run.underway worker path ≤
      (pool.locals worker).link.taken.count path + pool.run.underway worker path)
    (others : ∀ other path, other ≠ worker →
      run.underway other path = pool.run.underway other path)
    (grows : (pool.locals worker).link.Grows task.link)
    (results : ∀ result, .result result ∈ run.results → .result result ∈ pool.run.results ∨
      result.workerId = worker ∧
        task.link.Vouches (setup.localSpec worker) result.item.path result.event)
    (dispatched : run.dispatched = pool.run.dispatched) (handled : run.handled = pool.run.handled) :
    (pool.moved run worker task).Accounted setup := by
  refine accounted.carry (fun other => ?_) (fun other path => ?_) (fun other => ?_)
    (fun result listed own => ?_) fun entry member => .inl ?_
  · by_cases same : other = worker
    · subst same
      simpa [Pool.moved] using gives
    · simpa [Pool.moved, same] using accounted.gives other
  · have before := accounted.sent other path
    have records : run.sent other path = pool.run.sent other path := by
      rw [RunState.sent, dispatched, RunState.sent]
    show _ + run.underway other path ≤ run.sent other path
    by_cases same : other = worker
    · subst same
      have more := sent path
      simp only [Pool.moved, Function.update_self]
      omega
    · have still := others other path same
      simp only [Pool.moved, Function.update_of_ne same]
      omega
  · by_cases same : other = worker
    · subst same
      simpa [Pool.moved] using grows
    · simpa [Pool.moved, same] using State.grows_of_traces rfl
  · obtain old | ⟨rfl, vouches⟩ := results result listed
    · exact .inl old
    · right
      simpa [Pool.moved] using vouches
  · rw [← handled]
    exact member

/-- A step of a link keeps a pool accounted for. -/
theorem link {worker : Nat} {action : LinkAction} (accounted : pool.Accounted setup)
    (sound : pool.Sound setup permitted)
    (taken : poolStep setup pool (.link worker action) = some after) : after.Accounted setup := by
  simp only [poolStep] at taken
  split at taken
  · obtain ⟨link, moves, rest⟩ := Option.bind_eq_some_iff.mp taken
    obtain ⟨run, channel, rfl⟩ := Option.map_eq_some_iff.mp rest
    have own := sound worker
    have other : action ≠ .cancel := by
      rintro rfl
      cases channel
    have traced := (State.linkStep_steps other own.recent own.link.retiring moves).traced
    have sent := channelStep_underway channel traced
    refine accounted.moved ((accounted.gives worker).step traced) sent ?_ traced.grows ?_ ?_ ?_
    all_goals
      rcases channelStep_cases channel with ⟨commands, _, rfl⟩ | ⟨message, sending, rfl⟩
    · exact fun other path apart => RunState.underway_other apart path
    · exact fun _ _ _ => rfl
    · exact fun result listed => .inl listed
    · intro result listed
      obtain old | new := List.mem_append.mp listed
      · exact .inl old
      · obtain rfl := List.mem_singleton.mp new
        unfold sendsMessage? at sending
        split at sending
        · cases sending
        · rename_i path answer status serving
          obtain rfl := WorkerMessage.result.inj (Option.some.inj sending)
          exact .inr ⟨rfl, (own.link.vouches own.counted serving).1.grow traced.grows⟩
        · cases sending
        · cases sending
    all_goals rfl
  · cases taken

/-- Telling of an error keeps a pool accounted for. -/
theorem exit {worker : Nat} {delivered : Bool} (accounted : pool.Accounted setup)
    (taken : poolStep setup pool (.exit worker delivered) = some after) :
    after.Accounted setup := by
  simp only [poolStep] at taken
  split at taken
  · split at taken
    · rename_i error failed
      obtain ⟨run, offered, rfl⟩ := Option.map_eq_some_iff.mp taken
      rcases RunState.offer_cases offered with rfl | rfl
      · exact accounted.moved (accounted.gives worker) (fun _ => Nat.le_refl _)
          (fun _ _ _ => rfl) (State.grows_of_traces rfl) (fun result listed => .inl listed) rfl rfl
      · refine accounted.moved (accounted.gives worker) (fun _ => Nat.le_refl _)
          (fun _ _ _ => rfl) (State.grows_of_traces rfl) (fun result listed => ?_) rfl rfl
        obtain old | new := List.mem_append.mp listed
        · exact .inl old
        · cases List.mem_singleton.mp new
    · cases taken
  · cases taken

/-- A panic keeps a pool accounted for. -/
theorem panic {worker : Nat} (accounted : pool.Accounted setup)
    (taken : poolStep setup pool (.panic worker) = some after) : after.Accounted setup := by
  simp only [poolStep, Option.ite_none_right_eq_some, Option.some.injEq] at taken
  obtain ⟨_, rfl⟩ := taken
  have frame := (pool.locals worker).link.frame_leave
    (.ended (.error "worker task panicked"))
  refine accounted.moved ((accounted.gives worker).leave rfl) (fun path => ?_)
    (fun other path apart => RunState.underway_other apart path)
    (State.grows_of_traces frame.traces) (fun result listed => .inl listed) rfl rfl
  have fewer : ((pool.view setup).setCommands worker []).underway worker path ≤
      (pool.view setup).underway worker path :=
    RunState.underway_setCommands (List.nil_sublist _) worker path
  exact Nat.add_le_add (Nat.le_of_eq (congrArg (List.count path) frame.taken)) fewer

end Pool.Accounted

/-- Every reachable pool is accounted for. -/
theorem Pool.accounted_reachable
    (reached : (poolMachine setup).Reachable (PoolAnswers setup permitted) pool) :
    pool.Accounted setup := by
  refine Machine.Reachable.invariant (fun start initial => ?_) ?_ reached
  · obtain rfl := initial
    refine ⟨fun worker path => ?_, fun worker path => Nat.le_refl _,
      fun result listed => absurd listed List.not_mem_nil,
      fun entry member => absurd member List.not_mem_nil⟩
    show ((State.initial _).traces.flatMap Trace.paths).count path + 0 ≤ 0
    rw [State.traces, State.initial]
    split
    all_goals exact Nat.le_refl _
  · intro before action later earlier accounted _ taken
    have sound := Pool.sound_reachable earlier
    cases action with
    | run action => exact accounted.run taken
    | link worker action => exact accounted.link sound taken
    | exit worker delivered => exact accounted.exit taken
    | panic worker => exact accounted.panic taken

/-- A pool that an accepted configuration gives, up to some moment. -/
structure PoolOf (setup : PoolSetup) (permitted : List String → Answer → Prop) (pool : Pool) :
    Prop where
  /-- The configuration is accepted and gives the pool. -/
  started : ∃ debug prepared openSlot config,
    runPool debug prepared openSlot config = .ok setup.specs
  /-- The failures of local workers are allowed. -/
  failures : setup.Fails permitted
  /-- The moment is reached by remote workers and local processes that give allowed answers. -/
  reached : (poolMachine setup).Reachable (PoolAnswers setup permitted) pool

/-- What the coordinator sees of a pool is a run. -/
theorem PoolOf.run (of : PoolOf setup permitted pool) :
    RunOf permitted setup.specs (pool.view setup) :=
  ⟨of.started, (poolRefinement setup permitted of.failures).reachable of.reached⟩

/-- Whatever the coordinator, the tasks and the processes of local workers, and the remote tasks do:
what the coordinator sees is a run of tasks that answer. So its records agree at every moment, and
when it returns that it has completed, every reached path was dispatched and emitted exactly once,
with the event of the tree that the processes evaluate or that of a failure. -/
theorem pool_runs (of : PoolOf setup permitted pool) :
    (runMachine setup.specs).Reachable (Answers permitted) (pool.view setup) ∧
      Bookkeeping setup.specs (pool.view setup) ∧
      ∀ tree : AttrTree, (∀ path answer, permitted path answer → tree.Allows path answer) →
        pool.run.coordinator = .returned (.ok .completed) →
          Exhausted tree setup.specs (pool.view setup) :=
  ⟨of.run.reached, of.run.ledger.bookkeeping,
    fun _ implies completed => (of.run.weaken implies).exhausted_of_completed completed⟩

/-- A pool of one local worker for the default configuration. -/
def singleSetup : PoolSetup where
  specs := singleLocal
  config := .ofConfig .default
  debug := fun _ => "message"
  debugPath := fun _ => "path"

/-- The worker is sent the next item, its process evaluates it to an event of the small tree, and
the sink takes the event. -/
def evaluates (process : Nat) (path : List String) (maxRssKb : Nat) : List PoolAction :=
  [.run .coordinate, .run .coordinate, .run .coordinate, .run .coordinate,
    .link 0 (.command (.work ⟨path⟩)), .link 0 .write, .link 0 (.process process .request),
    .link 0 (.process process (.evaluated (smallTree.event path))),
    .link 0 (.process process .write), .link 0 .read,
    .link 0 (.process process (.measured maxRssKb)), .link 0 (.process process .report),
    .link 0 .read, .link 0 (.send true), .run .coordinate, .run (.sink true), .link 0 .settle]

/-- The process reaches its memory limit at the root, and a new one evaluates the rest. -/
def evaluatesTree : List PoolAction :=
  (spawns 0).map (.link 0) ++ evaluates 0 [] (2 ^ 40) ++ [.link 0 (.exited none "")] ++
    (spawns 1).map (.link 0) ++ evaluates 1 ["hello"] 0 ++ evaluates 1 ["broken"] 0 ++
    [.run .coordinate, .run .coordinate]

/-- The small tree is evaluated by two processes, one after the other. -/
theorem singleSetup_completes : ∃ pool, PoolOf singleSetup smallTree.Allows pool ∧
    pool.run.coordinator = .returned (.ok .completed) ∧
      (pool.locals 0).link.processes.map Process.begun = [[[]], [["hello"], ["broken"]]] := by
  obtain ⟨pool, reached, checked⟩ := Machine.reachable_of_execute (poolMachine singleSetup)
    (PoolAnswers singleSetup smallTree.Allows) (.initial singleSetup) evaluatesTree
    (fun pool => pool.run.coordinator = .returned (.ok .completed) ∧
      (pool.locals 0).link.processes.map Process.begun = [[[]], [["hello"], ["broken"]]])
    rfl (by decide +kernel)
  have single : runPool (fun _ => "") (.ok ()) (fun _ => .error "") Config.default =
      .ok singleLocal := rfl
  exact ⟨pool, ⟨⟨_, _, _, _, single⟩, fun _ _ _ _ _ => trivial, reached⟩, of_decide_eq_true checked⟩

/-- A pool whose process is replaced dispatches every path once. -/
theorem pool_runs_restart : ∃ pool : Pool,
    Exhausted smallTree singleLocal (pool.view singleSetup) ∧
      (pool.locals 0).link.processes.length = 2 := by
  obtain ⟨pool, of, completed, begun⟩ := singleSetup_completes
  refine ⟨pool, (pool_runs of).2.2 smallTree (fun _ _ allowed => allowed) completed, ?_⟩
  simpa using congrArg List.length begun

/-- The paths that the processes of the local workers have begun to evaluate. -/
def Pool.begun (setup : PoolSetup) (pool : Pool) : List (List String) :=
  ((List.range setup.specs.length).filter setup.isLocal).flatMap fun worker =>
    (pool.locals worker).link.processes.flatMap Process.begun

/-- The processes of a worker have begun no more than was dispatched to it. -/
theorem PoolOf.begun_le (of : PoolOf setup permitted pool) (worker : Nat) (path : List String) :
    ((pool.locals worker).link.processes.flatMap Process.begun).count path ≤
      pool.run.sent worker path := by
  have accounted := Pool.accounted_reachable of.reached
  have begun := (Pool.sound_reachable of.reached worker).link.begun_le path
  have gives := accounted.gives worker path
  have sent := accounted.sent worker path
  omega

/-- What the processes of a worker have begun was dispatched to it. -/
theorem PoolOf.sent_of_begun (of : PoolOf setup permitted pool) {worker : Nat}
    {path : List String}
    (begun : path ∈ (pool.locals worker).link.processes.flatMap Process.begun) :
    (worker, ⟨path⟩) ∈ pool.run.dispatched := by
  have within := of.begun_le worker path
  have some : 0 < _ := List.count_pos_iff.mpr begun
  exact List.count_pos_iff.mp (Nat.lt_of_lt_of_le some within)

/-- No path is begun twice. -/
theorem PoolOf.begun_nodup (of : PoolOf setup permitted pool) (once : ListsOnce permitted) :
    (pool.begun setup).Nodup := by
  have distinct : (pool.run.dispatched.map fun entry => entry.2.path).Nodup :=
    of.run.dispatched_nodup once
  refine List.nodup_flatMap.mpr ⟨fun worker _ => ?_, ?_⟩
  · rw [List.nodup_iff_count_le_one]
    intro path
    exact Nat.le_trans (of.begun_le worker path)
      (List.nodup_iff_count_le_one.mp distinct.of_map _)
  · refine (List.nodup_range.filter _).imp fun apart => ?_
    intro path here there
    have same := List.inj_on_of_nodup_map distinct (of.sent_of_begun here)
      (of.sent_of_begun there) rfl
    exact apart (Prod.mk.inj same).1

/-- Whatever the coordinator, the tasks and the processes of local workers, and the remote tasks do,
restarts and failures included: no path is evaluated twice by the processes of the local workers
together; each evaluates what was dispatched to its worker, which is reached; and what is handled
from a local worker is an event that one of its processes has produced for the path, or one of the
two failures of the worker. -/
theorem pool_evaluates_once (of : PoolOf setup permitted pool) (once : ListsOnce permitted) :
    (pool.begun setup).Nodup ∧
      (∀ worker, setup.isLocal worker = true →
        ∀ process ∈ (pool.locals worker).link.processes, ∀ path ∈ process.begun,
          (worker, ⟨path⟩) ∈ pool.run.dispatched ∧ (pool.view setup).Reached path) ∧
      ∀ entry ∈ pool.run.handled, setup.isLocal entry.worker = true →
        match entry.answer with
        | .ok event => ∃ process ∈ (pool.locals entry.worker).link.processes,
            entry.path ∈ process.begun ∧ (entry.path, event) ∈ process.produced
        | .error error => Failure (setup.localSpec entry.worker) entry.path error := by
  refine ⟨of.begun_nodup once, fun worker _ process member path begun => ?_,
    fun entry member own => ?_⟩
  · have sent := of.sent_of_begun (List.mem_flatMap.mpr ⟨process, member, begun⟩)
    exact ⟨sent, of.run.dispatched_reached sent⟩
  · have vouches := (Pool.accounted_reachable of.reached).handled entry member own
    cases answer : entry.answer with
    | ok event =>
      rw [answer] at vouches
      obtain ⟨process, listed, produced⟩ := vouches
      have sound := (Pool.sound_reachable of.reached entry.worker).link.processes process listed
      exact ⟨process, listed, sound.produced.subset (List.mem_map_of_mem produced), produced⟩
    | error error =>
      rw [answer] at vouches
      exact vouches

/-- Two processes evaluate the small tree, each path once. -/
theorem pool_evaluates_once_restart : ∃ pool : Pool, (pool.begun singleSetup).Nodup ∧
    (pool.locals 0).link.processes.map Process.begun = [[[]], [["hello"], ["broken"]]] := by
  obtain ⟨pool, of, _, begun⟩ := singleSetup_completes
  exact ⟨pool, (pool_evaluates_once of AttrTree.allows_listsOnce).1, begun⟩

end Pools

end Evix
