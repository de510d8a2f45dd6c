import Evix.LocalWorker.Pool
import Evix.Verif.LocalWorkers

/-!
# What a step of a local worker is for others

Each step of a local worker read once for what it tells: the coordinator sees a step of a task or
nothing, and the histories of the processes get one entry or none.
-/

namespace Evix.LocalWorker

open Machines

/-! ## What a step does to the records of the processes -/

/-- The path that a task is about to write. -/
def Serving.writing : Serving → List (List String)
  | .sendingWork path => [path]
  | _ => []

/-- The history of a process that the master and the process write together. -/
structure Trace where
  /-- The work it was given. -/
  works : List (Nat × List String)
  /-- The events it has produced. -/
  produced : List (List String × Event)

/-- The history of a process. -/
def Process.trace (process : Process) : Trace := ⟨process.works, process.produced⟩

namespace State

/-- The histories of the processes. -/
def traces (state : State) : List Trace := state.processes.map Process.trace

/-- What a step does to the histories and to the items. -/
inductive Traced (spec : Spec) (before after : State) (action : LinkAction) : Prop where
  /-- Nothing is added to them. -/
  | same (traces : after.traces = before.traces) (taken : after.taken = before.taken)
    (calm : after.serving.writing = [])
  /-- An item is taken up. -/
  | accept (path : List String) (given : action = .command (.work ⟨path⟩))
    (traces : after.traces = before.traces) (taken : after.taken = before.taken ++ [path])
    (calm : before.serving.writing = []) (serving : after.serving = .sendingWork path)
  /-- A process is spawned. -/
  | spawn (traces : after.traces = before.traces ++ [⟨[], []⟩])
    (taken : after.taken = before.taken) (calm : after.serving.writing = [])
  /-- Work is written to a process. -/
  | write (path : List String) (item index : Nat) (trace : Trace)
    (sending : before.serving = .sendingWork path) (held : before.held = some index)
    (found : before.traces[index]? = some trace)
    (traces : after.traces =
      before.traces.set index { trace with works := trace.works ++ [(item, path)] })
    (taken : after.taken = before.taken) (calm : after.serving.writing = [])
  /-- A process moves. -/
  | serve (index : Nat) (move : ProcessAction) (process changed : Process)
    (given : action = .process index move) (found : before.processes[index]? = some process)
    (moves : runStep spec.config process move = some changed)
    (result : after = before.setProcess index changed)

variable {spec : Spec} {state before after : State} {action : LinkAction}

/-- Killing and closing adds nothing to the histories. -/
theorem Frame.traces (frame : Frame before after) : after.traces = before.traces := by
  have same : ∀ {first second : List Process}, KeptAll first second →
      second.map Process.trace = first.map Process.trace := by
    intro first second kept
    induction kept with
    | nil => rfl
    | cons one _ ih =>
      rw [List.map_cons, List.map_cons, ih, Process.trace, Process.trace, one.works, one.produced]
  exact same frame.processes

/-- Changing a process in place adds nothing to its history when its record is the same. -/
theorem traces_setProcess {index : Nat} {process changed : Process}
    (found : state.processes[index]? = some process) (same : changed.trace = process.trace) :
    (state.setProcess index changed).traces = state.traces := by
  show (state.processes.set index changed).map Process.trace = _
  have there : (state.processes.map Process.trace)[index]? = some process.trace := by
    rw [List.getElem?_map, found, Option.map_some]
  obtain ⟨inside, here⟩ := List.getElem?_eq_some_iff.mp there
  rw [List.map_set, same, ← here, List.set_getElem_self]
  rfl

/-- Reading a response adds nothing to the histories. -/
theorem traces_takeResponse {index : Nat} {read : ServerMessage × State}
    (taken : state.takeResponse index = some read) :
    read.2.traces = state.traces ∧ read.2.taken = state.taken ∧ read.2.held = state.held ∧
      read.2.cancel = state.cancel := by
  obtain ⟨process, message, responses, found, _, rfl⟩ := takeResponse_some taken
  exact ⟨traces_setProcess found rfl, rfl, rfl, rfl⟩

/-- A task that is over adds nothing to the histories. -/
theorem traced_leave (same : before.traces = state.traces) (taken : before.taken = state.taken)
    {serving : Serving} (calm : serving.writing = []) :
    Traced spec state (before.leave serving) action :=
  .same ((before.frame_leave serving).traces.trans same)
    ((before.frame_leave serving).taken.trans taken) calm

/-- A task that is over has not requested cancellation. -/
theorem cancel_leave {serving : Serving} : (before.leave serving).cancel = before.cancel :=
  (before.frame_leave serving).cancel

end State

/-! ## What a step tells the coordinator -/

/-- Whether a task is in the middle of connecting, of an item or of stopping. -/
def Serving.isInside : Serving → Bool
  | .connecting | .attaching | .spawning | .settingUp _ | .greeting _ | .startDraining ..
  | .awaitingEvent _ | .awaitingStatus .. | .draining .. | .aborting _ | .waiting => true
  | _ => false

/-- Whether a step uses no channel of the task, and is not the decision after a result. -/
def LinkAction.isInner : LinkAction → Bool
  | .connect _ | .readPid _ | .readEnd | .write | .read | .failed _ | .timeout | .exited ..
  | .stop _ => true
  | _ => false

namespace State

/-- What an inner step is for the coordinator. -/
inductive Turn (spec : Spec) (before after : State) : Prop where
  /-- Nothing. -/
  | still (task : after.task = before.task) (inside : after.serving.isInside = true)
  /-- The worker is connected. -/
  | ready (connecting : before.serving.isConnecting = true)
    (serving : after.serving =
      if spec.forked && before.held.isNone then .announcing else .receiving)
  /-- The worker is not connected. -/
  | refused (error : String) (connecting : before.serving.isConnecting = true)
    (serving : after.serving = .ended (.error error))
  /-- The item is answered. -/
  | answered (path : List String) (answer : Answer) (status : WorkerStatus)
    (working : before.task = .working ⟨path⟩)
    (serving : after.serving = .sendingResult path answer status)
  /-- The worker is stopped. -/
  | stopped (stopping : before.task = .stopping) (serving : after.serving = .ended (.ok ()))

/-- The last result is the one that the task decides on. -/
def Recent (state : State) : Prop :=
  match state.serving with
  | .settling _ status => state.reports.getLast?.map (·.status) = some status
  | .retiring => state.reports.getLast?.map (·.status) = some .restart
  | _ => True

variable {spec : Spec} {state before after : State} {action : LinkAction}

/-- The task of a worker that connects. -/
theorem task_of_isConnecting (connecting : state.serving.isConnecting = true) :
    state.task = connectingTask state.held (state.reports.getLast?.map (·.status)) := by
  unfold State.task
  cases serving : state.serving <;> rw [serving] at connecting <;> first | rfl | cases connecting

/-- A worker that connects goes on connecting. -/
theorem turn_connecting (earlier : state.serving.isConnecting = true)
    (later : after.serving.isConnecting = true) (held : after.held = state.held)
    (reports : after.reports = state.reports) : Turn spec state after := by
  refine .still ?_ ?_
  · rw [task_of_isConnecting earlier, task_of_isConnecting later, held, reports]
  · cases serving : after.serving <;> rw [serving] at later <;> first | rfl | cases later

/-- A worker that is inside goes on. -/
theorem turn_inside (same : state.task = after.task) (inside : after.serving.isInside = true) :
    Turn spec state after :=
  .still same.symm inside

/-- What an inner step is, for the coordinator and for the histories. -/
structure Inner (spec : Spec) (before after : State) (action : LinkAction) : Prop where
  /-- What the coordinator sees. -/
  turn : Turn spec before after
  /-- What is added to the histories. -/
  traced : Traced spec before after action
  /-- Cancellation is not requested. -/
  cancel : after.cancel = before.cancel

/-- Spawning a process is an inner step. -/
theorem inner_spawned (outcome : Except String Unit)
    (connecting : state.serving.isConnecting = true) :
    Inner spec state (match outcome with
      | .ok () =>
        { state with
          processes := state.processes ++ [.spawned]
          serving := .settingUp state.processes.length }
      | .error error => state.finish (.error error)) action := by
  cases outcome with
  | ok done => exact ⟨turn_connecting connecting rfl rfl rfl, .spawn List.map_append rfl rfl, rfl⟩
  | error error => exact ⟨.refused error connecting rfl, traced_leave rfl rfl rfl, cancel_leave⟩

/-- The step of `connect` is an inner one. -/
theorem inner_connectStep {outcome : Except String Unit}
    (taken : connectStep state outcome = some after) : Inner spec state after action := by
  simp only [connectStep] at taken
  split at taken
  · rename_i serving
    split at taken
    · obtain rfl := Option.some.inj taken
      exact ⟨turn_connecting (by rw [serving]; rfl) rfl rfl rfl, .same rfl rfl rfl, rfl⟩
    · obtain rfl := Option.some.inj taken
      exact inner_spawned outcome (by rw [serving]; rfl)
  · rename_i serving
    obtain rfl := Option.some.inj taken
    exact inner_spawned outcome (by rw [serving]; rfl)
  · cases taken

/-- Reading a pid is an inner step. -/
theorem inner_readPid {opened : Except String Unit} (taken : readPid state opened = some after) :
    Inner spec state after action := by
  unfold readPid at taken
  split at taken
  · rename_i process serving found
    have connecting : state.serving.isConnecting = true := by rw [serving]; rfl
    have read : (state.setProcess 0 { process with pid := none }).traces = state.traces :=
      traces_setProcess found rfl
    obtain ⟨pid, _, rfl⟩ := Option.map_eq_some_iff.mp taken
    split
    · split
      · exact ⟨turn_connecting connecting rfl rfl rfl, .same read rfl rfl, rfl⟩
      · exact ⟨.refused _ connecting rfl, traced_leave read rfl rfl, cancel_leave⟩
    · exact ⟨.refused _ connecting rfl, traced_leave read rfl rfl, cancel_leave⟩
  · cases taken

/-- Reading a response is an inner step. -/
theorem inner_readMessage (taken : readMessage spec state = some after) :
    Inner spec state after action := by
  unfold readMessage at taken
  split at taken
  · rename_i index serving
    obtain ⟨read, given, rfl⟩ := Option.map_eq_some_iff.mp taken
    obtain ⟨traces, items, held, cancel⟩ := traces_takeResponse given
    have connecting : state.serving.isConnecting = true := by rw [serving]; rfl
    unfold readReady
    split
    · refine ⟨.ready connecting (by rw [held]), .same ?_ ?_ ?_, ?_⟩
      · exact read.2.frame_dropHeld.traces.trans traces
      · exact read.2.frame_dropHeld.taken.trans items
      · show Serving.writing (if spec.forked && read.2.held.isNone then _ else _) = []
        split <;> rfl
      · exact read.2.frame_dropHeld.cancel.trans cancel
    all_goals
      have frame := read.2.frame_leave (.ended (.ok ()))
      exact ⟨.refused _ connecting rfl, .same (frame.traces.trans traces)
        (frame.taken.trans items) rfl, frame.cancel.trans cancel⟩
  · rename_i path serving
    obtain ⟨read, given, rfl⟩ := Option.map_eq_some_iff.mp taken
    obtain ⟨index, _, chosen⟩ := Option.bind_eq_some_iff.mp given
    obtain ⟨traces, items, _, cancel⟩ := traces_takeResponse chosen
    have working : state.task = .working ⟨path⟩ := by rw [State.task, serving]
    unfold readEvent
    split
    · exact ⟨turn_inside working rfl, .same traces items rfl, cancel⟩
    all_goals exact ⟨.answered path _ _ working rfl, .same traces items rfl, cancel⟩
  · rename_i path event serving
    obtain ⟨read, given, rfl⟩ := Option.map_eq_some_iff.mp taken
    obtain ⟨index, _, chosen⟩ := Option.bind_eq_some_iff.mp given
    obtain ⟨traces, items, _, cancel⟩ := traces_takeResponse chosen
    have working : state.task = .working ⟨path⟩ := by rw [State.task, serving]
    unfold readStatus
    split
    all_goals exact ⟨.answered path _ _ working rfl, .same traces items rfl, cancel⟩
  · cases taken

/-- A failure of the master is an inner step. -/
theorem inner_failStep {source : String} (taken : failStep state source = some after) :
    Inner spec state after action := by
  unfold failStep at taken
  split at taken
  · rename_i serving
    obtain rfl := Option.some.inj taken
    exact ⟨.refused source (by rw [serving]; rfl) rfl, traced_leave rfl rfl rfl, cancel_leave⟩
  all_goals first
    | (rename_i serving
       obtain rfl := Option.some.inj taken
       exact ⟨turn_connecting (by rw [serving]; rfl) rfl rfl rfl, .same rfl rfl rfl, rfl⟩)
    | (rename_i serving
       obtain rfl := Option.some.inj taken
       exact ⟨turn_inside (by rw [State.task, serving]; rfl) rfl, .same rfl rfl rfl, rfl⟩)
    | cases taken

/-- A time limit is an inner step. -/
theorem inner_timeoutStep (taken : timeoutStep spec state = some after) :
    Inner spec state after action := by
  have late : ∀ {index : Nat} {error source : String}, state.serving.isConnecting = true →
      Inner spec state (if spec.forked && index == 0 then state.finish (.error error)
        else { state.modify index .kill with
          serving := .startDraining index "handshake" source }) action := by
    intro index error source connecting
    split
    · exact ⟨.refused error connecting rfl, traced_leave rfl rfl rfl, cancel_leave⟩
    · exact ⟨turn_connecting connecting rfl rfl rfl,
        .same (state.frame_modify index Process.kept_kill).traces rfl rfl, rfl⟩
  simp only [timeoutStep] at taken
  split at taken
  · rename_i serving
    obtain rfl := Option.some.inj taken
    exact ⟨.refused _ (by rw [serving]; rfl) rfl, traced_leave rfl rfl rfl, cancel_leave⟩
  all_goals first
    | (rename_i serving
       obtain rfl := Option.some.inj taken
       exact late (by rw [serving]; rfl))
    | (rename_i serving
       obtain ⟨index, _, rfl⟩ := Option.map_eq_some_iff.mp taken
       exact ⟨turn_inside (by rw [State.task, serving]; rfl) rfl,
         .same (state.frame_modify index Process.kept_kill).traces rfl rfl, rfl⟩)
    | cases taken

/-- The end of a process that is awaited is an inner step. -/
theorem inner_exitedStep {status : Option String} {stderr : String} (recent : state.Recent)
    (holds : state.serving = .retiring → state.held.isSome = true)
    (taken : exitedStep spec state status stderr = some after) : Inner spec state after action := by
  simp only [exitedStep] at taken
  split at taken
  · rename_i serving
    split at taken
    · obtain rfl := Option.some.inj taken
      exact ⟨.refused _ (by rw [serving]; rfl) rfl, traced_leave rfl rfl rfl, cancel_leave⟩
    · cases taken
  · rename_i path phase source serving
    split at taken
    · obtain rfl := Option.some.inj taken
      exact ⟨.answered path _ _ (by rw [State.task, serving]) rfl, .same rfl rfl rfl, rfl⟩
    · cases taken
  · rename_i path serving
    split at taken
    · obtain rfl := Option.some.inj taken
      exact ⟨.answered path _ _ (by rw [State.task, serving]) rfl, .same rfl rfl rfl, rfl⟩
    · cases taken
  · rename_i serving
    split at taken
    · obtain rfl := Option.some.inj taken
      obtain ⟨index, held⟩ := Option.isSome_iff_exists.mp (holds serving)
      -- The worker that is retired is the one that announced the restart.
      have last : state.reports.getLast?.map (·.status) = some .restart := by
        rw [Recent, serving] at recent
        exact recent
      refine ⟨turn_inside ?_ rfl, .same rfl rfl rfl, rfl⟩
      show state.task = connectingTask state.held (state.reports.getLast?.map (·.status))
      rw [State.task, serving, held, last]
      rfl
    · cases taken
  · rename_i serving
    split at taken
    · obtain rfl := Option.some.inj taken
      exact ⟨.stopped (by rw [State.task, serving]) rfl, traced_leave rfl rfl rfl, cancel_leave⟩
    · cases taken
  · cases taken

/-- Writing a request that is no work adds nothing to the histories. -/
theorem traces_request {message : ClientMessage} {written : State}
    (asked : state.request message [] = some written) :
    written.traces = state.traces ∧ written.taken = state.taken ∧
      written.cancel = state.cancel := by
  obtain ⟨index, process, _, found, rfl⟩ := request_some asked
  exact ⟨traces_setProcess found (by simp [Process.trace, Process.send]), rfl, rfl⟩

/-- Reading end-of-file is an inner step. -/
theorem inner_readEnd (taken : readEnd state = some after) : Inner spec state after action := by
  unfold readEnd at taken
  split at taken
  · rename_i process serving _
    split at taken
    · obtain rfl := Option.some.inj taken
      exact ⟨turn_connecting (by rw [serving]; rfl) rfl rfl rfl,
        .same (state.frame_modify 0 Process.kept_hangUp).traces rfl rfl, rfl⟩
    · cases taken
  · cases taken

/-- Writing a request is an inner step. -/
theorem inner_write (taken : linkStep spec state .write = some after) :
    Inner spec state after action := by
  simp only [linkStep] at taken
  split at taken
  · rename_i index serving
    obtain ⟨process, found, rfl⟩ := Option.map_eq_some_iff.mp taken
    exact ⟨turn_connecting (by rw [serving]; rfl) rfl rfl rfl,
      .same (traces_setProcess found (by simp [Process.trace, Process.send])) rfl rfl, rfl⟩
  · rename_i path serving
    obtain ⟨written, asked, rfl⟩ := Option.map_eq_some_iff.mp taken
    obtain ⟨index, process, held, found, rfl⟩ := request_some asked
    have there : state.traces[index]? = some process.trace := by
      rw [traces, List.getElem?_map, found, Option.map_some]
    exact ⟨turn_inside (by rw [State.task, serving]; rfl) rfl,
      .write path _ index process.trace serving held there List.map_set rfl rfl, rfl⟩
  · cases taken

/-- Stopping a process is an inner step. -/
theorem inner_stop {written : Bool} (taken : linkStep spec state (.stop written) = some after) :
    Inner spec state after action := by
  simp only [linkStep] at taken
  split at taken
  · rename_i serving
    obtain rfl := Option.some.inj taken
    have same : ∀ asked : State,
        asked = (if written then (state.request .shutdown []).getD state else state) →
        asked.traces = state.traces ∧ asked.taken = state.taken ∧
          asked.cancel = state.cancel := by
      rintro _ rfl
      cases written with
      | false => exact ⟨rfl, rfl, rfl⟩
      | true =>
        cases asked : state.request .shutdown [] with
        | none => exact ⟨rfl, rfl, rfl⟩
        | some requested => exact traces_request asked
    obtain ⟨traces, items, cancel⟩ := same _ rfl
    exact ⟨turn_inside (by rw [State.task, serving]; rfl) rfl, .same traces items rfl, cancel⟩
  · cases taken

/-- What the inner steps are, for the coordinator and for the histories. -/
theorem linkStep_inner (inner : action.isInner = true) (recent : state.Recent)
    (holds : state.serving = .retiring → state.held.isSome = true)
    (taken : linkStep spec state action = some after) : Inner spec state after action := by
  cases action with
  | connect outcome => exact inner_connectStep taken
  | readPid opened => exact inner_readPid taken
  | readEnd => exact inner_readEnd taken
  | write => exact inner_write taken
  | read => exact inner_readMessage taken
  | failed source => exact inner_failStep taken
  | timeout => exact inner_timeoutStep taken
  | exited status stderr => exact inner_exitedStep recent holds taken
  | stop written => exact inner_stop taken
  | _ => cases inner

/-- No inner step leads to a decision. -/
theorem Turn.recent (turn : Turn spec state after) : after.Recent := by
  unfold Recent
  cases turn with
  | still task inside =>
    cases serving : after.serving <;> rw [serving] at inside <;> trivial
  | ready connecting serving =>
    cases first : spec.forked && state.held.isNone <;> rw [serving, first] <;> trivial
  | refused error connecting serving | answered path answer status working serving
  | stopped stopping serving =>
    rw [serving]
    trivial

/-- What every step does that is no request for cancellation. -/
structure Steps (spec : Spec) (before after : State) (action : LinkAction) : Prop where
  /-- What is added to the histories. -/
  traced : Traced spec before after action
  /-- Cancellation is not requested. -/
  cancel : after.cancel = before.cancel
  /-- A decision is about the last result. -/
  recent : after.Recent

/-- A task that leaves takes a step. -/
theorem steps_leave {serving : Serving} (calm : serving.writing = [])
    (recent : (state.leave serving).Recent) : Steps spec state (state.leave serving) action :=
  ⟨traced_leave rfl rfl calm, cancel_leave, recent⟩

/-- An early command is one of these steps. -/
theorem steps_early {command : Option WorkerCommand}
    (taken : linkStep spec state (.early command) = some after) :
    Steps spec state after action := by
  simp only [linkStep] at taken
  split at taken
  · split at taken
    all_goals
      obtain rfl := Option.some.inj taken
      exact steps_leave rfl trivial
  · cases taken

/-- A command is one of these steps. -/
theorem steps_command {command : WorkerCommand}
    (taken : linkStep spec state (.command command) = some after) :
    Steps spec state after (.command command) := by
  simp only [linkStep] at taken
  split at taken
  · rename_i receiving
    split at taken
    · obtain rfl := Option.some.inj taken
      exact ⟨.same rfl rfl rfl, rfl, trivial⟩
    · split at taken
      · rename_i item
        obtain rfl := Option.some.inj taken
        exact ⟨.accept item.path rfl rfl rfl (by rw [receiving]; rfl) rfl, rfl, trivial⟩
      · obtain rfl := Option.some.inj taken
        exact ⟨.same rfl rfl rfl, rfl, trivial⟩
  · cases taken

/-- Sending a message is one of these steps. -/
theorem steps_send {delivered : Bool} (taken : linkStep spec state (.send delivered) = some after) :
    Steps spec state after action := by
  simp only [linkStep] at taken
  split at taken
  · obtain rfl := Option.some.inj taken
    cases delivered with
    | true => exact ⟨.same rfl rfl rfl, rfl, trivial⟩
    | false => exact steps_leave rfl trivial
  · obtain rfl := Option.some.inj taken
    cases delivered with
    | true => exact ⟨.same rfl rfl rfl, rfl, by simp [Recent]⟩
    | false => exact ⟨.same rfl rfl rfl, rfl, trivial⟩
  · obtain rfl := Option.some.inj taken
    exact ⟨.same rfl rfl rfl, rfl, trivial⟩
  · cases taken

/-- The decision after a result is one of these steps. -/
theorem steps_settle (recent : state.Recent) (taken : linkStep spec state .settle = some after) :
    Steps spec state after action := by
  simp only [linkStep] at taken
  split at taken
  · rename_i failed status serving
    rw [Recent, serving] at recent
    -- Only a restart is decided on later.
    by_cases again : (failed && !state.cancel) = true
    · rw [if_pos again] at taken
      obtain rfl := Option.some.inj taken
      exact ⟨.same rfl rfl rfl, rfl, trivial⟩
    · rw [if_neg again] at taken
      by_cases restart : status = .restart
      · rw [if_pos restart] at taken
        obtain rfl := Option.some.inj taken
        rw [restart] at recent
        exact ⟨.same rfl rfl rfl, rfl, recent⟩
      · rw [if_neg restart] at taken
        obtain rfl := Option.some.inj taken
        exact ⟨.same rfl rfl rfl, rfl, trivial⟩
  · cases taken

/-- Every step is one of these. -/
theorem linkStep_steps (other : action ≠ .cancel) (recent : state.Recent)
    (holds : state.serving = .retiring → state.held.isSome = true)
    (taken : linkStep spec state action = some after) : Steps spec state after action := by
  by_cases inner : action.isInner = true
  · have step := linkStep_inner inner recent holds taken
    exact ⟨step.traced, step.cancel, step.turn.recent⟩
  · cases action with
    | cancel => exact absurd rfl other
    | abort =>
      simp only [linkStep, Option.ite_none_right_eq_some, Option.some.injEq] at taken
      obtain ⟨_, rfl⟩ := taken
      exact steps_leave rfl trivial
    | early command => exact steps_early taken
    | command command => exact steps_command taken
    | closed =>
      simp only [linkStep] at taken
      split at taken
      · obtain rfl := Option.some.inj taken
        exact ⟨.same rfl rfl rfl, rfl, trivial⟩
      · cases taken
    | send delivered => exact steps_send taken
    | settle => exact steps_settle recent taken
    | process index move =>
      simp only [linkStep] at taken
      split at taken
      · rename_i process found
        obtain ⟨changed, moves, rfl⟩ := Option.map_eq_some_iff.mp taken
        exact ⟨.serve index move process changed rfl found moves rfl, rfl, recent⟩
      · cases taken
    | _ => exact absurd rfl inner

end State

/-! ## Leaving -/

namespace State

variable {spec : Spec} {state : State}

/-- A worker that is retired is held. -/
theorem Sound.retiring (sound : state.Sound) (serving : state.serving = .retiring) :
    state.held.isSome = true := by
  have expects := sound.expects
  rw [Expects, serving] at expects
  obtain ⟨index, _, held, _⟩ := expects
  rw [held]
  rfl

/-- A task that is over is about no result. -/
theorem recent_of_isOver {serving : Serving} (left : serving.isOver = true) :
    (state.leave serving).Recent := by
  cases serving with
  | ended | aborted => trivial
  | _ => cases left

/-- A task can be made to leave wherever it is. -/
theorem Sound.left_sound (sound : state.Sound) {serving : Serving} (left : serving.isOver = true) :
    (state.leave serving).Sound := by
  by_cases running : state.serving.isOver = false
  · exact sound.leave left running
  · have frame := state.frame_leave serving
    refine sound.frame frame ?_
    -- The channels that were closed stay closed.
    have closed : (state.leave serving).socket = false →
        ∀ process ∈ (state.leave serving).processes, process.Gone ∨ process.hungUp = true := by
      intro free process member
      obtain ⟨index, found⟩ := List.mem_iff_getElem?.mp member
      obtain ⟨earlier, there, kept⟩ := frame.processes.get found
      have expects := sound.expects
      have before : earlier.Gone ∨ earlier.hungUp = true := by
        unfold Expects at expects
        cases place : state.serving <;> rw [place] at expects running
        case ended result =>
          exact expects (frame.socket.symm.trans free) earlier (List.mem_of_getElem? there)
        case aborted =>
          exact expects (frame.socket.symm.trans free) earlier (List.mem_of_getElem? there)
        all_goals exact absurd rfl running
      rcases before with gone | closed
      · exact .inl (kept.place.trans gone)
      · exact .inr (kept.hungUp closed)
    unfold Expects
    cases serving with
    | ended | aborted => exact closed
    | _ => cases left

/-- A task that leaves has its numbers right. -/
theorem Counted.left_counted (counted : Counted spec state) {serving : Serving}
    (left : serving.isOver = true) : Counted spec (state.leave serving) := by
  have frame := (state.frame_leave serving).counts
  obtain ⟨empty, owed, _, plain⟩ := path?_of_isOver left
  have there : (state.leave serving).serving = serving := rfl
  refine ⟨fun _ => .inr left, fun path busy => ?_, fun _ running => ?_, ?_, ?_, ?_,
    fun path error status reached => ?_, ?_⟩
  · rw [there, empty] at busy
    cases busy
  · rw [there, left] at running
    cases running
  · rw [frame.taken, frame.reports]
    exact counted.most
  · rw [frame.taken, frame.reports]
    exact counted.numbered
  · have started := counted.started
    rw [frame.processes, frame.reports, there, owed]
    omega
  · exact failure_of_plain plain reached
  · rw [frame.reports]
    exact counted.failed

end State

/-! ## What a process adds -/

/-- A process adds to its events only what it has evaluated, and nothing to its work. -/
theorem produced_of_runStep {config : WorkerConfig} {process changed : Process}
    {move : ProcessAction} (moves : runStep config process move = some changed) :
    changed.works = process.works ∧ (changed.produced = process.produced ∨
      ∃ path event, move = .evaluated event ∧ process.place = .evaluating path ∧
        changed.produced = process.produced ++ [(path, event)]) := by
  cases move with
  | evaluated event =>
    simp only [runStep] at moves
    split at moves
    · rename_i path place
      obtain rfl := Option.some.inj moves
      exact ⟨rfl, .inr ⟨path, event, rfl, place, rfl⟩⟩
    · cases moves
  | _ =>
    simp only [runStep] at moves
    split at moves
    all_goals first
      | (obtain rfl := Option.some.inj moves; exact ⟨rfl, .inl rfl⟩)
      | cases moves

namespace State

variable {permitted : List String → Answer → Prop} {spec : Spec} {before after : State}
  {action : LinkAction}

/-- What a link allows its task to answer. -/
def Allows (permitted : List String → Answer → Prop) (link : State) : Prop :=
  ∀ trace ∈ link.traces, ∀ entry ∈ trace.produced, permitted entry.1 (.ok entry.2)

/-- What the processes of a link produce stays allowed. -/
theorem Allows.step (allows : before.Allows permitted)
    (legal : ∀ index process path event, action = .process index (.evaluated event) →
      before.processes[index]? = some process → process.place = .evaluating path →
      permitted path (.ok event))
    (traced : Traced spec before after action) : after.Allows permitted := by
  cases traced with
  | same traces | accept path given traces =>
    intro trace member
    rw [traces] at member
    exact allows trace member
  | spawn traces =>
    intro trace member entry produced
    rw [traces] at member
    obtain old | new := List.mem_append.mp member
    · exact allows trace old entry produced
    · obtain rfl := List.mem_singleton.mp new
      cases produced
  | write path item index trace sending held found traces =>
    intro other member entry produced
    rw [traces] at member
    obtain old | rfl := List.mem_or_eq_of_mem_set member
    · exact allows other old entry produced
    · exact allows trace (List.mem_of_getElem? found) entry produced
  | serve index move process changed given found moves result =>
    intro other member entry produced
    have traces : after.traces = before.traces.set index changed.trace := by
      rw [result]
      exact List.map_set
    have own : process.trace ∈ before.traces :=
      List.mem_map_of_mem (List.mem_of_getElem? found)
    rw [traces] at member
    obtain old | rfl := List.mem_or_eq_of_mem_set member
    · exact allows other old entry produced
    · obtain ⟨_, same | ⟨path, event, rfl, place, more⟩⟩ := produced_of_runStep moves
      · rw [Process.trace, same] at produced
        exact allows process.trace own entry produced
      · rw [Process.trace, more] at produced
        obtain old | new := List.mem_append.mp produced
        · exact allows process.trace own entry old
        · obtain rfl := List.mem_singleton.mp new
          exact legal index process path event given found place

end State

end Evix.LocalWorker
