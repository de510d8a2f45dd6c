import Evix.LocalWorker.Link

/-!
# The coordinator with its local workers and their processes

A run in which every local worker task is the `serve_worker` of a link to its processes, with the
tail of `worker_task` around it. The coordinator, its channels and the tasks of remote workers are
those of a run, for which a local task is only what the channels show of it.

What a task leaves in its work channel when the coordinator has refused a message stays there, as
nobody reads it any more.
-/

namespace Evix

open Machines

/-! ## Channels -/

namespace RunState

/-- `work_rx.recv`: the first command, or the end of a channel that is closed. -/
def receive (state : RunState) (worker : Nat) : Option WorkerCommand → Option RunState
  | some command =>
    match state.commands worker with
    | first :: commands =>
      if first = command then some (state.setCommands worker commands) else none
    | [] => none
  | none => if state.isReturned && (state.commands worker).isEmpty then some state else none

/-- `result_tx.send`: a message is delivered to an open channel with room, and refused by a closed
one. -/
def offer (state : RunState) (capacity : Nat) (message : WorkerMessage) (delivered : Bool) :
    Option RunState :=
  if delivered then
    if !state.isReturned && decide (state.results.length < capacity) then
      some { state with results := state.results ++ [message] }
    else none
  else if state.isReturned then some state
  else none

end RunState

/-! ## Local tasks -/

/-- What the tasks of a run are started with. -/
structure PoolSetup where
  /-- The pool. -/
  specs : List WorkerSpec
  /-- The configuration of every worker. -/
  config : WorkerConfig
  /-- Debug rendering of a message. -/
  debug : ServerMessage → String
  /-- Debug rendering of a path. -/
  debugPath : List String → String

namespace PoolSetup

variable (setup : PoolSetup)

/-- Whether a worker is a local one of the pool. -/
def isLocal (worker : Nat) : Bool := setup.specs[worker]?.any fun spec => !spec.isRemote

/-- What a local task knows of its worker. -/
def localSpec (worker : Nat) : LocalWorker.Spec where
  label := (setup.specs[worker]?.map WorkerSpec.label).getD ""
  config := setup.config
  forked := setup.specs[worker]?.any WorkerSpec.isForked
  debug := setup.debug
  debugPath := setup.debugPath

end PoolSetup

/-- What a task that is connecting does, by the worker it holds and the last status it sent. -/
def connectingTask : Option Nat → Option WorkerStatus → WorkerTask
  | none, _ => .connecting
  | some _, some .restart => .restarting
  | some _, _ => .reconnecting

/-- What the coordinator's side of a run tells of a local task. -/
def LocalWorker.State.task (state : LocalWorker.State) : WorkerTask :=
  match state.serving with
  | .connecting | .attaching | .spawning | .settingUp _ | .greeting _ | .startDraining .. =>
    connectingTask state.held (state.reports.getLast?.map (·.status))
  | .announcing => .sendingReady
  | .receiving => .receiving
  | .sendingWork path | .awaitingEvent path | .awaitingStatus path _ | .draining path _ _
  | .aborting path => .working ⟨path⟩
  | .sendingResult path answer status => .sendingResult ⟨path⟩ answer status
  | .settling failed status => .settling failed status
  | .retiring => .restarting
  | .sendingCancelled => .sendingCancelled
  | .stopping | .waiting => .stopping
  | .ended (.ok ()) => .ended
  | .ended (.error error) => .sendingExited error
  | .aborted => .aborted

/-- A `worker_task`. -/
structure LocalTask where
  /-- `serve_worker` and its processes. -/
  link : LocalWorker.State
  /-- Whether the error of `serve_worker` was sent, or refused. -/
  told : Bool

namespace LocalTask

/-- Where the task is. -/
def task (task : LocalTask) : WorkerTask :=
  match task.link.task with
  | .sendingExited error => if task.told then .ended else .sendingExited error
  | other => other

/-- A local task sees the cancellation, and the clean-up of the run may abort it. -/
def follow (task : LocalTask) (cancel : Bool) (there : WorkerTask) : LocalTask :=
  let link := if cancel then { task.link with cancel := true } else task.link
  match there with
  | .aborted => { task with link := link.leave .aborted }
  | _ => { task with link }

end LocalTask

/-! ## The machine -/

/-- The state of the pool. -/
structure Pool where
  /-- The coordinator, the channels, and the tasks of remote workers. -/
  run : RunState
  /-- The tasks of local workers. -/
  locals : Nat → LocalTask

/-- The pool when `run` calls `coordinate`. -/
def Pool.initial (setup : PoolSetup) : Pool where
  run := .initial setup.specs
  locals worker := ⟨.initial (setup.localSpec worker), false⟩

/-- The run of a pool. -/
def Pool.view (setup : PoolSetup) (pool : Pool) : RunState :=
  { pool.run with
    tasks := fun worker =>
      if setup.isLocal worker then (pool.locals worker).task else pool.run.tasks worker }

/-- The pool after a local task moved on. -/
def Pool.moved (pool : Pool) (run : RunState) (worker : Nat) (task : LocalTask) : Pool where
  run := run
  locals := Function.update pool.locals worker task

/-- What may happen in a pool. -/
inductive PoolAction where
  /-- The coordinator, the clean-up, a remote task or the outside moves. -/
  | run (action : RunAction)
  /-- A local task or one of its processes moves. -/
  | link (worker : Nat) (action : LocalWorker.LinkAction)
  /-- A local task tells of its error. -/
  | exit (worker : Nat) (delivered : Bool)
  /-- `serve_worker` panics in a local task. -/
  | panic (worker : Nat)

/-- Whether an action of the run is not one of a local task. -/
def PoolSetup.isOutside (setup : PoolSetup) : RunAction → Bool
  | .worker id _ => !setup.isLocal id
  | .cancel | .coordinate | .sink _ | .cleanup => true

/-- The message a local task is sending. -/
def sendsMessage? (worker : Nat) (link : LocalWorker.State) : Option WorkerMessage :=
  match link.serving with
  | .announcing => some (.ready worker)
  | .sendingResult path answer _ => some (.result ⟨worker, ⟨path⟩, answer⟩)
  | .sendingCancelled => some .cancelled
  | _ => none

/-- What the step of a local task does to the channels. -/
def channelStep (capacity worker : Nat) (run : RunState) (before after : LocalWorker.State) :
    LocalWorker.LinkAction → Option RunState
  | .early command => (run.receive worker command).map (·.setCommands worker [])
  | .command command => run.receive worker (some command)
  | .closed => run.receive worker none
  | .send delivered =>
    (sendsMessage? worker before).bind fun message => run.offer capacity message delivered
  | .process .. => some run
  -- Cancellation and the abort come from the run.
  | .cancel | .abort => none
  | .connect _ | .readPid _ | .readEnd | .write | .read | .failed _ | .timeout | .exited ..
  | .settle | .stop _ =>
    some (if after.serving.isOver then run.setCommands worker [] else run)

/-- The step of a pool. -/
def poolStep (setup : PoolSetup) (pool : Pool) : PoolAction → Option Pool
  | .run action =>
    if setup.isOutside action then
      (runStep setup.specs (pool.view setup) action).map fun run =>
        ⟨run, fun worker => (pool.locals worker).follow run.cancel (run.tasks worker)⟩
    else none
  | .link worker action =>
    if setup.isLocal worker then
      let task := pool.locals worker
      (LocalWorker.linkStep (setup.localSpec worker) task.link action).bind fun link =>
        (channelStep setup.specs.length worker (pool.view setup) task.link link action).map
          fun run => pool.moved run worker { task with link }
    else none
  | .exit worker delivered =>
    if setup.isLocal worker then
      let task := pool.locals worker
      match task.task with
      | .sendingExited error =>
        ((pool.view setup).offer setup.specs.length (.exited error) delivered).map fun run =>
          pool.moved run worker { task with told := true }
      | _ => none
    else none
  | .panic worker =>
    let task := pool.locals worker
    if setup.isLocal worker && !task.link.serving.isOver then
      some (pool.moved ((pool.view setup).setCommands worker []) worker
        { task with link := task.link.finish (.error "worker task panicked") })
    else none

/-- The machine of a pool. -/
def poolMachine (setup : PoolSetup) : Machine Pool PoolAction where
  start pool := pool = .initial setup
  step := poolStep setup

/-- The event that a local process produces, with the path it has evaluated. -/
def Pool.evaluated? (pool : Pool) : PoolAction → Option (List String × Event)
  | .link worker (.process index (.evaluated event)) =>
    match (pool.locals worker).link.processes[index]?.map LocalWorker.Process.place with
    | some (.evaluating path) => some (path, event)
    | _ => none
  | _ => none

/-- Which answers the remote workers give and the local processes produce, as a condition on the
actions of a pool. -/
def PoolAnswers (setup : PoolSetup) (permitted : List String → Answer → Prop) (pool : Pool) :
    PoolAction → Prop
  | .run action => Answers permitted (pool.view setup) action
  | action => ∀ entry ∈ pool.evaluated? action, permitted entry.1 (.ok entry.2)

instance {setup : PoolSetup} {permitted : List String → Answer → Prop}
    [∀ path answer, Decidable (permitted path answer)] (pool : Pool) (action : PoolAction) :
    Decidable (PoolAnswers setup permitted pool action) :=
  match action with
  | .run action => inferInstanceAs (Decidable (Answers permitted (pool.view setup) action))
  | .link worker action => inferInstanceAs
      (Decidable (∀ entry ∈ pool.evaluated? (.link worker action), permitted entry.1 (.ok entry.2)))
  | .exit worker delivered => inferInstanceAs
      (Decidable (∀ entry ∈ pool.evaluated? (.exit worker delivered),
        permitted entry.1 (.ok entry.2)))
  | .panic worker => inferInstanceAs
      (Decidable (∀ entry ∈ pool.evaluated? (.panic worker), permitted entry.1 (.ok entry.2)))

end Evix
