import Evix.AsyncMaster.Scheduler
import Evix.Library.Machine
import Evix.RemoteProto
import Mathlib.Logic.Function.Basic

/-!
# The coordinator and its worker tasks

One run of `async_master::run`: the coordinator, one task for each worker, the capacity-one
work channels and the shared result channel. A step of the machine is the code between two
await points of one party, so a run of the machine is one interleaving. What a step may depend
on outside the program is in its action: when a connection attempt ends and how, what a worker
answers, whether the event sink accepts, when cancellation is requested, when a task panics.

The fields below `cleaned` are the history of the run; no step reads them.
-/

namespace Evix

open Machines

/-- `RunOutcome`. -/
inductive RunOutcome where
  /-- Every path was evaluated. -/
  | completed
  /-- The run was cancelled. -/
  | cancelled
  deriving DecidableEq, Repr

/-- `WorkerCommand`. -/
inductive WorkerCommand where
  /-- Evaluate an item. -/
  | work (item : WorkItem)
  /-- Leave the loop. -/
  | stop
  deriving DecidableEq, Repr

/-- What a worker reports for an item: an event, or a failure as text. -/
abbrev Answer := Except String Event

/-- `WorkerResult`. -/
structure WorkerResult where
  /-- The worker. -/
  workerId : Nat
  /-- The item it took. -/
  item : WorkItem
  /-- What it reports. -/
  event : Answer

/-- `WorkerMessage`. -/
inductive WorkerMessage where
  /-- A forked worker has started. -/
  | ready (workerId : Nat)
  /-- An item was evaluated or failed. -/
  | result (result : WorkerResult)
  /-- A worker saw the cancellation. -/
  | cancelled
  /-- A worker task failed. -/
  | exited (error : String)

/-- Where a worker task is: `serve_worker`, then the tail of `worker_task`. -/
inductive WorkerTask where
  /-- The first `WorkerClient::connect`; a forked worker also listens for commands. -/
  | connecting
  /-- A forked worker sends `Ready`. -/
  | sendingReady
  /-- Waiting for a command. -/
  | receiving
  /-- Cancellation was seen after a command was taken. -/
  | sendingCancelled
  /-- `work_with_timeout`. -/
  | working (item : WorkItem)
  /-- Sending the result of an item. -/
  | sendingResult (item : WorkItem) (event : Answer) (status : WorkerStatus)
  /-- The result is sent; decide between reconnect, restart and the next command. -/
  | settling (failed : Bool) (status : WorkerStatus)
  /-- `worker.reconnect`. -/
  | reconnecting
  /-- `worker.restart`. -/
  | restarting
  /-- `worker.stop`. -/
  | stopping
  /-- `serve_worker` failed; sending `Exited`. -/
  | sendingExited (error : String)
  /-- The task has ended. -/
  | ended
  /-- The task was aborted. -/
  | aborted

/-- Whether the task still owns the receiving end of its work channel. -/
def WorkerTask.listening : WorkerTask → Bool
  | .sendingExited _ | .ended | .aborted => false
  | _ => true

/-- Whether the task has ended and dropped its sender of results. -/
def WorkerTask.finished : WorkerTask → Bool
  | .ended | .aborted => true
  | _ => false

/-- The errors `coordinate` returns. -/
inductive CoordinateError where
  /-- The idle queue ran out inside `dispatch_available`. -/
  | idleQueueChanged
  /-- The work channel of a worker is closed. -/
  | sendingWork (label : String)
  /-- `NextWork::Fatal`. -/
  | fatalScheduler (error : String)
  /-- Nothing is in flight and every worker is idle. -/
  | stalled
  /-- Every worker task ended. -/
  | allWorkersExited
  /-- A worker task failed. -/
  | workerExited (error : String)
  /-- The event sink failed. -/
  | eventSink
  /-- An item completed with a fatal error. -/
  | fatalItem (error : String)
  /-- A worker id is not a position. -/
  | outOfBounds
  deriving DecidableEq, Repr

/-- The text of an error. -/
def CoordinateError.message : CoordinateError → String
  | .idleQueueChanged => "idle worker queue changed while dispatching"
  | .sendingWork label => s!"sending work to worker {label}"
  | .fatalScheduler error => error
  | .stalled => "scheduler stalled with no active workers"
  | .allWorkersExited => "all worker tasks exited before evaluation completed"
  | .workerExited error => error
  | .eventSink => "event sink returned an error"
  | .fatalItem error => error
  | .outOfBounds => "index out of bounds"

/-- Where the coordinator is. -/
inductive Coordinator where
  /-- The head of its loop. -/
  | top
  /-- `dispatch_available`, with this many idle workers still to look at. -/
  | dispatching (remaining : Nat)
  /-- Waiting for room in a work channel. -/
  | sending (remaining : Nat) (worker : Nat) (item : WorkItem)
  /-- Waiting for a message. -/
  | waiting
  /-- Waiting for the event sink; the error ends the run afterwards. -/
  | emitting (fatal : Option String)
  /-- Returned. -/
  | returned (result : Except CoordinateError RunOutcome)
  deriving DecidableEq

/-- A result the coordinator has handled, with the event it made of it. -/
structure Handled where
  /-- The worker. -/
  worker : Nat
  /-- The path. -/
  path : List String
  /-- What the worker reported. -/
  answer : Answer
  /-- The event passed to the scheduler. -/
  event : Event

/-- The state of a run. -/
structure RunState where
  /-- The shared scheduler. -/
  scheduler : Scheduler
  /-- Idle workers, first to last; it dies when the coordinator returns. -/
  idle : List Nat
  /-- Where the coordinator is. -/
  coordinator : Coordinator
  /-- The cancellation flag. -/
  cancel : Bool
  /-- Messages in the result channel. -/
  results : List WorkerMessage
  /-- Commands in each work channel. -/
  commands : Nat → List WorkerCommand
  /-- Worker tasks. -/
  tasks : Nat → WorkerTask
  /-- Workers the clean-up of `run` has reached. -/
  cleaned : Nat
  /-- Items dispatched, in order. -/
  dispatched : List (Nat × WorkItem)
  /-- Items dispatched whose result is not handled. -/
  pending : List (Nat × WorkItem)
  /-- Results handled, in order. -/
  handled : List Handled
  /-- Workers whose `Ready` is handled. -/
  joined : List Nat
  /-- Calls of the event sink, each with the path of its item, in order. -/
  calls : List (List String × Event)

/-- The state in which `run` calls `coordinate`. -/
def RunState.initial (specs : List WorkerSpec) : RunState where
  scheduler := .initial
  idle := (List.range specs.length).filter fun id => !(specs[id]?.any WorkerSpec.isForked)
  coordinator := .top
  cancel := false
  results := []
  commands _ := []
  tasks _ := .connecting
  cleaned := 0
  dispatched := []
  pending := []
  handled := []
  joined := []
  calls := []

namespace RunState

/-- The coordinator returns. -/
def finish (state : RunState) (result : Except CoordinateError RunOutcome) : RunState :=
  { state with coordinator := .returned result }

/-- The coordinator has returned, so the result channel is closed. -/
def isReturned (state : RunState) : Bool :=
  match state.coordinator with
  | .returned _ => true
  | _ => false

/-- A worker task moves on. -/
def setTask (state : RunState) (worker : Nat) (task : WorkerTask) : RunState :=
  { state with tasks := Function.update state.tasks worker task }

/-- A work channel changes. -/
def setCommands (state : RunState) (worker : Nat) (commands : List WorkerCommand) : RunState :=
  { state with commands := Function.update state.commands worker commands }

/-- `serve_worker` returns an error: its receiver is dropped, then the error is sent. -/
def fail (state : RunState) (worker : Nat) (error : String) : RunState :=
  (state.setTask worker (.sendingExited error)).setCommands worker []

/-- `result_tx.send`: an open channel takes a message when it has room and the task goes on;
a closed one refuses and the task leaves. -/
def send (state : RunState) (capacity : Nat) (worker : Nat) (message : WorkerMessage)
    (sent refused : WorkerTask) : Option RunState :=
  if state.isReturned then some (state.setTask worker refused)
  else if state.results.length < capacity then
    some { state.setTask worker sent with results := state.results ++ [message] }
  else none

end RunState

/-! ## The coordinator -/

/-- The body of `dispatch_available` for the next idle worker. -/
def dispatchNext (specs : List WorkerSpec) (state : RunState) (remaining : Nat) : RunState :=
  match state.idle with
  | [] => state.finish (.error .idleQueueChanged)
  | worker :: idle =>
    match specs[worker]? with
    | none => state.finish (.error .outOfBounds)
    | some spec =>
      match state.scheduler.nextFor spec.id with
      | (.dispatch item, scheduler) =>
        { state with
          scheduler
          idle
          coordinator := .sending remaining worker item
          dispatched := state.dispatched ++ [(worker, item)]
          pending := state.pending ++ [(worker, item)] }
      | (.wait, _) =>
        { state with idle := idle ++ [worker], coordinator := .dispatching remaining }
      | (.done, _) => state.finish (.ok .completed)
      | (.fatal error, _) => state.finish (.error (.fatalScheduler error))

/-- The event `coordinate` makes of a result. -/
def resultEvent (spec : WorkerSpec) (result : WorkerResult) : Event :=
  match result.event with
  | .ok event => event
  | .error report => workerFailureEvent spec result.item report

/-- Where `coordinate` goes on after an item is completed. -/
def afterCompletion : CompletedWork → Coordinator
  | ⟨true, fatal⟩ => .emitting fatal
  | ⟨false, some error⟩ => .returned (.error (.fatalItem error))
  | ⟨false, none⟩ => .top

/-- `coordinate` handles a result: the worker is idle again, the scheduler completes the item,
and the event goes to the sink unless the pool refuses it. -/
def handleResult (specs : List WorkerSpec) (state : RunState) (spec : WorkerSpec)
    (result : WorkerResult) : RunState :=
  let event := resultEvent spec result
  let outcome := state.scheduler.complete spec specs result.item event
  { state with
    scheduler := outcome.2
    idle := state.idle ++ [result.workerId]
    coordinator := afterCompletion outcome.1
    pending := state.pending.erase (result.workerId, result.item)
    handled := state.handled ++
      [{ worker := result.workerId, path := result.item.path, answer := result.event, event }]
    calls :=
      if outcome.1.emit then state.calls ++ [(result.item.path, event)] else state.calls }

/-- `coordinate` handles a message. -/
def handleMessage (specs : List WorkerSpec) (state : RunState) : WorkerMessage → RunState
  | .ready worker =>
    { state with
      idle := state.idle ++ [worker], joined := state.joined ++ [worker], coordinator := .top }
  | .result result =>
    match specs[result.workerId]? with
    | none => state.finish (.error .outOfBounds)
    | some spec => handleResult specs state spec result
  | .cancelled => state.finish (.ok .cancelled)
  | .exited error => state.finish (.error (.workerExited error))

/-- The next step of `coordinate`, unless it waits. -/
def coordinateStep (specs : List WorkerSpec) (state : RunState) : Option RunState :=
  match state.coordinator with
  | .top =>
    if state.cancel then some (state.finish (.ok .cancelled))
    else some { state with coordinator := .dispatching state.idle.length }
  | .dispatching 0 =>
    if state.scheduler.isDone then some (state.finish (.ok .completed))
    else if !state.scheduler.hasActiveWork && state.idle.length == specs.length then
      some (state.finish (.error .stalled))
    else some { state with coordinator := .waiting }
  | .dispatching (remaining + 1) => some (dispatchNext specs state remaining)
  | .sending remaining worker item =>
    if !(state.tasks worker).listening then
      some (state.finish (.error (.sendingWork ((specs[worker]?.map WorkerSpec.label).getD ""))))
    else if (state.commands worker).length < 1 then
      some { state.setCommands worker (state.commands worker ++ [.work item]) with
        coordinator := .dispatching remaining }
    else none
  | .waiting =>
    match state.results with
    | message :: results => some (handleMessage specs { state with results } message)
    | [] =>
      if (List.range specs.length).all fun worker => (state.tasks worker).finished then
        some (state.finish (.error .allWorkersExited))
      else none
  | .emitting _ | .returned _ => none

/-- The event sink answers. -/
def sinkStep (state : RunState) (accepted : Bool) : Option RunState :=
  match state.coordinator with
  | .emitting fatal =>
    if !accepted then some (state.finish (.error .eventSink))
    else
      match fatal with
      | some error => some (state.finish (.error (.fatalItem error)))
      | none => some { state with coordinator := .top }
  | _ => none

/-- The clean-up of `run` reaches the next worker: a cancelled run aborts its task, any other
sends it `Stop`. A clean-up that gives up at a failed task is one that takes no further step. -/
def cleanupStep (specs : List WorkerSpec) (state : RunState) : Option RunState :=
  match state.coordinator with
  | .returned result =>
    let worker := state.cleaned
    let task := state.tasks worker
    if specs.length ≤ worker then none
    else
      match result with
      | .ok .cancelled =>
        some { (if task.finished then state
          else (state.setTask worker .aborted).setCommands worker []) with cleaned := worker + 1 }
      | _ =>
        if !task.listening then some { state with cleaned := worker + 1 }
        else if (state.commands worker).length < 1 then
          some { state.setCommands worker (state.commands worker ++ [.stop]) with
            cleaned := worker + 1 }
        else none
  | _ => none

/-! ## Worker tasks -/

/-- What may happen to a worker task. -/
inductive WorkerAction where
  /-- A connection attempt ends. -/
  | connected (outcome : Except String Unit)
  /-- A command arrives. -/
  | command
  /-- The work channel is closed. -/
  | closed
  /-- `work_with_timeout` returns for an item. -/
  | answer (path : List String) (result : Except String (Event × WorkerStatus))
  /-- The task goes on with what it does next. -/
  | proceed
  /-- `serve_worker` panics. -/
  | panic

/-- The message of a worker that gets work before it started. -/
def earlyWorkError (label : String) : String := s!"work sent to {label} before it started"

/-- The loop body of `serve_worker` after a command arrives. -/
def takeCommand (state : RunState) (worker : Nat) : Option RunState :=
  match state.commands worker with
  | [] => none
  | command :: commands =>
    let state := state.setCommands worker commands
    if state.cancel then some (state.setTask worker .sendingCancelled)
    else
      match command with
      | .work item => some (state.setTask worker (.working item))
      | .stop => some (state.setTask worker .stopping)

/-- The select of a forked worker that is still connecting when a command arrives. -/
def takeEarlyCommand (spec : WorkerSpec) (state : RunState) (worker : Nat) : Option RunState :=
  match state.commands worker with
  | [] => none
  | .work _ :: _ => some (state.fail worker (earlyWorkError spec.label))
  | .stop :: _ => some ((state.setTask worker .ended).setCommands worker [])

/-- What `serve_worker` makes of the end of `work_with_timeout`. -/
def answered (item : WorkItem) : Except String (Event × WorkerStatus) → WorkerTask
  | .ok (event, status) => .sendingResult item (.ok event) status
  | .error report => .sendingResult item (.error report) .ready

/-- Whether a worker reported a failure. -/
def Answer.isError : Answer → Bool
  | .ok _ => false
  | .error _ => true

/-- What `serve_worker` does after it sent a result; `restart` of a remote worker does
nothing. -/
def settle (spec : WorkerSpec) (cancel failed : Bool) (status : WorkerStatus) : WorkerTask :=
  if failed && !cancel then .reconnecting
  else if status = .restart && !spec.isRemote then .restarting
  else .receiving

/-- A task goes on by itself. -/
def proceedStep (spec : WorkerSpec) (capacity : Nat) (state : RunState) (worker : Nat) :
    Option RunState :=
  match state.tasks worker with
  | .sendingReady => state.send capacity worker (.ready worker) .receiving .ended
  | .sendingCancelled => state.send capacity worker .cancelled .stopping .stopping
  | .sendingResult item event status =>
    state.send capacity worker (.result ⟨worker, item, event⟩)
      (.settling (Answer.isError event) status) .stopping
  | .settling failed status =>
    some (state.setTask worker (settle spec state.cancel failed status))
  | .stopping => some ((state.setTask worker .ended).setCommands worker [])
  | .sendingExited error => state.send capacity worker (.exited error) .ended .ended
  | _ => none

/-- A connection attempt ends: the first one, or the one after a failure or a restart. -/
def connectedStep (spec : WorkerSpec) (state : RunState) (worker : Nat) :
    Except String Unit → Option RunState
  | .ok () =>
    match state.tasks worker with
    | .connecting =>
      some (state.setTask worker (if spec.isForked then .sendingReady else .receiving))
    | .reconnecting | .restarting => some (state.setTask worker .receiving)
    | _ => none
  | .error error =>
    match state.tasks worker with
    | .connecting | .reconnecting | .restarting => some (state.fail worker error)
    | _ => none

/-- The step of one worker task. -/
def workerStep (spec : WorkerSpec) (capacity : Nat) (state : RunState) (worker : Nat) :
    WorkerAction → Option RunState
  | .connected outcome => connectedStep spec state worker outcome
  | .command =>
    match state.tasks worker with
    | .connecting => if spec.isForked then takeEarlyCommand spec state worker else none
    | .receiving => takeCommand state worker
    | _ => none
  | .closed =>
    if state.isReturned && (state.commands worker).isEmpty then
      match state.tasks worker with
      | .connecting => if spec.isForked then some (state.setTask worker .ended) else none
      | .receiving => some (state.setTask worker .stopping)
      | _ => none
    else none
  | .answer path result =>
    match state.tasks worker with
    | .working item =>
      if item.path = path then some (state.setTask worker (answered item result)) else none
    | _ => none
  | .proceed => proceedStep spec capacity state worker
  | .panic =>
    if (state.tasks worker).listening then some (state.fail worker "worker task panicked")
    else none

/-! ## The machine -/

/-- The head of `run`, up to the worker tasks: the configuration is validated and prepared for
the workers, and the pool is built; `prepared` is how `worker_config` ends. -/
def runPool (debug : PathBuf → String) (prepared : Except String Unit)
    (openSlot : Nat → Except String ForkSlot) (config : Config) :
    Except String (List WorkerSpec) := do
  (validateConfig config).mapError (ConfigError.message debug)
  prepared
  let specs ← workerSpecs openSlot config
  if specs.isEmpty then throw "evaluation requires at least one local or remote worker"
  pure specs

/-- What may happen in a run. -/
inductive RunAction where
  /-- Cancellation is requested. -/
  | cancel
  /-- The coordinator goes on. -/
  | coordinate
  /-- The event sink answers. -/
  | sink (accepted : Bool)
  /-- The clean-up of `run` goes on. -/
  | cleanup
  /-- A worker task goes on. -/
  | worker (id : Nat) (action : WorkerAction)

/-- The step of a run. -/
def runStep (specs : List WorkerSpec) (state : RunState) : RunAction → Option RunState
  | .cancel => some { state with cancel := true }
  | .coordinate => coordinateStep specs state
  | .sink accepted => sinkStep state accepted
  | .cleanup => cleanupStep specs state
  | .worker id action =>
    match specs[id]? with
    | some spec => workerStep spec specs.length state id action
    | none => none

/-- The machine of a run with a given pool. -/
def runMachine (specs : List WorkerSpec) : Machine RunState RunAction where
  start state := state = .initial specs
  step := runStep specs

/-- Which answers the workers of a run give, as a condition on its actions. -/
def Answers (permitted : List String → Except String Event → Prop) (_ : RunState) :
    RunAction → Prop
  | .worker _ (.answer path result) => permitted path (result.map Prod.fst)
  | _ => True

instance {permitted : List String → Except String Event → Prop}
    [∀ path answer, Decidable (permitted path answer)] (state : RunState) (action : RunAction) :
    Decidable (Answers permitted state action) :=
  match action with
  | .worker _ (.answer path result) =>
    inferInstanceAs (Decidable (permitted path (result.map Prod.fst)))
  | .worker _ (.connected _) | .worker _ .command | .worker _ .closed | .worker _ .proceed
  | .worker _ .panic | .cancel | .coordinate | .sink _ | .cleanup => isTrue trivial

end Evix
