import Evix.AsyncMaster.Coordinate
import Evix.Fork

/-!
# A run with a clock

A run of a pool of local workers with a clock. The first process of a pool takes time to start and
forks the others; every other process takes time to start, and every item to evaluate. Forks,
attachments and messages take none: time passes only when nothing else can happen, and never past
a moment at which something is due.
-/

namespace Evix

open Machines

/-- A pool of local workers. -/
structure LocalPool where
  /-- The configuration. -/
  config : Config
  /-- The workers. -/
  specs : List WorkerSpec
  /-- The workers are started. -/
  started : ∃ debug prepared openSlot, runPool debug prepared openSlot config = .ok specs
  /-- All of them are local. -/
  locals : config.remotes = []

/-- The item timeout. -/
def LocalPool.itemTimeout (pool : LocalPool) : Nat :=
  Duration.ofSecs pool.config.itemTimeoutSeconds

/-- Whether a worker is to be forked. -/
def LocalPool.isForked (pool : LocalPool) (worker : Nat) : Bool :=
  pool.specs[worker]?.any WorkerSpec.isForked

/-- How long processes take to start and items to evaluate, each less than a limit. -/
structure Durations (limit : Nat) where
  /-- The startup of a worker's process, by the number of processes it had before. -/
  startup : Nat → Nat → Nat
  /-- The evaluation of a worker's item, by the number of items it had before. -/
  evaluation : Nat → Nat → Nat
  /-- A process starts in time. -/
  startup_lt : ∀ worker process, startup worker process < limit
  /-- An item is evaluated in time. -/
  evaluation_lt : ∀ worker item, evaluation worker item < limit

/-- What a worker task knows about its process and the time. -/
structure Client where
  /-- Whether it connects by `attach_forked`; read while the task connects. -/
  attaching : Bool
  /-- When its `time::timeout` began. -/
  since : Nat
  /-- When its process has started or evaluated its item. -/
  due : Nat
  /-- Processes spawned. -/
  processes : Nat
  /-- Items taken up. -/
  items : Nat

/-- The state of a run with a clock. -/
structure ClockedRun where
  /-- The run. -/
  run : RunState
  /-- The time. -/
  now : Nat
  /-- The clients of the worker tasks. -/
  clients : Nat → Client
  /-- The forker of the first process. -/
  forker : Forker
  /-- Items that process has completed. -/
  completed : Nat
  /-- The errors of time limits that were over, in order. -/
  timeouts : List String

/-- What a `time::timeout` limits. -/
inductive TimeLimit where
  /-- `attach_forked`. -/
  | fork
  /-- The handshake of `spawn_local`. -/
  | startup
  /-- `work_with_timeout`. -/
  | item (path : List String)

/-- The error of a time limit, without the causes that its rendering adds; `exit` is what
`exit_error` knows about the end of the process. -/
def TimeLimit.message (label : String) (seconds : Nat) (exit : String) : TimeLimit → String
  | .fork => s!"forked worker {label} did not start within {seconds}s"
  | .startup =>
    s!"evix worker {label} failed while reading handshake for <startup>: " ++
      s!"worker did not start within {seconds}s{exit}"
  | .item path =>
    s!"worker {label} timed out evaluating {displayAttr path} after {seconds} seconds"

/-- How a worker task takes the end of a time limit. -/
def TimeLimit.action (message : String) : TimeLimit → WorkerAction
  | .fork | .startup => .connected (.error message)
  | .item path => .answer path (.error message)

/-- What may happen in a run with a clock. -/
inductive ClockAction where
  /-- A party of the run goes on by itself, or cancellation is requested. -/
  | run (action : RunAction)
  /-- A worker attaches to its forked process. -/
  | attached (worker : Nat)
  /-- A worker finds its socket closed. -/
  | detached (worker : Nat)
  /-- A process has started. -/
  | started (worker : Nat)
  /-- The first process finds that its store is not the Nix daemon. -/
  | unforkable
  /-- A process has evaluated its item. -/
  | evaluated (worker : Nat) (event : Event) (status : WorkerStatus)
    (outcome : Nat → ForkOutcome)
  /-- A time limit is over. -/
  | expired (worker : Nat) (exit : String)
  /-- Time passes. -/
  | elapse (duration : Nat)

/-- Whether an action of a run depends neither on a process nor on time. -/
def RunAction.isUntimed : RunAction → Bool
  | .worker _ (.connected _) | .worker _ (.answer ..) | .worker _ .panic => false
  | .worker _ .command | .worker _ .closed | .worker _ .proceed | .cancel | .coordinate | .sink _
  | .cleanup => true

/-- What the parties of a run may do by themselves. -/
def untimedActions (specs : List WorkerSpec) : List RunAction :=
  .coordinate :: .sink true :: .cleanup :: (List.range specs.length).flatMap fun worker =>
    [.worker worker .command, .worker worker .closed, .worker worker .proceed]

section Step

variable {limit : Nat} (durations : Durations limit) (state : ClockedRun) (worker : Nat)

/-- `spawn_local` of a client. -/
def Client.spawn (now : Nat) (client : Client) : Client where
  attaching := false
  since := now
  due := now + durations.startup worker client.processes
  processes := client.processes + 1
  items := client.items

/-- `work` of a client. -/
def Client.evaluate (now : Nat) (client : Client) : Client where
  attaching := false
  since := now
  due := now + durations.evaluation worker client.items
  processes := client.processes
  items := client.items + 1

/-- The client of a worker when the run starts. -/
def Client.initial (forked : Bool) : Client :=
  if forked then ⟨true, 0, 0, 0, 0⟩
  else (⟨false, 0, 0, 0, 0⟩ : Client).spawn durations worker 0

/-- The state in which the worker tasks are spawned. -/
def ClockedRun.initial (pool : LocalPool) : ClockedRun where
  run := .initial pool.specs
  now := 0
  clients worker := .initial durations worker (pool.isForked worker)
  forker := ⟨(List.range pool.specs.length).filter pool.isForked, 0, 0, []⟩
  completed := 0
  timeouts := []

namespace ClockedRun

/-- What the `time::timeout` of a worker limits. -/
def limit? : Option TimeLimit :=
  match state.run.tasks worker with
  | .connecting => some (if (state.clients worker).attaching then .fork else .startup)
  | .reconnecting | .restarting => some .startup
  | .working item => some (.item item.path)
  | _ => none

/-- A client changes. -/
def setClient (client : Client) : ClockedRun :=
  { state with clients := Function.update state.clients worker client }

/-- A worker that takes up an item or needs a new process turns to its client. -/
def follow : ClockedRun :=
  match state.run.tasks worker with
  | .working _ =>
    state.setClient worker ((state.clients worker).evaluate durations worker state.now)
  | .reconnecting | .restarting =>
    state.setClient worker ((state.clients worker).spawn durations worker state.now)
  | _ => state

/-- The slots are closed when the first process is gone. -/
def closeSlots (gone : Bool) : ClockedRun :=
  if gone || !(state.run.tasks 0).listening then { state with forker := state.forker.close }
  else state

/-- A step of the run. -/
def advance (pool : LocalPool) (action : RunAction) : Option ClockedRun :=
  (runStep pool.specs state.run action).map fun run =>
    let after := { state with run }
    match action with
    | .worker worker _ => (after.follow durations worker).closeSlots false
    | .cancel | .coordinate | .sink _ | .cleanup => after.closeSlots false

/-- No party can go on by itself. -/
def isQuiet (pool : LocalPool) : Bool :=
  (untimedActions pool.specs).all fun action => (runStep pool.specs state.run action).isNone

/-- Whether nothing is due at a worker until a later moment. -/
def mayWait (pool : LocalPool) (later : Nat) : Bool :=
  match state.limit? worker with
  | none => true
  | some limit =>
    later ≤ (state.clients worker).since + pool.itemTimeout &&
      match limit with
      | .fork => state.forker.slots.contains worker
      | .startup | .item _ => decide (later ≤ (state.clients worker).due)

/-- A process has started: the first one starts the clock of its forker. -/
def begin (pool : LocalPool) : Option ClockedRun :=
  match state.limit? worker with
  | some .startup =>
    if state.now = (state.clients worker).due then
      (state.advance durations pool (.worker worker (.connected (.ok ())))).map fun after =>
        if worker = 0 then { after with forker := after.forker.startClock state.now } else after
    else none
  | _ => none

/-- A process has evaluated its item: the first one forks workers or, when it has to be
restarted, is gone. -/
def finish (pool : LocalPool) (event : Event) (status : WorkerStatus)
    (outcome : Nat → ForkOutcome) : Option ClockedRun :=
  match state.limit? worker with
  | some (.item path) =>
    if state.now = (state.clients worker).due then
      (state.advance durations pool (.worker worker (.answer path (.ok (event, status))))).map
        fun after =>
          if worker = 0 then
            match status with
            | .restart => after.closeSlots true
            | .ready =>
              { after with
                completed := after.completed + 1
                forker := after.forker.forkDue state.now (after.completed + 1) outcome }
          else after
    else none
  | _ => none

/-- A time limit is over. -/
def expire (pool : LocalPool) (exit : String) : Option ClockedRun :=
  match state.limit? worker with
  | some limit =>
    if (state.clients worker).since + pool.itemTimeout ≤ state.now then
      let message := limit.message ((pool.specs[worker]?.map WorkerSpec.label).getD "")
        pool.config.itemTimeoutSeconds exit
      (state.advance durations pool (.worker worker (limit.action message))).map fun after =>
        { after.closeSlots (worker = 0) with timeouts := after.timeouts ++ [message] }
    else none
  | none => none

end ClockedRun

/-- The step of a run with a clock. -/
def clockStep (pool : LocalPool) (state : ClockedRun) : ClockAction → Option ClockedRun
  | .run action => if action.isUntimed then state.advance durations pool action else none
  | .attached worker =>
    match state.limit? worker with
    | some .fork =>
      if worker ∈ state.forker.children then
        state.advance durations pool (.worker worker (.connected (.ok ())))
      else none
    | _ => none
  | .detached worker =>
    match state.limit? worker with
    | some .fork =>
      if worker ∉ state.forker.children ∧ worker ∉ state.forker.slots then
        some (state.setClient worker ((state.clients worker).spawn durations worker state.now))
      else none
    | _ => none
  | .started worker => state.begin durations worker pool
  | .unforkable =>
    match state.run.tasks 0 with
    | .connecting => some { state with forker := state.forker.close }
    | _ => none
  | .evaluated worker event status outcome =>
    state.finish durations worker pool event status outcome
  | .expired worker exit => state.expire durations worker pool exit
  | .elapse duration =>
    if state.isQuiet pool && (List.range pool.specs.length).all fun worker =>
        state.mayWait worker pool (state.now + duration) then
      some { state with now := state.now + duration }
    else none

end Step

/-- The machine of a run with a clock. -/
def clockMachine (pool : LocalPool) (durations : Durations pool.itemTimeout) :
    Machine ClockedRun ClockAction where
  start state := state = .initial durations pool
  step := clockStep durations pool

end Evix
