import Evix.AsyncMaster.Coordinate

/-!
# The clean-up of a run

What `run` does after `coordinate` has returned: a cancelled run aborts its worker tasks one by one,
any other sends all of them `Stop` and then waits for them one by one. The receiver of the results
is dropped before, so a task that is done with an item ends. The tasks go on while the clean-up
waits, and also after it has returned: a join handle that is dropped detaches its task.
-/

namespace Evix

open Machines

/-- How a worker task ends. -/
inductive TaskOutcome where
  /-- It returns. -/
  | ok
  /-- It returns an error. -/
  | failed (error : String)
  /-- It panics. -/
  | panicked
  /-- It was aborted. -/
  | cancelled
  deriving DecidableEq, Repr

/-- Where a worker task is once nobody reads its results. -/
inductive PooledTask where
  /-- Connecting to its worker. -/
  | connecting
  /-- Waiting for a command. -/
  | idle
  /-- Evaluating an item. -/
  | working
  /-- Stopping its worker. -/
  | stopping
  /-- Ended. -/
  | ended (outcome : TaskOutcome)
  deriving DecidableEq, Repr

/-- Whether a task has ended. -/
def PooledTask.isEnded : PooledTask → Bool
  | .ended _ => true
  | _ => false

/-- `WorkerSlot`, with the state of its task and of its work channel. -/
structure WorkerSlot where
  /-- The task. -/
  task : PooledTask
  /-- Commands that were sent and not received. -/
  commands : List WorkerCommand
  /-- Whether the task was told to abort. -/
  aborted : Bool

/-- The errors `run` returns. -/
inductive RunError where
  /-- The error of `coordinate`. -/
  | coordinate (error : CoordinateError)
  /-- The error of a worker task. -/
  | worker (error : String)
  /-- A task that did not return: `worker task panicked`. -/
  | panicked
  deriving DecidableEq, Repr

/-- Where the clean-up is. -/
inductive CleanupPhase where
  /-- The first loop of `shutdown_workers`: sending `Stop` to a worker. -/
  | stopping (worker : Nat)
  /-- The second loop of `shutdown_workers`: waiting for a worker. -/
  | joining (worker : Nat)
  /-- The loop of `abort_workers`, before a worker is aborted. -/
  | aborting (worker : Nat)
  /-- The loop of `abort_workers`: waiting for a worker that was aborted. -/
  | awaiting (worker : Nat)
  /-- `run` has returned. -/
  | returned (result : Except RunError RunOutcome)
  deriving DecidableEq

/-- A run whose `coordinate` has returned. -/
structure Cleanup where
  /-- What `coordinate` has returned. -/
  coordinated : Except CoordinateError RunOutcome
  /-- The workers. -/
  slots : List WorkerSlot
  /-- Where the clean-up is. -/
  phase : CleanupPhase

/-- What may happen. -/
inductive CleanupAction where
  /-- The clean-up goes on. -/
  | main
  /-- A task has connected to its worker. -/
  | connected (worker : Nat)
  /-- A task receives a command, or learns that no more of them come. -/
  | receive (worker : Nat)
  /-- A task ends. -/
  | finish (worker : Nat) (outcome : TaskOutcome)

namespace Cleanup

/-- The clean-up begins. -/
def start (coordinated : Except CoordinateError RunOutcome) (slots : List WorkerSlot) :
    Cleanup where
  coordinated
  slots
  phase := if coordinated = .ok .cancelled then .aborting 0 else .stopping 0

/-- The result of a run whose clean-up succeeds. -/
def result (state : Cleanup) : Except RunError RunOutcome :=
  state.coordinated.mapError .coordinate

/-- Whether the sender of a worker's commands is dropped. -/
def isClosed (state : Cleanup) (worker : Nat) : Bool :=
  match state.phase with
  | .stopping _ => false
  | .joining next | .aborting next | .awaiting next => worker < next
  | .returned _ => true

/-- Change the slot of a worker. -/
def setSlot (state : Cleanup) (worker : Nat) (slot : WorkerSlot) : Cleanup :=
  { state with slots := state.slots.set worker slot }

/-- The clean-up goes on at a worker, or behind the last one. -/
def mainStep (state : Cleanup) : Option Cleanup :=
  match state.phase with
  | .stopping worker =>
    match state.slots[worker]? with
    | none => some { state with phase := .joining 0 }
    | some slot =>
      -- Sending to a task that has ended fails at once, and the error is ignored.
      if slot.task.isEnded then some { state with phase := .stopping (worker + 1) }
      else if slot.commands.length < 1 then
        some { state.setSlot worker { slot with commands := slot.commands ++ [.stop] } with
          phase := .stopping (worker + 1) }
      else none
  | .joining worker =>
    match state.slots[worker]? with
    | none => some { state with phase := .returned state.result }
    | some slot =>
      match slot.task with
      | .ended .ok => some { state with phase := .joining (worker + 1) }
      | .ended (.failed error) => some { state with phase := .returned (.error (.worker error)) }
      | .ended .panicked | .ended .cancelled =>
        some { state with phase := .returned (.error .panicked) }
      | .connecting | .idle | .working | .stopping => none
  | .aborting worker =>
    match state.slots[worker]? with
    | none => some { state with phase := .returned state.result }
    | some slot =>
      some { state.setSlot worker { slot with aborted := true } with phase := .awaiting worker }
  | .awaiting worker =>
    match state.slots[worker]? with
    | none => none
    | some slot =>
      match slot.task with
      | .ended .ok | .ended .cancelled => some { state with phase := .aborting (worker + 1) }
      | .ended (.failed error) => some { state with phase := .returned (.error (.worker error)) }
      | .ended .panicked => some { state with phase := .returned (.error .panicked) }
      | .connecting | .idle | .working | .stopping => none
  | .returned _ => none

/-- A task receives a command. -/
def receive (state : Cleanup) (worker : Nat) (slot : WorkerSlot) : Option WorkerSlot :=
  match slot.commands with
  | .work _ :: commands => some { slot with task := .working, commands }
  | .stop :: commands => some { slot with task := .stopping, commands }
  | [] => if state.isClosed worker then some { slot with task := .stopping } else none

/-- The slot of a worker after an action of its task. -/
def taskStep (state : Cleanup) (slot : WorkerSlot) : CleanupAction → Option WorkerSlot
  | .main => none
  | .connected _ => if slot.task = .connecting then some { slot with task := .idle } else none
  | .receive worker => if slot.task = .idle then state.receive worker slot else none
  | .finish _ .cancelled =>
    if slot.aborted && !slot.task.isEnded then some { slot with task := .ended .cancelled }
    else none
  | .finish _ outcome =>
    match slot.task with
    | .connecting | .working | .stopping => some { slot with task := .ended outcome }
    | .idle | .ended _ => none

/-- The worker of an action. -/
def actor : CleanupAction → Option Nat
  | .main => none
  | .connected worker | .receive worker | .finish worker _ => some worker

/-- The step of a clean-up. -/
def step (state : Cleanup) (action : CleanupAction) : Option Cleanup :=
  match actor action with
  | none => state.mainStep
  | some worker => do
    let slot ← state.slots[worker]?
    return state.setSlot worker (← state.taskStep slot action)

end Cleanup

/-- The machine of a clean-up: `coordinate` may return anything, and leave the tasks in any states.
-/
def cleanupMachine : Machine Cleanup CleanupAction where
  start state := ∃ coordinated slots, state = .start coordinated slots ∧
    ∀ slot ∈ slots, slot.aborted = false ∧ slot.commands.length ≤ 1
  step := Cleanup.step

end Evix
