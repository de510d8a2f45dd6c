import Evix.Filter
import Evix.Run

/-!
# Sessions

A session and the tasks its calls start: `stream`, `watch` and `diff_once`; the bounded
variants differ only in how long a send may take. A step is the code of one task between two
points where another task may run, so every lock-protected section is one step. A future that is
dropped is a task that takes no further step.

The fields of a session below `tasks` are history.
-/

namespace Evix

open Machines

/-- `evix::Error`. -/
inductive Error where
  /-- The single-use stream was requested again. -/
  | sessionStreamConsumed
  /-- A warm-graph operation came before the initial evaluation completed. -/
  | initialEvaluationIncomplete (operation : String)
  /-- The evaluation is still running. -/
  | sessionStillEvaluating
  /-- The stored failure of the initial evaluation. -/
  | evaluationFailed (message : String)
  /-- No runtime was active. -/
  | runtimeUnavailable (message : String)
  /-- The evaluation was cancelled. -/
  | cancelled
  /-- Any other failure. -/
  | internal (message : String)
  deriving DecidableEq

/-- The text of an error. -/
def Error.message : Error → String
  | .sessionStreamConsumed => "session stream has already been consumed"
  | .initialEvaluationIncomplete operation =>
    s!"Session::{operation} requires a completed initial evaluation"
  | .sessionStillEvaluating => "session is still evaluating"
  | .cancelled => "evaluation was cancelled"
  | .evaluationFailed message | .runtimeUnavailable message | .internal message => message

/-- `InitialEvaluation`. -/
inductive InitialEvaluation where
  /-- Not started. -/
  | idle
  /-- Claimed by a call. -/
  | running
  /-- Over. -/
  | finished
  deriving DecidableEq, Repr

/-- The calls that start a task. -/
inductive Call where
  /-- `Session::stream` or `Session::stream_bounded`. -/
  | stream
  /-- `Session::watch` or `Session::watch_bounded`. -/
  | watch
  /-- `Session::diff_once`. -/
  | diff
  deriving DecidableEq, Repr

/-- Where a task is. -/
inductive Place where
  /-- `spawn_session_task`; whether the call claimed the initial evaluation. -/
  | spawning (starts : Bool)
  /-- No runtime: trying to store the error. -/
  | unspawned
  /-- No runtime: finishing the initial evaluation. -/
  | finishingUnspawned
  /-- No runtime: waking the waiters. -/
  | notifyingUnspawned
  /-- The task starts the initial evaluation. -/
  | starting
  /-- `evaluate_initial`: the run. -/
  | evaluatingInitial (id : Nat)
  /-- `evaluate_initial`: the run returned `Completed`. -/
  | storingInitial (id : Nat) (accumulator : EvalAccumulator)
  /-- `finish_initial_evaluation` after `Completed`. -/
  | finishing
  /-- `evaluate_initial`: the run was cancelled. -/
  | notifyingCancelled
  /-- `evaluate_initial`: the run failed. -/
  | storingFailure (message : String)
  /-- `evaluate_initial`: the failure is stored. -/
  | notifyingFailure (message : String)
  /-- `record_initial_error`: storing. -/
  | recordingError (message : String) (error : Error)
  /-- `record_initial_error`: waking the waiters. -/
  | notifyingError (error : Error)
  /-- `record_initial_error`: `finish_initial_evaluation`. -/
  | finishingError (error : Error)
  /-- `wait_for_initial_evaluation`: reading the cancellation flag. -/
  | checkingCancel
  /-- `wait_for_initial_evaluation`: creating the notification. -/
  | subscribing
  /-- `wait_for_initial_evaluation`: reading the warm state. -/
  | inspecting (woken : Bool)
  /-- `wait_for_initial_evaluation`: waiting for the notification. -/
  | parked (woken : Bool)
  /-- `watch_loop`: creating the watcher. -/
  | registering
  /-- `watch_loop`: the head of its loop. -/
  | looping
  /-- `watch_loop`: waiting for a notification. -/
  | receiving
  /-- `watch_loop`: `debounce_watch_events`. -/
  | debouncing
  /-- Reading the warm graph before an evaluation. -/
  | reading
  /-- About to evaluate, with the graph read. -/
  | launching (previous : EvalGraph)
  /-- The run of a re-evaluation. -/
  | evaluating (previous : EvalGraph) (id : Nat)
  /-- The run returned `Completed`; the difference is computed and the result not stored. -/
  | storing (previous : EvalGraph) (id : Nat) (accumulator : EvalAccumulator) (diff : Diff)
  /-- `watch_loop`: sending a difference or an error. -/
  | sending (item : Except Error Diff)
  /-- The task is over. -/
  | over (result : Except Error (Option Diff))
  deriving DecidableEq

/-- A task. -/
structure Task where
  /-- The call that started it. -/
  call : Call
  /-- Where it is. -/
  place : Place
  deriving DecidableEq

/-- A difference at the moment its graph is stored. -/
structure Store where
  /-- The warm graph before. -/
  before : EvalGraph
  /-- The graph stored. -/
  graph : EvalGraph
  /-- The difference reported. -/
  diff : Diff
  /-- The errors stored. -/
  errors : List EvalError

/-- A session. -/
structure Session where
  /-- The claim of the initial evaluation. -/
  initial : InitialEvaluation
  /-- The warm state. -/
  warm : WarmState
  /-- The cancellation flag. -/
  cancel : Bool
  /-- Every evaluation started. -/
  evaluations : List Evaluation
  /-- The tasks, in the order of the calls. -/
  tasks : List Task
  /-- The task that claimed the initial evaluation. -/
  owner : Option Nat
  /-- The initial evaluations started. -/
  initials : List Nat
  /-- The evaluation whose graph is warm. -/
  source : Option Nat
  /-- The graph of the initial evaluation. -/
  base : EvalGraph
  /-- The differences stored, in order. -/
  stores : List Store

/-- `Session::open`. -/
def Session.opened : Session := ⟨.idle, {}, false, [], [], none, [], none, ∅, []⟩

/-! ## Reading the warm state -/

/-- Why a warm-graph operation is refused. -/
def WarmState.refusal (warm : WarmState) (otherwise : Error) : Option Error :=
  if warm.completed then none
  else
    match warm.error with
    | some error => some (.evaluationFailed error)
    | none => some otherwise

/-- `Session::query_snapshot`. -/
def querySnapshot (warm : WarmState) (filter : Filter) : Except Error (List Derivation) :=
  match warm.refusal (.initialEvaluationIncomplete "query_snapshot") with
  | some error => .error error
  | none => .ok ((warm.graph.entries.map Sigma.snd).filter fun drv => matchesFilter drv filter)

/-- `initial_unavailable_error`; the warm state may be locked by another thread. -/
def initialUnavailableError (warm : WarmState) (contended : Bool) : Error :=
  match contended, warm.error with
  | false, some error => .evaluationFailed error
  | _, _ => .sessionStreamConsumed

/-! ## Steps -/

/-- A task that waits, or is about to, is woken. -/
def Task.wake (task : Task) : Task :=
  match task.place with
  | .inspecting _ => { task with place := .inspecting true }
  | .parked _ => { task with place := .parked true }
  | _ => task

/-- Whether a call to `start_initial_evaluation` claims the initial evaluation. -/
def Session.claims (session : Session) : Bool := session.initial == .idle

namespace Session

/-- `start_initial_evaluation`, by a new task. -/
def startInitial (session : Session) : Session :=
  if session.claims then
    { session with initial := .running, owner := some session.tasks.length }
  else session

/-- `notify_waiters`. -/
def notifyWaiters (session : Session) : Session :=
  { session with tasks := session.tasks.map Task.wake }

/-- Store the error of the warm state. -/
def setError (session : Session) (message : String) : Session :=
  { session with warm := { session.warm with error := some message } }

/-- The initial evaluation is finished. -/
def finishInitial (session : Session) : Session := { session with initial := .finished }

/-- A new evaluation. -/
def launch (session : Session) : Session :=
  { session with evaluations := session.evaluations ++ [.fresh] }

/-- An evaluation goes on. -/
def evaluate (session : Session) (id : Nat) (action : EvaluationAction) : Option Session :=
  match session.evaluations[id]? with
  | some evaluation =>
    (evaluationStep evaluation action).map fun evaluation =>
      { session with evaluations := session.evaluations.set id evaluation }
  | none => none

/-- What an evaluation has accumulated. -/
def accumulated (session : Session) (id : Nat) : EvalAccumulator :=
  match session.evaluations[id]? with
  | some evaluation => evaluation.accumulator
  | none => {}

/-- The warm state after a completed evaluation. -/
def storeWarm (session : Session) (id : Nat) (accumulator : EvalAccumulator) : Session :=
  { session with
    warm := ⟨accumulator.graph, accumulator.errors, true, none⟩, source := some id }

/-- `evaluate_initial` stores its result, and wakes the waiters while it holds the lock. -/
def storeInitial (session : Session) (id : Nat) (accumulator : EvalAccumulator) : Session :=
  { (session.storeWarm id accumulator).notifyWaiters with base := accumulator.graph }

/-- A re-evaluation stores its result. -/
def storeRound (session : Session) (id : Nat) (accumulator : EvalAccumulator) (diff : Diff) :
    Session :=
  { session.storeWarm id accumulator with
    stores := session.stores ++
      [⟨session.warm.graph, accumulator.graph, diff, accumulator.errors⟩] }

/-- A task is where it is now. -/
def setPlace (session : Session) (index : Nat) (task : Task) (place : Place) : Session :=
  { session with tasks := session.tasks.set index { task with place } }

/-- A new task. -/
def spawn (session : Session) (task : Task) : Session :=
  { session with tasks := session.tasks ++ [task] }

end Session

/-- What a notification channel gives. -/
inductive Received where
  /-- A notification. -/
  | change
  /-- An error of the watcher. -/
  | error (text : String)
  /-- The channel is closed. -/
  | closed
  /-- Nothing for 200 milliseconds. -/
  | timeout

/-- What may happen to a task. -/
inductive TaskAction where
  /-- `spawn_session_task` finds a runtime, or none. -/
  | spawned (runtime : Bool)
  /-- `try_write`, which fails when the warm state is locked. -/
  | tried (contended : Bool)
  /-- The evaluation of the task goes on. -/
  | evaluation (action : EvaluationAction)
  /-- The watcher is registered, or not. -/
  | registered (outcome : Except String Unit)
  /-- The watch loop receives. -/
  | received (received : Received)
  /-- The receiver of the stream takes an item, or is gone. -/
  | sent (delivered : Bool)
  /-- The task goes on by itself. -/
  | proceed

/-- What may happen to a session. -/
inductive SessionAction where
  /-- A call, which may find the warm state locked. -/
  | call (call : Call) (contended : Bool)
  /-- `Session::cancel` sets the flag. -/
  | cancel
  /-- `Session::cancel` wakes the waiters. -/
  | cancelNotify
  /-- A task goes on. -/
  | task (index : Nat) (action : TaskAction)

/-- The error of a call outside a runtime. -/
def noRuntimeMessage : String := "Session streams require an active Tokio runtime"

/-- The error of a watch whose receiver is gone. -/
def receiverDropped : String := "watch stream receiver was dropped"

/-- The initial evaluation goes on. -/
def initialStep (session : Session) (id : Nat) (action : EvaluationAction) :
    Option (Session × Place) :=
  (session.evaluate id action).map fun after =>
    match action with
    | .event _ => (after, .evaluatingInitial id)
    | .returned (.ok .completed) => (after, .storingInitial id (after.accumulated id))
    | .returned (.ok .cancelled) => (after, .notifyingCancelled)
    | .returned (.error message) => (after, .storingFailure message)

/-- What a re-evaluation that did not complete makes of its task. -/
def unfinished (call : Call) (result : Except String Unit) : Place :=
  match call, result with
  | .watch, .ok () => .over (.ok none)
  | .watch, .error message => .sending (.error (.internal message))
  | _, .ok () => .over (.error .cancelled)
  | _, .error message => .over (.error (.internal message))

/-- A re-evaluation goes on; when it completes, its difference is with the graph read before. -/
def roundStep (session : Session) (call : Call) (previous : EvalGraph) (id : Nat)
    (action : EvaluationAction) : Option (Session × Place) :=
  (session.evaluate id action).map fun after =>
    match action with
    | .event _ => (after, .evaluating previous id)
    | .returned (.ok .completed) =>
      let accumulator := after.accumulated id
      (after, .storing previous id accumulator
        (diffGraphs previous accumulator.graph accumulator.errors))
    | .returned (.ok .cancelled) => (after, unfinished call (.ok ()))
    | .returned (.error message) => (after, unfinished call (.error message))

/-- A task goes on by itself. -/
def proceedTask (session : Session) (call : Call) : Place → Option (Session × Place)
  | .finishingUnspawned => some (session.finishInitial, .notifyingUnspawned)
  | .notifyingUnspawned =>
    some (session.notifyWaiters, .over (.error (.runtimeUnavailable noRuntimeMessage)))
  | .starting =>
    let id := session.evaluations.length
    some ({ session.launch with initials := session.initials ++ [id] }, .evaluatingInitial id)
  | .storingInitial id accumulator => some (session.storeInitial id accumulator, .finishing)
  | .finishing =>
    some (session.finishInitial, if call = .watch then .checkingCancel else .over (.ok none))
  | .notifyingCancelled =>
    some (session.notifyWaiters, .recordingError Error.cancelled.message .cancelled)
  | .storingFailure message => some (session.setError message, .notifyingFailure message)
  | .notifyingFailure message =>
    some (session.notifyWaiters, .recordingError message (.internal message))
  | .recordingError message error => some (session.setError message, .notifyingError error)
  | .notifyingError error => some (session.notifyWaiters, .finishingError error)
  | .finishingError error => some (session.finishInitial, .over (.error error))
  | .checkingCancel =>
    if session.cancel then
      some (session, .over (.error
        (.internal "session dropped before initial evaluation completed")))
    else some (session, .subscribing)
  | .subscribing => some (session, .inspecting false)
  | .inspecting woken =>
    if session.warm.completed then some (session, .registering)
    else
      match session.warm.error with
      | some error => some (session, .over (.error (.internal error)))
      | none => some (session, .parked woken)
  | .parked true => some (session, .checkingCancel)
  | .looping => some (session, if session.cancel then .over (.ok none) else .receiving)
  | .debouncing => some (session, .reading)
  | .reading =>
    match if call = .diff then session.warm.refusal (.initialEvaluationIncomplete "diff_once")
      else none with
    | some error => some (session, .over (.error error))
    | none => some (session, .launching session.warm.graph)
  | .launching previous =>
    some (session.launch, .evaluating previous session.evaluations.length)
  | .storing _ id accumulator diff =>
    some (session.storeRound id accumulator diff,
      if call = .watch then .sending (.ok diff) else .over (.ok (some diff)))
  | _ => none

/-- The step of a task. -/
def taskStep (session : Session) (task : Task) (action : TaskAction) : Option (Session × Place) :=
  match action, task.place with
  | .spawned runtime, .spawning starts =>
    some (session,
      if !runtime then .unspawned else if starts then .starting else .checkingCancel)
  | .tried contended, .unspawned =>
    some (if contended then session else session.setError noRuntimeMessage, .finishingUnspawned)
  | .evaluation action, .evaluatingInitial id => initialStep session id action
  | .evaluation action, .evaluating previous id => roundStep session task.call previous id action
  | .registered (.ok ()), .registering => some (session, .looping)
  | .registered (.error message), .registering =>
    some (session, .over (.error (.internal message)))
  | .received .change, .receiving => some (session, .debouncing)
  | .received (.error text), .receiving =>
    some (session, .sending (.error (.internal s!"filesystem watch error: {text}")))
  | .received .closed, .receiving =>
    some (session, .over (.error (.internal "filesystem watcher disconnected")))
  | .received .timeout, .receiving => some (session, .looping)
  | .sent true, .sending _ => some (session, .looping)
  | .sent false, .sending _ => some (session, .over (.error (.internal receiverDropped)))
  | .proceed, place => proceedTask session task.call place
  | _, _ => none

/-- The task of a call. -/
def callTask (session : Session) (call : Call) (contended : Bool) : Task :=
  match call with
  | .stream =>
    ⟨.stream, if session.claims then .spawning true
      else .over (.error (initialUnavailableError session.warm contended))⟩
  | .watch => ⟨.watch, .spawning session.claims⟩
  | .diff => ⟨.diff, .reading⟩

/-- The step of a session. -/
def sessionStep (session : Session) : SessionAction → Option Session
  | .call .diff contended => some (session.spawn (callTask session .diff contended))
  | .call call contended => some (session.startInitial.spawn (callTask session call contended))
  | .cancel => some { session with cancel := true }
  | .cancelNotify => if session.cancel then some session.notifyWaiters else none
  | .task index action =>
    match session.tasks[index]? with
    | some task =>
      (taskStep session task action).map fun next => next.1.setPlace index task next.2
    | none => none

/-- The machine of a session. -/
def sessionMachine : Machine Session SessionAction where
  start session := session = .opened
  step := sessionStep

end Evix
