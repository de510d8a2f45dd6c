import Evix.AsyncMaster.Coordinate

/-!
# What one step of a run can do

The step function of a run read once, as relations with one constructor for each kind of move.
Invariants are proved over these relations and never unfold the step function again.
`LocalMove` is the view of a worker task: how it changes, what it takes from its work channel
and what it sends. `Returning` lists why the coordinator returns, `RunMove` every step.
-/

namespace Evix

open Machines

/-! ## Worker tasks -/

/-- The item a worker task is evaluating or reporting. -/
def WorkerTask.held : WorkerTask → Option WorkItem
  | .working item | .sendingResult item _ _ => some item
  | _ => none

/-- Whether a task of a worker has yet to send `Ready`. -/
def WorkerTask.isStarting (forked : Bool) : WorkerTask → Bool
  | .connecting => forked
  | .sendingReady => true
  | _ => false

/-- Whether a task neither holds an item nor owes a `Ready`. -/
def WorkerTask.isPlain (task : WorkerTask) : Bool :=
  task.held.isNone && !task.isStarting true

/-- A plain task holds no item. -/
theorem WorkerTask.held_of_isPlain {task : WorkerTask} (plain : task.isPlain = true) :
    task.held = none := by
  simp only [isPlain, Bool.and_eq_true, Option.isNone_iff_eq_none] at plain
  exact plain.1

/-- A plain task owes no `Ready`. -/
theorem WorkerTask.isStarting_of_isPlain {task : WorkerTask} (plain : task.isPlain = true)
    (forked : Bool) : task.isStarting forked = false := by
  cases task <;> simp_all [isPlain, held, isStarting]

/-- What is left after a decision of `serve_worker` is plain. -/
theorem settle_isPlain (spec : WorkerSpec) (cancel failed : Bool) (status : WorkerStatus) :
    (settle spec cancel failed status).isPlain = true := by
  unfold settle
  split
  · rfl
  · split <;> rfl

/-- No decision of `serve_worker` fails the task. -/
theorem settle_ne_exited (spec : WorkerSpec) (cancel failed : Bool) (status : WorkerStatus)
    (error : String) : settle spec cancel failed status ≠ .sendingExited error := by
  unfold settle
  split
  · exact nofun
  · split <;> exact nofun

/-- Taking an answer keeps the item. -/
@[simp]
theorem answered_held (item : WorkItem) (result : Except String (Event × WorkerStatus)) :
    (answered item result).held = some item := by
  cases result <;> rfl

/-- A task with an answer has started. -/
@[simp]
theorem answered_isStarting (forked : Bool) (item : WorkItem)
    (result : Except String (Event × WorkerStatus)) :
    (answered item result).isStarting forked = false := by
  cases result <;> rfl

/-- One worker task moves on, takes commands from its channel and sends messages. -/
def RunState.moved (state : RunState) (worker : Nat) (task : WorkerTask)
    (commands : List WorkerCommand) (messages : List WorkerMessage) : RunState :=
  { state with
    tasks := Function.update state.tasks worker task
    commands := Function.update state.commands worker commands
    results := state.results ++ messages }

/-- A task that only changes its own state leaves channel and results alone. -/
theorem RunState.setTask_eq_moved (state : RunState) (worker : Nat) (task : WorkerTask) :
    state.setTask worker task = state.moved worker task (state.commands worker) [] := by
  simp [setTask, moved]

/-- A task that also changes its channel leaves the results alone. -/
theorem RunState.setCommands_eq_moved (state : RunState) (worker : Nat) (task : WorkerTask)
    (commands : List WorkerCommand) :
    (state.setTask worker task).setCommands worker commands =
      state.moved worker task commands [] := by
  simp [setTask, setCommands, moved]

/-- The order in which a task and its channel change does not matter. -/
theorem RunState.setTask_setCommands (state : RunState) (worker : Nat) (task : WorkerTask)
    (commands : List WorkerCommand) :
    (state.setCommands worker commands).setTask worker task =
      state.moved worker task commands [] := by
  simp [setTask, setCommands, moved]

/-- A failing task drops its channel. -/
theorem RunState.fail_eq_moved (state : RunState) (worker : Nat) (error : String) :
    state.fail worker error = state.moved worker (.sendingExited error) [] [] :=
  state.setCommands_eq_moved worker _ []

/-- Messages that carry no item and announce no worker. -/
def WorkerMessage.isNotice : WorkerMessage → Bool
  | .cancelled | .exited _ => true
  | .ready _ | .result _ => false

/-- Why a worker task fails. -/
inductive Failing (spec : WorkerSpec) (action : WorkerAction) (task : WorkerTask)
    (commands : List WorkerCommand) (error : String) : Prop where
  /-- A connection attempt fails. -/
  | connection : action = .connected (.error error) → Failing spec action task commands error
  /-- Work arrives before a forked worker has started. -/
  | early (item : WorkItem) (rest : List WorkerCommand) : spec.isForked = true →
      task = .connecting → commands = .work item :: rest →
      Failing spec action task commands error
  /-- The task panics. -/
  | panic : action = .panic → Failing spec action task commands error

/-- How one worker task moves: its state and channel before and after, and what it sends. -/
inductive LocalMove (spec : WorkerSpec) (worker : Nat) (action : WorkerAction) :
    WorkerTask → List WorkerCommand → WorkerTask → List WorkerCommand → List WorkerMessage →
      Prop where
  /-- A worker connects; a forked one then owes a `Ready`. -/
  | start (commands : List WorkerCommand) :
      LocalMove spec worker action .connecting commands
        (if spec.isForked then .sendingReady else .receiving) commands []
  /-- A forked worker announces itself. -/
  | announce (commands : List WorkerCommand) :
      LocalMove spec worker action .sendingReady commands .receiving commands [.ready worker]
  /-- An item leaves the work channel. -/
  | accept (item : WorkItem) (commands : List WorkerCommand) :
      LocalMove spec worker action .receiving (.work item :: commands) (.working item) commands []
  /-- The item is answered. -/
  | answer (item : WorkItem) (commands : List WorkerCommand)
      (result : Except String (Event × WorkerStatus)) (given : action = .answer item.path result) :
      LocalMove spec worker action (.working item) commands (answered item result) commands []
  /-- The answer is sent. -/
  | report (item : WorkItem) (event : Answer) (status : WorkerStatus)
      (commands : List WorkerCommand) :
      LocalMove spec worker action (.sendingResult item event status) commands
        (.settling (Answer.isError event) status) commands [.result ⟨worker, item, event⟩]
  /-- Cancellation or failure is reported. -/
  | notify (task after : WorkerTask) (commands : List WorkerCommand) (message : WorkerMessage)
      (notice : message.isNotice = true) (plain : after.isPlain = true)
      (owed : ∀ error, message = .exited error → task = .sendingExited error)
      (sound : ∀ error, after ≠ .sendingExited error) :
      LocalMove spec worker action task commands after commands [message]
  /-- The task goes on without an item; it may drop commands. -/
  | drop (task after : WorkerTask) (commands left : List WorkerCommand)
      (plain : after.isPlain = true) (fewer : left.Sublist commands)
      (failing : ∀ error, after = .sendingExited error →
        Failing spec action task commands error) :
      LocalMove spec worker action task commands after left []

variable {specs : List WorkerSpec} {spec : WorkerSpec} {capacity worker : Nat}
  {state after : RunState} {action : WorkerAction}

/-- A state reached by a local move of one worker. -/
def MovesLocally (spec : WorkerSpec) (worker : Nat) (action : WorkerAction)
    (state after : RunState) : Prop :=
  ∃ task commands messages, after = state.moved worker task commands messages ∧
    LocalMove spec worker action (state.tasks worker) (state.commands worker)
      task commands messages

/-- A plain change of the task alone is a local move. -/
theorem movesLocally_setTask (task : WorkerTask) (plain : task.isPlain = true)
    (sound : ∀ error, task ≠ .sendingExited error) :
    MovesLocally spec worker action state (state.setTask worker task) :=
  ⟨task, _, [], state.setTask_eq_moved worker task,
    .drop _ _ _ _ plain (List.Sublist.refl _) fun error same => absurd same (sound error)⟩

/-- A failure is a local move. -/
theorem movesLocally_fail (error : String)
    (failing : Failing spec action (state.tasks worker) (state.commands worker) error) :
    MovesLocally spec worker action state (state.fail worker error) := by
  refine ⟨_, _, [], state.fail_eq_moved worker error, .drop _ _ _ _ rfl (List.nil_sublist _) ?_⟩
  rintro _ ⟨⟩
  exact failing

/-- A task that stops drops its channel. -/
theorem movesLocally_end :
    MovesLocally spec worker action state ((state.setTask worker .ended).setCommands worker []) :=
  ⟨_, _, [], state.setCommands_eq_moved worker _ _,
    .drop _ _ _ _ rfl (List.nil_sublist _) nofun⟩

/-- A send is a local move when an accepted message makes one and a refused one leaves a plain
task. -/
theorem movesLocally_send {message : WorkerMessage} {sent refused : WorkerTask}
    (taken : state.send capacity worker message sent refused = some after)
    (plain : refused.isPlain = true) (sound : ∀ error, refused ≠ .sendingExited error)
    (accepted : LocalMove spec worker action (state.tasks worker) (state.commands worker) sent
      (state.commands worker) [message]) :
    MovesLocally spec worker action state after := by
  unfold RunState.send at taken
  split at taken
  · obtain rfl := Option.some.inj taken
    exact movesLocally_setTask _ plain sound
  · split at taken
    · obtain rfl := Option.some.inj taken
      exact ⟨sent, _, [message], by simp [RunState.setTask, RunState.moved], accepted⟩
    · cases taken

/-- Taking a command is a local move. -/
theorem movesLocally_takeCommand (receiving : state.tasks worker = .receiving)
    (taken : takeCommand state worker = some after) :
    MovesLocally spec worker action state after := by
  unfold takeCommand at taken
  split at taken
  · cases taken
  · rename_i command commands channel
    have fewer : commands.Sublist (state.commands worker) := by
      rw [channel]
      exact List.sublist_cons_self _ _
    simp only [RunState.setTask_setCommands] at taken
    split at taken
    · obtain rfl := Option.some.inj taken
      exact ⟨_, _, _, rfl, .drop _ _ _ _ rfl fewer nofun⟩
    · split at taken
      · obtain rfl := Option.some.inj taken
        refine ⟨_, _, _, rfl, ?_⟩
        rw [receiving, channel]
        exact .accept _ _
      · obtain rfl := Option.some.inj taken
        exact ⟨_, _, _, rfl, .drop _ _ _ _ rfl fewer nofun⟩

/-- What a task does by itself is a local move. -/
theorem movesLocally_proceed (taken : proceedStep spec capacity state worker = some after) :
    MovesLocally spec worker action state after := by
  unfold proceedStep at taken
  split at taken
  · rename_i task
    refine movesLocally_send taken rfl (fun _ => nofun) ?_
    rw [task]
    exact .announce _
  · exact movesLocally_send taken rfl (fun _ => nofun)
      (.notify _ _ _ _ rfl rfl (fun _ => nofun) fun _ => nofun)
  · rename_i task
    refine movesLocally_send taken rfl (fun _ => nofun) ?_
    rw [task]
    exact .report _ _ _ _
  · obtain rfl := Option.some.inj taken
    exact movesLocally_setTask _ (settle_isPlain _ _ _ _) (settle_ne_exited _ _ _ _)
  · obtain rfl := Option.some.inj taken
    exact movesLocally_end
  · rename_i task
    refine movesLocally_send taken rfl (fun _ => nofun)
      (.notify _ _ _ _ rfl rfl ?_ fun _ => nofun)
    rintro _ ⟨⟩
    exact task
  · cases taken

/-- The end of a connection attempt is a local move. -/
theorem movesLocally_connected {outcome : Except String Unit}
    (given : action = .connected outcome)
    (taken : connectedStep spec state worker outcome = some after) :
    MovesLocally spec worker action state after := by
  unfold connectedStep at taken
  split at taken
  · split at taken
    · rename_i task
      obtain rfl := Option.some.inj taken
      refine ⟨_, _, _, state.setTask_eq_moved worker _, ?_⟩
      rw [task]
      exact .start _
    all_goals first
      | (obtain rfl := Option.some.inj taken; exact movesLocally_setTask _ rfl fun _ => nofun)
      | cases taken
  · split at taken
    all_goals first
      | (obtain rfl := Option.some.inj taken; exact movesLocally_fail _ (.connection given))
      | cases taken

/-- Every step of a worker task is a local move. -/
theorem workerStep_moves (taken : workerStep spec capacity state worker action = some after) :
    MovesLocally spec worker action state after := by
  cases action with
  | connected outcome => exact movesLocally_connected rfl taken
  | command =>
    simp only [workerStep] at taken
    split at taken
    · rename_i task
      split at taken
      · rename_i forked
        unfold takeEarlyCommand at taken
        split at taken
        · cases taken
        · rename_i item rest queued
          obtain rfl := Option.some.inj taken
          exact movesLocally_fail _ (.early item rest forked task queued)
        · obtain rfl := Option.some.inj taken
          exact movesLocally_end
      · cases taken
    · rename_i task
      exact movesLocally_takeCommand task taken
    · cases taken
  | closed =>
    simp only [workerStep] at taken
    split at taken
    · split at taken
      · split at taken
        · obtain rfl := Option.some.inj taken
          exact movesLocally_setTask _ rfl fun _ => nofun
        · cases taken
      · obtain rfl := Option.some.inj taken
        exact movesLocally_setTask _ rfl fun _ => nofun
      · cases taken
    · cases taken
  | answer path result =>
    simp only [workerStep] at taken
    split at taken
    · rename_i item task
      split at taken
      · rename_i same
        obtain rfl := Option.some.inj taken
        refine ⟨_, _, _, state.setTask_eq_moved worker _, ?_⟩
        rw [task]
        exact .answer _ _ _ (by rw [same])
      · cases taken
    · cases taken
  | proceed => exact movesLocally_proceed taken
  | panic =>
    simp only [workerStep, Option.ite_none_right_eq_some, Option.some.injEq] at taken
    obtain ⟨_, rfl⟩ := taken
    exact movesLocally_fail _ (.panic rfl)

/-! ## The coordinator -/

/-- Why the coordinator returns, with the messages it leaves in the result channel. -/
inductive Returning (specs : List WorkerSpec) (state : RunState) :
    List WorkerMessage → Except CoordinateError RunOutcome → Prop where
  /-- Cancellation is requested at the head of the loop. -/
  | cancelled : state.coordinator = .top → state.cancel = true →
      Returning specs state state.results (.ok .cancelled)
  /-- The idle queue runs out while it is scanned. -/
  | queueChanged {remaining : Nat} : state.coordinator = .dispatching (remaining + 1) →
      state.idle = [] → Returning specs state state.results (.error .idleQueueChanged)
  /-- An idle worker is not in the pool. -/
  | idleOutOfBounds {worker : Nat} {idle : List Nat} : state.idle = worker :: idle →
      specs[worker]? = none → Returning specs state state.results (.error .outOfBounds)
  /-- The scheduler has nothing left. -/
  | done {remaining : Nat} : state.coordinator = .dispatching remaining →
      state.scheduler.todo = [] → state.scheduler.active = 0 →
      Returning specs state state.results (.ok .completed)
  /-- The scheduler has failed. -/
  | fatal {remaining : Nat} {error : String} : state.coordinator = .dispatching remaining →
      state.scheduler.error = some error →
      Returning specs state state.results (.error (.fatalScheduler error))
  /-- Nothing is in flight and every worker is idle. -/
  | stalled : state.coordinator = .dispatching 0 → state.scheduler.isDone = false →
      state.scheduler.active = 0 → state.idle.length = specs.length →
      Returning specs state state.results (.error .stalled)
  /-- The work channel of the chosen worker is closed. -/
  | closed (label : String) : Returning specs state state.results (.error (.sendingWork label))
  /-- A worker saw the cancellation. -/
  | workerCancelled {results : List WorkerMessage} : state.results = .cancelled :: results →
      Returning specs state results (.ok .cancelled)
  /-- A worker task failed. -/
  | workerExited {error : String} {results : List WorkerMessage} :
      state.results = .exited error :: results →
      Returning specs state results (.error (.workerExited error))
  /-- A result names no worker of the pool. -/
  | resultOutOfBounds {result : WorkerResult} {results : List WorkerMessage} :
      state.results = .result result :: results → specs[result.workerId]? = none →
      Returning specs state results (.error .outOfBounds)
  /-- Every worker task has ended. -/
  | allExited : Returning specs state state.results (.error .allWorkersExited)
  /-- The event sink refuses an event. -/
  | sinkFailed {fatal : Option String} : state.coordinator = .emitting fatal →
      Returning specs state state.results (.error .eventSink)
  /-- The event just emitted was fatal. -/
  | fatalItem {error : String} : state.coordinator = .emitting (some error) →
      Returning specs state state.results (.error (.fatalItem error))

/-- What one step of a run can do. -/
inductive RunMove (specs : List WorkerSpec) (state : RunState) (action : RunAction) :
    RunState → Prop where
  /-- Cancellation is requested. -/
  | cancel : RunMove specs state action { state with cancel := true }
  /-- The coordinator returns. -/
  | finish {results : List WorkerMessage} {result : Except CoordinateError RunOutcome}
      (reason : Returning specs state results result) (running : state.isReturned = false) :
      RunMove specs state action { state with results, coordinator := .returned result }
  /-- The coordinator starts to scan the idle workers. -/
  | scan (top : state.coordinator = .top) :
      RunMove specs state action { state with coordinator := .dispatching state.idle.length }
  /-- An idle worker is given the next item. -/
  | dispatch {remaining worker : Nat} {idle : List Nat} {item : WorkItem}
      {todo : List WorkItem} (scanning : state.coordinator = .dispatching (remaining + 1))
      (first : state.idle = worker :: idle) (member : worker < specs.length)
      (clean : state.scheduler.error = none) (queued : state.scheduler.todo = item :: todo) :
      RunMove specs state action
        { state with
          scheduler := { state.scheduler with todo, active := state.scheduler.active + 1 }
          idle
          coordinator := .sending remaining worker item
          dispatched := state.dispatched ++ [(worker, item)]
          pending := state.pending ++ [(worker, item)] }
  /-- An idle worker stays idle. -/
  | skip {remaining worker : Nat} {idle : List Nat}
      (scanning : state.coordinator = .dispatching (remaining + 1))
      (first : state.idle = worker :: idle) (busy : 0 < state.scheduler.active) :
      RunMove specs state action
        { state with idle := idle ++ [worker], coordinator := .dispatching remaining }
  /-- The chosen item enters the work channel. -/
  | deliver {remaining worker : Nat} {item : WorkItem}
      (sending : state.coordinator = .sending remaining worker item)
      (room : state.commands worker = []) :
      RunMove specs state action
        { state.setCommands worker [.work item] with coordinator := .dispatching remaining }
  /-- The coordinator starts to wait. -/
  | listen (scanned : state.coordinator = .dispatching 0)
      (unfinished : state.scheduler.isDone = false) :
      RunMove specs state action { state with coordinator := .waiting }
  /-- A forked worker joins. -/
  | join {worker : Nat} {results : List WorkerMessage} (waiting : state.coordinator = .waiting)
      (first : state.results = .ready worker :: results) :
      RunMove specs state action
        { state with
          results
          idle := state.idle ++ [worker]
          joined := state.joined ++ [worker]
          coordinator := .top }
  /-- A result is handled. -/
  | complete {result : WorkerResult} {results : List WorkerMessage} {spec : WorkerSpec}
      (waiting : state.coordinator = .waiting) (first : state.results = .result result :: results)
      (found : specs[result.workerId]? = some spec) :
      RunMove specs state action (handleResult specs { state with results } spec result)
  /-- The event sink takes an event. -/
  | emitted (emitting : state.coordinator = .emitting none) :
      RunMove specs state action { state with coordinator := .top }
  /-- The clean-up aborts or stops a worker. -/
  | clean {result : Except CoordinateError RunOutcome} {tasks : Nat → WorkerTask}
      {commands : Nat → List WorkerCommand}
      (returned : state.coordinator = .returned result) (left : state.cleaned < specs.length)
      (ended : ∀ worker, tasks worker = state.tasks worker ∨ tasks worker = .aborted)
      (stopped : ∀ worker, (commands worker).Sublist (state.commands worker ++ [.stop])) :
      RunMove specs state action { state with tasks, commands, cleaned := state.cleaned + 1 }
  /-- A worker task moves. -/
  | worker {id : Nat} {spec : WorkerSpec} {move : WorkerAction} {task : WorkerTask}
      {commands : List WorkerCommand} {messages : List WorkerMessage}
      (taken : action = .worker id move) (found : specs[id]? = some spec)
      (moves : LocalMove spec id move (state.tasks id) (state.commands id)
        task commands messages) :
      RunMove specs state action (state.moved id task commands messages)

/-- A coordinator that returns leaves messages behind, it adds none. -/
theorem Returning.results_sublist {results : List WorkerMessage}
    {result : Except CoordinateError RunOutcome} (reason : Returning specs state results result) :
    results.Sublist state.results := by
  cases reason with
  | workerCancelled first | workerExited first | resultOutOfBounds first =>
    rw [first]
    exact List.sublist_cons_self _ _
  | _ => exact List.Sublist.refl _

/-- A position of the pool is below its length. -/
theorem lt_length_of_getElem? {index : Nat} (found : specs[index]? = some spec) :
    index < specs.length :=
  (List.getElem?_eq_some_iff.mp found).1

/-- Every step of `dispatch_available` is a move. -/
theorem dispatchNext_moves {remaining : Nat} {act : RunAction}
    (scanning : state.coordinator = .dispatching (remaining + 1)) :
    RunMove specs state act (dispatchNext specs state remaining) := by
  have running : state.isReturned = false := by simp [RunState.isReturned, scanning]
  unfold dispatchNext
  split
  · rename_i first
    exact .finish (.queueChanged scanning first) running
  · rename_i worker idle first
    split
    · rename_i absent
      exact .finish (.idleOutOfBounds first absent) running
    · rename_i spec found
      have member : worker < specs.length := lt_length_of_getElem? found
      cases failed : state.scheduler.error with
      | some error =>
        rw [Scheduler.nextFor_fatal _ spec.id failed]
        exact .finish (.fatal scanning failed) running
      | none =>
        cases queued : state.scheduler.todo with
        | cons item todo =>
          rw [Scheduler.nextFor_dispatch _ spec.id failed queued]
          exact .dispatch scanning first member failed queued
        | nil =>
          by_cases none : state.scheduler.active = 0
          · rw [Scheduler.nextFor_done _ spec.id failed queued none]
            exact .finish (.done scanning queued none) running
          · rw [Scheduler.nextFor_wait _ spec.id failed queued none]
            exact .skip scanning first (by omega)

/-- Every step of the coordinator is a move. -/
theorem coordinateStep_moves {act : RunAction}
    (taken : coordinateStep specs state = some after) : RunMove specs state act after := by
  unfold coordinateStep at taken
  split at taken
  · rename_i top
    split at taken
    · rename_i cancelled
      obtain rfl := Option.some.inj taken
      exact .finish (.cancelled top cancelled) (by simp [RunState.isReturned, top])
    · obtain rfl := Option.some.inj taken
      exact .scan top
  · rename_i scanned
    have running : state.isReturned = false := by simp [RunState.isReturned, scanned]
    split at taken
    · rename_i finished
      obtain rfl := Option.some.inj taken
      simp only [Scheduler.isDone, Bool.and_eq_true, List.isEmpty_iff, beq_iff_eq] at finished
      exact .finish (.done scanned finished.1 finished.2) running
    · rename_i unfinished
      have unfinished : state.scheduler.isDone = false := by simpa using unfinished
      split at taken
      · rename_i still
        obtain rfl := Option.some.inj taken
        simp only [Scheduler.hasActiveWork, Bool.and_eq_true, Bool.not_eq_true',
          decide_eq_false_iff_not, Nat.not_lt, Nat.le_zero, beq_iff_eq] at still
        exact .finish (.stalled scanned unfinished still.1 still.2) running
      · obtain rfl := Option.some.inj taken
        exact .listen scanned unfinished
  · rename_i remaining scanning
    obtain rfl := Option.some.inj taken
    exact dispatchNext_moves scanning
  · rename_i remaining worker item sending
    have running : state.isReturned = false := by simp [RunState.isReturned, sending]
    split at taken
    · obtain rfl := Option.some.inj taken
      exact .finish (.closed _) running
    · split at taken
      · rename_i room
        obtain rfl := Option.some.inj taken
        have room : state.commands worker = [] := List.length_eq_zero_iff.mp (by omega)
        rw [room]
        exact .deliver sending room
      · cases taken
  · rename_i waiting
    have running : state.isReturned = false := by simp [RunState.isReturned, waiting]
    split at taken
    · rename_i message results first
      obtain rfl := Option.some.inj taken
      cases message with
      | ready worker => exact .join waiting first
      | result result =>
        cases found : specs[result.workerId]? with
        | none =>
          simp only [handleMessage, found]
          exact .finish (.resultOutOfBounds first found) running
        | some spec =>
          simp only [handleMessage, found]
          exact .complete waiting first found
      | cancelled => exact .finish (.workerCancelled first) running
      | exited error => exact .finish (.workerExited first) running
    · split at taken
      · obtain rfl := Option.some.inj taken
        exact .finish .allExited running
      · cases taken
  · cases taken
  · cases taken

/-- Every answer of the event sink is a move. -/
theorem sinkStep_moves {accepted : Bool} {act : RunAction}
    (taken : sinkStep state accepted = some after) : RunMove specs state act after := by
  unfold sinkStep at taken
  split at taken
  · rename_i fatal emitting
    have running : state.isReturned = false := by simp [RunState.isReturned, emitting]
    split at taken
    · obtain rfl := Option.some.inj taken
      exact .finish (.sinkFailed emitting) running
    · split at taken
      · obtain rfl := Option.some.inj taken
        exact .finish (.fatalItem emitting) running
      · obtain rfl := Option.some.inj taken
        exact .emitted emitting
  · cases taken

/-- Every step of the clean-up is a move. -/
theorem cleanupStep_moves {act : RunAction} (taken : cleanupStep specs state = some after) :
    RunMove specs state act after := by
  have same : ∀ worker, (state.commands worker).Sublist (state.commands worker ++ [.stop]) :=
    fun worker => List.sublist_append_left _ _
  unfold cleanupStep at taken
  split at taken
  · rename_i result returned
    simp only at taken
    split at taken
    · cases taken
    · rename_i pending
      have left : state.cleaned < specs.length := Nat.lt_of_not_le pending
      split at taken
      · obtain rfl := Option.some.inj taken
        split
        · exact .clean returned left (fun _ => .inl rfl) same
        · refine .clean returned left (fun worker => ?_) fun worker => ?_
          · by_cases here : worker = state.cleaned
            · subst here
              exact .inr (Function.update_self _ _ _)
            · exact .inl (Function.update_of_ne here _ _)
          · show (Function.update state.commands state.cleaned [] worker).Sublist _
            by_cases here : worker = state.cleaned
            · rw [here, Function.update_self]
              exact List.nil_sublist _
            · rw [Function.update_of_ne here]
              exact same worker
      · split at taken
        · obtain rfl := Option.some.inj taken
          exact .clean returned left (fun _ => .inl rfl) same
        · split at taken
          · obtain rfl := Option.some.inj taken
            refine .clean returned left (fun _ => .inl rfl) fun worker => ?_
            show (Function.update state.commands state.cleaned _ worker).Sublist _
            by_cases here : worker = state.cleaned
            · rw [here, Function.update_self]
            · rw [Function.update_of_ne here]
              exact same worker
          · cases taken
  · cases taken

/-- Every step of a run is a move. -/
theorem runStep_moves {act : RunAction} (taken : runStep specs state act = some after) :
    RunMove specs state act after := by
  cases act with
  | cancel =>
    obtain rfl := Option.some.inj taken
    exact .cancel
  | coordinate => exact coordinateStep_moves taken
  | sink accepted => exact sinkStep_moves taken
  | cleanup => exact cleanupStep_moves taken
  | worker id move =>
    simp only [runStep] at taken
    split at taken
    · rename_i spec found
      obtain ⟨task, commands, messages, rfl, moves⟩ := workerStep_moves taken
      exact .worker rfl found moves
    · cases taken

end Evix
