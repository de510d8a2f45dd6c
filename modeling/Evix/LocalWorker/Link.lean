import Evix.AsyncMaster.Coordinate

/-!
# A local worker and its processes

The two ends of one local worker: `serve_worker` with the methods of `WorkerProcess` at the master,
and `worker::run` in each of the processes that the master has spawned for it, or that was forked
for its slot. Messages travel in order in each direction. A process may die at any time, which
covers every call of it that fails; a read or a write of the master may fail at any time, and a time
limit may pass at any time. What a process has written can be read after its death.

A forked process writes its pid before any message, so the pid has a field of its own. The fields
from `works` on of a process, and from `taken` on of the state, are history.
-/

namespace Evix.LocalWorker

open Machines

/-- What the master knows of a local worker. -/
structure Spec where
  /-- Name in messages. -/
  label : String
  /-- Configuration sent in the setup. -/
  config : WorkerConfig
  /-- Whether it has a slot that the first worker forks a process for. -/
  forked : Bool
  /-- Debug rendering of a message. -/
  debug : ServerMessage → String
  /-- Debug rendering of a path. -/
  debugPath : List String → String

/-! ## Processes -/

/-- `should_restart`. -/
def shouldRestart (maxRssKb maxMemoryMb : Nat) : Bool :=
  decide (min (maxMemoryMb * 1024) (2 ^ 64 - 1) < maxRssKb)

/-- Where `worker::run` is. -/
inductive Place where
  /-- No process has the slot yet. -/
  | unborn
  /-- Reading the first message. -/
  | setup
  /-- Loading the root. -/
  | loading
  /-- Forked, before its pid is written. -/
  | announcing
  /-- Writing the handshake. -/
  | greeting
  /-- Reading the next message. -/
  | idle
  /-- In `process_attr`. -/
  | evaluating (path : List String)
  /-- Writing the event. -/
  | answering (event : Event)
  /-- The event is written, the memory is not measured. -/
  | measuring
  /-- Writing the status. -/
  | reporting (status : WorkerStatus)
  /-- Dead, or the slot is closed. -/
  | gone
  deriving DecidableEq

/-- A process, or the slot for one, as both ends have it. -/
structure Process where
  /-- Where it is. -/
  place : Place
  /-- The pid that is written and not read. -/
  pid : Option Nat
  /-- Messages to the process. -/
  requests : List ClientMessage
  /-- Messages to the master. -/
  responses : List ServerMessage
  /-- Whether the master has killed it. -/
  killed : Bool
  /-- Whether the master has closed its ends. -/
  hungUp : Bool
  /-- Work the master has written, each with the number of its item. -/
  works : List (Nat × List String)
  /-- Work the process has begun to evaluate. -/
  begun : List (List String)
  /-- The events of the process, with the path of each. -/
  produced : List (List String × Event)
  /-- The statuses of the process. -/
  statuses : List WorkerStatus
  /-- Messages the master has read. -/
  received : List ServerMessage

/-- What may happen to a process. -/
inductive ProcessAction where
  /-- The first worker forks it. -/
  | fork
  /-- The first message is read. -/
  | setup
  /-- The root is loaded. -/
  | loaded
  /-- The pid is written. -/
  | announce (pid : Nat)
  /-- The handshake is written. -/
  | greet
  /-- A message is read. -/
  | request
  /-- `process_attr` returns. -/
  | evaluated (event : Event)
  /-- The event is written. -/
  | write
  /-- `get_maxrss_kb` returns. -/
  | measured (maxRssKb : Nat)
  /-- The status is written. -/
  | report
  /-- The process dies, or nobody has the slot any more. -/
  | die

/-- The step of `worker::run`. -/
def runStep (config : WorkerConfig) (process : Process) : ProcessAction → Option Process
  | .fork =>
    match process.place with
    | .unborn => some { process with place := .announcing }
    | _ => none
  | .setup =>
    match process.place, process.requests with
    | .setup, .setup .. :: requests => some { process with requests, place := .loading }
    | .setup, _ :: requests => some { process with requests, place := .gone }
    | _, _ => none
  | .loaded =>
    match process.place with
    | .loading => some { process with place := .greeting }
    | _ => none
  | .announce pid =>
    match process.place with
    | .announcing => some { process with pid := some pid, place := .greeting }
    | _ => none
  | .greet =>
    match process.place with
    | .greeting => some { process with responses := process.responses ++ [.ready], place := .idle }
    | _ => none
  | .request =>
    match process.place, process.requests with
    | .idle, .work path :: requests =>
      some { process with
        requests, place := .evaluating path, begun := process.begun ++ [path] }
    | .idle, _ :: requests => some { process with requests, place := .gone }
    | _, _ => none
  | .evaluated event =>
    match process.place with
    | .evaluating path =>
      some { process with
        place := .answering event, produced := process.produced ++ [(path, event)] }
    | _ => none
  | .write =>
    match process.place with
    | .answering event =>
      some { process with responses := process.responses ++ [.event event], place := .measuring }
    | _ => none
  | .measured maxRssKb =>
    match process.place with
    | .measuring =>
      some { process with
        place := .reporting
          (if shouldRestart maxRssKb config.maxMemorySize then .restart else .ready) }
    | _ => none
  | .report =>
    match process.place with
    | .reporting status =>
      some { process with
        responses := process.responses ++ [.status status]
        statuses := process.statuses ++ [status]
        place := if status = .restart then .gone else .idle }
    | _ => none
  | .die =>
    match process.place with
    | .gone => none
    | _ => some { process with place := .gone }

/-! ## The master -/

/-- Where `serve_worker` is, for a local worker. -/
inductive Serving where
  /-- `WorkerClient::connect` is called. -/
  | connecting
  /-- `attach` reads the pid of the forked process. -/
  | attaching
  /-- `spawn_local`, after nobody had the slot. -/
  | spawning
  /-- `spawn_local` writes the setup. -/
  | settingUp (process : Nat)
  /-- `read_ready`. -/
  | greeting (process : Nat)
  /-- Telling the coordinator that the forked worker is ready. -/
  | announcing
  /-- Waiting for a command. -/
  | receiving
  /-- `WorkerProcess::work` writes the request. -/
  | sendingWork (path : List String)
  /-- `read_event`. -/
  | awaitingEvent (path : List String)
  /-- `read_status`. -/
  | awaitingStatus (path : List String) (event : Event)
  /-- `exit_error` of a process that was not ready yet. -/
  | startDraining (process : Nat) (phase source : String)
  /-- `exit_error` of the process that has the item. -/
  | draining (path : List String) (phase source : String)
  /-- `WorkerProcess::abort`, after the time limit of the item. -/
  | aborting (path : List String)
  /-- Sending the result of an item. -/
  | sendingResult (path : List String) (answer : Answer) (status : WorkerStatus)
  /-- The result is sent. -/
  | settling (failed : Bool) (status : WorkerStatus)
  /-- `wait_for_restart`. -/
  | retiring
  /-- Cancellation was seen after a command was taken. -/
  | sendingCancelled
  /-- `WorkerProcess::stop`. -/
  | stopping
  /-- The shutdown is written, or not, and the process is awaited. -/
  | waiting
  /-- `serve_worker` has returned. -/
  | ended (result : Except String Unit)
  /-- The task was aborted. -/
  | aborted

namespace Serving

/-- Whether `connect` is running. -/
def isConnecting : Serving → Bool
  | .connecting | .attaching | .spawning | .settingUp _ | .greeting _ | .startDraining .. => true
  | _ => false

/-- Whether the task is over. -/
def isOver : Serving → Bool
  | .ended _ | .aborted => true
  | _ => false

end Serving

/-- A `WorkerResult`, with the number of its item, its status and the process at that moment. -/
structure Report where
  /-- Number of the item. -/
  item : Nat
  /-- Its path. -/
  path : List String
  /-- The event, or the failure. -/
  answer : Answer
  /-- Whether the process has exited to be restarted. -/
  status : WorkerStatus
  /-- The process that the worker holds. -/
  process : Option Nat

/-- The state of both ends. -/
structure State where
  /-- Where `serve_worker` is. -/
  serving : Serving
  /-- The `WorkerProcess` that the task holds, by the position of its process. -/
  held : Option Nat
  /-- Whether the socket of the slot is still to be taken. -/
  socket : Bool
  /-- The process of the slot, if there is one, and every process spawned. -/
  processes : List Process
  /-- The cancellation flag. -/
  cancel : Bool
  /-- Paths taken up for evaluation; an item's number is its position. -/
  taken : List (List String)
  /-- Results sent. -/
  reports : List Report
  /-- Whether a message was an error or unexpected. -/
  strayed : Bool

/-- A process at its start. -/
def Process.start (place : Place) : Process :=
  ⟨place, none, [], [], false, false, [], [], [], [], []⟩

/-- The process of a slot. -/
def Process.slot : Process := .start .unborn

/-- A process that was spawned. -/
def Process.spawned : Process := .start .setup

/-- The task before it connects. -/
def State.initial (spec : Spec) : State where
  serving := .connecting
  held := none
  socket := spec.forked
  processes := if spec.forked then [.slot] else []
  cancel := false
  taken := []
  reports := []
  strayed := false

/-- The master reads the first response. -/
def Process.receive (process : Process) (message : ServerMessage)
    (responses : List ServerMessage) : Process :=
  { process with responses, received := process.received ++ [message] }

/-- The master writes a request. -/
def Process.send (process : Process) (message : ClientMessage)
    (works : List (Nat × List String)) : Process :=
  { process with
    requests := process.requests ++ [message], works := process.works ++ works }

/-- A `WorkerProcess` is killed. -/
def Process.kill (process : Process) : Process := { process with killed := true }

/-- The ends of a process are closed. -/
def Process.hangUp (process : Process) : Process := { process with hungUp := true }

/-- What may happen. -/
inductive LinkAction where
  /-- Cancellation is requested. -/
  | cancel
  /-- A cancelled run aborts the task. -/
  | abort
  /-- A command arrives, or the channel is closed, while a forked worker connects. -/
  | early (command : Option WorkerCommand)
  /-- `connect` spawns a process, or fails to, or takes the socket of the slot. -/
  | connect (outcome : Except String Unit)
  /-- `attach` reads the pid, and opens a pidfd or fails to. -/
  | readPid (opened : Except String Unit)
  /-- `attach` reads end-of-file. -/
  | readEnd
  /-- A command arrives. -/
  | command (command : WorkerCommand)
  /-- The work channel is closed. -/
  | closed
  /-- The request is written. -/
  | write
  /-- A response is read. -/
  | read
  /-- A write or a read fails, or `attach` fails otherwise before it has a pid. -/
  | failed (source : String)
  /-- The time limit of the start or of the item passes. -/
  | timeout
  /-- The process is dead, with its status and its stderr. -/
  | exited (status : Option String) (stderr : String)
  /-- A message to the coordinator is sent, or refused. -/
  | send (delivered : Bool)
  /-- The task decides how to go on. -/
  | settle
  /-- The shutdown is written, or not. -/
  | stop (written : Bool)
  /-- A process moves. -/
  | process (index : Nat) (action : ProcessAction)

/-- The message of `exit_error`. -/
def exitError (label phase attr source : String) (status : Option String) (stderr : String) :
    String :=
  s!"evix worker {label} failed while reading {phase} for {attr}: {source}" ++
    (match status with
      | some status => s!" (status: {status})"
      | none => "") ++
    (if stderr.isEmpty then "" else "\nworker stderr:\n" ++ stderr)

/-- The failure of `work_with_timeout`. -/
def timeoutReport (spec : Spec) (path : List String) : String :=
  s!"worker {spec.label} timed out evaluating {displayAttr path} after " ++
    s!"{spec.config.itemTimeoutSeconds} seconds"

/-- The pids that `attach` takes. -/
def isValidPid (pid : Nat) : Bool := decide (0 < pid) && decide (pid < 2 ^ 31)

namespace State

variable (state : State)

/-- A process changes. -/
def setProcess (index : Nat) (process : Process) : State :=
  { state with processes := state.processes.set index process }

/-- A process changes, if it is there. -/
def modify (index : Nat) (change : Process → Process) : State :=
  { state with processes := state.processes.modify index change }

/-- A `WorkerProcess` is dropped. -/
def drop (index : Nat) : State := state.modify index fun process => process.kill.hangUp

/-- The process that `connect` is busy with is dropped, of which `attach` has only the ends before
it has read the pid. -/
def dropPending : State :=
  match state.serving with
  | .attaching => state.modify 0 .hangUp
  | .settingUp process | .greeting process | .startDraining process _ _ => state.drop process
  | _ => state

/-- The `WorkerProcess` that the task holds is dropped. -/
def dropHeld : State :=
  match state.held with
  | some index => { state.drop index with held := none }
  | none => state

/-- The task is over, and everything it has is dropped. -/
def leave (serving : Serving) : State := { state.dropPending.dropHeld with serving }

/-- `serve_worker` returns. -/
def finish (result : Except String Unit) : State := state.leave (.ended result)

/-- `WorkerProcess::work` returns. -/
def answer (path : List String) (answer : Answer) (status : WorkerStatus) : State :=
  { state with serving := .sendingResult path answer status }

/-- Whether a process is dead. -/
def isGone (index : Nat) : Bool := state.processes[index]?.any (·.place = .gone)

/-- Whether the process that the task holds is dead. -/
def isHeldGone : Bool := state.held.any state.isGone

/-- The master takes the next response of a process. -/
def takeResponse (index : Nat) : Option (ServerMessage × State) :=
  match state.processes[index]? with
  | some process =>
    match process.responses with
    | message :: responses =>
      some (message, state.setProcess index (process.receive message responses))
    | [] => none
  | none => none

/-- The master writes a request to the process it holds. -/
def request (message : ClientMessage) (works : List (Nat × List String)) : Option State :=
  match state.held with
  | some index =>
    (state.processes[index]?).map fun process =>
      state.setProcess index (process.send message works)
  | none => none

end State

/-- `read_ready`, and what `connect` and `serve_worker` make of it. -/
def readReady (spec : Spec) (index : Nat) (message : ServerMessage) (state : State) : State :=
  match message with
  | .ready =>
    let first := state.held.isNone
    { state.dropHeld with
      held := some index, serving := if spec.forked && first then .announcing else .receiving }
  | .error error =>
    { state.finish (.error s!"worker {spec.label} failed: {error}") with strayed := true }
  | other =>
    { state.finish (.error s!"unexpected worker handshake: {spec.debug other}") with
      strayed := true }

/-- `read_event`. -/
def readEvent (spec : Spec) (path : List String) (message : ServerMessage) (state : State) :
    State :=
  match message with
  | .event event => { state with serving := .awaitingStatus path event }
  | .error error =>
    { state.answer path (.error s!"worker {spec.label} failed: {error}") .ready with
      strayed := true }
  | other =>
    { state.answer path (.error
        s!"unexpected worker event for {spec.debugPath path}: {spec.debug other}") .ready with
      strayed := true }

/-- `read_status`. -/
def readStatus (spec : Spec) (path : List String) (event : Event) (message : ServerMessage)
    (state : State) : State :=
  match message with
  | .status status => state.answer path (.ok event) status
  | .error error =>
    { state.answer path (.error s!"worker {spec.label} failed: {error}") .ready with
      strayed := true }
  | other =>
    { state.answer path (.error ("unexpected worker status for " ++ ".".intercalate path ++
        s!": {spec.debug other}")) .ready with
      strayed := true }

/-- The master reads a response. -/
def readMessage (spec : Spec) (state : State) : Option State :=
  match state.serving with
  | .greeting index =>
    (state.takeResponse index).map fun read => readReady spec index read.1 read.2
  | .awaitingEvent path =>
    (state.held.bind state.takeResponse).map fun read => readEvent spec path read.1 read.2
  | .awaitingStatus path event =>
    (state.held.bind state.takeResponse).map fun read =>
      readStatus spec path event read.1 read.2
  | _ => none

/-- `connect`: the socket of the slot is taken once; a process is spawned without one. -/
def connectStep (state : State) (outcome : Except String Unit) : Option State :=
  let spawn : State :=
    match outcome with
    | .ok () =>
      { state with
        processes := state.processes ++ [.spawned]
        serving := .settingUp state.processes.length }
    | .error error => state.finish (.error error)
  match state.serving with
  | .connecting =>
    if state.socket then some { state with socket := false, serving := .attaching } else some spawn
  | .spawning => some spawn
  | _ => none

/-- `attach` reads a pid. -/
def readPid (state : State) (opened : Except String Unit) : Option State :=
  match state.serving, state.processes[0]? with
  | .attaching, some process =>
    process.pid.map fun pid =>
      let read := state.setProcess 0 { process with pid := none }
      if isValidPid pid then
        match opened with
        | .ok () => { read with serving := .greeting 0 }
        | .error error => read.finish (.error error)
      else read.finish (.error "forked worker sent an invalid pid")
  | _, _ => none

/-- `attach` reads end-of-file: the slot is closed, and everything in it is read. -/
def readEnd (state : State) : Option State :=
  match state.serving, state.processes[0]? with
  | .attaching, some process =>
    if process.place = .gone ∧ process.pid = none then
      some { state.modify 0 .hangUp with serving := .spawning }
    else none
  | _, _ => none

/-- A read or a write of the master fails. -/
def failStep (state : State) (source : String) : Option State :=
  match state.serving with
  | .attaching => some (state.finish (.error source))
  | .settingUp process => some { state with serving := .startDraining process "setup" source }
  | .greeting process => some { state with serving := .startDraining process "handshake" source }
  | .sendingWork path => some { state with serving := .draining path "request" source }
  | .awaitingEvent path => some { state with serving := .draining path "event" source }
  | .awaitingStatus path _ => some { state with serving := .draining path "status" source }
  | _ => none

/-- A time limit passes. A worker that is attached is dropped, one that is spawned is killed and
awaited. -/
def timeoutStep (spec : Spec) (state : State) : Option State :=
  let attached : Except String Unit :=
    .error (s!"forked worker {spec.label} did not start within " ++
      s!"{spec.config.itemTimeoutSeconds}s")
  let late (process : Nat) : State :=
    if spec.forked && process == 0 then state.finish attached
    else
      { state.modify process .kill with
        serving := .startDraining process "handshake"
          s!"worker did not start within {spec.config.itemTimeoutSeconds}s" }
  match state.serving with
  | .attaching => some (state.finish attached)
  | .settingUp process | .greeting process | .startDraining process _ _ => some (late process)
  | .sendingWork path | .awaitingEvent path | .awaitingStatus path _ | .draining path _ _ =>
    state.held.map fun index => { state.modify index .kill with serving := .aborting path }
  | _ => none

/-- A process that is awaited is dead. The exit status of a forked one is not known. -/
def exitedStep (spec : Spec) (state : State) (status : Option String) (stderr : String) :
    Option State :=
  let known (index : Option Nat) : Option String :=
    if spec.forked && index == some 0 then none else status
  match state.serving with
  | .startDraining process phase source =>
    if state.isGone process then
      some (state.finish (.error
        (exitError spec.label phase "<startup>" source (known process) stderr)))
    else none
  | .draining path phase source =>
    if state.isHeldGone then
      let error :=
        exitError spec.label phase (".".intercalate path) source (known state.held) stderr
      some (state.answer path (.error error) .ready)
    else none
  | .aborting path =>
    if state.isHeldGone then some (state.answer path (.error (timeoutReport spec path)) .ready)
    else none
  | .retiring => if state.isHeldGone then some { state with serving := .connecting } else none
  | .waiting => if state.isHeldGone then some (state.finish (.ok ())) else none
  | _ => none

/-- The step of both ends. -/
def linkStep (spec : Spec) (state : State) : LinkAction → Option State
  | .cancel => some { state with cancel := true }
  | .abort =>
    if state.cancel && !state.serving.isOver then some (state.leave .aborted) else none
  | .early command =>
    if spec.forked && state.held.isNone && state.serving.isConnecting then
      match command with
      | some (.work _) => some (state.finish (.error (earlyWorkError spec.label)))
      | some .stop | none => some (state.finish (.ok ()))
    else none
  | .connect outcome => connectStep state outcome
  | .readPid opened => readPid state opened
  | .readEnd => readEnd state
  | .command command =>
    match state.serving with
    | .receiving =>
      if state.cancel then some { state with serving := .sendingCancelled }
      else
        match command with
        | .work item =>
          some { state with serving := .sendingWork item.path, taken := state.taken ++ [item.path] }
        | .stop => some { state with serving := .stopping }
    | _ => none
  | .closed =>
    match state.serving with
    | .receiving => some { state with serving := .stopping }
    | _ => none
  | .write =>
    match state.serving with
    | .settingUp index =>
      (state.processes[index]?).map fun process =>
        { state.setProcess index (process.send (.setup spec.config none none) []) with
          serving := .greeting index }
    | .sendingWork path =>
      (state.request (.work path) [(state.taken.length - 1, path)]).map fun written =>
        { written with serving := .awaitingEvent path }
    | _ => none
  | .read => readMessage spec state
  | .failed source => failStep state source
  | .timeout => timeoutStep spec state
  | .exited status stderr => exitedStep spec state status stderr
  | .send delivered =>
    match state.serving with
    | .announcing =>
      some (if delivered then { state with serving := .receiving } else state.finish (.ok ()))
    | .sendingResult path answer status =>
      some { state with
        serving := if delivered then .settling (Answer.isError answer) status else .stopping
        reports := state.reports ++
          [⟨state.taken.length - 1, path, answer, status, state.held⟩] }
    | .sendingCancelled => some { state with serving := .stopping }
    | _ => none
  | .settle =>
    match state.serving with
    | .settling failed status =>
      some { state with
        serving :=
          if failed && !state.cancel then .connecting
          else if status = .restart then .retiring
          else .receiving }
    | _ => none
  | .stop written =>
    match state.serving with
    | .stopping =>
      let asked := if written then (state.request .shutdown []).getD state else state
      some { asked with serving := .waiting }
    | _ => none
  | .process index action =>
    match state.processes[index]? with
    | some process => (runStep spec.config process action).map (state.setProcess index)
    | none => none

/-- The machine of a local worker. -/
def linkMachine (spec : Spec) : Machine State LinkAction where
  start state := state = .initial spec
  step := linkStep spec

end Evix.LocalWorker
