import Evix.AsyncMaster.Coordinate

/-!
# A remote worker and its service

The two ends of one remote worker: `serve_worker` with the methods of `RemoteWorker` at the
master, and one `serve_connection` for each connection the master has opened. Messages travel
in order in each direction. A read or a write may fail at any time, a time limit may pass at
any time, and the service may drop a connection at any time; a stream whose read was abandoned
is not told apart from the others, so that using it again would show.

The fields below `service` of a connection and below `cancel` of the state are history.
-/

namespace Evix.RemoteWorker

open Machines

/-- What the master knows of a remote worker. -/
structure Spec where
  /-- Name in messages. -/
  label : String
  /-- Configuration sent in the setup. -/
  config : WorkerConfig
  /-- Shared token. -/
  token : Option String
  /-- Store directory of the master. -/
  storeDir : String
  /-- Debug rendering of a message. -/
  debug : ServerMessage → String

/-- Where `serve_connection` is. -/
inductive Service where
  /-- Reading the first message. -/
  | setup
  /-- Starting the evaluator. -/
  | spawning
  /-- Reading the next message. -/
  | idle
  /-- Evaluating, while a message may arrive. -/
  | evaluating (path : List String)
  /-- Writing the event. -/
  | answering (event : Event) (status : WorkerStatus)
  /-- Writing the status. -/
  | reporting (status : WorkerStatus)
  /-- Restarting the evaluator after its memory limit. -/
  | restarting
  /-- The connection is dropped. -/
  | closed
  deriving DecidableEq

/-- One connection, as both ends have it. -/
structure Connection where
  /-- Messages to the service. -/
  requests : List ClientMessage
  /-- Messages to the master. -/
  responses : List ServerMessage
  /-- Where the service is. -/
  service : Service
  /-- Work the master has written, each with the number of its item. -/
  works : List (Nat × List String)
  /-- Work the service has begun to evaluate. -/
  begun : List (List String)
  /-- What the evaluator has produced, with the path it was produced for. -/
  produced : List (List String × Event × WorkerStatus)
  /-- Messages the master has read. -/
  received : List ServerMessage
  /-- Whether work arrived while an attribute was in flight. -/
  intruded : Bool

/-- What may happen to a service. -/
inductive ServiceAction where
  /-- The first message is checked; a refusal may be reported before the connection is dropped. -/
  | setup (verdict : Except (Option String) Unit)
  /-- The evaluator has started. -/
  | spawned
  /-- A message is read. -/
  | request
  /-- The evaluator returns. -/
  | evaluated (result : Except String (Event × WorkerStatus))
  /-- A message is written. -/
  | write
  /-- The evaluator has restarted. -/
  | restarted
  /-- The service fails, or the connection breaks. -/
  | drop

/-- The step of `serve_connection`. -/
def serviceStep (connection : Connection) : ServiceAction → Option Connection
  | .setup verdict =>
    match connection.service, connection.requests with
    | .setup, .setup .. :: requests =>
      match verdict with
      | .ok () => some { connection with requests, service := .spawning }
      | .error (some refusal) =>
        some { connection with
          requests, responses := connection.responses ++ [.error refusal], service := .closed }
      | .error none => some { connection with requests, service := .closed }
    | .setup, _ :: requests => some { connection with requests, service := .closed }
    | _, _ => none
  | .spawned =>
    match connection.service with
    | .spawning =>
      some { connection with responses := connection.responses ++ [.ready], service := .idle }
    | _ => none
  | .request =>
    match connection.service, connection.requests with
    | .idle, .work path :: requests =>
      some { connection with
        requests, service := .evaluating path, begun := connection.begun ++ [path] }
    | .evaluating _, .work _ :: requests =>
      some { connection with requests, service := .closed, intruded := true }
    | .idle, _ :: requests | .evaluating _, _ :: requests =>
      some { connection with requests, service := .closed }
    | _, _ => none
  | .evaluated result =>
    match connection.service, result with
    | .evaluating path, .ok (event, status) =>
      some { connection with
        service := .answering event status
        produced := connection.produced ++ [(path, event, status)] }
    | .evaluating _, .error text =>
      some { connection with
        responses := connection.responses ++ [.error text], service := .closed }
    | _, _ => none
  | .write =>
    match connection.service with
    | .answering event status =>
      some { connection with
        responses := connection.responses ++ [.event event], service := .reporting status }
    | .reporting status =>
      some { connection with
        responses := connection.responses ++ [.status status]
        service := if status = .restart then .restarting else .idle }
    | _ => none
  | .restarted =>
    match connection.service with
    | .restarting => some { connection with service := .idle }
    | _ => none
  | .drop =>
    match connection.service with
    | .closed => none
    | _ => some { connection with service := .closed }

/-- Where `serve_worker` is, for a remote worker. -/
inductive Serving where
  /-- `RemoteWorker::connect`, up to the setup. -/
  | opening
  /-- Reading the handshake of a new connection. -/
  | handshake (link : Nat)
  /-- Waiting for a command. -/
  | receiving
  /-- `RemoteWorker::work` writes the request. -/
  | sendingWork (path : List String)
  /-- `RemoteWorker::work` reads the event. -/
  | awaitingEvent (path : List String)
  /-- `RemoteWorker::work` reads the status. -/
  | awaitingStatus (path : List String) (event : Event)
  /-- Sending the result of an item. -/
  | sendingResult (path : List String) (answer : Answer)
  /-- The result is sent. -/
  | settling (failed : Bool)
  /-- Cancellation was seen after a command was taken. -/
  | sendingCancelled
  /-- `RemoteWorker::stop`. -/
  | stopping
  /-- `serve_worker` has returned. -/
  | ended (result : Except String Unit)
  /-- The task was aborted. -/
  | aborted

namespace Serving

/-- Whether an item is taken up and its result not sent. -/
def isBusy : Serving → Bool
  | .sendingWork _ | .awaitingEvent _ | .awaitingStatus .. | .sendingResult .. => true
  | _ => false

/-- Whether the task is over. -/
def isOver : Serving → Bool
  | .ended _ | .aborted => true
  | _ => false

end Serving

/-- A `WorkerResult`, with the number of its item and the stream at that moment. -/
structure Report where
  /-- Number of the item. -/
  item : Nat
  /-- Its path. -/
  path : List String
  /-- The event, or the failure. -/
  answer : Answer
  /-- The connection the worker holds. -/
  link : Option Nat

/-- The state of both ends. -/
structure State where
  /-- Where `serve_worker` is. -/
  serving : Serving
  /-- `RemoteWorker::stream`, by the position of its connection. -/
  stream : Option Nat
  /-- Every connection opened. -/
  connections : List Connection
  /-- The cancellation flag. -/
  cancel : Bool
  /-- Paths taken up for evaluation; an item's number is its position. -/
  taken : List (List String)
  /-- Results sent. -/
  reports : List Report
  /-- Whether an event response was unexpected. -/
  unexpectedEvent : Bool
  /-- Whether a status response was unexpected. -/
  unexpectedStatus : Bool

/-- The task before it connects. -/
def State.initial : State := ⟨.opening, none, [], false, [], [], false, false⟩

/-- A new connection, with the setup written. -/
def Connection.fresh (spec : Spec) : Connection :=
  ⟨[.setup spec.config spec.token (some spec.storeDir)], [], .setup, [], [], [], [], false⟩

/-- The master reads the first response. -/
def Connection.receive (connection : Connection) (message : ServerMessage)
    (responses : List ServerMessage) : Connection :=
  { connection with responses, received := connection.received ++ [message] }

/-- The master writes a request. -/
def Connection.send (connection : Connection) (message : ClientMessage)
    (works : List (Nat × List String)) : Connection :=
  { connection with
    requests := connection.requests ++ [message], works := connection.works ++ works }

/-- What may happen. -/
inductive LinkAction where
  /-- Cancellation is requested. -/
  | cancel
  /-- A cancelled run aborts the task. -/
  | abort
  /-- A connection is opened and the setup written, or not. -/
  | opened (outcome : Except String Unit)
  /-- A command arrives. -/
  | command (command : WorkerCommand)
  /-- The work channel is closed. -/
  | closed
  /-- The request is written. -/
  | write
  /-- A response is read. -/
  | read
  /-- A write or a read fails, or the response time limit passes. -/
  | failed (report : String)
  /-- The item time limit passes. -/
  | itemTimeout
  /-- A message to the coordinator is sent, or refused. -/
  | send (delivered : Bool)
  /-- The task decides how to go on. -/
  | settle
  /-- The shutdown is written, or not, and the connection dropped. -/
  | stop (written : Bool)
  /-- The service of a connection moves. -/
  | service (link : Nat) (action : ServiceAction)

/-- The failure of `work_with_timeout`. -/
def timeoutReport (spec : Spec) (path : List String) : String :=
  s!"worker {spec.label} timed out evaluating {displayAttr path} after " ++
    s!"{spec.config.itemTimeoutSeconds} seconds"

namespace State

/-- `serve_worker` returns, and its worker is dropped. -/
def finish (state : State) (result : Except String Unit) : State :=
  { state with serving := .ended result, stream := none }

/-- `RemoteWorker::work` returns. -/
def answer (state : State) (path : List String) (answer : Answer) : State :=
  { state with serving := .sendingResult path answer }

/-- A connection changes. -/
def setConnection (state : State) (link : Nat) (connection : Connection) : State :=
  { state with connections := state.connections.set link connection }

/-- The master takes the next response of a connection. -/
def takeResponse (state : State) (link : Nat) : Option (ServerMessage × State) :=
  match state.connections[link]? with
  | some connection =>
    match connection.responses with
    | message :: responses =>
      some (message, state.setConnection link (connection.receive message responses))
    | [] => none
  | none => none

/-- The master writes a request on the connection its worker holds. -/
def request (state : State) (message : ClientMessage) (works : List (Nat × List String)) :
    Option State :=
  match state.stream with
  | some link =>
    (state.connections[link]?).map fun connection =>
      state.setConnection link (connection.send message works)
  | none => none

end State

/-- What `connect` makes of the handshake. -/
def handshakeResponse (spec : Spec) (link : Nat) (message : ServerMessage) (state : State) :
    State :=
  match expectReady spec.debug message spec.label with
  | .ok () => { state with serving := .receiving, stream := some link }
  | .error error => state.finish (.error error)

/-- What `RemoteWorker::work` makes of the first response. -/
def eventResponse (spec : Spec) (path : List String) (message : ServerMessage) (state : State) :
    State :=
  match message with
  | .event event => { state with serving := .awaitingStatus path event }
  | .error error => state.answer path (.error s!"remote worker {spec.label}: {error}")
  | other =>
    { state.answer path (.error
      s!"remote worker {spec.label} sent unexpected event response: {spec.debug other}") with
      unexpectedEvent := true }

/-- What `RemoteWorker::work` makes of the second response. -/
def statusResponse (spec : Spec) (path : List String) (event : Event) (message : ServerMessage)
    (state : State) : State :=
  match message with
  | .status _ => state.answer path (.ok event)
  | .error error => state.answer path (.error s!"remote worker {spec.label}: {error}")
  | other =>
    { state.answer path (.error
      s!"remote worker {spec.label} sent unexpected status response: {spec.debug other}") with
      unexpectedStatus := true }

/-- The master reads a response. -/
def readResponse (spec : Spec) (state : State) : Option State :=
  match state.serving with
  | .handshake link =>
    (state.takeResponse link).map fun read => handshakeResponse spec link read.1 read.2
  | .awaitingEvent path =>
    (state.stream.bind state.takeResponse).map fun read => eventResponse spec path read.1 read.2
  | .awaitingStatus path event =>
    (state.stream.bind state.takeResponse).map fun read =>
      statusResponse spec path event read.1 read.2
  | _ => none

/-- The master writes the request of an item. -/
def writeWork (spec : Spec) (state : State) : Option State :=
  match state.serving with
  | .sendingWork path =>
    match state.stream with
    | some _ =>
      (state.request (.work path) [(state.taken.length - 1, path)]).map fun written =>
        { written with serving := .awaitingEvent path }
    | none => some (state.answer path (.error s!"remote worker {spec.label} is closed"))
  | _ => none

/-- The master writes the shutdown and drops the connection. -/
def stopStep (state : State) (written : Bool) : Option State :=
  match state.serving with
  | .stopping =>
    let written := if written then (state.request .shutdown []).getD state else state
    some (written.finish (.ok ()))
  | _ => none

/-- The step of both ends. -/
def linkStep (spec : Spec) (state : State) : LinkAction → Option State
  | .cancel => some { state with cancel := true }
  | .abort =>
    if state.cancel && !state.serving.isOver then
      some { state with serving := .aborted, stream := none }
    else none
  | .opened outcome =>
    match state.serving, outcome with
    | .opening, .ok () =>
      some { state with
        connections := state.connections ++ [.fresh spec]
        serving := .handshake state.connections.length }
    | .opening, .error error => some (state.finish (.error error))
    | _, _ => none
  | .command command =>
    match state.serving with
    | .receiving =>
      if state.cancel then some { state with serving := .sendingCancelled }
      else
        match command with
        | .work item =>
          some { state with serving := .sendingWork item.path, taken := state.taken ++ [item.path] }
        | .stop => some { state with serving := .stopping }
    | _ => none
  | .closed =>
    match state.serving with
    | .receiving => some { state with serving := .stopping }
    | _ => none
  | .write => writeWork spec state
  | .read => readResponse spec state
  | .failed report =>
    match state.serving with
    | .handshake _ => some (state.finish (.error report))
    | .sendingWork path | .awaitingEvent path | .awaitingStatus path _ =>
      some (state.answer path (.error report))
    | _ => none
  | .itemTimeout =>
    match state.serving with
    | .sendingWork path | .awaitingEvent path | .awaitingStatus path _ =>
      some { state.answer path (.error (timeoutReport spec path)) with stream := none }
    | _ => none
  | .send delivered =>
    match state.serving with
    | .sendingResult path answer =>
      some { state with
        serving := if delivered then .settling (Answer.isError answer) else .stopping
        reports := state.reports ++ [⟨state.taken.length - 1, path, answer, state.stream⟩] }
    | .sendingCancelled => some { state with serving := .stopping }
    | _ => none
  | .settle =>
    match state.serving with
    | .settling failed =>
      some { state with serving := if failed && !state.cancel then .opening else .receiving }
    | _ => none
  | .stop written => stopStep state written
  | .service link action =>
    match state.connections[link]? with
    | some connection => (serviceStep connection action).map (state.setConnection link)
    | none => none

/-- The machine of a remote worker. -/
def linkMachine (spec : Spec) : Machine State LinkAction where
  start state := state = .initial
  step := linkStep spec

end Evix.RemoteWorker
