import Evix.Cli
import Evix.Daemon.Framing
import Evix.Daemon.Request
import Evix.Library.Text

/-!
# Conversations with the daemon

`handle_connection` from the check of its peer to the last response, for a client that stays, and
the client's side of it. What the sessions give to a handler is a parameter: the handlers'
interleavings are a machine of their own. An error that is refused is its outermost context; the
daemon writes its causes behind it.
-/

namespace Evix

/-! ## The daemon -/

/-- `authorize_peer`, where `peer` is what the socket says of its peer. -/
def authorizePeer (peer : Except String Nat) (uid : Nat) : Except String Unit :=
  match peer with
  | .error _ => .error "reading daemon peer credentials"
  | .ok peer =>
    if peer = uid then .ok ()
    else .error s!"refusing daemon connection from uid {peer}; expected {uid}"

/-- What becomes of a connection before its request is handled. -/
inductive Admitted where
  /-- Nothing is written. -/
  | silent (result : Except String Unit)
  /-- An error is written, and returned. -/
  | refused (error : String)
  /-- There is a request. -/
  | request (request : Request)

/-- `handle_connection` up to its request. -/
def admitConnection (text : JsonText) (peer : Except String Nat) (uid : Nat) (reader : BufReader) :
    Admitted :=
  match authorizePeer peer uid with
  | .error error => .silent (.error error)
  | .ok () =>
    match readRequestLine reader with
    | .error error => .refused error
    | .ok line =>
      if Text.isBlank line.toList then .silent (.ok ())
      else
        match (text.parse (.ofList (Text.trim line.toList))).bind VersionedRequest.ofDocument with
        | none => .refused "parsing daemon request"
        | some message =>
          match message.validateProtocol with
          | .error error => .refused error
          | .ok () => .request message.request

/-- What the sessions of the daemon give to a handler; an error is one the handler returns. -/
structure Sessions where
  /-- The items of the event stream of a new session. -/
  eval : Config → Except String (List (Except Error Event))
  /-- The recorded events. -/
  replay : Config → Except String (List Event)
  /-- The items of the diff stream of a new session. -/
  watch : Config → Except String (List (Except Error Diff))
  /-- The derivations of a warm session that match a filter. -/
  query : Config → Filter → Except String (List Derivation)
  /-- The difference of a warm session. -/
  diff : Config → Except String Diff

/-- The response of `handle_watch` to an item of its stream. -/
def diffResponse : Except Error Diff → Response
  | .ok diff => .diff diff
  | .error error => .error error.message

/-- What a handler writes: `handle_eval`, `handle_replay`, `handle_watch`, `handle_query` and
`handle_diff`. -/
def handleRequest (sessions : Sessions) : Request → Except String (List Response)
  | .eval config => do return (← sessions.eval config).map itemResponse ++ [.done]
  | .replay config => do return (← sessions.replay config).map .event ++ [.done]
  | .watch config => do return (← sessions.watch config).map diffResponse
  | .query config filter => do
    return (← sessions.query config filter).map (fun d => .event (.derivation d)) ++ [.done]
  | .diff config => do return [.diff (← sessions.diff config), .done]

/-- The end of `handle_connection`: the error of a handler is written, and returned. -/
def finishConnection : Except String (List Response) → List Response × Except String Unit
  | .ok responses => (responses, .ok ())
  | .error error => ([.error error], .error error)

/-- `handle_connection`: what it writes and what it returns. -/
def handleConnection (text : JsonText) (sessions : Sessions) (peer : Except String Nat) (uid : Nat)
    (reader : BufReader) : List Response × Except String Unit :=
  match admitConnection text peer uid reader with
  | .silent result => ([], result)
  | .refused error => ([.error error], .error error)
  | .request request => finishConnection (handleRequest sessions request)

/-! ## The client -/

/-- Whether a client waits for the end of its request. -/
def Request.expectDone : Request → Bool
  | .watch _ => false
  | .eval _ | .replay _ | .query .. | .diff _ => true

/-- What `run_daemon_request` sends. -/
def JsonText.requestBytes (text : JsonText) (document : Json) : List UInt8 :=
  (text.print document).toUTF8.data.toList ++ [Streams.newlineByte]

/-- `run_daemon_request`, reading what the daemon writes. -/
def runDaemonRequest (text : JsonText) (request : Request) (responses : List Response)
    (stdout : Stdout) : Stdout × Except CliError Unit :=
  readResponses text request.expectDone (Text.lines (responses.flatMap text.responseLine)) stdout

/-- `run_local_watch` over the items of its stream. -/
def runLocalWatch (text : JsonText) (stdout : Stdout) :
    List (Except Error Diff) → Stdout × Except CliError Unit
  | [] => (stdout, .ok ())
  | .error error :: _ => (stdout, .error (.evaluation error.message))
  | .ok diff :: items =>
    match writeOutputLine stdout (text.diffLine diff) with
    | (stdout, .ok .continue) => runLocalWatch text stdout items
    | (stdout, .ok .closed) => (stdout, .ok ())
    | (stdout, .error error) => (stdout, .error error)

end Evix
