import Evix.Daemon.SessionCache
import Evix.Filter
import Evix.Library.Machine

/-!
# The request handlers of the daemon

Any number of handlers over one session cache. A step is one section under the registry's lock, or
what a handler does between two of them: it writes to its client, which may be gone, or it waits
for its session.

The fields of a handler below `place` and those of the daemon below `handlers` are history.
-/

namespace Evix

open Machines

/-- A request. -/
inductive Request where
  /-- Evaluate in a new session. -/
  | eval (config : Config)
  /-- Replay the last evaluation. -/
  | replay (config : Config)
  /-- Watch in a new session. -/
  | watch (config : Config)
  /-- Query a warm session. -/
  | query (config : Config) (filter : Filter)
  /-- Evaluate a warm session again. -/
  | diff (config : Config)

/-- The configuration of a request. -/
def Request.config : Request → Config
  | .eval config | .replay config | .watch config | .query config _ | .diff config => config

/-- Where a handler is. -/
inductive HandlerPlace where
  /-- Before its first section. -/
  | starting
  /-- `handle_eval`: streaming events, with the lines recorded. -/
  | streaming (session : Nat) (recorded : Option Bytes)
  /-- Before `settle_replay`. -/
  | settling (session : Nat) (replay : Replay)
  /-- `handle_watch`: streaming diffs. -/
  | watching (session : Nat)
  /-- `handle_query` or `handle_diff`, with its warm session. -/
  | warm (session : Nat)
  /-- Writing the last responses. -/
  | answering
  /-- The handler has returned. -/
  | over (result : Except String Unit)
  deriving DecidableEq

/-- A handler. -/
structure Handler where
  /-- Its request. -/
  request : Request
  /-- Where it is. -/
  place : HandlerPlace
  /-- The session it works on. -/
  session : Option Nat
  /-- The event lines it has written to its client, each with its event. -/
  written : List (Event × Bytes)
  /-- Whether its stream has given an error. -/
  errored : Bool
  /-- Whether its stream has ended. -/
  ended : Bool

/-- A handler before its first section. -/
def Handler.fresh (request : Request) : Handler := ⟨request, .starting, none, [], false, false⟩

/-- The daemon. -/
structure Daemon where
  /-- The session cache. -/
  registry : SessionRegistry CachedSession
  /-- Its handlers, in the order of the requests. -/
  handlers : List Handler
  /-- The key of every session installed; a session is its position. -/
  installs : List String
  /-- The sessions whose replay a diff has invalidated. -/
  invalidated : List Nat

/-- A daemon just started. -/
def Daemon.started : Daemon := ⟨.new maxSessions, [], [], []⟩

/-- What may happen to a handler. -/
inductive HandlerAction where
  /-- Its next section. -/
  | proceed
  /-- Its new session cannot be opened. -/
  | unopened (error : String)
  /-- Its event stream gives an item, which the client takes or not. -/
  | item (item : Except String Event) (delivered : Bool)
  /-- Its stream ends. -/
  | ended
  /-- Its session has answered. -/
  | answered (outcome : Except String Unit)
  /-- A response is written, or the client is gone. -/
  | wrote (delivered : Bool)

/-- The error of a handler whose client is gone. -/
def clientGone : String := "Broken pipe (os error 32)"

section Steps

variable (serializer : Serializer) (daemon : Daemon) (handler : Handler)

/-- A handler leaves its place. -/
def Handler.goes (handler : Handler) (place : HandlerPlace) : Handler := { handler with place }

/-- A handler returns an error. -/
def Handler.fails (handler : Handler) (error : String) : Handler :=
  handler.goes (.over (.error error))

/-- The first section of a handler. -/
def startHandler : Daemon × Handler :=
  match serializer.sessionKey handler.request.config with
  | .error error => (daemon, handler.fails error)
  | .ok key =>
    match handler.request with
    | .eval _ | .watch _ =>
      let session := daemon.installs.length
      ({ daemon with
        registry := daemon.registry.replaceSession key session
        installs := daemon.installs ++ [key] },
        { handler with
          session := some session
          place :=
            match handler.request with
            | .eval _ => .streaming session (some [])
            | _ => .settling session .invalidated })
    | .replay _ =>
      match daemon.registry.replay key with
      | (.ok _, registry) => ({ daemon with registry }, handler.goes .answering)
      | (.error error, registry) => ({ daemon with registry }, handler.fails error)
    | .query .. | .diff _ =>
      match daemon.registry.warmSession key with
      | (.ok session, registry) =>
        ({ daemon with registry }, { handler with session := some session, place := .warm session })
      | (.error error, registry) => ({ daemon with registry }, handler.fails error)

/-- `settle_replay`, and where the handler goes on. -/
def settleHandler (session : Nat) (replay : Replay) : Daemon × Handler :=
  match serializer.sessionKey handler.request.config with
  | .error error => (daemon, handler.fails error)
  | .ok key =>
    let settled := { daemon with registry := daemon.registry.settleReplay key session replay }
    match handler.request with
    | .diff _ =>
      ({ settled with invalidated := daemon.invalidated ++ [session] }, handler.goes .answering)
    | .watch _ => (settled, handler.goes (.watching session))
    | _ => (settled, handler.goes .answering)

/-- The loop body of `handle_eval`. -/
def streamItem (session : Nat) (recorded : Option Bytes) (item : Except String Event)
    (delivered : Bool) : Handler :=
  match item with
  | .ok event =>
    match serializer.eventLine event with
    | .error error => handler.fails error
    | .ok line =>
      if delivered then
        { handler with
          place := .streaming session (recorded.map (· ++ line))
          written := handler.written ++ [(event, line)] }
      else handler.fails clientGone
  | .error _ =>
    let errored := { handler with errored := true }
    if delivered then errored.goes (.streaming session none) else errored.fails clientGone

/-- The step of a handler. -/
def handlerStep (action : HandlerAction) : Option (Daemon × Handler) :=
  match action, handler.place with
  | .proceed, .starting => some (startHandler serializer daemon handler)
  | .proceed, .settling session replay =>
    some (settleHandler serializer daemon handler session replay)
  | .item item delivered, .streaming session recorded =>
    some (daemon, streamItem serializer handler session recorded item delivered)
  | .ended, .streaming session recorded =>
    some (daemon, { handler with
      ended := true
      place := .settling session
        (match recorded with
        | some lines => .ready lines
        | none => .invalidated) })
  | .wrote true, .watching _ | .wrote true, .answering => some (daemon, handler)
  | .wrote false, .watching _ | .wrote false, .answering =>
    some (daemon, handler.fails clientGone)
  | .ended, .watching _ | .ended, .answering => some (daemon, handler.goes (.over (.ok ())))
  | .answered (.ok ()), .warm session =>
    some (daemon, handler.goes (match handler.request with
      | .diff _ => .settling session .invalidated
      | _ => .answering))
  | .answered (.error error), .warm _ => some (daemon, handler.fails error)
  | .unopened error, .starting =>
    match handler.request with
    | .eval _ | .watch _ => some (daemon, handler.fails error)
    | _ => none
  | _, _ => none

end Steps

/-- What may happen in the daemon. -/
inductive DaemonAction where
  /-- A request arrives. -/
  | request (request : Request)
  /-- A handler goes on. -/
  | handler (index : Nat) (action : HandlerAction)

/-- The step of the daemon. -/
def daemonStep (serializer : Serializer) (daemon : Daemon) : DaemonAction → Option Daemon
  | .request request => some { daemon with handlers := daemon.handlers ++ [.fresh request] }
  | .handler index action =>
    match daemon.handlers[index]? with
    | some handler =>
      (handlerStep serializer daemon handler action).map fun next =>
        { next.1 with handlers := daemon.handlers.set index next.2 }
    | none => none

/-- The machine of the daemon. -/
def daemonMachine (serializer : Serializer) : Machine Daemon DaemonAction where
  start daemon := daemon = .started
  step := daemonStep serializer

end Evix
