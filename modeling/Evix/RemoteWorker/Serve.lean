import Evix.Library.Machine

/-!
# The accept loop of a remote service

`serve` beside its clients and the tasks of its connections. A connection holds a permit of a
semaphore until its task ends; without a permit it is dropped.
-/

namespace Evix.RemoteWorker

open Machines

/-- `MAX_REMOTE_CONNECTIONS`. -/
def maxRemoteConnections : Nat := 64

/-- Where `serve` is. -/
inductive ListenPlace (ι : Type) where
  /-- Before the token is checked. -/
  | starting
  /-- Before `bind`. -/
  | binding
  /-- Before `accept`. -/
  | accepting
  /-- Before `try_acquire_owned`. -/
  | accepted (client : ι)
  /-- It has a permit: before `tokio::spawn`. -/
  | spawning (client : ι)
  /-- It has returned an error. -/
  | returned (error : String)
  deriving DecidableEq

/-- A remote service. -/
structure ListenState (ι : Type) where
  /-- Where it is. -/
  place : ListenPlace ι
  /-- The permits of the semaphore that are free. -/
  permits : Nat
  /-- The connections that are not accepted yet. -/
  waiting : List ι
  /-- The connections that have a task, with the token their master must know. -/
  serving : List (ι × Option String)
  /-- The connections whose task has ended. -/
  closed : List (ι × Option String)
  /-- Every client that has connected, in order. -/
  arrived : List ι
  /-- Every client for which `try_acquire_owned` was called, in order, and whether there was a
  permit. -/
  decided : List (ι × Bool)
  deriving DecidableEq

/-- What may happen. -/
inductive ListenAction (ι : Type) where
  /-- A client connects. -/
  | connect (client : ι)
  /-- The task of a connection ends, or panics. -/
  | finish (index : Nat)
  /-- `serve` goes on; its system call may fail. -/
  | main (outcome : Except String Unit)

variable {ι : Type} (addr : String) (token : Option String)

/-- The next step of `serve`. Options of the socket that cannot be set are only logged. -/
def serveMain (state : ListenState ι) (outcome : Except String Unit) : Option (ListenState ι) :=
  match state.place with
  | .starting => some { state with
      place := if token = some "" then .returned "remote worker token must not be empty"
        else .binding }
  | .binding =>
    match outcome with
    | .ok () => some { state with place := .accepting }
    | .error _ => some { state with
        place := .returned s!"binding evix worker listener at {addr}" }
  | .accepting =>
    match outcome, state.waiting with
    | .ok (), client :: waiting => some { state with place := .accepted client, waiting }
    | .ok (), [] => none
    | .error error, _ => some { state with place := .returned error }
  | .accepted client =>
    match state.permits with
    | permits + 1 => some { state with
        place := .spawning client, permits, decided := state.decided ++ [(client, true)] }
    | 0 => some { state with
        place := .accepting, decided := state.decided ++ [(client, false)] }
  | .spawning client => some { state with
      place := .accepting, serving := state.serving ++ [(client, token)] }
  | .returned _ => none

/-- The step of the service. -/
def serveStep (state : ListenState ι) : ListenAction ι → Option (ListenState ι)
  | .connect client => some { state with
      waiting := state.waiting ++ [client], arrived := state.arrived ++ [client] }
  | .finish index =>
    match state.serving[index]? with
    | some connection => some { state with
        permits := state.permits + 1
        serving := state.serving.eraseIdx index
        closed := state.closed ++ [connection] }
    | none => none
  | .main outcome => serveMain addr token state outcome

/-- The machine of `serve`, whose semaphore begins with all its permits. -/
def serveMachine : Machine (ListenState ι) (ListenAction ι) where
  start state := state = ⟨.starting, maxRemoteConnections, [], [], [], [], []⟩
  step := serveStep addr token

end Evix.RemoteWorker
