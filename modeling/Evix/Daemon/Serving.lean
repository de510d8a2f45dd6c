import Evix.Daemon.Response
import Evix.Library.Machine

/-!
# The accept loop of the daemon

`serve_connections` beside everything it interleaves with: clients that connect, connection threads
that end, and signal handlers that run between any two steps. A handler first sets the flag and
then writes to the pipe that `poll` watches. A thread is always created: the panic of
`thread::spawn` when there can be no other is left out.
-/

namespace Evix

open Machines

/-! ## Connection slots -/

/-- `ConnectionLimiter`, for any limit; that of the daemon, `MAX_CONNECTIONS`, is 64. -/
structure ConnectionLimiter where
  /-- How many slots are taken. -/
  active : UInt64
  /-- How many slots there are. -/
  max : UInt64
  deriving DecidableEq

namespace ConnectionLimiter

/-- `ConnectionLimiter::new`. -/
def new (max : UInt64) : ConnectionLimiter := ⟨0, max⟩

/-- `ConnectionLimiter::acquire`. -/
def acquire (limiter : ConnectionLimiter) : Option ConnectionLimiter :=
  if limiter.max ≤ limiter.active then none
  else some { limiter with active := limiter.active + 1 }

/-- `ConnectionSlot::drop`: the subtraction of a machine word. -/
def release (limiter : ConnectionLimiter) : ConnectionLimiter :=
  { limiter with active := limiter.active - 1 }

end ConnectionLimiter

/-- The answer to a client for which there is no slot. -/
def limitExceeded : Response := .error "daemon connection limit exceeded"

/-! ## The shutdown pipe -/

/-- The pipe of `ShutdownSignals`, whose write end does not block. -/
structure SignalPipe where
  /-- How many bytes it can hold. -/
  capacity : Nat
  /-- How many bytes it holds. -/
  bytes : Nat
  /-- It can hold something. -/
  positive : 0 < capacity
  /-- It holds no more than it can. -/
  within : bytes ≤ capacity
  deriving DecidableEq

namespace SignalPipe

/-- An empty pipe. -/
def empty (capacity : Nat) (positive : 0 < capacity) : SignalPipe :=
  ⟨capacity, 0, positive, Nat.zero_le _⟩

/-- The write of a handler: it fails when the pipe is full, and the error is ignored. -/
def write (pipe : SignalPipe) : SignalPipe :=
  if room : pipe.bytes < pipe.capacity then
    { pipe with bytes := pipe.bytes + 1, within := room }
  else pipe

/-- Whether `poll` reports the read end. -/
def readable (pipe : SignalPipe) : Bool := decide (0 < pipe.bytes)

/-- A pipe that was written to is readable. -/
@[simp]
theorem readable_write (pipe : SignalPipe) : pipe.write.readable = true := by
  simp only [readable, write]
  split
  · simp
  · rename_i full
    have positive := pipe.positive
    simp only [decide_eq_true_eq]
    omega

end SignalPipe

/-! ## The loop -/

/-- Where the thread of `serve_connections` is. -/
inductive ServePlace (ι : Type) where
  /-- Before it loads the flag. -/
  | checking
  /-- `wait_for_connection_or_shutdown`: before `poll`. -/
  | polling
  /-- After `poll`, with what it reported of the pipe. -/
  | polled (readable : Bool)
  /-- Before `accept`. -/
  | accepting
  /-- Before `ConnectionLimiter::acquire`. -/
  | accepted (client : ι)
  /-- There is no slot: before `write_response`. -/
  | refusing (client : ι)
  /-- There is a slot: before `thread::spawn`. -/
  | spawning (client : ι)
  /-- It has returned. -/
  | returned (result : Except String Unit)
  deriving DecidableEq

/-- How a system call ends. -/
inductive CallOutcome where
  /-- It succeeds. -/
  | ok
  /-- It is interrupted by a signal. -/
  | interrupted
  /-- It fails. -/
  | failed
  deriving DecidableEq

/-- The daemon while it serves. -/
structure ServeState (ι : Type) where
  /-- Where its thread is. -/
  place : ServePlace ι
  /-- The slots. -/
  limiter : ConnectionLimiter
  /-- `SHUTDOWN_REQUESTED`. -/
  requested : Bool
  /-- How many signal handlers have set the flag and have not written yet. -/
  raising : Nat
  /-- The shutdown pipe. -/
  pipe : SignalPipe
  /-- The connections that are not accepted yet. -/
  waiting : List ι
  /-- The connections that have a thread. -/
  handling : List ι
  /-- The connections whose thread has ended. -/
  closed : List ι
  /-- Every client that has connected, in order. -/
  arrived : List ι
  /-- Every client for which `acquire` was called, in order, and whether there was a slot. -/
  decided : List (ι × Bool)
  /-- What was written to clients for which there was no slot. -/
  answers : List (ι × Response)
  deriving DecidableEq

/-- What may happen. -/
inductive ServeAction (ι : Type) where
  /-- A client connects. -/
  | connect (client : ι)
  /-- `handle_shutdown_signal` sets the flag. -/
  | signal
  /-- `handle_shutdown_signal` writes to the pipe. -/
  | raise
  /-- A connection thread ends and drops its slot. -/
  | finish (index : Nat)
  /-- The thread of `serve_connections` goes on. -/
  | main (outcome : CallOutcome)

variable {ι : Type}

/-- The next step of `serve_connections`. `poll` blocks until something is there, and `accept` until
there is a connection. -/
def serveMain (state : ServeState ι) (outcome : CallOutcome) : Option (ServeState ι) :=
  match state.place with
  | .checking =>
    some { state with place := if state.requested then .returned (.ok ()) else .polling }
  | .polling =>
    match outcome with
    | .ok =>
      if state.pipe.readable || !state.waiting.isEmpty then
        some { state with place := .polled state.pipe.readable }
      else none
    | .interrupted => some (if state.requested then { state with place := .returned (.ok ()) }
        else state)
    | .failed => some { state with place := .returned (.error "polling daemon listener") }
  | .polled readable =>
    some { state with
      place := if state.requested || readable then .returned (.ok ()) else .accepting }
  | .accepting =>
    match outcome, state.waiting with
    | .ok, client :: waiting => some { state with place := .accepted client, waiting }
    | .ok, [] => none
    | .interrupted, _ | .failed, _ => some { state with place := .checking }
  | .accepted client =>
    match state.limiter.acquire with
    | some limiter => some { state with
        place := .spawning client, limiter, decided := state.decided ++ [(client, true)] }
    | none => some { state with
        place := .refusing client, decided := state.decided ++ [(client, false)] }
  | .refusing client =>
    match outcome with
    | .ok => some { state with
        place := .checking, answers := state.answers ++ [(client, limitExceeded)] }
    | .interrupted | .failed => some { state with place := .checking }
  | .spawning client => some { state with
      place := .checking, handling := state.handling ++ [client] }
  | .returned _ => none

/-- The step of the daemon. -/
def serveStep (state : ServeState ι) : ServeAction ι → Option (ServeState ι)
  | .connect client => some { state with
      waiting := state.waiting ++ [client], arrived := state.arrived ++ [client] }
  | .signal => some { state with requested := true, raising := state.raising + 1 }
  | .raise =>
    match state.raising with
    | raising + 1 => some { state with raising, pipe := state.pipe.write }
    | 0 => none
  | .finish index =>
    match state.handling[index]? with
    | some client => some { state with
        limiter := state.limiter.release
        handling := state.handling.eraseIdx index
        closed := state.closed ++ [client] }
    | none => none
  | .main outcome => serveMain state outcome

/-- The daemon when it begins to serve. -/
def ServeState.IsFresh (max : UInt64) (state : ServeState ι) : Prop :=
  ∃ pipe : SignalPipe, pipe.readable = false ∧
    state = ⟨.checking, .new max, false, 0, pipe, [], [], [], [], [], []⟩

/-- The machine of `serve_connections`, with a limit. -/
def serveMachine (max : UInt64) : Machine (ServeState ι) (ServeAction ι) where
  start := ServeState.IsFresh max
  step := serveStep

end Evix
