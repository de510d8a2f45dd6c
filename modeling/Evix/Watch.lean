import Evix.Session

/-!
# Watched files

A session and the files its one watch follows. The files are a version that may grow at any
time; once the watcher is registered every change is notified, and a notification takes some
time to reach the queue of the watch loop.

The fields of the state below `queue` are history.
-/

namespace Evix

open Machines

/-- A session and its watched files. -/
structure Watched where
  /-- The session. -/
  session : Session
  /-- How often the files have changed. -/
  version : Nat
  /-- Whether the watcher is registered. -/
  registered : Bool
  /-- Notifications that have not arrived. -/
  transit : Nat
  /-- Notifications the watch loop has not received. -/
  queue : Nat
  /-- The version at which each evaluation was started. -/
  started : List Nat

/-- A session just opened. -/
def Watched.opened : Watched := ⟨.opened, 0, false, 0, 0, []⟩

/-- What may happen. -/
inductive WatchedAction where
  /-- The files change. -/
  | change
  /-- A notification arrives. -/
  | deliver
  /-- `debounce_watch_events` drops a notification. -/
  | drain (index : Nat)
  /-- The session moves. -/
  | session (action : SessionAction)

namespace Watched

/-- Whether a task is in `debounce_watch_events`. -/
def debounces (state : Watched) (index : Nat) : Bool :=
  (state.session.tasks[index]?).any fun task => task.place == .debouncing

/-- What the queue permits: a notification is received when there is one, and the drain ends when
there is none. -/
def permits (state : Watched) : SessionAction → Bool
  | .task _ (.received .change) => 0 < state.queue
  | .task index .proceed => !state.debounces index || state.queue == 0
  | _ => true

/-- What a move of the session leaves behind. -/
def follow (state : Watched) (action : SessionAction) (session : Session) : Watched :=
  { state with
    session
    registered :=
      match action with
      | .task _ (.registered (.ok ())) => true
      | _ => state.registered
    queue :=
      match action with
      | .task _ (.received .change) => state.queue - 1
      | _ => state.queue
    started :=
      if state.session.evaluations.length < session.evaluations.length
      then state.started ++ [state.version] else state.started }

end Watched

/-- The step of a session and its watched files. -/
def watchedStep (state : Watched) : WatchedAction → Option Watched
  | .change =>
    some { state with
      version := state.version + 1
      transit := if state.registered then state.transit + 1 else state.transit }
  | .deliver =>
    if 0 < state.transit then
      some { state with transit := state.transit - 1, queue := state.queue + 1 }
    else none
  | .drain index =>
    if state.debounces index && 0 < state.queue then
      some { state with queue := state.queue - 1 }
    else none
  | .session action =>
    if state.permits action then (sessionStep state.session action).map (state.follow action)
    else none

/-- The machine of a session and its watched files. -/
def watchedMachine : Machine Watched WatchedAction where
  start state := state = .opened
  step := watchedStep

end Evix
