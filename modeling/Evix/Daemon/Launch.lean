import Evix.Daemon.Response
import Evix.Daemon.Startup

/-!
# Launching the daemon

`run` without `foreground`: the process that was started forks, waits for one line on a socket pair
and exits; its child begins a session, forks again and exits; the grandchild becomes the daemon.
What the daemon does to the path of its socket are the calls of a daemon that stays in the
foreground, among any number of other daemons. A process may be killed anywhere.
-/

namespace Evix

open Machines

/-- Where the process that was started is. -/
inductive LauncherPlace where
  /-- `daemonize`: before `UnixStream::pair`. -/
  | pairing
  /-- Before `fork`. -/
  | forking
  /-- `wait_for_readiness`. -/
  | waiting
  /-- It has printed the path of the socket and exited with code 0. -/
  | printed
  /-- It has printed a message and exited with code 1. -/
  | exited (message : String)
  /-- `daemonize` has returned an error. -/
  | failed (error : String)
  /-- It was killed. -/
  | killed
  deriving DecidableEq

/-- Where its child is. -/
inductive MiddlePlace where
  /-- It is not there yet. -/
  | absent
  /-- Before `setsid`. -/
  | settingSession
  /-- Before the second `fork`. -/
  | forking
  /-- `exit_after_startup_error`. -/
  | reporting (error : String)
  /-- It has forked: before `process::exit`. -/
  | leaving
  /-- It has ended. -/
  | gone
  deriving DecidableEq

/-- Where the daemon is. -/
inductive LaunchedPlace where
  /-- It is not there yet. -/
  | absent
  /-- Before `set_current_dir`. -/
  | changing
  /-- Before `redirect_stdio_to_dev_null`. -/
  | redirecting
  /-- `bind_listener`, up to `set_permissions` and what follows when that fails. -/
  | starting
  /-- `PipeStartupReporter::ready`: before the pid file is written. -/
  | writingPid
  /-- Before `Done` is written. -/
  | announcing
  /-- `Done` was not written: before the pid file is removed. -/
  | droppingPid (error : String)
  /-- `ready` has failed: before the socket is removed. -/
  | retracting
  /-- Before an error is written. -/
  | reporting (error : String)
  /-- It has failed to start. -/
  | failed (error : String)
  /-- From the signal handlers to the removal of the socket. -/
  | running
  /-- `RuntimeCleanup`: before the pid file is removed. -/
  | removingPid (result : Except String Unit)
  /-- It has returned. -/
  | ended (result : Except String Unit)
  /-- It was killed. -/
  | killed
  deriving DecidableEq

/-- What the pid file holds. -/
inductive PidEntry where
  /-- The number of this daemon. -/
  | own
  /-- Something else. -/
  | other
  deriving DecidableEq

/-- The processes of a launch, beside the other daemons of its path. -/
structure Launch where
  /-- The path and its daemons, of which the launched one may be. -/
  world : StartupWorld
  /-- The process that was started. -/
  launcher : LauncherPlace
  /-- Its child. -/
  middle : MiddlePlace
  /-- The daemon. -/
  daemon : LaunchedPlace
  /-- What was written to the socket pair. -/
  sent : List Response
  /-- The pid file. -/
  pidFile : Option PidEntry
  deriving DecidableEq

/-- What may happen. -/
inductive LaunchAction where
  /-- The process that was started makes its next call, which may fail. -/
  | launcher (outcome : Except String Unit)
  /-- Its child does. -/
  | middle (outcome : Except String Unit)
  /-- The daemon does; a pid file that it cannot write may have been emptied. -/
  | daemon (outcome : Except String Unit) (emptied : Bool)
  /-- The process that was started is killed. -/
  | killLauncher
  /-- Its child is killed. -/
  | killMiddle
  /-- The daemon is killed. -/
  | killDaemon
  /-- Another daemon of the path does something. -/
  | others (action : StartupAction)
  /-- The daemon of another path writes or removes the pid file. -/
  | otherPid (present : Bool)

/-- Whether it is the step of a process of the launch. -/
def LaunchAction.isOwn : LaunchAction → Bool
  | .launcher _ | .middle _ | .daemon .. | .killLauncher | .killMiddle | .killDaemon => true
  | .others _ | .otherPid _ => false

/-- Whether it concerns the daemon with a number. -/
def StartupAction.concerns (index : Nat) : StartupAction → Bool
  | .start => false
  | .call other _ | .kill other => other == index

/-- Whether the process that was started has ended. -/
def LauncherPlace.isOver : LauncherPlace → Bool
  | .pairing | .forking | .waiting => false
  | .printed | .exited _ | .failed _ | .killed => true

/-- Whether the child has its end of the socket pair. -/
def MiddlePlace.holds : MiddlePlace → Bool
  | .settingSession | .forking | .reporting _ | .leaving => true
  | .absent | .gone => false

/-- Whether the daemon has its end of the socket pair. -/
def LaunchedPlace.holds : LaunchedPlace → Bool
  | .absent | .failed _ | .ended _ | .killed => false
  | .changing | .redirecting | .starting | .writingPid | .announcing | .droppingPid _ | .retracting
  | .reporting _ | .running | .removingPid _ => true

/-- What `wait_for_readiness` makes of the first line; of an error it is the outermost context. -/
def waitForReadiness : Option Response → LauncherPlace
  | some .done => .printed
  | some (.error message) => .exited message
  | some (.event _) | some (.diff _) => .exited "unexpected daemon readiness response"
  | none => .exited "parsing daemon readiness"

section Steps

variable (path : SocketPath) (pidPath : String) (index : Nat)

namespace Launch

variable (state : Launch)

/-- Where the daemon is among the daemons of the path. -/
def place : Option StartupPlace := state.world.daemons[index]?

/-- The daemon makes its next call on the path. -/
def call (outcome : Except String Unit) : Option Launch :=
  (startupStep path state.world (.call index outcome)).map ({ state with world := · })

/-- Write a response, unless nobody reads it. -/
def send (response : Response) : Option Launch :=
  if state.launcher = .waiting then some { state with sent := state.sent ++ [response] } else none

/-- The step of the process that was started. -/
def launcherStep (outcome : Except String Unit) : Option Launch :=
  match state.launcher, outcome with
  | .pairing, .ok () => some { state with launcher := .forking }
  | .pairing, .error _ => some { state with launcher := .failed "creating daemon readiness pipe" }
  | .forking, .ok () => some { state with launcher := .waiting, middle := .settingSession }
  | .forking, .error _ => some { state with launcher := .failed "fork failed" }
  | .waiting, .ok () =>
    -- `read_line` blocks while nothing was written and somebody may still write.
    if state.sent = [] ∧ (state.middle.holds || state.daemon.holds) then none
    else some { state with launcher := waitForReadiness state.sent.head? }
  | .waiting, .error _ => some { state with launcher := .exited "reading daemon readiness" }
  | .printed, _ | .exited _, _ | .failed _, _ | .killed, _ => none

/-- The step of its child. -/
def middleStep (outcome : Except String Unit) : Option Launch :=
  match state.middle, outcome with
  | .settingSession, .ok () => some { state with middle := .forking }
  | .settingSession, .error _ => some { state with middle := .reporting "setsid failed" }
  | .forking, .ok () => some { state with middle := .leaving, daemon := .changing }
  | .forking, .error _ => some { state with middle := .reporting "second fork failed" }
  | .reporting error, .ok () => ({ state with middle := .gone }).send (.error error)
  | .reporting _, .error _ => some { state with middle := .gone }
  | .leaving, _ => some { state with middle := .gone }
  | .absent, _ | .gone, _ => none

/-- Where the daemon goes on after a call of `bind_listener`. -/
def bindListener : Option StartupPlace → LaunchedPlace
  | some (.announcing _) => .writingPid
  | some (.over (.error error)) => .reporting error
  | _ => .starting

/-- Where the daemon goes on after a call with its signal handlers. -/
def serveConnections : Option StartupPlace → LaunchedPlace
  | some (.over result) => .removingPid result
  | _ => .running

/-- Where the daemon goes on after it has removed a socket that it could not announce. -/
def retract : Option StartupPlace → LaunchedPlace
  | some (.over (.error error)) => .failed error
  | _ => .retracting

/-- The step of the daemon. -/
def daemonStep (outcome : Except String Unit) (emptied : Bool) : Option Launch :=
  match state.daemon, outcome with
  | .changing, .ok () => some { state with daemon := .redirecting }
  | .changing, .error _ =>
    some { state with daemon := .reporting "changing daemon working directory to /" }
  | .redirecting, .ok () => some { state with daemon := .starting }
  | .redirecting, .error error => some { state with daemon := .reporting error }
  | .starting, outcome =>
    (state.call path index outcome).map fun after =>
      { after with daemon := bindListener (after.place index) }
  | .writingPid, .ok () => some { state with daemon := .announcing, pidFile := some .own }
  | .writingPid, .error _ =>
    (state.call path index (.error s!"writing pid file {pidPath}")).map fun after =>
      { after with
        daemon := .retracting
        pidFile := if emptied then some .other else state.pidFile }
  | .announcing, .ok () =>
    (state.call path index (.ok ())).bind fun after =>
      ({ after with daemon := .running }).send .done
  | .announcing, .error error => some { state with daemon := .droppingPid error }
  | .droppingPid error, .ok () =>
    (state.call path index (.error error)).map fun after =>
      { after with daemon := .retracting, pidFile := none }
  | .droppingPid error, .error _ =>
    (state.call path index (.error error)).map ({ · with daemon := .retracting })
  | .retracting, outcome =>
    -- `bind_listener` returns the error of `ready` without reporting it.
    (state.call path index outcome).map fun after =>
      { after with daemon := retract (after.place index) }
  | .reporting error, .ok () => ({ state with daemon := .failed error }).send (.error error)
  | .reporting error, .error _ => some { state with daemon := .failed error }
  | .running, outcome =>
    (state.call path index outcome).map fun after =>
      { after with daemon := serveConnections (after.place index) }
  | .removingPid result, .ok () => some { state with daemon := .ended result, pidFile := none }
  | .removingPid result, .error _ => some { state with daemon := .ended result }
  | .absent, _ | .failed _, _ | .ended _, _ | .killed, _ => none

/-- The step of a launch. -/
def step : LaunchAction → Option Launch
  | .launcher outcome => state.launcherStep outcome
  | .middle outcome => state.middleStep outcome
  | .daemon outcome emptied => state.daemonStep path pidPath index outcome emptied
  | .killLauncher => if state.launcher.isOver then none else some { state with launcher := .killed }
  | .killMiddle => if state.middle.holds then some { state with middle := .gone } else none
  | .killDaemon =>
    if state.daemon.holds then
      (startupStep path state.world (.kill index)).map
        ({ state with world := ·, daemon := .killed })
    else none
  | .others action =>
    if action.concerns index then none
    else (startupStep path state.world action).map ({ state with world := · })
  | .otherPid present => some { state with pidFile := if present then some .other else none }

/-- A launch begins beside daemons that are already there. -/
structure IsInitial : Prop where
  /-- The daemons of the path have done what they do. -/
  world : (startupMachine path).Reachable (fun _ _ => True) state.world
  /-- The daemon of the launch has not made a call. -/
  place : state.place index = some (.first path)
  /-- The process was started. -/
  launcher : state.launcher = .pairing
  /-- It has no child. -/
  middle : state.middle = .absent
  /-- There is no daemon yet. -/
  daemon : state.daemon = .absent
  /-- Nothing was written. -/
  sent : state.sent = []
  /-- The pid file may be that of another daemon. -/
  pidFile : state.pidFile ≠ some .own

end Launch

/-- The machine of a launch. -/
def launchMachine : Machine Launch LaunchAction where
  start := Launch.IsInitial path index
  step := Launch.step path pidPath index

end Steps

end Evix
