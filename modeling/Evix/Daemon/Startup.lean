import Evix.Library.Machine

/-!
# The socket of the daemon

Any number of daemons over one socket path. A step is one system call of one daemon, from the check
of the path to the removal of the socket when the daemon ends. A socket file is named by a number;
each `bind` makes a new one.
-/

namespace Evix

open Machines

/-- What a path names. -/
inductive PathEntry where
  /-- A socket file. -/
  | socket (id : Nat)
  /-- Any other file. -/
  | other
  deriving DecidableEq

/-- Where a daemon is; past `bind`, with its socket file. -/
inductive StartupPlace where
  /-- `prepare_socket_path`: before `create_dir_all`. -/
  | creating
  /-- Before `symlink_metadata`. -/
  | checking
  /-- Before `connect`. -/
  | probing
  /-- The connection was refused: before `remove_file`. -/
  | removing
  /-- `UnixListener::bind`: before `bind`. -/
  | binding
  /-- Before `listen`. -/
  | listening (id : Nat)
  /-- `bind_listener`: before `set_permissions`. -/
  | permitting (id : Nat)
  /-- Before `StartupReporter::ready`. -/
  | announcing (id : Nat)
  /-- The start failed: before `remove_file`. -/
  | retracting (id : Nat) (error : String)
  /-- Listening: before the signal handlers and the runtime are there. -/
  | installing (id : Nat)
  /-- `serve_connections`. -/
  | serving (id : Nat)
  /-- The listener is closed: before `RuntimeCleanup` removes the path. -/
  | closing (id : Nat) (result : Except String Unit)
  /-- The daemon has returned. -/
  | over (result : Except String Unit)
  /-- The daemon was killed. -/
  | killed
  deriving DecidableEq

/-- The socket file on which a daemon listens. -/
def StartupPlace.listens : StartupPlace → Option Nat
  | .permitting id | .announcing id | .retracting id _ | .installing id | .serving id => some id
  | .creating | .checking | .probing | .removing | .binding | .listening _ | .closing ..
  | .over _ | .killed => none

/-- A path for a socket. -/
structure SocketPath where
  /-- `Path::display`. -/
  display : String
  /-- The display of its parent directory, unless that is empty. -/
  parent : Option String

/-- The daemons of one path. -/
structure StartupWorld where
  /-- What the path names. -/
  entry : Option PathEntry
  /-- The number of socket files made. -/
  created : Nat
  /-- Where each daemon is. -/
  daemons : List StartupPlace
  deriving DecidableEq

/-- Whether a daemon listens on a socket file. -/
def StartupWorld.isListening (world : StartupWorld) (id : Nat) : Bool :=
  world.daemons.any fun place => place.listens == some id

/-- What may happen. -/
inductive StartupAction where
  /-- A daemon is started. -/
  | start
  /-- A daemon makes its next system call, which may fail for reasons of its own. -/
  | call (index : Nat) (outcome : Except String Unit)
  /-- A daemon is killed. -/
  | kill (index : Nat)

section Steps

variable (path : SocketPath)

/-- Where a daemon begins. -/
def StartupPlace.first : StartupPlace :=
  match path.parent with
  | some _ => .creating
  | none => .checking

/-- A daemon returns an error. -/
def StartupPlace.fails (error : String) : StartupPlace := .over (.error error)

/-- The next system call of a daemon: what the path names after it, how many socket files there
have been, and where the daemon goes on. -/
def startupCall (world : StartupWorld) (outcome : Except String Unit) :
    StartupPlace → Option (Option PathEntry × Nat × StartupPlace)
  | .creating =>
    match outcome with
    | .ok () => some (world.entry, world.created, .checking)
    | .error _ =>
      let parent := path.parent.getD ""
      some (world.entry, world.created, .fails s!"creating socket directory {parent}")
  | .checking =>
    match outcome, world.entry with
    | .error _, _ =>
      some (world.entry, world.created, .fails s!"checking existing socket path {path.display}")
    | .ok (), none => some (none, world.created, .binding)
    | .ok (), some .other =>
      some (world.entry, world.created,
        .fails s!"refusing to remove non-socket path {path.display}")
    | .ok (), some (.socket _) => some (world.entry, world.created, .probing)
  | .probing =>
    match outcome, world.entry with
    | .error _, _ =>
      some (world.entry, world.created, .fails s!"probing existing socket {path.display}")
    | .ok (), none => some (none, world.created, .binding)
    -- a connection to a file that is no socket is refused as well
    | .ok (), some .other => some (world.entry, world.created, .removing)
    | .ok (), some (.socket id) =>
      if world.isListening id then
        some (world.entry, world.created,
          .fails s!"live daemon socket already exists at {path.display}")
      else some (world.entry, world.created, .removing)
  | .removing =>
    match outcome, world.entry with
    | .ok (), some _ => some (none, world.created, .binding)
    | .ok (), none | .error _, _ =>
      some (world.entry, world.created, .fails s!"removing stale socket {path.display}")
  | .binding =>
    match outcome, world.entry with
    | .ok (), none =>
      some (some (.socket world.created), world.created + 1, .listening world.created)
    | .ok (), some _ | .error _, _ =>
      some (world.entry, world.created, .fails s!"binding {path.display}")
  | .listening id =>
    match outcome with
    | .ok () => some (world.entry, world.created, .permitting id)
    | .error _ => some (world.entry, world.created, .fails s!"binding {path.display}")
  | .permitting id =>
    match outcome, world.entry with
    | .ok (), some _ => some (world.entry, world.created, .announcing id)
    | .ok (), none | .error _, _ =>
      some (world.entry, world.created,
        .retracting id s!"setting permissions on {path.display}")
  | .announcing id =>
    match outcome with
    | .ok () => some (world.entry, world.created, .installing id)
    | .error error => some (world.entry, world.created, .retracting id error)
  | .retracting _ error =>
    match outcome with
    | .ok () => some (none, world.created, .fails error)
    | .error _ => some (world.entry, world.created, .fails error)
  | .installing id =>
    match outcome with
    | .ok () => some (world.entry, world.created, .serving id)
    | .error error => some (world.entry, world.created, .retracting id error)
  | .serving id => some (world.entry, world.created, .closing id outcome)
  | .closing _ result =>
    match outcome with
    | .ok () => some (none, world.created, .over result)
    | .error _ => some (world.entry, world.created, .over result)
  | .over _ | .killed => none

/-- The step of the daemons. -/
def startupStep (world : StartupWorld) : StartupAction → Option StartupWorld
  | .start => some { world with daemons := world.daemons ++ [.first path] }
  | .call index outcome =>
    match world.daemons[index]? with
    | some place =>
      (startupCall path world outcome place).map fun next =>
        ⟨next.1, next.2.1, world.daemons.set index next.2.2⟩
    | none => none
  | .kill index =>
    if index < world.daemons.length then
      some { world with daemons := world.daemons.set index .killed }
    else none

/-- The states of a path before a daemon is started on it: it names nothing, a file that is no
socket, a socket on which nobody listens, or a socket on which a daemon listens. -/
def StartupWorld.IsInitial (world : StartupWorld) : Prop :=
  world = ⟨none, 0, []⟩ ∨ world = ⟨some .other, 0, []⟩ ∨ world = ⟨some (.socket 0), 1, []⟩ ∨
    world = ⟨some (.socket 0), 1, [.serving 0]⟩

/-- The machine of the daemons on a path. -/
def startupMachine : Machine StartupWorld StartupAction where
  start := StartupWorld.IsInitial
  step := startupStep path

end Steps

end Evix
