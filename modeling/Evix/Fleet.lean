import Mathlib.Logic.Function.Basic
import Evix.AsyncMaster.Scheduler
import Evix.Fork
import Evix.Library.Descriptors
import Evix.Library.Machine

/-!
# The local worker processes

The master, the workers it spawns and the workers forked from the first one, each with the
descriptors it holds. A process is its position among the processes started, which stands for its
pid: a pid is not used again while its number is awaited. Every action may come at any point that
the code allows it at, and a process may die at any time, which also covers each error it exits on.
Remote workers start no process here. What a process opens for Nix is left out.
-/

namespace Evix

open Descriptors Machines

/-- The two ends of a channel. -/
inductive Side where
  /-- The end the master keeps. -/
  | master
  /-- The end of the worker. -/
  | worker
  deriving DecidableEq, Repr

/-- A standard stream. -/
inductive Stream where
  /-- Descriptor 0. -/
  | stdin
  /-- Descriptor 1. -/
  | stdout
  /-- Descriptor 2. -/
  | stderr
  deriving DecidableEq, Repr

/-- What a descriptor refers to. A slot is named by the worker it was created for. -/
inductive Endpoint where
  /-- An end of the socket pair of a slot. -/
  | socket (slot : Nat) (side : Side)
  /-- An end of the stderr pipe of a slot. -/
  | stderr (slot : Nat) (side : Side)
  /-- An end of the pipe for a standard stream of a spawned process. -/
  | stream (process : Nat) (stream : Stream) (side : Side)
  /-- `/dev/null`. -/
  | null
  /-- What the standard streams of the master refer to. -/
  | terminal
  deriving DecidableEq, Repr

/-- The number of a descriptor. A slot has the same numbers in the master and in the worker that
inherits it. -/
inductive Number where
  /-- 0, 1 or 2. -/
  | standard (stream : Stream)
  /-- The reader of a worker, a clone of its stdin. -/
  | reader
  /-- The writer of a worker, a clone of its stdout. -/
  | writer
  /-- The clone of its socket that a forked worker reads. -/
  | clone
  /-- An end of the socket pair of a slot. -/
  | socket (slot : Nat) (side : Side)
  /-- An end of the stderr pipe of a slot. -/
  | stderr (slot : Nat) (side : Side)
  /-- The end the master keeps of a pipe of a spawned process. -/
  | pipe (process : Nat) (stream : Stream)
  /-- `/dev/null`, while it is opened. -/
  | null
  deriving DecidableEq, Repr

/-- The descriptors of a process. -/
abbrev FdTable := Table Number Endpoint

/-- How a process came to be. -/
inductive Origin where
  /-- Spawned for a worker. -/
  | spawned (worker : Nat)
  /-- Forked from a process, which handed it a slot. -/
  | forked (parent slot : Nat)
  deriving DecidableEq, Repr

/-- The worker a process was started for. -/
def Origin.worker : Origin → Nat
  | .spawned worker => worker
  | .forked _ slot => slot

/-- The slot a process was handed. -/
def Origin.handed : Origin → Option Nat
  | .spawned _ => none
  | .forked _ slot => some slot

/-- How far a process is in `worker::run`. -/
inductive ProcessPlace where
  /-- At the start of `run`. -/
  | executed
  /-- Its channel is set up, and the forker is not. -/
  | opening
  /-- It loads the root. -/
  | preparing
  /-- It reads and answers work. -/
  | serving
  /-- In `fork_due`. -/
  | forking
  /-- Just forked, with its inherited slots cleared. -/
  | forked
  /-- Its daemon connections are its own. -/
  | connecting
  /-- Its channel is its socket. -/
  | detaching
  /-- Its standard streams are its own. -/
  | announcing
  /-- Dead. -/
  | gone
  deriving DecidableEq, Repr

/-- A local worker process. -/
structure LocalProcess where
  /-- How it came to be. -/
  origin : Origin
  /-- How far it is. -/
  place : ProcessPlace
  /-- Its forker; before `from_env`, with the slots `EVIX_FORK_FDS` names. -/
  forker : Forker
  /-- Items answered. -/
  completed : Nat
  /-- Its descriptors. -/
  table : FdTable

/-- How far a worker of the pool is, in the master. -/
inductive WorkerPlace where
  /-- `connect` was not called. -/
  | starting
  /-- `attach` awaits the pid of a forked process. -/
  | attaching
  /-- `read_ready` awaits the handshake of a process. A client it replaces is still there. -/
  | greeting (process : Nat) (previous : Option Nat)
  /-- Connected to a process. -/
  | connected (process : Nat)
  /-- The process failed or asked for a restart. -/
  | lost (process : Nat)
  /-- The task ended. -/
  | over
  deriving DecidableEq, Repr

/-- The master and the processes of its local workers. -/
structure Fleet where
  /-- Descriptors of the master. -/
  table : FdTable
  /-- The slots of `LocalFork::Parent`, until they are taken. -/
  slots : List Nat
  /-- The workers, by position in the pool. -/
  workers : List WorkerPlace
  /-- The processes, in the order they were started. -/
  processes : List LocalProcess
  /-- The pids sent through the socket of a slot and not read. -/
  inbox : Nat → List Nat

/-- The descriptors of a `ForkSlot`, for each of the slots. -/
def slotNumbers (slots : List Nat) : List Number :=
  slots.flatMap fun slot => [.socket slot .worker, .stderr slot .worker]

/-! ## Worker processes -/

namespace LocalProcess

/-- A step a worker process takes without the others. -/
inductive Step where
  /-- `channel` of stdin and stdout. -/
  | channel
  /-- `Forker::from_env`. -/
  | fromEnv (daemonStore : Bool) (now : Nat)
  /-- The root is loaded: `start_clock`, and ready. -/
  | startClock (now : Nat)
  /-- An item is answered, and exited children are reaped. -/
  | complete (exited : List Nat)
  /-- `replace_daemon_connections`. -/
  | replaceDaemonConnections
  /-- `channel` of the socket it was handed. -/
  | rewire
  /-- `detach_stdio`. -/
  | detachStdio
  /-- It dies or exits. -/
  | die
  deriving DecidableEq, Repr

variable (process : LocalProcess)

/-- The state after a step of its own. -/
def advance : Step → Option LocalProcess
  | .channel =>
    match process.place with
    | .executed => do
      let read ← process.table.duplicate (.standard .stdin) .reader true
      let table ← read.duplicate (.standard .stdout) .writer true
      some { process with place := .opening, table }
    | _ => none
  | .fromEnv daemonStore now =>
    match process.place with
    | .opening =>
      let slots := process.forker.slots
      let table := process.table.setCloseOnExec (slotNumbers slots) true
      some { process with
        place := .preparing
        forker := ⟨if daemonStore then slots else [], 0, now, []⟩
        table := if daemonStore then table else table.close (slotNumbers slots) }
    | _ => none
  | .startClock now =>
    match process.place with
    | .preparing => some { process with
        place := .serving
        forker := process.forker.startClock now }
    | _ => none
  | .complete exited =>
    match process.place with
    | .serving => some { process with
        place := .forking
        forker := process.forker.reap exited
        completed := process.completed + 1 }
    | _ => none
  | .replaceDaemonConnections =>
    match process.place with
    | .forked => some { process with place := .connecting }
    | _ => none
  | .rewire =>
    match process.origin, process.place with
    | .forked _ slot, .connecting => do
      let cloned ← process.table.duplicate (.socket slot .worker) .clone true
      some { process with place := .detaching, table := cloned.close [.reader, .writer] }
    | _, _ => none
  | .detachStdio =>
    match process.origin, process.place with
    | .forked _ slot, .detaching => do
      let opened := process.table.install .null .null true
      let read ← opened.duplicate .null (.standard .stdin) false
      let written ← read.duplicate .null (.standard .stdout) false
      let table ← written.duplicate (.stderr slot .worker) (.standard .stderr) false
      some { process with
        place := .announcing
        table := table.close [.null, .stderr slot .worker] }
    | _, _ => none
  | .die =>
    match process.place with
    | .gone => none
    | _ => some { process with place := .gone, forker := process.forker.close, table := [] }

/-- The process that goes on after a turn in which it dropped slots. -/
def drop (place : ProcessPlace) (forker : Forker) (slots : List Nat) : LocalProcess :=
  { process with place, forker, table := process.table.close (slotNumbers slots) }

/-- The child of a process that handed it a slot, with the inherited slots cleared. -/
def child (index : Nat) (forker : Forker) (slot : Nat) : LocalProcess :=
  { process with
    origin := .forked index slot
    place := .forked
    forker := { forker with slots := [], children := [] }
    table := process.table.close (slotNumbers forker.slots) }

end LocalProcess

/-! ## The master -/

/-- The descriptors the master holds for the process of a worker. -/
def clientNumbers (worker process : Nat) : List Number :=
  [.pipe process .stdin, .pipe process .stdout, .pipe process .stderr,
    .socket worker .master, .stderr worker .master]

/-- The descriptors the master holds for a worker. -/
def WorkerPlace.numbers (worker : Nat) : WorkerPlace → List Number
  | .starting | .over => []
  | .attaching => [.socket worker .master, .stderr worker .master]
  | .greeting process previous =>
    clientNumbers worker process ++ (previous.toList.flatMap (clientNumbers worker))
  | .connected process | .lost process => clientNumbers worker process

namespace Fleet

variable (fleet : Fleet)

/-- The pipes of a spawned process in place of the standard streams. -/
def piped (process : Nat) : FdTable :=
  ((fleet.table.install (.standard .stdin) (.stream process .stdin .worker) false).install
    (.standard .stdout) (.stream process .stdout .worker) false).install
    (.standard .stderr) (.stream process .stderr .worker) false

/-- `spawn_local`, up to the handshake: the child keeps the slots across `exec`, and the master
drops them. -/
def spawnLocal (worker : Nat) (forkSlots : List Nat) (previous : Option Nat) (spawned : Bool) :
    Fleet :=
  let process := fleet.processes.length
  let table := fleet.table.close (slotNumbers forkSlots)
  if spawned then
    { fleet with
      table := ((table.install (.pipe process .stdin) (.stream process .stdin .master) true).install
        (.pipe process .stdout) (.stream process .stdout .master) true).install
        (.pipe process .stderr) (.stream process .stderr .master) true
      workers := fleet.workers.set worker (.greeting process previous)
      processes := fleet.processes ++ [{
        origin := .spawned worker
        place := .executed
        forker := ⟨forkSlots, 0, 0, []⟩
        completed := 0
        table := ((fleet.piped process).setCloseOnExec (slotNumbers forkSlots) false).exec }] }
  else
    { fleet with
      table := table.close (previous.toList.flatMap (clientNumbers worker))
      workers := fleet.workers.set worker .over }

/-- `WorkerClient::connect` for a local worker. The socket of a child is there on the first call
only. -/
def connect (fork : LocalFork) (worker : Nat) (previous : Option Nat) (spawned : Bool) : Fleet :=
  match fork with
  | .none => fleet.spawnLocal worker [] previous spawned
  | .parent _ => { fleet with slots := [] }.spawnLocal worker fleet.slots previous spawned
  | .child _ =>
    if previous.isNone then { fleet with workers := fleet.workers.set worker .attaching }
    else fleet.spawnLocal worker [] previous spawned

/-- Reading from the socket of a worker gives end-of-file: nothing is left to read, and nobody
holds the other end. -/
def EndOfFile (worker : Nat) : Prop :=
  fleet.inbox worker = [] ∧ ¬ fleet.table.Holds (.socket worker .worker) ∧
    ∀ process ∈ fleet.processes, ¬ process.table.Holds (.socket worker .worker)

instance decidableEndOfFile (worker : Nat) : Decidable (fleet.EndOfFile worker) :=
  inferInstanceAs (Decidable (_ ∧ _ ∧ _))

/-- One turn of the loop of `fork_due` in a process. -/
def turn (index : Nat) (process : LocalProcess) (now : Nat) (outcome : ForkOutcome) : Fleet :=
  match process.forker.forkTurn now process.completed outcome with
  | .done forker dropped =>
    { fleet with processes := fleet.processes.set index (process.drop .serving forker dropped) }
  | .forked forker slot =>
    { fleet with
      processes := fleet.processes.set index (process.drop .forking forker [slot]) ++
        [process.child index forker slot] }

end Fleet

/-- An action of the master or of a worker process. -/
inductive FleetAction where
  /-- `connect`, with whether a process it spawns starts. -/
  | connect (worker : Nat) (spawned : Bool)
  /-- `attach` reads a pid. -/
  | readPid (worker : Nat)
  /-- `attach` reads end-of-file, and `connect` spawns. -/
  | readEnd (worker : Nat) (spawned : Bool)
  /-- The handshake is read. -/
  | readReady (worker : Nat)
  /-- Work fails, or the worker asks for a restart. -/
  | lose (worker : Nat)
  /-- The task of the worker ends: it is told to stop, or `connect` fails. -/
  | stop (worker : Nat)
  /-- A process takes a step of its own. -/
  | advance (process : Nat) (step : LocalProcess.Step)
  /-- A process takes a turn of `fork_due`. -/
  | turn (process now : Nat) (outcome : ForkOutcome)
  /-- A forked process writes its pid and its handshake. -/
  | announce (process : Nat)
  deriving DecidableEq

section Pool

variable (specs : List WorkerSpec)

/-- The slots `worker_specs` creates, one for each forked worker. -/
def createdSlots : List Nat :=
  (List.range specs.length).filter fun worker => specs[worker]?.any WorkerSpec.isForked

/-- A new run, with the descriptors `worker_specs` opens. -/
def Fleet.initial : Fleet where
  table :=
    [⟨.standard .stdin, .terminal, false⟩, ⟨.standard .stdout, .terminal, false⟩,
      ⟨.standard .stderr, .terminal, false⟩] ++
    (createdSlots specs).flatMap fun slot =>
      [⟨.socket slot .master, .socket slot .master, true⟩,
        ⟨.socket slot .worker, .socket slot .worker, true⟩,
        ⟨.stderr slot .master, .stderr slot .master, true⟩,
        ⟨.stderr slot .worker, .stderr slot .worker, true⟩]
  slots := createdSlots specs
  workers := specs.map fun _ => .starting
  processes := []
  inbox _ := []

/-- The state after an action, when it can be taken. -/
def Fleet.step (fleet : Fleet) : FleetAction → Option Fleet
  | .connect worker spawned =>
    match specs[worker]?.map WorkerSpec.kind, fleet.workers[worker]? with
    | some (.local _ fork), some .starting => some (fleet.connect fork worker none spawned)
    | some (.local _ fork), some (.lost process) =>
      some (fleet.connect fork worker (some process) spawned)
    | _, _ => none
  | .readPid worker =>
    match fleet.workers[worker]?, fleet.inbox worker with
    | some .attaching, pid :: rest => some { fleet with
        workers := fleet.workers.set worker (.greeting pid none)
        inbox := Function.update fleet.inbox worker rest }
    | _, _ => none
  | .readEnd worker spawned =>
    if fleet.workers[worker]? = some .attaching ∧ fleet.EndOfFile worker then
      some ({ fleet with
        table := fleet.table.close (WorkerPlace.attaching.numbers worker)
        }.spawnLocal worker [] none spawned)
    else none
  | .readReady worker =>
    match fleet.workers[worker]? with
    | some (.greeting process previous) => some { fleet with
        table := fleet.table.close (previous.toList.flatMap (clientNumbers worker))
        workers := fleet.workers.set worker (.connected process) }
    | _ => none
  | .lose worker =>
    match fleet.workers[worker]? with
    | some (.connected process) => some { fleet with
        workers := fleet.workers.set worker (.lost process) }
    | _ => none
  | .stop worker =>
    fleet.workers[worker]?.map fun place => { fleet with
      table := fleet.table.close (place.numbers worker)
      workers := fleet.workers.set worker .over }
  | .advance index step => do
    let process ← fleet.processes[index]?
    let after ← process.advance step
    some { fleet with processes := fleet.processes.set index after }
  | .turn index now outcome => do
    let process ← fleet.processes[index]?
    if process.place = .forking then some (fleet.turn index process now outcome) else none
  | .announce index => do
    let process ← fleet.processes[index]?
    match process.origin, process.place with
    | .forked _ slot, .announcing =>
      -- Without a reader the write fails, and the process exits.
      if fleet.table.Holds (.socket slot .master) then
        some { fleet with
          processes := fleet.processes.set index { process with place := .serving }
          inbox := Function.update fleet.inbox slot (fleet.inbox slot ++ [index]) }
      else none
    | _, _ => none

/-- The local workers of a pool and the processes they start. -/
def fleetMachine : Machine Fleet FleetAction where
  start fleet := fleet = Fleet.initial specs
  step := Fleet.step specs

end Pool

end Evix
