import Evix.Config

/-!
# Worker protocol

The messages between a master and its workers, local or remote, and the part of the
configuration a worker is set up with.
-/

namespace Evix

/-- `WorkerConfig`: what a worker is told about the evaluation. -/
structure WorkerConfig where
  /-- What to evaluate. -/
  input : Input
  /-- Arguments for auto-called functions, in order. -/
  autoArgs : List (String × AutoArg)
  /-- Recurse into all attribute sets. -/
  forceRecurse : Bool
  /-- Directory for garbage collector roots. -/
  gcRootsDir : Option PathBuf
  /-- Memory limit of a worker in megabytes. -/
  maxMemorySize : Nat
  /-- Per-attribute evaluation timeout in seconds. -/
  itemTimeoutSeconds : Nat
  /-- Attach the `meta` attribute. -/
  «meta» : Bool
  /-- Attach input derivations. -/
  showInputDrvs : Bool
  /-- Flake input overrides. -/
  overrideInputs : List (String × String)
  /-- Nix settings. -/
  nixOptions : List (String × String)
  /-- Lock file of the flake, when it is locked by the master. -/
  lockedFlakeJson : Option String
  deriving DecidableEq

/-- `impl From<&Config> for WorkerConfig`. -/
def WorkerConfig.ofConfig (config : Config) : WorkerConfig where
  input := config.input
  autoArgs := config.autoArgs
  forceRecurse := config.forceRecurse
  gcRootsDir := config.gcRootsDir
  maxMemorySize := config.maxMemorySize
  itemTimeoutSeconds := config.itemTimeoutSeconds
  «meta» := config.meta
  showInputDrvs := config.showInputDrvs
  overrideInputs := config.overrideInputs
  nixOptions := config.nixOptions
  lockedFlakeJson := none

/-- `WorkerStatus`. -/
inductive WorkerStatus where
  /-- The evaluator takes more work. -/
  | ready
  /-- The evaluator reached its memory limit. -/
  | restart
  deriving DecidableEq, Repr

/-- `ClientMessage`. -/
inductive ClientMessage where
  /-- The first message of a connection. -/
  | setup (config : WorkerConfig) (token expectedStoreDir : Option String)
  /-- Evaluate a path. -/
  | work (path : List String)
  /-- End the connection. -/
  | shutdown
  deriving DecidableEq

/-- `ServerMessage`. -/
inductive ServerMessage where
  /-- The evaluator has started. -/
  | ready
  /-- The event of a path. -/
  | event (event : Event)
  /-- What follows an event. -/
  | status (status : WorkerStatus)
  /-- A refusal or a failure. -/
  | error (text : String)
  deriving DecidableEq

/-- `expect_ready`. -/
def expectReady (debug : ServerMessage → String) (message : ServerMessage) (label : String) :
    Except String Unit :=
  match message with
  | .ready => .ok ()
  | .error error => .error s!"remote worker {label} failed: {error}"
  | other => .error s!"remote worker {label} sent unexpected handshake: {debug other}"

end Evix
