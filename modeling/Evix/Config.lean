import Evix.Protocol

/-!
# Evaluation configuration

`evix::Config` and the checks `async_master::run` makes before it starts a worker.
-/

namespace Evix

/-- Configuration for an evaluation session. -/
structure Config where
  /-- What to evaluate. -/
  input : Input
  /-- Arguments for auto-called functions, in order. -/
  autoArgs : List (String × AutoArg)
  /-- Recurse into all attribute sets. -/
  forceRecurse : Bool
  /-- Directory for garbage collector roots. -/
  gcRootsDir : Option PathBuf
  /-- Requested local workers. -/
  workers : Nat
  /-- Memory limit of a worker in megabytes. -/
  maxMemorySize : Nat
  /-- Per-attribute evaluation timeout in seconds. -/
  itemTimeoutSeconds : Nat
  /-- Attach the `meta` attribute. -/
  «meta» : Bool
  /-- Attach input derivations. -/
  showInputDrvs : Bool
  /-- Flake input overrides. -/
  overrideInputs : List (String × String)
  /-- Nix settings. -/
  nixOptions : List (String × String)
  /-- Remote worker endpoints. -/
  remotes : List Remote
  /-- Executable of local workers. -/
  workerExe : Option PathBuf
  deriving DecidableEq, Repr

/-- `impl Default for Config`. -/
def Config.default : Config where
  input := .expr "{}"
  autoArgs := []
  forceRecurse := false
  gcRootsDir := none
  workers := 1
  maxMemorySize := 4096
  itemTimeoutSeconds := 30 * 60
  «meta» := false
  showInputDrvs := false
  overrideInputs := []
  nixOptions := []
  remotes := []
  workerExe := none

/-- Why `validate_config` refuses a configuration. -/
inductive ConfigError where
  /-- The item timeout is zero. -/
  | itemTimeout
  /-- The input file path is not UTF-8. -/
  | inputFile (path : PathBuf)
  /-- The garbage collector root directory is not UTF-8. -/
  | gcRootsDir (dir : PathBuf)
  /-- A remote has no workers. -/
  | remoteWorkers (endpoint : String)
  deriving DecidableEq, Repr

/-- The text of a refusal; `debug` is the debug rendering of a path. -/
def ConfigError.message (debug : PathBuf → String) : ConfigError → String
  | .itemTimeout => "item timeout must be greater than zero"
  | .inputFile path => s!"input file {debug path} is not valid UTF-8"
  | .gcRootsDir dir => s!"gc roots directory {debug dir} is not valid UTF-8"
  | .remoteWorkers endpoint => s!"remote worker count for {endpoint} must be greater than zero"

/-- The remote check of `validate_config`: the first remote without workers is refused. -/
def validateRemotes : List Remote → Except ConfigError Unit
  | [] => .ok ()
  | remote :: remotes =>
    if remote.workers = 0 then .error (.remoteWorkers remote.endpoint) else validateRemotes remotes

/-- `validate_config`. -/
def validateConfig (config : Config) : Except ConfigError Unit := do
  if config.itemTimeoutSeconds = 0 then throw .itemTimeout
  match config.input with
  | .file path => if path.toStr.isNone then throw (.inputFile path)
  | .flake _ | .expr _ => pure ()
  match config.gcRootsDir with
  | some dir => if dir.toStr.isNone then throw (.gcRootsDir dir)
  | none => pure ()
  validateRemotes config.remotes

/-- The default configuration passes its own checks. -/
theorem validateConfig_default : validateConfig Config.default = .ok () := by decide

end Evix
