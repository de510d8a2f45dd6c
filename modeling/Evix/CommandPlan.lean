import Evix.Args
import Evix.Daemon.Request
import Evix.DaemonRequest

/-!
# Plans of the command line

What `evix` does for its parsed arguments: the plan, with a configuration that is complete, and
where the plan is carried out. The fields that `eval`, `watch`, `query` and `diff` share are one
record, as they are when the configuration is built.
-/

namespace Evix

open Args

/-! ## The plan -/

/-- `EvalInput`. -/
structure EvalInput where
  /-- `--flake`. -/
  flake : Option String
  /-- `--expr`. -/
  expr : Option String
  /-- `--file`. -/
  file : Option PathBuf
  /-- `--arg`. -/
  arg : List Pair
  /-- `--argstr`. -/
  argstr : List Pair
  /-- `--override-input`. -/
  overrideInput : List Pair
  /-- `--option`. -/
  option : List Pair
  /-- `--remote`. -/
  remote : List RemoteArg
  /-- `--remote-token`. -/
  remoteToken : Option String
  /-- `--insecure-tokenless-remote`. -/
  insecureTokenlessRemote : Bool
  /-- `--meta`. -/
  «meta» : Bool
  /-- `--show-input-drvs`. -/
  showInputDrvs : Bool
  /-- `--workers`. -/
  workers : Nat
  /-- `--max-memory`. -/
  maxMemory : Nat
  /-- `--item-timeout-seconds`. -/
  itemTimeoutSeconds : Nat
  /-- `--force-recurse`. -/
  forceRecurse : Bool
  /-- `--gc-roots-dir`. -/
  gcRootsDir : Option PathBuf

/-- `Commands`. -/
inductive Commands where
  /-- `evix eval`. -/
  | eval (input : EvalInput) (socket : Option PathBuf) (noDaemon replay : Bool)
  /-- `evix watch`. -/
  | watch (input : EvalInput) (socket : Option PathBuf) (noDaemon : Bool)
  /-- `evix query`. -/
  | query (input : EvalInput) (socket : Option PathBuf) (system attrPrefix : List String)
    (noDaemon : Bool)
  /-- `evix diff`. -/
  | diff (input : EvalInput) (socket : Option PathBuf)
  /-- `evix daemon`. -/
  | daemon (socket : Option PathBuf) (foreground : Bool)
  /-- `evix worker`. -/
  | worker (listen : String) (token : Option String) (insecureTokenlessRemote : Bool)

/-- `CommandPlan`. -/
inductive CommandPlan where
  /-- An evaluation, or a replay of one. -/
  | eval (config : Config) (socket : Option PathBuf) (useDaemon replay : Bool)
  /-- A watch. -/
  | watch (config : Config) (socket : Option PathBuf) (useDaemon : Bool)
  /-- A query. -/
  | query (config : Config) (filter : Filter) (socket : Option PathBuf)
  /-- A difference. -/
  | diff (config : Config) (socket : Option PathBuf)
  /-- A daemon. -/
  | daemon (socket : Option PathBuf) (foreground : Bool)
  /-- A remote service. -/
  | worker (listen : String) (token : Option String)

section Plan

variable (evixRemoteToken : Option String)

/-- `remote_token`. -/
def Args.remoteToken (flag : Option String) : Except String (Option String) :=
  match flag.or evixRemoteToken with
  | some token =>
    if token.isEmpty then .error "remote token must not be empty" else .ok (some token)
  | none => .ok none

/-- `remote_worker_token`. -/
def Args.remoteWorkerToken (flag : Option String) (allowTokenless : Bool) :
    Except String (Option String) :=
  match remoteToken evixRemoteToken flag with
  | .error error => .error error
  | .ok (some token) => .ok (some token)
  | .ok none =>
    if allowTokenless then .ok none
    else .error "remote worker requires --token or EVIX_REMOTE_TOKEN"

/-- `auto_args`. -/
def Args.autoArgs (exprArgs strArgs : List Pair) : List (String × AutoArg) :=
  exprArgs.map (fun pair => (pair.name, .expr pair.value)) ++
    strArgs.map fun pair => (pair.name, .str pair.value)

/-- `pairs`. -/
def Args.pairs (values : List Pair) : List (String × String) :=
  values.map fun pair => (pair.name, pair.value)

/-- The input of `config`. -/
def EvalInput.input (args : EvalInput) : Except String Input :=
  match args.flake, args.expr, args.file with
  | some flake, none, none => .ok (.flake flake)
  | none, some expr, none => .ok (.expr expr)
  | none, none, some file => .ok (.file file)
  | _, _, _ => .error "exactly one of --flake, --expr, or --file is required"

/-- `config`. -/
def EvalInput.config (args : EvalInput) : Except String Config := do
  let input ← args.input
  let token ← Args.remoteToken evixRemoteToken args.remoteToken
  if !args.remote.isEmpty && token.isNone && !args.insecureTokenlessRemote then
    .error "remote evaluation requires --remote-token or EVIX_REMOTE_TOKEN"
  else if args.itemTimeoutSeconds = 0 then .error "item timeout must be greater than zero"
  else
    .ok {
      input
      autoArgs := Args.autoArgs args.arg args.argstr
      forceRecurse := args.forceRecurse
      gcRootsDir := args.gcRootsDir
      workers := args.workers
      maxMemorySize := args.maxMemory
      itemTimeoutSeconds := args.itemTimeoutSeconds
      «meta» := args.meta
      showInputDrvs := args.showInputDrvs
      overrideInputs := Args.pairs args.overrideInput
      nixOptions := Args.pairs args.option
      remotes := args.remote.map fun remote =>
        ⟨remote.endpoint, remote.systems, remote.workers, token⟩
      workerExe := none }

/-- `command_plan`. -/
def commandPlan : Commands → Except String CommandPlan
  | .eval input socket noDaemon replay =>
    if replay && noDaemon then .error "--replay requires the daemon"
    else do return .eval (← input.config evixRemoteToken) socket (!noDaemon) replay
  | .watch input socket noDaemon => do
    let config ← input.config evixRemoteToken
    match config.input with
    | .expr _ => .error "watch requires --flake or --file input"
    | .flake _ | .file _ => .ok (.watch config socket (!noDaemon))
  | .query input socket system attrPrefix _ => do
    return .query (← input.config evixRemoteToken) (Args.filter system attrPrefix) socket
  | .diff input socket => do return .diff (← input.config evixRemoteToken) socket
  | .daemon socket foreground => .ok (.daemon socket foreground)
  | .worker listen token insecureTokenlessRemote => do
    return .worker listen (← remoteWorkerToken evixRemoteToken token insecureTokenlessRemote)

end Plan

/-! ## Where it is carried out -/

/-- How a connection to the socket of the daemon ends. -/
inductive Connected where
  /-- There is a daemon. -/
  | ok
  /-- There is no socket. -/
  | notFound
  /-- It fails otherwise. -/
  | failed
  deriving DecidableEq

/-- What `evix` finds where it runs. -/
structure Surroundings where
  /-- The paths of the machine. -/
  paths : ClientPaths
  /-- The working directory. -/
  directory : PathBuf
  /-- `EVIX_SOCKET`. -/
  evixSocket : Option PathBuf
  /-- The effective user. -/
  uid : Nat
  /-- `UnixStream::connect`. -/
  connect : PathBuf → Connected

/-- What `run_plan` comes to. -/
inductive Course where
  /-- `run_local_eval`. -/
  | localEval (config : Config)
  /-- `run_local_watch`. -/
  | localWatch (config : Config)
  /-- `run_daemon_request` on a connection. -/
  | daemonRequest (request : Request)
  /-- `daemon::run`. -/
  | daemon (socket : PathBuf) (foreground : Bool)
  /-- `serve_remote_worker` or `serve_tokenless_remote_worker`. -/
  | worker (listen : String) (token : Option String)
  /-- The command fails. -/
  | failed (error : String)

section Course

variable (around : Surroundings)

/-- `default_socket_path`. -/
def defaultSocketPath : PathBuf := .ofStr s!"/run/user/{around.uid}/evix.sock"

/-- `socket_path`. -/
def socketPath (flag : Option PathBuf) : PathBuf :=
  (flag.or around.evixSocket).getD (defaultSocketPath around)

/-- `daemon_connect_context`. -/
def daemonConnectContext (socket : PathBuf) : String :=
  s!"connecting to evix daemon at {around.paths.display socket}"

/-- `run_client_or_local`. -/
def runClientOrLocal (request : Request) (socket : Option PathBuf) (fallback : Course) : Course :=
  let socket := socketPath around socket
  match around.connect socket with
  | .ok => .daemonRequest request
  | .notFound => fallback
  | .failed => .failed (daemonConnectContext around socket)

/-- `run_daemon_only`. -/
def runDaemonOnly (request : Request) (socket : Option PathBuf) : Course :=
  let socket := socketPath around socket
  match around.connect socket with
  | .ok => .daemonRequest request
  | .notFound | .failed => .failed (daemonConnectContext around socket)

/-- A request for the daemon that is prepared before anything is connected. -/
def prepared (request : Request) (send : Request → Course) : Course :=
  match daemonRequest around.paths around.directory request with
  | .ok request => send request
  | .error error => .failed error

/-- `run_plan`. -/
def runPlan : CommandPlan → Course
  | .eval config socket useDaemon replay =>
    if useDaemon then
      prepared around (if replay then .replay config else .eval config) fun request =>
        if replay then runDaemonOnly around request socket
        else runClientOrLocal around request socket (.localEval config)
    else .localEval config
  | .watch config socket useDaemon =>
    if useDaemon then
      prepared around (.watch config) fun request =>
        runClientOrLocal around request socket (.localWatch config)
    else .localWatch config
  | .query config filter socket =>
    prepared around (.query config filter) (runDaemonOnly around · socket)
  | .diff config socket => prepared around (.diff config) (runDaemonOnly around · socket)
  | .daemon socket foreground => .daemon (socketPath around socket) foreground
  | .worker listen token => .worker listen token

end Course

end Evix
