import Evix.NixOptions
import Evix.RemoteProto.Wire

/-!
# The gate of a remote service

`serve_connection` as a function of what it reads: the first message is checked for its token,
its store directory and its Nix settings before an evaluator is started with a file of the
settings, and each restart uses the configuration of the first message.
-/

namespace Evix.RemoteWorker

/-- `ALLOWED_REMOTE_NIX_OPTIONS`. -/
def allowedRemoteNixOptions : List String :=
  ["accept-flake-config", "allow-import-from-derivation", "allowed-uris", "experimental-features",
    "extra-experimental-features", "restrict-eval"]

/-! ## The checks -/

/-- The bytes of a string. -/
def asBytes (text : String) : List UInt8 := text.toUTF8.data.toList

/-- The difference that `token_matches` accumulates over the padded bytes. -/
def tokenDiff (actual expected : List UInt8) : Nat :=
  (List.range (max actual.length expected.length)).foldl
    (fun diff index => diff ||| (actual.getD index 0 ^^^ expected.getD index 0).toNat)
    (actual.length ^^^ expected.length)

/-- `token_matches`. -/
def tokenMatches (actual expected : Option String) : Bool :=
  match expected with
  | none => actual.isNone
  | some expected =>
    match actual with
    | none => false
    | some actual => tokenDiff (asBytes actual) (asBytes expected) == 0

/-- `validate_store_dir`, where `actual` is the local store directory. -/
def validateStoreDir (actual : Except String String) : Option String → Except String Unit
  | none => .ok ()
  | some expected => do
    let actual ← actual
    if actual ≠ expected then
      throw (s!"remote worker store dir mismatch: master uses {expected}, remote uses " ++ actual)

/-- `validate_remote_config`; `debug` is the debug rendering of a string. -/
def validateRemoteConfig (debug : String → String) :
    List (String × String) → Except String Unit
  | [] => .ok ()
  | option :: options =>
    if option.1 ∈ allowedRemoteNixOptions then validateRemoteConfig debug options
    else .error s!"remote worker rejected unsupported nix option {debug option.1}"

/-! ## A connection -/

/-- What a service has on its host. -/
structure Host where
  /-- The configured token. -/
  token : Option String
  /-- `local_store_dir`. -/
  storeDir : Except String String
  /-- What preparing the Nix options finds, for each start of an evaluator. -/
  nixOptions : Nat → NixOptionsHost
  /-- Whether the evaluator answers, for each start. -/
  evaluator : Nat → Except String Unit
  /-- Debug rendering of a string. -/
  debug : String → String
  /-- Debug rendering of a message. -/
  debugMessage : ClientMessage → String

/-- What a service does. -/
inductive Effect where
  /-- It writes to the master. -/
  | write (message : ServerMessage)
  /-- It starts an evaluator, with a Nix configuration file or none. -/
  | spawn (config : WorkerConfig) (nixConf : Option (List Char))
  deriving DecidableEq

/-- What a service does in a while, and how that ends. -/
abbrev Outcome := List Effect × Except String Unit

/-- Go on after an outcome unless it failed. -/
def Outcome.andThen (outcome later : Outcome) : Outcome :=
  match outcome.2 with
  | .error error => (outcome.1, .error error)
  | .ok () => (outcome.1 ++ later.1, later.2)

/-- `spawn_local`. -/
def spawnLocal (host : Host) (config : WorkerConfig) (start : Nat) : Outcome :=
  match prepareNixOptionsEnv (host.nixOptions start) config.nixOptions with
  | .error error => ([], .error error)
  | .ok file => ([.spawn config (file.map NixOptionsFile.contents)], host.evaluator start)

/-- The race between the evaluator and the next message. -/
inductive InflightResult where
  /-- The evaluator answers first. -/
  | worker (response : Except String (Event × WorkerStatus))
  /-- The message is first. -/
  | client (message : Except String ClientMessage)

/-- `handle_inflight_client_message`. -/
def handleInflightClientMessage : Except String ClientMessage → Except String Unit
  | .ok .shutdown => .ok ()
  | .ok (.work _) => .error "remote worker received new work while an attribute was in flight"
  | .ok (.setup ..) => .error "remote worker setup sent twice"
  | .error _ => .error "reading remote worker request during work"

/-- What a pass of the loop of `serve_connection` is given. -/
structure Pass where
  /-- The next message. -/
  request : Except String ClientMessage
  /-- The race that follows if the message is work. -/
  race : InflightResult

/-- The loop of `serve_connection`, where `start` counts the evaluators. -/
def serveRequests (host : Host) (config : WorkerConfig) (start : Nat) : List Pass → Outcome
  | [] => ([], .ok ())
  | ⟨.ok (.work _), .worker (.ok (event, status))⟩ :: passes =>
    let answers : Outcome := ([.write (.event event), .write (.status status)], .ok ())
    if status = .restart then
      (answers.andThen (spawnLocal host config start)).andThen
        (serveRequests host config (start + 1) passes)
    else answers.andThen (serveRequests host config start passes)
  | ⟨.ok (.work _), .worker (.error error)⟩ :: _ => ([.write (.error error)], .error error)
  | ⟨.ok (.work _), .client message⟩ :: _ => ([], handleInflightClientMessage message)
  | ⟨.ok .shutdown, _⟩ :: _ => ([], .ok ())
  | ⟨.ok (.setup ..), _⟩ :: _ => ([], .error "remote worker setup sent twice")
  | ⟨.error _, _⟩ :: _ => ([], .error "reading remote worker request")

/-- The checks of `serve_connection` after the token. -/
def checkSetup (host : Host) (config : WorkerConfig) (expectedStoreDir : Option String) :
    Except String Unit := do
  validateStoreDir host.storeDir expectedStoreDir
  validateRemoteConfig host.debug config.nixOptions

/-- What `serve_connection` answers to another token. -/
def authenticationFailed : String := "remote worker authentication failed"

/-- `serve_connection`, up to the end of the passes; reading the first message may fail. -/
def serveConnection (host : Host) (first : Except String WorkerCapnp.ClientMessage)
    (passes : List Pass) : Outcome :=
  match first.bind decodeClient with
  | .error error => ([], .error error)
  | .ok (.setup config token expectedStoreDir) =>
    if !tokenMatches token host.token then
      ([.write (.error authenticationFailed)], .error authenticationFailed)
    else
      match checkSetup host config expectedStoreDir with
      | .error error => ([], .error error)
      | .ok () =>
        ((spawnLocal host config 0).andThen ([.write .ready], .ok ())).andThen
          (serveRequests host config 1 passes)
  | .ok other =>
    ([], .error s!"expected setup as first remote worker message, got {host.debugMessage other}")

end Evix.RemoteWorker
