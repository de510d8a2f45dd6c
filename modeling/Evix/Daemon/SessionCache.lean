import Evix.Config
import Mathlib.Data.List.AList

/-!
# The session cache of the daemon

The registry of cached sessions, which keeps the most recently used ones, and the operations of
`DaemonState` on it. Each is one section under the registry's lock. A session is named by a number,
and `Arc::ptr_eq` compares the numbers. An error is its outermost context, without its causes.
-/

namespace Evix

universe u

/-- `SessionRegistry`. -/
structure SessionRegistry (τ : Type u) where
  /-- Cached values by key. -/
  sessions : AList fun _ : String => τ
  /-- Keys, least recently used first. -/
  order : List String
  /-- Number of values to keep. -/
  max : Nat

namespace SessionRegistry

variable {τ : Type u}

/-- `SessionRegistry::new`. -/
def new (max : Nat) : SessionRegistry τ := ⟨∅, [], max⟩

/-- `remove_order_entry`. -/
def removeOrderEntry (registry : SessionRegistry τ) (key : String) : SessionRegistry τ :=
  { registry with order := registry.order.erase key }

/-- The loop of `insert`: the oldest keys are dropped while the registry is full. -/
def evict (max : Nat) : List String → (AList fun _ : String => τ) →
    List String × AList fun _ : String => τ
  | [], sessions => ([], sessions)
  | oldest :: order, sessions =>
    if max ≤ sessions.entries.length then evict max order (sessions.erase oldest)
    else (oldest :: order, sessions)

/-- `SessionRegistry::insert`. -/
def insert (registry : SessionRegistry τ) (key : String) (value : τ) : SessionRegistry τ :=
  let kept := evict registry.max (registry.removeOrderEntry key).order registry.sessions
  { registry with sessions := kept.2.insert key value, order := kept.1 ++ [key] }

/-- A key becomes the most recently used one. -/
def touch (registry : SessionRegistry τ) (key : String) : SessionRegistry τ :=
  let removed := registry.removeOrderEntry key
  { removed with order := removed.order ++ [key] }

/-- `SessionRegistry::get`. -/
def get (registry : SessionRegistry τ) (key : String) : Option τ × SessionRegistry τ :=
  match registry.sessions.lookup key with
  | none => (none, registry)
  | some value => (some value, registry.touch key)

/-- `SessionRegistry::get_mut`, with what the caller does to the value. -/
def getMut (registry : SessionRegistry τ) (key : String) (update : τ → τ) : SessionRegistry τ :=
  match registry.sessions.lookup key with
  | none => registry
  | some value =>
    { registry.touch key with sessions := registry.sessions.insert key (update value) }

end SessionRegistry

/-- A call on a registry. -/
inductive RegistryCall (τ : Type u) where
  /-- `insert`. -/
  | insert (key : String) (value : τ)
  /-- `get`. -/
  | get (key : String)
  /-- `get_mut`, with what the caller does to the value. -/
  | getMut (key : String) (update : τ → τ)

namespace SessionRegistry

variable {τ : Type u}

/-- The registry after a call. -/
def call (registry : SessionRegistry τ) : RegistryCall τ → SessionRegistry τ
  | .insert key value => registry.insert key value
  | .get key => (registry.get key).2
  | .getMut key update => registry.getMut key update

/-- The registry after calls on a new one, in order. -/
def after (max : Nat) (calls : List (RegistryCall τ)) : SessionRegistry τ :=
  calls.foldl call (new max)

/-! ## Looking up -/

/-- Evicting only drops. -/
theorem lookup_evict {max : Nat} {order : List String} {sessions : AList fun _ : String => τ}
    {key : String} {value : τ} (found : (evict max order sessions).2.lookup key = some value) :
    sessions.lookup key = some value := by
  induction order generalizing sessions with
  | nil => exact found
  | cons oldest order ih =>
    unfold evict at found
    split at found
    · have kept := ih found
      by_cases same : key = oldest
      · subst same
        rw [AList.lookup_erase] at kept
        cases kept
      · rw [AList.lookup_erase_ne same] at kept
        exact kept
    · exact found

/-- What is found after an insertion is the new value or was there before. -/
theorem lookup_insert {registry : SessionRegistry τ} {key other : String} {value found : τ}
    (there : (registry.insert key value).sessions.lookup other = some found) :
    other = key ∧ found = value ∨ other ≠ key ∧ registry.sessions.lookup other = some found := by
  by_cases same : other = key
  · subst same
    simp only [insert, AList.lookup_insert, Option.some.injEq] at there
    exact .inl ⟨rfl, there.symm⟩
  · simp only [insert, AList.lookup_insert_ne same] at there
    exact .inr ⟨same, lookup_evict there⟩

/-- Reading a value changes no value. -/
theorem sessions_get (registry : SessionRegistry τ) (key : String) :
    (registry.get key).2.sessions = registry.sessions := by
  unfold get
  split <;> rfl

/-- What is found after an update is the updated value or was there before. -/
theorem lookup_getMut {registry : SessionRegistry τ} {key other : String} {update : τ → τ}
    {found : τ} (there : (registry.getMut key update).sessions.lookup other = some found) :
    (other = key ∧ ∃ value, registry.sessions.lookup key = some value ∧ found = update value) ∨
      other ≠ key ∧ registry.sessions.lookup other = some found := by
  unfold getMut at there
  by_cases same : other = key
  · subst same
    split at there
    · rename_i missing
      rw [missing] at there
      cases there
    · rename_i value present
      simp only [AList.lookup_insert, Option.some.injEq] at there
      exact .inl ⟨rfl, value, present, there.symm⟩
  · split at there
    · exact .inr ⟨same, there⟩
    · simp only [AList.lookup_insert_ne same] at there
      exact .inr ⟨same, there⟩

end SessionRegistry

/-- Bytes on a socket. -/
abbrev Bytes := List UInt8

/-- `Replay`. -/
inductive Replay where
  /-- The evaluation streams. -/
  | recording
  /-- Its event lines. -/
  | ready (lines : Bytes)
  /-- Nothing to replay. -/
  | invalidated
  deriving DecidableEq

/-- `CachedSession`. -/
structure CachedSession where
  /-- The session. -/
  session : Nat
  /-- What a replay gives. -/
  replay : Replay
  deriving DecidableEq

/-- `SessionKeyConfig`: the part of a configuration that names its session. -/
structure SessionKeyConfig where
  /-- What to evaluate. -/
  input : Input
  /-- Arguments for auto-called functions, in order. -/
  autoArgs : List (String × AutoArg)
  /-- Recurse into all attribute sets. -/
  forceRecurse : Bool
  /-- Directory for garbage collector roots. -/
  gcRootsDir : Option PathBuf
  /-- Requested local workers. -/
  workers : Nat
  /-- Memory limit of a worker in megabytes. -/
  maxMemorySize : Nat
  /-- Per-attribute evaluation timeout in seconds. -/
  itemTimeoutSeconds : Nat
  /-- Attach the `meta` attribute. -/
  «meta» : Bool
  /-- Attach input derivations. -/
  showInputDrvs : Bool
  /-- Flake input overrides. -/
  overrideInputs : List (String × String)
  /-- Nix settings. -/
  nixOptions : List (String × String)
  /-- Remote worker endpoints. -/
  remotes : List Remote
  deriving DecidableEq

/-- `impl From<&Config> for SessionKeyConfig`. -/
def SessionKeyConfig.ofConfig (config : Config) : SessionKeyConfig where
  input := config.input
  autoArgs := config.autoArgs
  forceRecurse := config.forceRecurse
  gcRootsDir := config.gcRootsDir
  workers := config.workers
  maxMemorySize := config.maxMemorySize
  itemTimeoutSeconds := config.itemTimeoutSeconds
  «meta» := config.meta
  showInputDrvs := config.showInputDrvs
  overrideInputs := config.overrideInputs
  nixOptions := config.nixOptions
  remotes := config.remotes

/-- How the daemon writes JSON. -/
structure Serializer where
  /-- `serde_json::to_string` of a session key. -/
  key : SessionKeyConfig → Except String String
  /-- `response_line` of an event response. -/
  eventLine : Event → Except String Bytes

/-- `session_key`. -/
def Serializer.sessionKey (serializer : Serializer) (config : Config) : Except String String :=
  (serializer.key (.ofConfig config)).mapError fun _ => "serializing session key"

/-- `MAX_SESSIONS`. -/
def maxSessions : Nat := 32

namespace SessionRegistry

variable (registry : SessionRegistry CachedSession) (key : String)

/-- `DaemonState::replace_session`, with the session just opened. -/
def replaceSession (session : Nat) : SessionRegistry CachedSession :=
  registry.insert key ⟨session, .recording⟩

/-- `DaemonState::warm_session`. -/
def warmSession : Except String Nat × SessionRegistry CachedSession :=
  match registry.get key with
  | (some cached, registry) => (.ok cached.session, registry)
  | (none, registry) =>
    (.error ("no warm session for requested daemon config; query/diff reuse a session only when " ++
      "all daemon-protocol config values match a completed eval or watch"), registry)

/-- `DaemonState::replay`. -/
def replay : Except String Bytes × SessionRegistry CachedSession :=
  match registry.get key with
  | (none, registry) => (.error "no replayable session for requested daemon config", registry)
  | (some cached, registry) =>
    match cached.replay with
    | .recording => (.error "matching evaluation has not completed", registry)
    | .ready lines => (.ok lines, registry)
    | .invalidated => (.error "session has no replayable completed evaluation", registry)

/-- `DaemonState::settle_replay`: a replaced session and an invalidated replay are left alone. -/
def settleReplay (session : Nat) (replay : Replay) : SessionRegistry CachedSession :=
  registry.getMut key fun cached =>
    if cached.session = session ∧ cached.replay ≠ .invalidated then { cached with replay }
    else cached

end SessionRegistry

end Evix
