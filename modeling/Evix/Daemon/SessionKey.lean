import Evix.Daemon.SessionCache
import Evix.Json

/-!
# Session keys

The document that names a session: the derived encoding of `SessionKeyConfig`, with the encodings
of `serde_config`. Its fields are in the order of the declarations, and a path that is not text has
no encoding.
-/

namespace Evix

open Json

/-- The document of a path. -/
def PathBuf.document (path : PathBuf) : Except String Json :=
  match path.toStr with
  | some text => .ok (.string text)
  | none => .error "path contains invalid UTF-8 characters"

/-- The document of a machine integer. -/
def natDocument (value : Nat) : Json := .number (.posInt (.ofNat value))

/-- `input::serialize`. -/
def Input.document : Input → Except String Json
  | .flake value => .ok (.object [("type", .string "flake"), ("value", .string value)])
  | .expr value => .ok (.object [("type", .string "expr"), ("value", .string value)])
  | .file path => do return .object [("type", .string "file"), ("path", ← path.document)]

/-- An argument of `auto_args::serialize`. -/
def AutoArg.document : String × AutoArg → Json
  | (name, .expr value) =>
    .object [("name", .string name), ("kind", .string "expr"), ("value", .string value)]
  | (name, .str value) =>
    .object [("name", .string name), ("kind", .string "str"), ("value", .string value)]

/-- The document of a pair of strings. -/
def pairDocument (pair : String × String) : Json := strings [pair.1, pair.2]

/-- The document of a remote: a token that is absent is left out. -/
def Remote.document (remote : Remote) : Json :=
  .object ([("endpoint", .string remote.endpoint), ("systems", strings remote.systems),
    ("workers", natDocument remote.workers)] ++ optionalField "token" (remote.token.map .string))

/-- The document of an optional path. -/
def optionalPathDocument : Option PathBuf → Except String Json
  | some path => path.document
  | none => .ok .null

/-- The document of a session key. -/
def SessionKeyConfig.document (config : SessionKeyConfig) : Except String Json := do
  return .object [
    ("input", ← config.input.document),
    ("autoArgs", .array (config.autoArgs.map AutoArg.document)),
    ("forceRecurse", .bool config.forceRecurse),
    ("gcRootsDir", ← optionalPathDocument config.gcRootsDir),
    ("workers", natDocument config.workers),
    ("maxMemorySize", natDocument config.maxMemorySize),
    ("itemTimeoutSeconds", natDocument config.itemTimeoutSeconds),
    ("meta", .bool config.meta),
    ("showInputDrvs", .bool config.showInputDrvs),
    ("overrideInputs", .array (config.overrideInputs.map pairDocument)),
    ("nixOptions", .array (config.nixOptions.map pairDocument)),
    ("remotes", .array (config.remotes.map Remote.document))]

/-- `serde_json::to_string` of a session key. -/
def JsonText.key (text : JsonText) (config : SessionKeyConfig) : Except String String :=
  config.document.map text.print

end Evix
