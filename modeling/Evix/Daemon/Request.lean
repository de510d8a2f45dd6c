import Evix.Daemon.Handlers
import Evix.Daemon.Response
import Evix.Daemon.SessionKey
import Evix.Library.Record
import Evix.RemoteProto.Wire

/-!
# Requests of the daemon

The documents of requests: what the derived encodings write and what the derived decodings read. A
decoding finds the fields of an object by their names, in any order, and refuses an object that has
one of them twice. Only the decoding of a request refuses fields that it does not know. What can be
written as an object can also be written as an array, with the fields in their order; a variant
inside a request can also be written by its number, and one without fields as an object with one
empty field.
-/

namespace Evix

open Json Records

/-! ## Encoding -/

/-- The document of an optional value that is not left out. -/
def optionDocument (document : Option Json) : Json := document.getD .null

/-- The document of a configuration: its fields are those of a session key, in the same order. -/
def Config.document (config : Config) : Except String Json :=
  (SessionKeyConfig.ofConfig config).document

/-- The document of a list of attribute paths. -/
def pathsDocument (paths : List (List String)) : Json := .array (paths.map strings)

/-- The document of a filter: the later fields are left out when they are absent. -/
def Filter.document (filter : Filter) : Json :=
  .object ([("systems", optionDocument (filter.systems.map strings)),
    ("attrPrefix", optionDocument (filter.attrPrefix.map strings))]
    ++ optionalField "attrPrefixes" (filter.attrPrefixes.map pathsDocument)
    ++ optionalField "attrs" (filter.attrs.map pathsDocument)
    ++ optionalField "names" (filter.names.map strings)
    ++ optionalField "drvPaths" (filter.drvPaths.map strings)
    ++ optionalField "includePatterns" (filter.includePatterns.map strings)
    ++ optionalField "excludePatterns" (filter.excludePatterns.map strings))

/-- The tag of a request. -/
def Request.tag : Request → String
  | .eval _ => "eval"
  | .replay _ => "replay"
  | .watch _ => "watch"
  | .query .. => "query"
  | .diff _ => "diff"

/-- The filter field of a request. -/
def Request.filterFields : Request → List (String × Json)
  | .query _ filter => [("filter", filter.document)]
  | .eval _ | .replay _ | .watch _ | .diff _ => []

/-- A request with its protocol version. -/
structure VersionedRequest where
  /-- `protocol_version`. -/
  protocolVersion : UInt32
  /-- The rest of the request. -/
  request : Request

/-- The document of a protocol version. -/
def versionDocument (version : UInt32) : Json := .number (.posInt version.toUInt64)

/-- The fields of a request, with the document of its configuration. -/
def VersionedRequest.fields (message : VersionedRequest) (config : Json) : List (String × Json) :=
  [("type", .string message.request.tag),
    ("protocolVersion", versionDocument message.protocolVersion), ("config", config)]
    ++ message.request.filterFields

/-- The document of a request. -/
def VersionedRequest.document (message : VersionedRequest) : Except String Json := do
  return .object (message.fields (← message.request.config.document))

/-- `DAEMON_PROTOCOL_VERSION`. -/
def daemonProtocolVersion : UInt32 := 2

/-- `Request::eval` and its siblings. -/
def Request.versioned (request : Request) : VersionedRequest := ⟨daemonProtocolVersion, request⟩

/-- `validate_protocol`, with the text of `ProtocolVersionError`. -/
def VersionedRequest.validateProtocol (message : VersionedRequest) : Except String Unit :=
  if message.protocolVersion = daemonProtocolVersion then .ok ()
  else .error (s!"unsupported daemon protocol version {message.protocolVersion}; expected " ++
    s!"{daemonProtocolVersion}")

/-! ## Decoding -/

/-- Decode an unsigned integer. -/
def asNat : Json → Option Nat
  | .number (.posInt value) => some value.toNat
  | _ => none

/-- Decode a protocol version. -/
def asVersion (document : Json) : Option UInt32 :=
  (asNat document).bind fun value => if value < 2 ^ 32 then some (.ofNat value) else none

/-- Decode a path: any text is one. -/
def PathBuf.ofDocument (document : Json) : Option PathBuf := document.asStr.map .ofStr

/-- Decode an optional field, which may be left out or `null`. -/
def optional {α : Type} (decode : Json → Option α) (names : List String)
    (fields : List (String × Json)) : Option (Option α) :=
  defaulted (decodeOption decode) none names fields

/-- The fields of a structure: an object has them by name, an array by position, of which the last
ones may be left out. -/
def recordFields (least : Nat) (names : List String) : Json → Option (List (String × Json))
  | .object fields => some fields
  | .array values => placed least names values
  | _ => none

/-- The tag of an enumeration and its content: an object names the tag, an array begins with it. -/
def tagged (decode : Json → Option String) : Json → Option (String × Json)
  | .object fields =>
    (required decode ["type"] fields).map fun tag => (tag, .object (without ["type"] fields))
  | .array (tag :: values) => (decode tag).map fun tag => (tag, .array values)
  | _ => none

/-- Decode the name of a variant, or its number. -/
def variantName (names : List String) : Json → Option String
  | .string name => if name ∈ names then some name else none
  | .number (.posInt index) => names[index.toNat]?
  | _ => none

/-- `input::deserialize`. -/
def Input.ofDocument (document : Json) : Option Input := do
  let (tag, content) ← tagged (variantName ["flake", "expr", "file"]) document
  let fields ← recordFields 1 [if tag = "file" then "path" else "value"] content
  match tag with
  | "flake" => .flake <$> required asStr ["value"] fields
  | "expr" => .expr <$> required asStr ["value"] fields
  | "file" => .file <$> required PathBuf.ofDocument ["path"] fields
  | _ => none

/-- The `AutoArgKind` of a name, with what it makes of a value. -/
def autoArgKindOf : String → Option (String → AutoArg)
  | "expr" => some .expr
  | "str" => some .str
  | _ => none

/-- Decode an `AutoArgKind`. -/
def autoArgKind : Json → Option (String → AutoArg)
  | .string name | .object [(name, .null)] | .object [(name, .object [])] => autoArgKindOf name
  | _ => none

/-- An argument of `auto_args::deserialize`. -/
def AutoArg.ofDocument (document : Json) : Option (String × AutoArg) := do
  let fields ← recordFields 3 ["name", "kind", "value"] document
  let name ← required asStr ["name"] fields
  let kind ← required autoArgKind ["kind"] fields
  let value ← required asStr ["value"] fields
  return (name, kind value)

/-- Decode a pair of strings. -/
def decodePair : Json → Option (String × String)
  | .array [.string first, .string second] => some (first, second)
  | _ => none

/-- Decode a remote: its endpoint may be called a host. -/
def Remote.ofDocument (document : Json) : Option Remote := do
  let fields ← recordFields 3 ["endpoint", "systems", "workers", "token"] document
  return {
    endpoint := ← required asStr ["endpoint", "host"] fields
    systems := ← required toStrings ["systems"] fields
    workers := ← required asNat ["workers"] fields
    token := ← optional asStr ["token"] fields
  }

/-- Decode the fields of a configuration. -/
def Config.ofFields (fields : List (String × Json)) : Option Config := do
  return {
    input := ← required Input.ofDocument ["input"] fields
    autoArgs := ← required (decodeList AutoArg.ofDocument) ["autoArgs"] fields
    forceRecurse := ← defaulted asBool false ["forceRecurse"] fields
    gcRootsDir := ← optional PathBuf.ofDocument ["gcRootsDir"] fields
    workers := ← required asNat ["workers"] fields
    maxMemorySize := ← required asNat ["maxMemorySize"] fields
    itemTimeoutSeconds := ← defaulted asNat defaultItemTimeoutSeconds ["itemTimeoutSeconds"] fields
    «meta» := ← defaulted asBool false ["meta"] fields
    showInputDrvs := ← defaulted asBool false ["showInputDrvs"] fields
    overrideInputs := ← defaulted (decodeList decodePair) [] ["overrideInputs"] fields
    nixOptions := ← defaulted (decodeList decodePair) [] ["nixOptions"] fields
    remotes := ← defaulted (decodeList Remote.ofDocument) [] ["remotes"] fields
    workerExe := none
  }

/-- The names of the fields of a configuration. -/
def configNames : List String :=
  ["input", "autoArgs", "forceRecurse", "gcRootsDir", "workers", "maxMemorySize",
    "itemTimeoutSeconds", "meta", "showInputDrvs", "overrideInputs", "nixOptions", "remotes"]

/-- Decode a configuration. -/
def Config.ofDocument (document : Json) : Option Config :=
  (recordFields 6 configNames document).bind Config.ofFields

/-- The names of the fields of a filter. -/
def filterNames : List String :=
  ["systems", "attrPrefix", "attrPrefixes", "attrs", "names", "drvPaths", "includePatterns",
    "excludePatterns"]

/-- Decode a filter. In an array its first two fields cannot be left out. -/
def Filter.ofDocument (document : Json) : Option Filter := do
  let fields ← recordFields 2 filterNames document
  return {
    systems := ← optional toStrings ["systems"] fields
    attrPrefix := ← optional toStrings ["attrPrefix"] fields
    attrPrefixes := ← optional (decodeList toStrings) ["attrPrefixes"] fields
    attrs := ← optional (decodeList toStrings) ["attrs"] fields
    names := ← optional toStrings ["names"] fields
    drvPaths := ← optional toStrings ["drvPaths"] fields
    includePatterns := ← optional toStrings ["includePatterns"] fields
    excludePatterns := ← optional toStrings ["excludePatterns"] fields
  }

/-- The fields that a request with a tag may have beside it. -/
def requestFields (tag : String) : List String :=
  ["protocolVersion", "config"] ++ if tag = "query" then ["filter"] else []

/-- The request of a tag. -/
def requestOf (tag : String) (config : Config) (fields : List (String × Json)) : Option Request :=
  match tag with
  | "eval" => some (.eval config)
  | "replay" => some (.replay config)
  | "watch" => some (.watch config)
  | "query" => (.query config) <$> defaulted Filter.ofDocument {} ["filter"] fields
  | "diff" => some (.diff config)
  | _ => none

/-- Decode a request: the field `type` names the kind. -/
def VersionedRequest.ofDocument (document : Json) : Option VersionedRequest := do
  let (tag, content) ← tagged asStr document
  let fields ← recordFields 2 (requestFields tag) content
  if known (requestFields tag) fields then
    let protocolVersion ← required asVersion ["protocolVersion"] fields
    let config ← required Config.ofDocument ["config"] fields
    let request ← requestOf tag config fields
    return { protocolVersion, request }
  else none

end Evix
