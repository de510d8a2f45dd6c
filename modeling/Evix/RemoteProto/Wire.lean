import Evix.Json
import Evix.RemoteProto

/-!
# The worker protocol on the wire

The schema `worker.capnp`, the writers that fill a message and the readers that take it apart. A
writer starts from the default of its struct, in which a number is zero, a text and a list are
empty and a union holds its first member, and sets one field after the other.
-/

namespace Evix

/-! ## The schema -/

namespace WorkerCapnp

/-- `TextOpt`. -/
inductive TextOpt where
  /-- `none @0`. -/
  | none
  /-- `some @1`. -/
  | some (text : String)
  deriving DecidableEq

/-- `TextListOpt`. -/
inductive TextListOpt where
  /-- `none @0`. -/
  | none
  /-- `some @1`. -/
  | some (texts : List String)
  deriving DecidableEq

/-- `StringPair`. -/
structure StringPair where
  /-- `key @0`. -/
  key : String := ""
  /-- `value @1`. -/
  value : String := ""
  deriving DecidableEq

/-- `Input`. -/
inductive Input where
  /-- `flake @0`. -/
  | flake (text : String)
  /-- `expr @1`. -/
  | expr (text : String)
  /-- `file @2`. -/
  | file (text : String)
  deriving DecidableEq

/-- The union of `AutoArg`. -/
inductive AutoArgValue where
  /-- `expr @1`. -/
  | expr (text : String)
  /-- `str @2`. -/
  | str (text : String)
  deriving DecidableEq

/-- `AutoArg`. -/
structure AutoArg where
  /-- `name @0`. -/
  name : String := ""
  /-- The union. -/
  value : AutoArgValue := .expr ""
  deriving DecidableEq

/-- `WorkerConfig`. -/
structure WorkerConfig where
  /-- `input @0`. -/
  input : Input := .flake ""
  /-- `autoArgs @1`. -/
  autoArgs : List AutoArg := []
  /-- `forceRecurse @2`. -/
  forceRecurse : Bool := false
  /-- `gcRootsDir @3`. -/
  gcRootsDir : TextOpt := .none
  /-- `maxMemorySize @4`. -/
  maxMemorySize : UInt64 := 0
  /-- `meta @5`. -/
  «meta» : Bool := false
  /-- `showInputDrvs @6`. -/
  showInputDrvs : Bool := false
  /-- `overrideInputs @7`. -/
  overrideInputs : List StringPair := []
  /-- `nixOptions @8`. -/
  nixOptions : List StringPair := []
  /-- `itemTimeoutSeconds @9`. -/
  itemTimeoutSeconds : UInt64 := 0
  /-- `lockedFlakeJson @10`. -/
  lockedFlakeJson : TextOpt := .none
  deriving DecidableEq

/-- `Setup`. -/
structure Setup where
  /-- `config @0`. -/
  config : WorkerConfig := {}
  /-- `token @1`. -/
  token : TextOpt := .none
  /-- `expectedStoreDir @2`. -/
  expectedStoreDir : TextOpt := .none
  /-- `protocolVersion @3`. -/
  protocolVersion : UInt32 := 0
  deriving DecidableEq

/-- `Work`. -/
structure Work where
  /-- `attrPath @0`. -/
  attrPath : List String := []
  deriving DecidableEq

/-- `ClientMessage`. -/
inductive ClientMessage where
  /-- `setup @0`. -/
  | setup (setup : Setup)
  /-- `work @1`. -/
  | work (work : Work)
  /-- `shutdown @2`. -/
  | shutdown
  deriving DecidableEq

/-- `WorkerStatus`. -/
inductive WorkerStatus where
  /-- `ready @0`. -/
  | ready
  /-- `restart @1`. -/
  | restart
  deriving DecidableEq

/-- The union of `Output`. -/
inductive OutputPath where
  /-- `absent @1`. -/
  | absent
  /-- `path @2`. -/
  | path (text : String)
  deriving DecidableEq

/-- `Output`. -/
structure Output where
  /-- `name @0`. -/
  name : String := ""
  /-- The union. -/
  path : OutputPath := .absent
  deriving DecidableEq

/-- `InputDrv`. -/
structure InputDrv where
  /-- `drvPath @0`. -/
  drvPath : String := ""
  /-- `valueJson @1`. -/
  valueJson : String := ""
  deriving DecidableEq

/-- `Derivation`. -/
structure Derivation where
  /-- `attr @0`. -/
  attr : String := ""
  /-- `attrPath @1`. -/
  attrPath : List String := []
  /-- `name @2`. -/
  name : String := ""
  /-- `system @3`. -/
  system : String := ""
  /-- `drvPath @4`. -/
  drvPath : String := ""
  /-- `outputs @5`. -/
  outputs : List Output := []
  /-- `metaJson @6`. -/
  metaJson : TextOpt := .none
  /-- `inputDrvs @7`. -/
  inputDrvs : List InputDrv := []
  /-- `constituents @8`. -/
  constituents : TextListOpt := .none
  /-- `gcRootError @9`. -/
  gcRootError : TextOpt := .none
  deriving DecidableEq

/-- `AttrSet`. -/
structure AttrSet where
  /-- `attr @0`. -/
  attr : String := ""
  /-- `attrPath @1`. -/
  attrPath : List String := []
  /-- `attrs @2`. -/
  attrs : List String := []
  deriving DecidableEq

/-- `EvalError`. -/
structure EvalError where
  /-- `attr @0`. -/
  attr : String := ""
  /-- `attrPath @1`. -/
  attrPath : List String := []
  /-- `error @2`. -/
  error : String := ""
  /-- `fatal @3`. -/
  fatal : Bool := false
  deriving DecidableEq

/-- `Event`. -/
inductive Event where
  /-- `derivation @0`. -/
  | derivation (derivation : Derivation)
  /-- `attrSet @1`. -/
  | attrSet (attrSet : AttrSet)
  /-- `error @2`. -/
  | error (error : EvalError)
  deriving DecidableEq

/-- `ServerMessage`. -/
inductive ServerMessage where
  /-- `ready @0`. -/
  | ready
  /-- `event @1`. -/
  | event (event : Event)
  /-- `status @2`. -/
  | status (status : WorkerStatus)
  /-- `error @3`. -/
  | error (text : String)
  deriving DecidableEq

end WorkerCapnp

/-- `WORKER_PROTOCOL_VERSION`. -/
def workerProtocolVersion : UInt32 := 1

/-- `DEFAULT_ITEM_TIMEOUT_SECONDS`. -/
def defaultItemTimeoutSeconds : Nat := 30 * 60

/-! ## Lists and options -/

/-- `list_len`. -/
def listLen (len : Nat) (field : String) : Except String Nat :=
  if len < 2 ^ 32 then .ok len else .error s!"{field} length exceeds Cap'n Proto list limit"

/-- `list_index`. -/
def listIndex (index : Nat) : Except String Nat :=
  if index < 2 ^ 32 then .ok index else .error "Cap'n Proto list index exceeds u32"

/-- Set the items of a list from an index on. -/
def setItems {α β : Type} (write : α → β) : Nat → List α → List β → Except String (List β)
  | _, [], items => .ok items
  | index, value :: values, items => do
    let position ← listIndex index
    setItems write (index + 1) values (items.set position (write value))

/-- Initialise a list of default items and set them. -/
def setList {α β : Type} (empty : β) (write : α → β) (field : String) (values : List α) :
    Except String (List β) := do
  let len ← listLen values.length field
  setItems write 0 values (List.replicate len empty)

/-- `set_text_list`, after the list is initialised. -/
def setTextList (field : String) (values : List String) : Except String (List String) :=
  setList "" id field values

/-- `set_pairs`, after the list is initialised. -/
def setPairs (field : String) (pairs : List (String × String)) :
    Except String (List WorkerCapnp.StringPair) :=
  setList {} (fun pair => { key := pair.1, value := pair.2 }) field pairs

/-- `read_pairs`. -/
def readPairs (pairs : List WorkerCapnp.StringPair) : List (String × String) :=
  pairs.map fun pair => (pair.key, pair.value)

/-- `set_text_opt`. -/
def setTextOpt : Option String → WorkerCapnp.TextOpt
  | some value => .some value
  | none => .none

/-- `read_text_opt`. -/
def readTextOpt : WorkerCapnp.TextOpt → Option String
  | .none => none
  | .some value => some value

/-- `read_text_list_opt`. -/
def readTextListOpt : WorkerCapnp.TextListOpt → Option (List String)
  | .none => none
  | .some values => some values

/-- `PathBuf::from` of a text. -/
def PathBuf.ofStr (text : String) : PathBuf := ⟨text.toUTF8.data.toList⟩

/-! ## The configuration of a worker -/

section Config

variable (debug : PathBuf → String)

/-- `set_input`; `debug` is the debug rendering of a path. -/
def setInput : Input → Except String WorkerCapnp.Input
  | .flake value => .ok (.flake value)
  | .expr value => .ok (.expr value)
  | .file path =>
    match path.toStr with
    | some text => .ok (.file text)
    | none => .error s!"input file {debug path} is not valid UTF-8"

/-- `read_input`. -/
def readInput : WorkerCapnp.Input → Input
  | .flake value => .flake value
  | .expr value => .expr value
  | .file value => .file (.ofStr value)

/-- An automatic argument. -/
def setAutoArg (arg : String × AutoArg) : WorkerCapnp.AutoArg :=
  { name := arg.1
    value := match arg.2 with
      | .expr expr => .expr expr
      | .str value => .str value }

/-- `read_auto_args`, for one item. -/
def readAutoArg (item : WorkerCapnp.AutoArg) : String × AutoArg :=
  (item.name, match item.value with
    | .expr expr => .expr expr
    | .str value => .str value)

/-- The directory of garbage collector roots as text. -/
def gcRootsDirText : Option PathBuf → Except String (Option String)
  | none => .ok none
  | some path =>
    match path.toStr with
    | some text => .ok (some text)
    | none => .error s!"gc roots directory {debug path} is not valid UTF-8"

/-- `set_worker_config`. -/
def setWorkerConfig (config : WorkerConfig) : Except String WorkerCapnp.WorkerConfig := do
  let builder : WorkerCapnp.WorkerConfig := {}
  let builder := { builder with input := ← setInput debug config.input }
  let builder := { builder with autoArgs := ← setList {} setAutoArg "auto args" config.autoArgs }
  let builder := { builder with forceRecurse := config.forceRecurse }
  let builder := { builder with
    gcRootsDir := setTextOpt (← gcRootsDirText debug config.gcRootsDir) }
  let builder := { builder with maxMemorySize := .ofNat config.maxMemorySize }
  let builder := { builder with itemTimeoutSeconds := .ofNat config.itemTimeoutSeconds }
  let builder := { builder with «meta» := config.meta }
  let builder := { builder with showInputDrvs := config.showInputDrvs }
  let builder := { builder with
    overrideInputs := ← setPairs "override inputs" config.overrideInputs }
  let builder := { builder with nixOptions := ← setPairs "nix options" config.nixOptions }
  return { builder with lockedFlakeJson := setTextOpt config.lockedFlakeJson }

/-- `read_item_timeout_seconds`. -/
def readItemTimeoutSeconds (reader : WorkerCapnp.WorkerConfig) : Nat :=
  if reader.itemTimeoutSeconds = 0 then defaultItemTimeoutSeconds
  else reader.itemTimeoutSeconds.toNat

/-- `read_worker_config`, where `usize` has 64 bits. -/
def readWorkerConfig (reader : WorkerCapnp.WorkerConfig) : WorkerConfig where
  input := readInput reader.input
  autoArgs := reader.autoArgs.map readAutoArg
  forceRecurse := reader.forceRecurse
  gcRootsDir := (readTextOpt reader.gcRootsDir).map .ofStr
  maxMemorySize := reader.maxMemorySize.toNat
  itemTimeoutSeconds := readItemTimeoutSeconds reader
  «meta» := reader.meta
  showInputDrvs := reader.showInputDrvs
  overrideInputs := readPairs reader.overrideInputs
  nixOptions := readPairs reader.nixOptions
  lockedFlakeJson := readTextOpt reader.lockedFlakeJson

/-! ## Messages of a client -/

/-- What `write_client` builds. -/
def writeClient : ClientMessage → Except String WorkerCapnp.ClientMessage
  | .setup config token expectedStoreDir => do
    let setup : WorkerCapnp.Setup := {}
    let setup := { setup with config := ← setWorkerConfig debug config }
    let setup := { setup with token := setTextOpt token }
    let setup := { setup with expectedStoreDir := setTextOpt expectedStoreDir }
    return .setup { setup with protocolVersion := workerProtocolVersion }
  | .work path => do
    let work : WorkerCapnp.Work := {}
    return .work { work with attrPath := ← setTextList "work attr path" path }
  | .shutdown => .ok .shutdown

end Config

/-- `validate_worker_protocol`. -/
def validateWorkerProtocol (actual : UInt32) : Except String Unit :=
  if actual = workerProtocolVersion then .ok ()
  else .error s!"unsupported worker protocol version {actual}; expected {workerProtocolVersion}"

/-- `decode_client`. -/
def decodeClient : WorkerCapnp.ClientMessage → Except String ClientMessage
  | .setup setup => do
    validateWorkerProtocol setup.protocolVersion
    return .setup (readWorkerConfig setup.config) (readTextOpt setup.token)
      (readTextOpt setup.expectedStoreDir)
  | .work work => .ok (.work work.attrPath)
  | .shutdown => .ok .shutdown

/-! ## Messages of a server -/

section Events

variable (text : JsonText)

/-- An output of `set_derivation`. -/
def setOutput (output : String × Option String) : WorkerCapnp.Output :=
  { name := output.1
    path := match output.2 with
      | some path => .path path
      | none => .absent }

/-- An output of `read_derivation`. -/
def readOutput (output : WorkerCapnp.Output) : String × Option String :=
  (output.name, match output.path with
    | .absent => none
    | .path path => some path)

/-- An input derivation of `set_derivation`. -/
def setInputDrv (input : String × List String) : WorkerCapnp.InputDrv :=
  { drvPath := input.1, valueJson := text.print (Json.strings input.2) }

/-- An input derivation of `read_derivation`. -/
def readInputDrv (input : WorkerCapnp.InputDrv) : Except String (String × List String) :=
  match (text.parse input.valueJson).bind Json.toStrings with
  | some outputs => .ok (input.drvPath, outputs)
  | none => .error "parsing inputDrv outputs"

/-- The constituents of `set_derivation`. -/
def setConstituents : Option (List String) → Except String WorkerCapnp.TextListOpt
  | some constituents => .some <$> setTextList "constituents" constituents
  | none => .ok .none

/-- The `meta` of `read_derivation`. -/
def readMeta (metaJson : WorkerCapnp.TextOpt) : Except String (Option Json) :=
  match readTextOpt metaJson with
  | some json =>
    match text.parse json with
    | some value => .ok (some value)
    | none => .error "parsing meta JSON value"
  | none => .ok none

/-- `set_derivation`. -/
def setDerivation (derivation : Derivation) : Except String WorkerCapnp.Derivation := do
  let builder : WorkerCapnp.Derivation := {}
  let builder := { builder with attr := derivation.attr }
  let builder := { builder with
    attrPath := ← setTextList "derivation attr path" derivation.attrPath }
  let builder := { builder with name := derivation.name }
  let builder := { builder with system := derivation.system }
  let builder := { builder with drvPath := derivation.drvPath }
  let builder := { builder with
    outputs := ← setList {} setOutput "derivation outputs" derivation.outputs.entries }
  let builder := { builder with metaJson := setTextOpt (derivation.meta.map text.print) }
  let builder := { builder with
    inputDrvs := ← setList {} (setInputDrv text) "input drvs" derivation.inputDrvs.entries }
  let builder := { builder with constituents := ← setConstituents derivation.constituents }
  return { builder with gcRootError := setTextOpt derivation.gcRootError }

/-- `read_derivation`. -/
def readDerivation (reader : WorkerCapnp.Derivation) : Except String Derivation := do
  let outputs := SortedMap.collect (reader.outputs.map readOutput)
  let inputDrvs := SortedMap.collect (← reader.inputDrvs.mapM (readInputDrv text))
  return {
    attr := reader.attr
    attrPath := reader.attrPath
    name := reader.name
    system := reader.system
    drvPath := reader.drvPath
    outputs
    «meta» := ← readMeta text reader.metaJson
    inputDrvs
    constituents := readTextListOpt reader.constituents
    gcRootError := readTextOpt reader.gcRootError
  }

/-- `set_eval_error`. -/
def setEvalError (error : EvalError) : Except String WorkerCapnp.EvalError := do
  let builder : WorkerCapnp.EvalError := {}
  let builder := { builder with attr := error.attr }
  let builder := { builder with attrPath := ← setTextList "error attr path" error.attrPath }
  let builder := { builder with error := error.error }
  return { builder with fatal := error.fatal }

/-- `read_eval_error`. -/
def readEvalError (reader : WorkerCapnp.EvalError) : EvalError where
  attr := reader.attr
  attrPath := reader.attrPath
  error := reader.error
  fatal := reader.fatal

/-- `set_event`. -/
def setEvent : Event → Except String WorkerCapnp.Event
  | .derivation derivation => .derivation <$> setDerivation text derivation
  | .attrSet attr attrPath attrs => do
    let attrSet : WorkerCapnp.AttrSet := {}
    let attrSet := { attrSet with attr := attr }
    let attrSet := { attrSet with attrPath := ← setTextList "attr path" attrPath }
    return .attrSet { attrSet with attrs := ← setTextList "attr set children" attrs }
  | .error error => .error <$> setEvalError error

/-- `read_event`. -/
def readEvent : WorkerCapnp.Event → Except String Event
  | .derivation derivation => .derivation <$> readDerivation text derivation
  | .attrSet attrSet => .ok (.attrSet attrSet.attr attrSet.attrPath attrSet.attrs)
  | .error error => .ok (.error (readEvalError error))

/-- `encode_server`. -/
def encodeServer : ServerMessage → Except String WorkerCapnp.ServerMessage
  | .ready => .ok .ready
  | .event event => .event <$> setEvent text event
  | .status status =>
    .ok (.status (match status with
      | .ready => .ready
      | .restart => .restart))
  | .error error => .ok (.error error)

/-- `read_server_with_options`. -/
def readServer : WorkerCapnp.ServerMessage → Except String ServerMessage
  | .ready => .ok .ready
  | .event event => .event <$> readEvent text event
  | .status status =>
    .ok (.status (match status with
      | .ready => .ready
      | .restart => .restart))
  | .error error => .ok (.error error)

end Events

end Evix
