import Evix.Protocol

/-!
# One attribute path

`process_attr`: what a worker answers for a path. The Nix evaluator is a parameter, whose values
may form any graph and may be shared, cyclic or endless; the readers of a derivation are too.
-/

namespace Evix

/-- `MAX_ATTR_DEPTH`. -/
def maxAttrDepth : Nat := 64

/-- `EvalOptions`. -/
structure EvalOptions where
  /-- Recurse into all attribute sets. -/
  forceRecurse : Bool
  /-- Directory for garbage collector roots. -/
  gcRootsDir : Option PathBuf
  /-- Attach the `meta` attribute. -/
  «meta» : Bool
  /-- Attach input derivations. -/
  showInputDrvs : Bool

/-- `ValueType`. -/
inductive ValueType where
  /-- Not evaluated. -/
  | thunk
  /-- An integer. -/
  | int
  /-- A float. -/
  | float
  /-- A boolean. -/
  | bool
  /-- A string. -/
  | string
  /-- A path. -/
  | path
  /-- Null. -/
  | null
  /-- An attribute set. -/
  | attrs
  /-- A list. -/
  | list
  /-- A function. -/
  | function
  /-- A value from outside. -/
  | external
  deriving DecidableEq

/-- What an evaluation state with its store and its automatic arguments does. -/
structure Nix (Value StorePath : Type) where
  /-- `Value::get_attr`. -/
  getAttr : Value → String → Except String Value
  /-- `EvalState::auto_call_function`. -/
  autoCallFunction : Value → Except String Value
  /-- `Value::value_type`. -/
  valueType : Value → ValueType
  /-- `EvalState::get_derivation`. -/
  getDerivation : Value → Except String (Option StorePath)
  /-- `Value::attr_keys`. -/
  attrKeys : Value → Except String (List String)
  /-- `Value::as_bool`. -/
  asBool : Value → Except String Bool
  /-- `Value::as_string`. -/
  asString : Value → Except String String
  /-- `Store::print_path`. -/
  printPath : StorePath → Except String String
  /-- The text of an error under a context. -/
  context : String → String → String

/-- The readers that `make_job` calls. -/
structure JobReaders (Value StorePath : Type) where
  /-- `value_output_paths`. -/
  valueOutputPaths : Value → Except String (SortedMap String (Option String))
  /-- `output_paths`. -/
  outputPaths : StorePath → SortedMap String (Option String)
  /-- `read_meta`. -/
  readMeta : Value → Except String (Option Json)
  /-- `read_constituents`. -/
  readConstituents : Value → Option (List String)
  /-- `read_input_drvs`. -/
  readInputDrvs : StorePath → SortedMap String (List String)
  /-- `register_gc_root`. -/
  registerGcRoot : PathBuf → String → Except String Unit

section Worker

variable {Value StorePath : Type} (nix : Nix Value StorePath)
  (readers : JobReaders Value StorePath)

/-- `navigate`. -/
def navigate (root : Value) : List String → Except String Value
  | [] => nix.autoCallFunction root
  | first :: rest => do
    let current ← (nix.getAttr root first).bind nix.autoCallFunction
    rest.foldlM (fun current key => (nix.getAttr current key).bind nix.autoCallFunction) current

/-- `collect_recurse`. -/
def collectRecurse (value : Value) (path : List String) (forceRecurse : Bool) : List String :=
  match nix.attrKeys value with
  | .error _ => []
  | .ok keys =>
    let declared := ((nix.getAttr value "recurseForDerivations").bind nix.asBool).toOption
    if forceRecurse || path.isEmpty || declared.getD false then
      keys.filter fun key => key ≠ "recurseForDerivations"
    else []

/-- `make_job`. -/
def makeJob (value : Value) (path : List String) (drvPath : StorePath) (options : EvalOptions) :
    Except String Event := do
  let drvPathStr ← (nix.printPath drvPath).mapError (nix.context "printing drv path")
  let name ← ((nix.getAttr value "name").bind nix.asString).mapError (nix.context "reading .name")
  let system := ((nix.getAttr value "system").bind nix.asString).toOption.getD ""
  let outputs := (readers.valueOutputPaths value).toOption.getD (readers.outputPaths drvPath)
  let «meta» ← (if options.meta then readers.readMeta value else pure none)
  return .derivation {
    attr := ".".intercalate path
    attrPath := path
    name
    system
    drvPath := drvPathStr
    outputs
    «meta»
    inputDrvs := if options.showInputDrvs then readers.readInputDrvs drvPath else ∅
    constituents := readers.readConstituents value
    gcRootError := options.gcRootsDir.bind fun directory =>
      match readers.registerGcRoot directory drvPathStr with
      | .ok () => none
      | .error error => some error }

/-- The error event of a path. -/
def attrError (path : List String) (error : String) : Event :=
  .error { attr := ".".intercalate path, attrPath := path, error, fatal := false }

/-- `process_attr`. -/
def processAttr (root : Value) (path : List String) (options : EvalOptions) : Event :=
  match navigate nix root path with
  | .error error => attrError path error
  | .ok value =>
    if nix.valueType value ≠ .attrs then .attrSet (".".intercalate path) path []
    else
      match nix.getDerivation value with
      | .ok (some drvPath) =>
        match makeJob nix readers value path drvPath options with
        | .ok event => event
        | .error error => attrError path error
      | .ok none =>
        if maxAttrDepth ≤ path.length then
          attrError path s!"attrset exceeds the maximum traversal depth of {maxAttrDepth}"
        else
          .attrSet (".".intercalate path) path (collectRecurse nix value path options.forceRecurse)
      | .error error => attrError path error

end Worker

end Evix
