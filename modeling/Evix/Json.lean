import Evix.Protocol
import Mathlib.Data.String.Basic

/-!
# Newline-delimited JSON

The flat encoding of events that the command line prints, and its parser. The encoding carries no
tag: the parser tells the kinds of events apart by the fields that are there. An error of the parser
is its outermost context; the rendering of an error also prints its causes.
-/

namespace Evix

namespace Json

/-- `Value::get` of a name. -/
def get? (value : Json) (name : String) : Option Json :=
  match value with
  | .object fields => fields.lookup name
  | _ => none

/-- `Value::as_str`. -/
def asStr : Json → Option String
  | .string text => some text
  | _ => none

/-- `Value::as_bool`. -/
def asBool : Json → Option Bool
  | .bool flag => some flag
  | _ => none

/-- `Value::as_array`. -/
def asArray : Json → Option (List Json)
  | .array items => some items
  | _ => none

/-- `Value::as_object`. -/
def asObject : Json → Option (List (String × Json))
  | .object fields => some fields
  | _ => none

/-- `json!` of a list of strings. -/
def strings (texts : List String) : Json := .array (texts.map .string)

/-- `from_value` of a list of strings. -/
def toStrings : Json → Option (List String)
  | .array items => items.mapM asStr
  | _ => none

/-- An object built by inserting fields in order. -/
def ofFields (fields : List (String × Json)) : Json := .object (insertEntries fields)

end Json

open Json

/-- The field of a value that is there. -/
def optionalField (name : String) : Option Json → List (String × Json)
  | some value => [(name, value)]
  | none => []

/-- The value of an output path. -/
def outputValue : Option String → Json
  | none => .null
  | some path => .string path

/-- The value of the input derivations, unless there are none. -/
def inputDrvsValue (inputDrvs : SortedMap String (List String)) : Option Json :=
  if inputDrvs.entries.isEmpty then none
  else some (.ofFields (inputDrvs.entries.map fun input => (input.1, strings input.2)))

/-- `derivation_value`. -/
def derivationValue (d : Derivation) : Json :=
  .ofFields
    ([("attr", .string d.attr), ("attrPath", strings d.attrPath), ("name", .string d.name),
      ("system", .string d.system), ("drvPath", .string d.drvPath),
      ("outputs", .ofFields (d.outputs.entries.map fun output => (output.1, outputValue output.2)))]
      ++ optionalField "meta" d.meta ++ optionalField "inputDrvs" (inputDrvsValue d.inputDrvs)
      ++ optionalField "constituents" (d.constituents.map strings)
      ++ optionalField "gcRootError" (d.gcRootError.map .string))

/-- `event_value`. -/
def eventValue : Event → Json
  | .derivation d => derivationValue d
  | .attrSet attr attrPath attrs =>
    .ofFields [("attr", .string attr), ("attrPath", strings attrPath), ("attrs", strings attrs)]
  | .error e =>
    .ofFields [("attr", .string e.attr), ("attrPath", strings e.attrPath),
      ("error", .string e.error), ("fatal", .bool e.fatal)]

/-- The document of an evaluation error. -/
def EvalError.document (e : EvalError) : Json :=
  .object [("attr", .string e.attr), ("attr_path", strings e.attrPath), ("error", .string e.error),
    ("fatal", .bool e.fatal)]

/-- `diff_value`: the errors are written by their derived encoding. -/
def diffValue (diff : Diff) : Json :=
  .ofFields [("added", .array (diff.added.map derivationValue)),
    ("removed", .array (diff.removed.map derivationValue)),
    ("errors", .array (diff.errors.map EvalError.document))]

/-- `string_field`. -/
def stringField (value : Json) (name : String) : Except String String :=
  match (value.get? name).bind asStr with
  | some text => .ok text
  | none => .error s!"missing string field \"{name}\""

/-- `string_vec_field`. -/
def stringVecField (value : Json) (name : String) : Except String (List String) :=
  match value.get? name with
  | some items =>
    match items.toStrings with
    | some texts => .ok texts
    | none => .error s!"parsing field \"{name}\""
  | none => .error s!"missing string list field \"{name}\""

/-- An output path of `parse_derivation`. -/
def parseOutputPath : Json → Option String
  | .null => none
  | path => path.asStr

/-- The outputs of `parse_derivation`. -/
def parseOutputs (value : Json) : SortedMap String (Option String) :=
  match (value.get? "outputs").bind asObject with
  | some outputs => .collect (outputs.map fun output => (output.1, parseOutputPath output.2))
  | none => ∅

/-- The input derivations of `parse_derivation`. -/
def parseInputDrvs (value : Json) : Except String (SortedMap String (List String)) :=
  match (value.get? "inputDrvs").bind asObject with
  | some drvs =>
    match drvs.mapM fun input => input.2.toStrings.map fun outputs => (input.1, outputs) with
    | some inputs => .ok (.collect inputs)
    | none => .error "parsing inputDrvs"
  | none => .ok ∅

/-- The constituents of `parse_derivation`. -/
def parseConstituents (value : Json) : Except String (Option (List String)) :=
  match value.get? "constituents" with
  | some items =>
    match items.toStrings with
    | some constituents => .ok (some constituents)
    | none => .error "parsing constituents"
  | none => .ok none

/-- `parse_derivation`. -/
def parseDerivation (value : Json) : Except String Derivation := do
  let outputs := parseOutputs value
  let inputDrvs ← parseInputDrvs value
  let constituents ← parseConstituents value
  return {
    attr := ← stringField value "attr"
    attrPath := ← stringVecField value "attrPath"
    name := ← stringField value "name"
    system := ← stringField value "system"
    drvPath := ← stringField value "drvPath"
    outputs
    «meta» := value.get? "meta"
    inputDrvs
    constituents
    gcRootError := (value.get? "gcRootError").bind asStr
  }

/-- `parse_event_value`. -/
def parseEventValue (value : Json) : Except String Event :=
  if (value.get? "drvPath").isSome then .derivation <$> parseDerivation value
  else if (value.get? "error").isSome then
    return .error {
      attr := ← stringField value "attr"
      attrPath := ← stringVecField value "attrPath"
      error := ← stringField value "error"
      fatal := ((value.get? "fatal").bind asBool).getD false
    }
  else
    return .attrSet (← stringField value "attr") (← stringVecField value "attrPath")
      (match stringVecField value "attrs" with
      | .ok attrs => attrs
      | .error _ => [])

/-- How JSON is written and read. -/
structure JsonText where
  /-- `Value::to_string`. -/
  print : Json → String
  /-- `serde_json::from_str`. -/
  parse : String → Option Json

/-- `event_line`. -/
def JsonText.eventLine (text : JsonText) (event : Event) : String := text.print (eventValue event)

/-- `diff_line`. -/
def JsonText.diffLine (text : JsonText) (diff : Diff) : String := text.print (diffValue diff)

/-- `parse_event_line`. -/
def JsonText.parseEventLine (text : JsonText) (line : String) : Except String Event :=
  match text.parse line with
  | some value => parseEventValue value
  | none => .error "parsing event line"

end Evix
