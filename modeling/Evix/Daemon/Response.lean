import Evix.Json
import Evix.Session

/-!
# Responses of the daemon

`Response` and the documents its derived encoding writes and its derived decoding reads. An
absent field is left out and a `null` is read as an absent field. A document is written with its
fields in the order of the declarations; its decoding looks them up by name. How the decoding reads
what the encoding never writes, a record as an array or with a field twice, is left out.
-/

namespace Evix

open Json

/-- `Response`. -/
inductive Response where
  /-- An event. -/
  | event (event : Event)
  /-- A difference. -/
  | diff (diff : Diff)
  /-- The request is done. -/
  | done
  /-- An error. -/
  | error (message : String)
  deriving DecidableEq

/-! ## Encoding -/

/-- The document of a derivation. -/
def Derivation.document (d : Derivation) : Json :=
  .object
    ([("attr", .string d.attr), ("attr_path", strings d.attrPath), ("name", .string d.name),
      ("system", .string d.system), ("drv_path", .string d.drvPath),
      ("outputs", .object (d.outputs.entries.map fun output => (output.1, outputValue output.2)))]
      ++ optionalField "meta" d.meta
      ++ optionalField "input_drvs"
        (if d.inputDrvs.entries.isEmpty then none
          else some (.object (d.inputDrvs.entries.map fun input => (input.1, strings input.2))))
      ++ optionalField "constituents" (d.constituents.map strings)
      ++ optionalField "gc_root_error" (d.gcRootError.map .string))

/-- The document of an event. -/
def Event.document : Event → Json
  | .derivation d => .object [("derivation", d.document)]
  | .attrSet attr attrPath attrs =>
    .object [("attr_set", .object [("attr", .string attr), ("attr_path", strings attrPath),
      ("attrs", strings attrs)])]
  | .error e => .object [("error", e.document)]

/-- The document of a difference. -/
def Diff.document (diff : Diff) : Json :=
  .object [("added", .array (diff.added.map Derivation.document)),
    ("removed", .array (diff.removed.map Derivation.document)),
    ("errors", .array (diff.errors.map EvalError.document))]

/-- The document of a response. -/
def Response.document : Response → Json
  | .event value => .object [("type", .string "event"), ("event", value.document)]
  | .diff value => .object [("type", .string "diff"), ("diff", value.document)]
  | .done => .object [("type", .string "done")]
  | .error message => .object [("type", .string "error"), ("message", .string message)]

/-! ## Decoding -/

/-- Decode a field that must be there. -/
def field {α : Type} (decode : Json → Option α) (document : Json) (name : String) : Option α :=
  (document.get? name).bind decode

/-- Decode an optional value: `null` is none. -/
def decodeOption {α : Type} (decode : Json → Option α) : Json → Option (Option α)
  | .null => some none
  | value => (decode value).map some

/-- Decode an optional field, which may be left out. -/
def optionField {α : Type} (decode : Json → Option α) (document : Json) (name : String) :
    Option (Option α) :=
  match document.get? name with
  | some value => decodeOption decode value
  | none => some none

/-- Decode a field that has a default. -/
def defaultField {α : Type} (decode : Json → Option α) (default : α) (document : Json)
    (name : String) : Option α :=
  match document.get? name with
  | some value => decode value
  | none => some default

/-- Decode an ordered map. -/
def decodeMap {α : Type} (decode : Json → Option α) : Json → Option (SortedMap String α)
  | .object fields =>
    (fields.mapM fun entry => (decode entry.2).map fun value => (entry.1, value)).map .collect
  | _ => none

/-- Decode a list. -/
def decodeList {α : Type} (decode : Json → Option α) : Json → Option (List α)
  | .array items => items.mapM decode
  | _ => none

/-- Decode a derivation. -/
def Derivation.ofDocument (document : Json) : Option Derivation := do
  return {
    attr := ← field asStr document "attr"
    attrPath := ← field toStrings document "attr_path"
    name := ← field asStr document "name"
    system := ← field asStr document "system"
    drvPath := ← field asStr document "drv_path"
    outputs := ← field (decodeMap (decodeOption asStr)) document "outputs"
    «meta» := ← optionField some document "meta"
    inputDrvs := ← defaultField (decodeMap toStrings) ∅ document "input_drvs"
    constituents := ← optionField toStrings document "constituents"
    gcRootError := ← optionField asStr document "gc_root_error"
  }

/-- Decode an evaluation error. -/
def EvalError.ofDocument (document : Json) : Option EvalError := do
  return {
    attr := ← field asStr document "attr"
    attrPath := ← field toStrings document "attr_path"
    error := ← field asStr document "error"
    fatal := ← field asBool document "fatal"
  }

/-- Decode an event: an object with one field, the name of the kind. -/
def Event.ofDocument : Json → Option Event
  | .object [("derivation", content)] => .derivation <$> Derivation.ofDocument content
  | .object [("attr_set", content)] => do
    return .attrSet (← field asStr content "attr") (← field toStrings content "attr_path")
      (← field toStrings content "attrs")
  | .object [("error", content)] => .error <$> EvalError.ofDocument content
  | _ => none

/-- Decode a difference. -/
def Diff.ofDocument (document : Json) : Option Diff := do
  return {
    added := ← field (decodeList Derivation.ofDocument) document "added"
    removed := ← field (decodeList Derivation.ofDocument) document "removed"
    errors := ← field (decodeList EvalError.ofDocument) document "errors"
  }

/-- Decode a response: the field `type` names the kind. -/
def Response.ofDocument (document : Json) : Option Response :=
  match document.get? "type" with
  | some (.string "event") => .event <$> field Event.ofDocument document "event"
  | some (.string "diff") => .diff <$> field Diff.ofDocument document "diff"
  | some (.string "done") => some .done
  | some (.string "error") => .error <$> field asStr document "message"
  | _ => none

/-- `response_line`, as text. -/
def JsonText.responseLine (text : JsonText) (response : Response) : List Char :=
  (text.print response.document).toList ++ ['\n']

/-- The response of `handle_eval` to an item of its stream. -/
def itemResponse : Except Error Event → Response
  | .ok event => .event event
  | .error error => .error error.message

/-- What `handle_eval` writes to a client that stays. -/
def JsonText.handleEval (text : JsonText) (items : List (Except Error Event)) : List Char :=
  (items.map itemResponse ++ [Response.done]).flatMap text.responseLine

end Evix
