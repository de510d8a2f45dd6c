import Evix.Eval
import Evix.Json

/-!
# The `meta` attribute

`read_meta` and `value_to_json`: a Nix value as freeform JSON. Any accessor may fail, and each
failure is one of three: an error, nothing for the value, or a child that is left out.
-/

namespace Evix

/-- The accessors of a value that `value_to_json` reads besides those of `process_attr`. -/
structure MetaNix (Value StorePath : Type) extends Nix Value StorePath where
  /-- `Value::has_attr`. -/
  hasAttr : Value → String → Except String Bool
  /-- `Value::force`: the value as it is read from then on. -/
  force : Value → Except String Value
  /-- `Value::as_int`. -/
  asInt : Value → Except String Int64
  /-- `Value::as_float`, as the bits of the float. -/
  asFloat : Value → Except String UInt64
  /-- `Value::as_path`. -/
  asPath : Value → Except String PathBuf
  /-- `Value::list_len`. -/
  listLen : Value → Except String Nat
  /-- `Value::list_get`. -/
  listGet : Value → Nat → Except String Value
  /-- The debug rendering of a path. -/
  debug : PathBuf → String

/-- `From<i64>` of a number. -/
def JsonNumber.ofInt64 (value : Int64) : JsonNumber :=
  if value < 0 then .negInt value else .posInt value.toUInt64

/-- `Number::from_f64`: the exponent of a finite float is not all ones. -/
def JsonNumber.ofFloat (bits : UInt64) : Option JsonNumber :=
  if (bits >>> 52) &&& 0x7FF = 0x7FF then none else some (.float bits)

namespace MetaNix

variable {Value StorePath : Type} (nix : MetaNix Value StorePath)

/-- The loop of `value_to_json` over the elements of a list. -/
def listItems (convert : Value → Except String (Option Json)) (value : Value) :
    List Nat → Except String (Option (List Json))
  | [] => .ok (some [])
  | index :: indices =>
    match nix.listGet value index with
    | .error _ => .ok none
    | .ok item => do
      let json ← convert item
      let items ← listItems convert value indices
      return items.map (json.getD .null :: ·)

/-- The loop of `value_to_json` over the keys of an attribute set. -/
def attrFields (convert : Value → Except String (Option Json)) (value : Value) :
    List String → Except String (List (String × Json))
  | [] => .ok []
  | key :: keys =>
    match nix.getAttr value key with
    | .error _ => attrFields convert value keys
    | .ok child => do
      let json ← convert child
      let fields ← attrFields convert value keys
      return (json.map (key, ·)).toList ++ fields

/-- `value_to_json`. -/
def valueToJson : (depthRemaining : Nat) → Value → Except String (Option Json)
  | 0, _ => .ok none
  | depth + 1, value =>
    match nix.force value with
    | .error _ => .ok none
    | .ok value =>
      match nix.valueType value with
      | .null => .ok (some .null)
      | .bool => .ok ((nix.asBool value).toOption.map .bool)
      | .int => .ok ((nix.asInt value).toOption.map fun number => .number (.ofInt64 number))
      | .float => .ok (((nix.asFloat value).toOption.bind JsonNumber.ofFloat).map .number)
      | .string => .ok ((nix.asString value).toOption.map .string)
      | .path =>
        match nix.asPath value with
        | .error _ => .ok none
        | .ok path =>
          match path.toStr with
          | some text => .ok (some (.string text))
          | none => .error s!"meta path {nix.debug path} is not valid UTF-8"
      | .list =>
        match nix.listLen value with
        | .error _ => .ok none
        | .ok len => do
          let items ← nix.listItems (valueToJson depth) value (List.range len)
          return items.map .array
      | .attrs =>
        match nix.attrKeys value with
        | .error _ => .ok none
        | .ok keys => do
          let fields ← nix.attrFields (valueToJson depth) value keys
          return some (.ofFields fields)
      | .thunk | .function | .external => .ok none

/-- `read_meta`. -/
def readMeta (value : Value) : Except String (Option Json) :=
  if (nix.hasAttr value "meta").toOption.getD false then
    match nix.getAttr value "meta" with
    | .error _ => .ok none
    | .ok «meta» => nix.valueToJson 64 «meta»
  else .ok none

end MetaNix

end Evix
