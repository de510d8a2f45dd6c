import Evix.Library.SortedMap

/-!
# Daemon protocol and shared wire types

The data of `evix-protocol`: what an evaluation reads (`Input`, `AutoArg`, `Remote`,
`Config`) and what it produces (`Derivation`, `EvalError`, `Event`, `Diff`). A path is the
bytes the operating system sees; it is text only when those bytes are UTF-8.
-/

namespace Evix

/-- A `serde_json` number: an unsigned or negative integer, or the bits of a finite float. -/
inductive JsonNumber where
  /-- `PosInt`. -/
  | posInt (value : UInt64)
  /-- `NegInt`. -/
  | negInt (value : Int64)
  /-- `Float`. -/
  | float (bits : UInt64)
  deriving DecidableEq, Repr

/-- A `serde_json` value; the fields of an object are in key order. -/
inductive Json where
  /-- `null`. -/
  | null
  /-- A boolean. -/
  | bool (value : Bool)
  /-- A number. -/
  | number (value : JsonNumber)
  /-- A string. -/
  | string (value : String)
  /-- An array. -/
  | array (items : List Json)
  /-- An object. -/
  | object (fields : List (String × Json))
  deriving Repr, Inhabited

mutual

/-- Decide equality of two values by their structure. -/
def Json.decEq : (first second : Json) → Decidable (first = second)
  | .null, .null => isTrue rfl
  | .bool a, .bool b => decidable_of_iff (a = b) (by simp)
  | .number a, .number b => decidable_of_iff (a = b) (by simp)
  | .string a, .string b => decidable_of_iff (a = b) (by simp)
  | .array a, .array b =>
    match Json.decEqItems a b with
    | isTrue same => isTrue (same ▸ rfl)
    | isFalse other => isFalse fun same => other (Json.array.inj same)
  | .object a, .object b =>
    match Json.decEqFields a b with
    | isTrue same => isTrue (same ▸ rfl)
    | isFalse other => isFalse fun same => other (Json.object.inj same)
  | .null, .bool _ | .null, .number _ | .null, .string _ | .null, .array _ | .null, .object _
  | .bool _, .null | .bool _, .number _ | .bool _, .string _ | .bool _, .array _
  | .bool _, .object _ | .number _, .null | .number _, .bool _ | .number _, .string _
  | .number _, .array _ | .number _, .object _ | .string _, .null | .string _, .bool _
  | .string _, .number _ | .string _, .array _ | .string _, .object _ | .array _, .null
  | .array _, .bool _ | .array _, .number _ | .array _, .string _ | .array _, .object _
  | .object _, .null | .object _, .bool _ | .object _, .number _ | .object _, .string _
  | .object _, .array _ => isFalse nofun

/-- Decide equality of two arrays. -/
def Json.decEqItems : (first second : List Json) → Decidable (first = second)
  | [], [] => isTrue rfl
  | [], _ :: _ => isFalse nofun
  | _ :: _, [] => isFalse nofun
  | a :: as, b :: bs =>
    match Json.decEq a b, Json.decEqItems as bs with
    | isTrue head, isTrue tail => isTrue (head ▸ tail ▸ rfl)
    | isFalse other, _ => isFalse fun same => other (List.cons.inj same).1
    | _, isFalse other => isFalse fun same => other (List.cons.inj same).2

/-- Decide equality of the fields of two objects. -/
def Json.decEqFields : (first second : List (String × Json)) → Decidable (first = second)
  | [], [] => isTrue rfl
  | [], _ :: _ => isFalse nofun
  | _ :: _, [] => isFalse nofun
  | (key, a) :: as, (other, b) :: bs =>
    if keys : key = other then
      match Json.decEq a b, Json.decEqFields as bs with
      | isTrue head, isTrue tail => isTrue (keys ▸ head ▸ tail ▸ rfl)
      | isFalse apart, _ => isFalse fun same => apart (Prod.mk.inj (List.cons.inj same).1).2
      | _, isFalse apart => isFalse fun same => apart (List.cons.inj same).2
    else isFalse fun same => keys (Prod.mk.inj (List.cons.inj same).1).1

end

instance : DecidableEq Json := Json.decEq

/-- A file system path: any bytes. -/
structure PathBuf where
  /-- The bytes the operating system sees. -/
  bytes : List UInt8
  deriving DecidableEq, Repr, Inhabited

/-- `Path::to_str`: the path as text when its bytes are UTF-8. -/
def PathBuf.toStr (path : PathBuf) : Option String := String.fromUTF8? ⟨path.bytes.toArray⟩

/-- `Path::is_absolute`. -/
def PathBuf.isAbsolute (path : PathBuf) : Bool := path.bytes.head? = some 0x2F

/-- Input source for a Nix evaluation. -/
inductive Input where
  /-- A flake reference. -/
  | flake (reference : String)
  /-- A Nix expression. -/
  | expr (expression : String)
  /-- A Nix file. -/
  | file (path : PathBuf)
  deriving DecidableEq, Repr, Inhabited

/-- Argument passed to a Nix function parameter. -/
inductive AutoArg where
  /-- A Nix expression. -/
  | expr (value : String)
  /-- A string. -/
  | str (value : String)
  deriving DecidableEq, Repr

/-- Remote worker pool configuration. -/
structure Remote where
  /-- Address of the remote service. -/
  endpoint : String
  /-- Systems the remote owns; an empty list means any. -/
  systems : List String
  /-- Number of connections. -/
  workers : Nat
  /-- Shared authentication token. -/
  token : Option String
  deriving DecidableEq, Repr

/-- A derivation emitted by evaluation. -/
structure Derivation where
  /-- Attribute path rendered with dots. -/
  attr : String
  /-- Attribute path as a list of names. -/
  attrPath : List String
  /-- Derivation name. -/
  name : String
  /-- Target system. -/
  system : String
  /-- Store path of the derivation. -/
  drvPath : String
  /-- Store path of each output, when known. -/
  outputs : SortedMap String (Option String)
  /-- The `meta` attribute as freeform JSON. -/
  «meta» : Option Json
  /-- Input derivations keyed by store path. -/
  inputDrvs : SortedMap String (List String)
  /-- Constituent attribute names of an aggregate job. -/
  constituents : Option (List String)
  /-- Why the garbage collector root was not registered. -/
  gcRootError : Option String
  deriving DecidableEq, Inhabited

/-- An evaluation error associated with an attribute path. -/
structure EvalError where
  /-- Attribute path rendered with dots. -/
  attr : String
  /-- Attribute path as a list of names. -/
  attrPath : List String
  /-- The message. -/
  error : String
  /-- Whether the error ends the evaluation. -/
  fatal : Bool
  deriving DecidableEq, Repr, Inhabited

/-- Complete change set between two evaluations. -/
structure Diff where
  /-- Derivations new or changed. -/
  added : List Derivation
  /-- Derivations gone or changed. -/
  removed : List Derivation
  /-- Errors of the later evaluation. -/
  errors : List EvalError
  deriving DecidableEq, Inhabited

/-- Event produced while traversing a Nix expression. -/
inductive Event where
  /-- A derivation. -/
  | derivation (drv : Derivation)
  /-- An attribute set and the names to traverse next. -/
  | attrSet (attr : String) (attrPath : List String) (attrs : List String)
  /-- An error. -/
  | error (failure : EvalError)
  deriving DecidableEq, Inhabited

namespace Event

/-- `Event::attr_path`. -/
def attrPath : Event → List String
  | .derivation drv => drv.attrPath
  | .attrSet _ attrPath _ => attrPath
  | .error failure => failure.attrPath

/-- The child names an event lists: those of an attribute set, none otherwise. -/
def listed : Event → List String
  | .attrSet _ _ attrs => attrs
  | .derivation _ | .error _ => []

/-- The error of an error event. -/
def error? : Event → Option EvalError
  | .error failure => some failure
  | .derivation _ | .attrSet .. => none

/-- Whether the event is a fatal error. -/
def isFatal : Event → Bool
  | .error failure => failure.fatal
  | .derivation _ | .attrSet .. => false

end Event

end Evix
