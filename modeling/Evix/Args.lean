import Evix.Filter
import Evix.Library.Text
import Mathlib.Logic.Function.Iterate

/-!
# Command line arguments

The filter that `evix query` builds from its arguments, and the packing of the arguments that take
several values: each of them becomes one token before the arguments are parsed, and its text is
taken apart again where it is parsed.
-/

namespace Evix.Args

/-- `split_attr_prefix`. -/
def splitAttrPrefix (leading : String) : List String :=
  ((leading.toList.splitOn '.').map String.ofList).filter fun part => part ≠ ""

/-- `filter`, from the values of `--system` and `--attr-prefix`. -/
def filter (systems prefixes : List String) : Filter :=
  let attrPrefixes := prefixes.map splitAttrPrefix
  let chosen : Option (List String) × Option (List (List String)) :=
    match attrPrefixes with
    | [] => (none, none)
    | [leading] => (some leading, none)
    | _ => (none, some attrPrefixes)
  { systems := if systems.isEmpty then none else some systems
    attrPrefix := chosen.1
    attrPrefixes := chosen.2 }

/-! ## Packing -/

/-- `PACK_SEP`, the unit separator. -/
def packSep : Char := Char.ofNat 0x1F

/-- `packed_arity`. -/
def packedArity (flag : String) : Option Nat :=
  if flag ∈ ["--arg", "--argstr", "--override-input", "--option"] then some 2
  else if flag = "--remote" then some 3
  else none

/-- The loop of `collect_packed_values`, with the number of values that are missing. -/
def collectMissing (args : List String) : (missing index : Nat) → List String →
    Option (List String × Nat)
  | 0, index, values => some (values, index)
  | missing + 1, index, values =>
    match args[index + 1]? with
    | none => none
    | some value => collectMissing args missing (index + 1) (values ++ [value])

/-- `collect_packed_values`: the values, and the index behind them. -/
def collectPackedValues (args : List String) (index : Nat) (flag : String) (arity : Nat)
    (first : Option String) : Except String (List String × Nat) :=
  match collectMissing args (arity - first.toList.length) index first.toList with
  | none => .error s!"{flag} requires {arity} values"
  | some (values, index) => .ok (values, index + 1)

/-- `pack`. -/
def pack (values : List String) : Except String String :=
  if values.any (·.toList.contains packSep) then
    .error "argument values cannot contain ASCII unit separator"
  else .ok ((String.singleton packSep).intercalate values)

/-- The flag of a token that begins a group, the number of its values, and the first of them when
it is in the token. -/
def groupStart (arg : String) : Option (String × Nat × Option String) :=
  let joined := (Text.splitOnce '=' arg).bind fun parts =>
    (packedArity parts.1).map fun arity => (parts.1, arity, some parts.2)
  joined.or ((packedArity arg).map fun arity => (arg, arity, none))

/-- `normalize_args` between two passes of its loop. -/
structure Normalizing where
  /-- The cursor. -/
  index : Nat
  /-- The tokens so far. -/
  normalized : List String
  /-- What it has returned. -/
  returned : Option (Except String (List String))

/-- One pass of the loop of `normalize_args`. -/
def Normalizing.pass (args : List String) (state : Normalizing) : Normalizing :=
  if state.returned.isSome then state
  else
    match args[state.index]? with
    | none => { state with returned := some (.ok state.normalized) }
    | some arg =>
      match groupStart arg with
      | none => ⟨state.index + 1, state.normalized ++ [arg], none⟩
      | some (flag, arity, first) =>
        match collectPackedValues args state.index flag arity first with
        | .error error => { state with returned := some (.error error) }
        | .ok (values, index) =>
          match pack values with
          | .error error => { state with returned := some (.error error) }
          | .ok text => ⟨index, state.normalized ++ [flag ++ "=" ++ text], none⟩

/-- `normalize_args`: a pass that does not return moves the cursor on, so one pass more than there
are tokens is enough. -/
def normalizeArgs (args : List String) : Option (Except String (List String)) :=
  ((Normalizing.pass args)^[args.length + 1] ⟨0, [], none⟩).returned

/-! ## Unpacking -/

/-- `Pair`. -/
structure Pair where
  /-- The name. -/
  name : String
  /-- The value. -/
  value : String
  deriving DecidableEq, Repr

/-- `Pair::from_arg`. -/
def Pair.fromArg (text : String) : Except String Pair :=
  match Text.splitOnce packSep text with
  | none => .error "expected packed NAME VALUE"
  | some (name, value) => .ok { name, value }

/-- The loop of `usize::from_str` over the digits. -/
def parseDigits : (result : Nat) → List Char → Except String Nat
  | result, [] => .ok result
  | result, char :: chars =>
    if char.isDigit then
      let next := result * 10 + (char.toNat - '0'.toNat)
      if next < 2 ^ 64 then parseDigits next chars
      else .error "number too large to fit in target type"
    else .error "invalid digit found in string"

/-- `str::parse` of a `usize`. -/
def parseUsize (text : String) : Except String Nat :=
  match text.toList with
  | [] => .error "cannot parse integer from empty string"
  | ['+'] => .error "invalid digit found in string"
  | '+' :: chars => parseDigits 0 chars
  | chars => parseDigits 0 chars

/-- `RemoteArg`. -/
structure RemoteArg where
  /-- The endpoint. -/
  endpoint : String
  /-- The systems. -/
  systems : List String
  /-- The number of workers. -/
  workers : Nat
  deriving DecidableEq, Repr

/-- The systems of `RemoteArg::from_arg`. -/
def splitSystems (systems : String) : List String :=
  ((systems.toList.splitOn ',').map String.ofList).filter fun system => system ≠ ""

/-- `RemoteArg::from_arg`. -/
def RemoteArg.fromArg (text : String) : Except String RemoteArg :=
  match Text.splitOnce packSep text with
  | none => .error "expected systems"
  | some (endpoint, rest) =>
    match Text.splitOnce packSep rest with
    | none => .error "expected worker count"
    | some (systems, workers) =>
      match parseUsize workers with
      | .error error => .error error
      | .ok workers =>
        if workers = 0 then .error "worker count must be greater than zero"
        else .ok { endpoint, systems := splitSystems systems, workers }

end Evix.Args
