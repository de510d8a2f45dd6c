import Evix.Eval

/-!
# The root of an evaluation

`eval_root`: the value that attribute paths are resolved against. An expression and a file are
auto-called; the outputs of a flake are not, unless a fragment narrows them.
-/

namespace Evix

/-- What a worker loads the root with. -/
structure RootLoader (Value : Type) where
  /-- `EvalState::eval_from_string`, of a text and its name. -/
  evalFromString : String → String → Except String Value
  /-- `EvalState::eval_from_file`. -/
  evalFromFile : PathBuf → Except String Value
  /-- The outputs of a flake, locked with its overrides or imported, and the fragment of its
  reference. -/
  flakeOutputs : String → List (String × String) → Option String → Except String (Value × String)
  /-- `EvalState::auto_call_function` without automatic arguments. -/
  autoCallWithoutArgs : Value → Except String Value
  /-- The debug rendering of a text. -/
  debug : String → String

section Root

variable {Value StorePath : Type} (nix : Nix Value StorePath) (loader : RootLoader Value)

/-- The loop of `eval_flake` over the parts of a fragment. -/
def narrow (outputs : Value) (parts : List String) : Except String Value :=
  parts.foldlM (fun current part => do
    let raw ← (nix.getAttr current part).mapError
      (nix.context s!"fragment attr {loader.debug part}")
    (loader.autoCallWithoutArgs raw).mapError
      (nix.context s!"auto-calling fragment {loader.debug part}")) outputs

/-- `eval_flake`. -/
def evalFlake (flakeRef : String) (overrideInputs : List (String × String))
    (lockedFlakeJson : Option String) : Except String Value := do
  let (outputs, fragment) ← loader.flakeOutputs flakeRef overrideInputs lockedFlakeJson
  if fragment.isEmpty then return outputs
  narrow nix loader outputs ((fragment.toList.splitOn '.').map String.ofList)

/-- `eval_root`. -/
def evalRoot (input : Input) (overrideInputs : List (String × String))
    (lockedFlakeJson : Option String) : Except String Value :=
  match input with
  | .flake flakeRef => evalFlake nix loader flakeRef overrideInputs lockedFlakeJson
  | .expr expr => do
    let value ← (loader.evalFromString expr "<cmdline>").mapError
      (nix.context "evaluating expression")
    nix.autoCallFunction value
  | .file file => do
    let value ← (loader.evalFromFile file).mapError (nix.context "evaluating file")
    nix.autoCallFunction value

end Root

end Evix
