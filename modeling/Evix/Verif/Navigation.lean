import Evix.Library.Fallible
import Evix.Worker

/-!
# Navigation and discovery

`navigate` resolves a path by its names one after the other, so that a child is what its parent
has under its name. The root is the exception: it is auto-called when its children are listed and
not when they are accessed.
-/

namespace Evix

open Fallible

section Navigation

variable {Value StorePath : Type} (nix : Nix Value StorePath)
  (readers : JobReaders Value StorePath) (options : EvalOptions)

/-- An attribute of a value, auto-called. -/
def Nix.child (value : Value) (key : String) : Except String Value :=
  (nix.getAttr value key).bind nix.autoCallFunction

/-- A path that ends in a key leads to the attribute that the value at the path has under the
key. -/
def StepsTo (root : Value) (path : List String) (key : String) : Prop :=
  ∀ value, navigate nix root (path ++ [key]) = .ok value ↔
    ∃ parent, navigate nix root path = .ok parent ∧
      ∃ raw, nix.getAttr parent key = .ok raw ∧ nix.autoCallFunction raw = .ok value

/-- Every path that ends in a key leads to the attribute of the value at the path, and every child
name that is listed for a path is the name of an attribute of that value, to which it leads. -/
structure NavigationAgrees (root : Value) : Prop where
  /-- Every path. -/
  steps : ∀ path key, StepsTo nix root path key
  /-- Every child name. -/
  listed : ∀ path attr attrPath attrs,
    processAttr nix readers root path options = .attrSet attr attrPath attrs →
    ∀ key ∈ attrs, ∃ parent keys, navigate nix root path = .ok parent ∧
      nix.attrKeys parent = .ok keys ∧ key ∈ keys ∧
      ∀ value, navigate nix root (path ++ [key]) = .ok value ↔ nix.child parent key = .ok value

/-- Auto-calling a value leaves its auto-called attributes as they are. -/
def IsSettled (root : Value) : Prop :=
  ∀ key value, nix.child root key = .ok value ↔
    ∃ called, nix.autoCallFunction root = .ok called ∧ nix.child called key = .ok value

variable {nix} {root : Value} {path : List String} {key : String}

/-- An attribute that is accessed and auto-called. -/
theorem child_eq_ok {parent value : Value} : nix.child parent key = .ok value ↔
    ∃ raw, nix.getAttr parent key = .ok raw ∧ nix.autoCallFunction raw = .ok value := by
  constructor
  · exact bind_eq_ok
  · rintro ⟨raw, accessed, called⟩
    rw [Nix.child, accessed]
    exact called

/-- The last name of a path is resolved at the value of the names before it. -/
theorem navigate_concat (nonempty : path ≠ []) :
    navigate nix root (path ++ [key]) = (navigate nix root path).bind (nix.child · key) := by
  cases path with
  | nil => exact absurd rfl nonempty
  | cons first rest =>
    rw [List.cons_append]
    simp only [navigate, List.foldlM_append, List.foldlM_cons, List.foldlM_nil, bind_pure]
    cases (nix.getAttr root first).bind nix.autoCallFunction with
    | error error => rfl
    | ok current => rfl

/-- Below the root a path leads to the attribute of its parent. -/
theorem stepsTo_below (nonempty : path ≠ []) : StepsTo nix root path key := by
  intro value
  rw [navigate_concat nonempty]
  constructor
  · intro leads
    obtain ⟨parent, found, child⟩ := bind_eq_ok leads
    exact ⟨parent, found, child_eq_ok.mp child⟩
  · rintro ⟨parent, found, child⟩
    rw [found]
    exact child_eq_ok.mpr child

/-- A path of one name leads to an attribute of the root. -/
theorem navigate_single (root : Value) (key : String) :
    navigate nix root [key] = nix.child root key := bind_pure (nix.child root key)

/-- At the root a path leads to the attribute of its parent exactly when auto-calling the root
leaves the attribute as it is. -/
theorem stepsTo_root : (∀ key, StepsTo nix root [] key) ↔ IsSettled nix root := by
  refine forall_congr' fun key => forall_congr' fun value => ?_
  rw [List.nil_append, navigate_single]
  exact iff_congr Iff.rfl (exists_congr fun called => and_congr_right fun _ => child_eq_ok.symm)

/-- The child names of a path are keys of the value at the path. -/
theorem processAttr_keys {attr : String} {attrPath attrs : List String}
    (lists : processAttr nix readers root path options = .attrSet attr attrPath attrs)
    (member : key ∈ attrs) :
    ∃ parent keys, navigate nix root path = .ok parent ∧ nix.attrKeys parent = .ok keys ∧
      key ∈ keys := by
  unfold processAttr at lists
  split at lists
  · cases lists
  rename_i parent found
  split at lists
  · cases lists
    cases member
  split at lists
  · rename_i drvPath _
    split at lists
    · rename_i event made
      obtain ⟨_, _, made⟩ := bind_eq_ok made
      obtain ⟨_, _, made⟩ := bind_eq_ok made
      obtain ⟨_, _, made⟩ := bind_eq_ok made
      cases made
      cases lists
    · cases lists
  · split at lists
    · cases lists
    · cases lists
      unfold collectRecurse at member
      split at member
      · cases member
      · rename_i keys read
        refine ⟨parent, keys, found, read, ?_⟩
        dsimp only at member
        split at member
        · exact (List.mem_filter.mp member).1
        · cases member
  · cases lists

variable (nix root)

/-- Navigation agrees with discovery exactly when auto-calling the root leaves its auto-called
attributes as they are; below the root it always does. -/
theorem navigation_agrees : (NavigationAgrees nix readers options root ↔ IsSettled nix root) ∧
    ∀ path key, path ≠ [] → StepsTo nix root path key := by
  refine ⟨⟨fun agrees => stepsTo_root.mp fun key => agrees.steps [] key, fun settled => ?_⟩,
    fun path key nonempty => stepsTo_below nonempty⟩
  have steps : ∀ path key, StepsTo nix root path key := by
    intro path key
    by_cases top : path = []
    · subst top
      exact stepsTo_root.mpr settled key
    · exact stepsTo_below top
  refine ⟨steps, fun path attr attrPath attrs lists key member => ?_⟩
  obtain ⟨parent, keys, found, read, listed⟩ := processAttr_keys readers options lists member
  refine ⟨parent, keys, found, read, listed, fun value => ?_⟩
  rw [steps path key value, child_eq_ok]
  constructor
  · rintro ⟨other, same, child⟩
    obtain rfl := Except.ok.inj (found.symm.trans same)
    exact child
  · intro child
    exact ⟨parent, found, child⟩

end Navigation

/-! ## A curried root -/

/-- The values of `{ }: { }: { x = ..; }`. -/
inductive CurriedValue where
  /-- The expression: a function that returns a function. -/
  | outer
  /-- The root: what auto-calling the expression gives. -/
  | inner
  /-- What auto-calling the root gives. -/
  | attrs
  /-- The attribute. -/
  | leaf
  deriving DecidableEq

/-- An evaluator of that expression. -/
def curriedNix : Nix CurriedValue Unit where
  getAttr value key :=
    match value with
    | .attrs => if key = "x" then .ok .leaf else .error s!"attribute '{key}' missing"
    | _ => .error "expected a set"
  autoCallFunction value :=
    match value with
    | .outer => .ok .inner
    | .inner => .ok .attrs
    | value => .ok value
  valueType value :=
    match value with
    | .outer | .inner => .function
    | .attrs => .attrs
    | .leaf => .int
  getDerivation _ := .ok none
  attrKeys value :=
    match value with
    | .attrs => .ok ["x"]
    | _ => .error "expected a set"
  asBool _ := .error "not a boolean"
  asString _ := .error "not a string"
  printPath _ := .error "no path"
  context context _ := context

/-- Loads that expression. -/
def curriedLoader : RootLoader CurriedValue where
  evalFromString _ _ := .ok .outer
  evalFromFile _ := .error "no file"
  flakeOutputs _ _ _ := .error "no flake"
  autoCallWithoutArgs := curriedNix.autoCallFunction
  debug := id

/-- The root of the expression lists a child that it does not lead to, though the value at the root
has the attribute. -/
theorem navigation_agrees_curried :
    evalRoot curriedNix curriedLoader (.expr "\x7b \x7d: \x7b \x7d: \x7b x = 1; \x7d") [] none =
        .ok .inner ∧
      navigate curriedNix .inner [] = .ok .attrs ∧
      curriedNix.child .attrs "x" = .ok .leaf ∧
      navigate curriedNix .inner ["x"] = .error "expected a set" ∧
      ¬ StepsTo curriedNix .inner [] "x" := by
  refine ⟨rfl, rfl, rfl, rfl, fun steps => ?_⟩
  have leads := (steps .leaf).mpr ⟨.attrs, rfl, .leaf, rfl, rfl⟩
  cases leads

end Evix
