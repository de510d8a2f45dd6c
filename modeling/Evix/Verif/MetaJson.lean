import Evix.Library.Fallible
import Evix.Meta
import Mathlib.Data.List.Forall2

/-!
# What `meta` becomes

The contract of `read_meta` is a total conversion: what cannot be read or written as JSON is left
out of its attribute set and is null in its list. The code keeps the contract as long as it reaches
no path that is not UTF-8 and no list with an element that cannot be accessed.
-/

namespace Evix

open Fallible

/-- Arrays and objects are nested at most so deep. -/
def Json.NestsWithin : (depth : Nat) → Json → Prop
  | 0, .array _ | 0, .object _ => False
  | depth + 1, .array items => ∀ item ∈ items, item.NestsWithin depth
  | depth + 1, .object fields => ∀ field ∈ fields, field.2.NestsWithin depth
  | _, .null | _, .bool _ | _, .number _ | _, .string _ => True

section Contract

variable {Value StorePath : Type} (nix : MetaNix Value StorePath)

/-- The contract of `value_to_json`: an attribute set has exactly its readable attributes, and a
list has its length and order, with null in the place of every unreadable element. -/
def contractJson : (depth : Nat) → Value → Option Json
  | 0, _ => none
  | depth + 1, value =>
    (nix.force value).toOption.bind fun value =>
      match nix.valueType value with
      | .null => some .null
      | .bool => (nix.asBool value).toOption.map .bool
      | .int => (nix.asInt value).toOption.map fun number => .number (.ofInt64 number)
      | .float => ((nix.asFloat value).toOption.bind JsonNumber.ofFloat).map .number
      | .string => (nix.asString value).toOption.map .string
      | .path => ((nix.asPath value).toOption.bind PathBuf.toStr).map .string
      | .list => (nix.listLen value).toOption.map fun len =>
          .array ((List.range len).map fun index =>
            ((nix.listGet value index).toOption.bind (contractJson depth)).getD .null)
      | .attrs => (nix.attrKeys value).toOption.map fun keys =>
          .ofFields (keys.filterMap fun key =>
            ((nix.getAttr value key).toOption.bind (contractJson depth)).map (key, ·))
      | .thunk | .function | .external => none

/-- The contract of `read_meta`. -/
def contractMeta (value : Value) : Option Json :=
  if (nix.hasAttr value "meta").toOption.getD false then
    (nix.getAttr value "meta").toOption.bind (contractJson nix 64)
  else none

/-- No path that is reached has bytes that are not UTF-8, and no list that is reached has an element
that cannot be accessed. -/
def Convertible : (depth : Nat) → Value → Prop
  | 0, _ => True
  | depth + 1, value =>
    ∀ forced, nix.force value = .ok forced →
      match nix.valueType forced with
      | .path => ∀ path, nix.asPath forced = .ok path → path.toStr ≠ none
      | .list => ∀ len, nix.listLen forced = .ok len → ∀ index < len,
          ∃ item, nix.listGet forced index = .ok item ∧ Convertible depth item
      | .attrs => ∀ keys, nix.attrKeys forced = .ok keys → ∀ key ∈ keys,
          ∀ child, nix.getAttr forced key = .ok child → Convertible depth child
      | _ => True

/-- The `meta` attribute of a derivation, when it has one that can be read, is convertible. -/
def ConvertibleMeta (value : Value) : Prop :=
  (nix.hasAttr value "meta").toOption.getD false = true →
    ∀ «meta», nix.getAttr value "meta" = .ok «meta» → Convertible nix 64 «meta»

end Contract

section Loops

variable {Value StorePath : Type} {nix : MetaNix Value StorePath} {value : Value}
  {convert : Value → Except String (Option Json)} {contract : Value → Option Json}

/-- The loop over a list keeps the contract when every element can be accessed and keeps it. -/
theorem listItems_eq {indices : List Nat}
    (keeps : ∀ index ∈ indices, ∃ item, nix.listGet value index = .ok item ∧
      convert item = .ok (contract item)) :
    nix.listItems convert value indices = .ok (some (indices.map fun index =>
      ((nix.listGet value index).toOption.bind contract).getD .null)) := by
  induction indices with
  | nil => rfl
  | cons index indices ih =>
    obtain ⟨item, accessed, converts⟩ := keeps index List.mem_cons_self
    have later := ih fun other member => keeps other (List.mem_cons_of_mem _ member)
    simp only [MetaNix.listItems, List.map_cons, accessed, converts, later]
    rfl

/-- The elements that the loop over a list gives: each is what its element converts to. -/
theorem listItems_some {indices : List Nat} {items : List Json}
    (looped : nix.listItems convert value indices = .ok (some items)) :
    List.Forall₂ (fun index item => ∃ element json, nix.listGet value index = .ok element ∧
      convert element = .ok json ∧ item = json.getD .null) indices items := by
  induction indices generalizing items with
  | nil =>
    obtain rfl := Option.some.inj (Except.ok.inj looped)
    exact .nil
  | cons index indices ih =>
    unfold MetaNix.listItems at looped
    split at looped
    · cases looped
    rename_i element accessed
    obtain ⟨json, converts, looped⟩ := bind_eq_ok looped
    obtain ⟨rest, later, looped⟩ := bind_eq_ok looped
    obtain ⟨others, rfl, rfl⟩ := Option.map_eq_some_iff.mp (Except.ok.inj looped)
    exact .cons ⟨element, json, accessed, converts, rfl⟩ (ih later)

/-- The loop over an attribute set keeps the contract when every child that can be accessed does. -/
theorem attrFields_eq {keys : List String}
    (keeps : ∀ key ∈ keys, ∀ child, nix.getAttr value key = .ok child →
      convert child = .ok (contract child)) :
    nix.attrFields convert value keys = .ok (keys.filterMap fun key =>
      ((nix.getAttr value key).toOption.bind contract).map (key, ·)) := by
  induction keys with
  | nil => rfl
  | cons key keys ih =>
    have later := ih fun other member => keeps other (List.mem_cons_of_mem _ member)
    rw [MetaNix.attrFields, List.filterMap_cons]
    cases accessed : nix.getAttr value key with
    | error error => exact later
    | ok child =>
      simp only [keeps key List.mem_cons_self child accessed, later, Except.toOption,
        Option.bind_some]
      cases contract child <;> rfl

/-- The fields that the loop over an attribute set gives: each child that can be accessed has what
it converts to. -/
theorem attrFields_ok {keys : List String} {fields : List (String × Json)}
    (looped : nix.attrFields convert value keys = .ok fields) {key : String} {child : Value}
    (accessed : nix.getAttr value key = .ok child) :
    (∀ json, (key, json) ∈ fields → convert child = .ok (some json)) ∧
    (key ∈ keys → ∃ result, convert child = .ok result ∧
      ∀ json, result = some json → (key, json) ∈ fields) := by
  induction keys generalizing fields with
  | nil =>
    obtain rfl := Except.ok.inj looped
    exact ⟨fun json listed => (List.not_mem_nil listed).elim,
      fun listed => (List.not_mem_nil listed).elim⟩
  | cons first keys ih =>
    unfold MetaNix.attrFields at looped
    split at looped
    · rename_i error failed
      refine ⟨(ih looped).1, fun listed => (ih looped).2 ?_⟩
      refine (List.mem_cons.mp listed).resolve_left ?_
      rintro rfl
      rw [accessed] at failed
      cases failed
    · rename_i other present
      obtain ⟨result, converts, looped⟩ := bind_eq_ok looped
      obtain ⟨rest, later, looped⟩ := bind_eq_ok looped
      obtain rfl := Except.ok.inj looped
      obtain ⟨sound, complete⟩ := ih later
      refine ⟨fun json listed => ?_, fun listed => ?_⟩
      · obtain here | there := List.mem_append.mp listed
        · obtain ⟨_, rfl, same⟩ := Option.map_eq_some_iff.mp (Option.mem_toList.mp here)
          obtain ⟨rfl, rfl⟩ := Prod.mk.inj same
          rw [Except.ok.inj (accessed.symm.trans present)]
          exact converts
        · exact sound json there
      · by_cases same : key = first
        · subst same
          obtain rfl := Except.ok.inj (accessed.symm.trans present)
          refine ⟨result, converts, fun json given => List.mem_append_left _ ?_⟩
          rw [given]
          exact List.mem_singleton_self _
        · obtain ⟨result, converts, listed⟩ :=
            complete ((List.mem_cons.mp listed).resolve_left same)
          exact ⟨result, converts, fun json given => List.mem_append_right _ (listed json given)⟩

/-- The key of a field that the loop over an attribute set gives can be accessed. -/
theorem attrFields_accessed {keys : List String} {fields : List (String × Json)}
    (looped : nix.attrFields convert value keys = .ok fields) {field : String × Json}
    (member : field ∈ fields) : ∃ child, nix.getAttr value field.1 = .ok child := by
  induction keys generalizing fields with
  | nil =>
    obtain rfl := Except.ok.inj looped
    cases member
  | cons first keys ih =>
    unfold MetaNix.attrFields at looped
    split at looped
    · exact ih looped member
    · rename_i child present
      obtain ⟨result, converts, looped⟩ := bind_eq_ok looped
      obtain ⟨rest, later, looped⟩ := bind_eq_ok looped
      obtain rfl := Except.ok.inj looped
      obtain here | there := List.mem_append.mp member
      · obtain ⟨_, rfl, rfl⟩ := Option.map_eq_some_iff.mp (Option.mem_toList.mp here)
        exact ⟨child, present⟩
      · exact ih later there

end Loops

section Conversion

variable {Value StorePath : Type} {nix : MetaNix Value StorePath}

/-- What is convertible is converted as the contract says. -/
theorem valueToJson_eq {depth : Nat} {value : Value} (convertible : Convertible nix depth value) :
    nix.valueToJson depth value = .ok (contractJson nix depth value) := by
  induction depth generalizing value with
  | zero => rfl
  | succ depth ih =>
    rw [MetaNix.valueToJson, contractJson]
    cases forces : nix.force value with
    | error error => rfl
    | ok forced =>
      have inside := convertible forced forces
      simp only [Except.toOption, Option.bind_some]
      cases type : nix.valueType forced <;> simp only [type] at inside ⊢ <;> try rfl
      case path =>
        cases reads : nix.asPath forced with
        | error error => rfl
        | ok path =>
          have utf8 := inside path reads
          cases text : path.toStr with
          | none => exact absurd text utf8
          | some text => simp [text]
      case list =>
        cases reads : nix.listLen forced with
        | error error => rfl
        | ok len =>
          have keeps : ∀ index ∈ List.range len, ∃ item, nix.listGet forced index = .ok item ∧
              nix.valueToJson depth item = .ok (contractJson nix depth item) := by
            intro index member
            obtain ⟨item, accessed, convertible⟩ :=
              inside len reads index (List.mem_range.mp member)
            exact ⟨item, accessed, ih convertible⟩
          simp only [listItems_eq keeps]
          rfl
      case attrs =>
        cases reads : nix.attrKeys forced with
        | error error => rfl
        | ok keys =>
          have keeps : ∀ key ∈ keys, ∀ child, nix.getAttr forced key = .ok child →
              nix.valueToJson depth child = .ok (contractJson nix depth child) :=
            fun key member child accessed => ih (inside keys reads key member child accessed)
          simp only [attrFields_eq keeps]
          rfl

/-- What is not convertible becomes something else than the contract says, in whatever it is part
of. -/
theorem valueToJson_differs {depth : Nat} {value : Value} {json : Option Json}
    (converts : nix.valueToJson depth value = .ok json) (unfit : ¬ Convertible nix depth value) :
    json.getD .null ≠ (contractJson nix depth value).getD .null := by
  induction depth generalizing value json with
  | zero => exact absurd trivial unfit
  | succ depth ih =>
    cases forces : nix.force value with
    | error error => simp [Convertible, forces] at unfit
    | ok forced =>
      simp only [Convertible, forces, Except.ok.injEq, forall_eq'] at unfit
      simp only [MetaNix.valueToJson, forces] at converts
      simp only [contractJson, forces, Except.toOption, Option.bind_some]
      cases type : nix.valueType forced <;> simp only [type, not_true_eq_false] at unfit converts ⊢
      case path =>
        cases reads : nix.asPath forced with
        | error error => simp [reads] at unfit
        | ok path =>
          cases text : path.toStr with
          | none => simp [reads, text] at converts
          | some utf8 => simp [reads, text] at unfit
      case list =>
        cases reads : nix.listLen forced with
        | error error => simp [reads] at unfit
        | ok len =>
          simp only [reads, Except.ok.injEq, forall_eq', not_forall] at unfit converts
          obtain ⟨index, bound, bad⟩ := unfit
          obtain ⟨items, looped, converts⟩ := bind_eq_ok converts
          obtain rfl := Except.ok.inj converts
          cases items with
          | none => nofun
          | some items =>
            intro same
            obtain rfl := Json.array.inj same
            -- the element in its place is what the contract asks for
            have each := List.forall₂_map_right_iff.mp (listItems_some looped)
            obtain ⟨item, json, accessed, converts, place⟩ :=
              List.forall₂_same.mp each index (List.mem_range.mpr bound)
            rw [accessed] at place
            refine ih converts (fun convertible => bad ⟨item, accessed, convertible⟩) ?_
            exact place.symm
      case attrs =>
        cases reads : nix.attrKeys forced with
        | error error => simp [reads] at unfit
        | ok keys =>
          simp only [reads, Except.ok.injEq, forall_eq', not_forall] at unfit converts
          obtain ⟨key, member, child, accessed, bad⟩ := unfit
          obtain ⟨fields, looped, converts⟩ := bind_eq_ok converts
          obtain rfl := Except.ok.inj converts
          intro same
          obtain ⟨sound, complete⟩ := attrFields_ok looped accessed
          obtain ⟨result, converts, listed⟩ := complete member
          refine ih converts bad ?_
          have given : (insertEntries fields).lookup key = result := by
            refine lookup_insertEntries_of fun other => ⟨fun there => ?_, listed other⟩
            exact Except.ok.inj (converts.symm.trans (sound other there))
          have asked : (insertEntries (keys.filterMap fun key =>
              ((nix.getAttr forced key).toOption.bind (contractJson nix depth)).map
                (key, ·))).lookup key = contractJson nix depth child := by
            refine lookup_insertEntries_of fun other => ?_
            rw [List.mem_filterMap]
            constructor
            · rintro ⟨name, _, kept⟩
              obtain ⟨found, contracted, pair⟩ := Option.map_eq_some_iff.mp kept
              obtain ⟨rfl, rfl⟩ := Prod.mk.inj pair
              rw [accessed] at contracted
              exact contracted
            · intro there
              refine ⟨key, member, ?_⟩
              rw [accessed]
              exact congrArg (Option.map (key, ·)) there
          rw [← given, ← asked]
          exact congrArg (fun fields => (List.lookup key fields).getD .null) (Json.object.inj same)

/-- Arrays and objects are nested at most as deep as values are read. -/
theorem valueToJson_nests {depth : Nat} {value : Value} {json : Json}
    (converts : nix.valueToJson depth value = .ok (some json)) : json.NestsWithin depth := by
  induction depth generalizing value json with
  | zero => cases converts
  | succ depth ih =>
    unfold MetaNix.valueToJson at converts
    split at converts
    · cases converts
    rename_i forced _
    cases type : nix.valueType forced <;> simp only [type] at converts
    case path =>
      split at converts
      · cases converts
      · split at converts
        · obtain rfl := Option.some.inj (Except.ok.inj converts)
          trivial
        · cases converts
    case list =>
      split at converts
      · cases converts
      obtain ⟨items, looped, given⟩ := bind_eq_ok converts
      obtain ⟨items, rfl, rfl⟩ := Option.map_eq_some_iff.mp (Except.ok.inj given)
      have each := listItems_some looped
      show ∀ item ∈ items, item.NestsWithin depth
      clear converts looped given
      generalize List.range _ = indices at each
      induction each with
      | nil => nofun
      | cons first _ later =>
        intro item member
        obtain rfl | member := List.mem_cons.mp member
        · obtain ⟨element, json, _, converts, rfl⟩ := first
          cases json with
          | none => cases depth <;> trivial
          | some json => exact ih converts
        · exact later item member
    case attrs =>
      split at converts
      · cases converts
      obtain ⟨fields, looped, converts⟩ := bind_eq_ok converts
      obtain rfl := Option.some.inj (Except.ok.inj converts)
      rintro ⟨key, json⟩ member
      obtain ⟨child, accessed⟩ := attrFields_accessed looped (mem_insertEntries member)
      exact ih ((attrFields_ok looped accessed).1 json (mem_insertEntries member))
    case null =>
      obtain rfl := Option.some.inj (Except.ok.inj converts)
      trivial
    case thunk | function | external => cases converts
    case bool | int | float | string =>
      obtain ⟨_, _, rfl⟩ := Option.map_eq_some_iff.mp (Except.ok.inj converts)
      trivial

/-- `read_meta` keeps its contract exactly when the attribute is convertible, and what it gives is
nested at most 64 deep. -/
theorem readMeta_contract (nix : MetaNix Value StorePath) (value : Value) :
    (nix.readMeta value = .ok (contractMeta nix value) ↔ ConvertibleMeta nix value) ∧
    ∀ json, nix.readMeta value = .ok (some json) → json.NestsWithin 64 := by
  unfold MetaNix.readMeta contractMeta ConvertibleMeta
  by_cases there : (nix.hasAttr value "meta").toOption.getD false = true
  · rw [if_pos there, if_pos there]
    cases accessed : nix.getAttr value "meta" with
    | error error => exact ⟨⟨fun _ _ => nofun, fun _ => rfl⟩, nofun⟩
    | ok «meta» =>
      refine ⟨⟨fun keeps _ other same => ?_, fun convertible => ?_⟩,
        fun json converts => valueToJson_nests converts⟩
      · obtain rfl := Except.ok.inj same
        by_contra unfit
        exact valueToJson_differs keeps unfit rfl
      · exact valueToJson_eq (convertible there «meta» rfl)
  · rw [if_neg there, if_neg there]
    exact ⟨⟨fun _ given => absurd given there, fun _ => rfl⟩, nofun⟩

end Conversion

/-! ## Two derivations -/

/-- The values of a derivation with a `meta` attribute. -/
inductive MetaValue where
  /-- The derivation. -/
  | derivation
  /-- Its `meta` attribute: a path and a list of two elements. -/
  | attrs
  /-- The path. -/
  | path
  /-- The list. -/
  | list
  /-- The first element. -/
  | element
  deriving DecidableEq

/-- An evaluator of the derivation; the path has these bytes, and the second element of the list
fails to force, which is when it is accessed. -/
def metaNix (bytes : List UInt8) (keys : List String) : MetaNix MetaValue Unit where
  getAttr value key :=
    match value, key with
    | .derivation, "meta" => .ok .attrs
    | .attrs, "source" => .ok .path
    | .attrs, "maintainers" => .ok .list
    | _, _ => .error "missing"
  autoCallFunction value := .ok value
  valueType value :=
    match value with
    | .derivation | .attrs => .attrs
    | .path => .path
    | .list => .list
    | .element => .null
  getDerivation _ := .ok (some ())
  attrKeys _ := .ok keys
  asBool _ := .error "not a boolean"
  asString _ := .error "not a string"
  printPath _ := .ok "/nix/store/a.drv"
  context context _ := context
  hasAttr _ key := .ok (key == "meta")
  force value := .ok value
  asInt _ := .error "not an integer"
  asFloat _ := .error "not a float"
  asPath _ := .ok ⟨bytes⟩
  listLen _ := .ok 2
  listGet _ index := if index = 0 then .ok .element else .error "thrown"
  debug _ := ""

/-- A path that is not UTF-8 fails the whole conversion instead of being left out, and a list with
an element that fails to force is left out instead of having a null in its place. -/
theorem readMeta_contract_broken :
    ((metaNix [0xFF] ["source"]).readMeta .derivation = .error "meta path  is not valid UTF-8" ∧
      contractMeta (metaNix [0xFF] ["source"]) .derivation = some (.object [])) ∧
    ((metaNix [] ["maintainers"]).readMeta .derivation = .ok (some (.object [])) ∧
      contractMeta (metaNix [] ["maintainers"]) .derivation =
        some (.object [("maintainers", .array [.null, .null])])) := by
  decide

end Evix
