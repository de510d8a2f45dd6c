import Evix.Json
import Mathlib.Data.Set.Operations

/-!
# The round trip of newline-delimited JSON

The parser of event lines gives back every event. A derivation is the only event with a derivation
path and an error the only other event with an error, so the kinds are never confused.
-/

namespace Evix

open Json

/-! ## Fields -/

/-- The last value of a field stays. -/
theorem get?_ofFields (fields : List (String × Json)) (name : String) :
    (ofFields fields).get? name = fields.reverse.lookup name :=
  lookup_insertEntries fields name

/-- Reading an optional field. -/
theorem lookup_optionalField (name other : String) (value : Option Json) :
    (optionalField name value).lookup other = if other = name then value else none := by
  cases value with
  | none => exact (ite_self none).symm
  | some value =>
    by_cases same : other = name
    · simp [optionalField, same]
    · simp [optionalField, List.lookup_cons, same, beq_eq_false_iff_ne.mpr same]

/-- An optional field is one field at most. -/
theorem reverse_optionalField (name : String) (value : Option Json) :
    (optionalField name value).reverse = optionalField name value := by
  cases value <;> rfl

/-- A list that is written element by element is read element by element. -/
theorem mapM_map {α β : Type} {write : α → β} {read : β → Option α}
    (reads : ∀ value, read (write value) = some value) (values : List α) :
    (values.map write).mapM read = some values := by
  induction values with
  | nil => rfl
  | cons value values ih => rw [List.map_cons, List.mapM_cons, reads, ih]; rfl

/-- Strings are read as they were. -/
@[simp]
theorem toStrings_strings (texts : List String) : (strings texts).toStrings = some texts := by
  have reads : ∀ text, asStr (.string text) = some text := fun _ => rfl
  exact mapM_map reads texts

/-- An object of an ordered map has the entries of the map. -/
theorem ofFields_sorted {α : Type} (map : SortedMap String α) (value : α → Json) :
    ofFields (map.entries.map fun entry => (entry.1, value entry.2)) =
      .object (map.entries.map fun entry => (entry.1, value entry.2)) :=
  congrArg Json.object (insertEntries_sorted (mapValues_sorted map.sorted value))

/-- The field of a name in the value of a derivation. -/
theorem get?_derivationValue (d : Derivation) (name : String) :
    (derivationValue d).get? name =
      ((if name = "gcRootError" then d.gcRootError.map .string else none).or
      ((if name = "constituents" then d.constituents.map strings else none).or
      ((if name = "inputDrvs" then inputDrvsValue d.inputDrvs else none).or
      ((if name = "meta" then d.meta else none).or
      ([("outputs",
          .object (d.outputs.entries.map fun output => (output.1, outputValue output.2))),
        ("drvPath", .string d.drvPath), ("system", .string d.system), ("name", .string d.name),
        ("attrPath", strings d.attrPath), ("attr", .string d.attr)].lookup name))))) := by
  rw [derivationValue, get?_ofFields]
  simp only [List.reverse_append, List.lookup_append, reverse_optionalField, lookup_optionalField,
    ofFields_sorted]
  rfl

/-! ## Reading a derivation -/

section Derivations

variable (d : Derivation)

theorem parseOutputs_derivationValue : parseOutputs (derivationValue d) = d.outputs := by
  have there : ((derivationValue d).get? "outputs").bind asObject =
      some (d.outputs.entries.map fun output => (output.1, outputValue output.2)) := by
    simp [get?_derivationValue, asObject]
  have same : (d.outputs.entries.map fun output => (output.1, outputValue output.2)).map
      (fun output => (output.1, parseOutputPath output.2)) = d.outputs.entries := by
    rw [List.map_map]
    refine (List.map_congr_left fun output _ => ?_).trans (List.map_id _)
    obtain ⟨name, none | path⟩ := output <;> rfl
  simp only [parseOutputs, there, same, SortedMap.collect_self]

theorem parseInputDrvs_derivationValue :
    parseInputDrvs (derivationValue d) = .ok d.inputDrvs := by
  have there : (derivationValue d).get? "inputDrvs" = inputDrvsValue d.inputDrvs := by
    simp [get?_derivationValue, List.lookup_cons]
  unfold parseInputDrvs inputDrvsValue at *
  rw [there]
  split
  · rename_i drvs found
    split at found
    · cases found
    · rw [ofFields_sorted] at found
      obtain rfl := Option.some.inj found
      have same : (d.inputDrvs.entries.map fun input => (input.1, strings input.2)).mapM
          (fun input => input.2.toStrings.map fun outputs => (input.1, outputs)) =
            some d.inputDrvs.entries := mapM_map (fun input => by simp) d.inputDrvs.entries
      rw [same]
      simp only [SortedMap.collect_self]
  · rename_i absent
    split at absent
    · rename_i empty
      exact congrArg _ (SortedMap.ext (List.isEmpty_iff.mp empty).symm)
    · rw [ofFields_sorted] at absent
      cases absent

theorem parseConstituents_derivationValue :
    parseConstituents (derivationValue d) = .ok d.constituents := by
  have there : (derivationValue d).get? "constituents" = d.constituents.map strings := by
    simp [get?_derivationValue, List.lookup_cons]
  unfold parseConstituents
  rw [there]
  cases d.constituents with
  | none => rfl
  | some constituents => simp

/-- Every derivation is read as it was. -/
theorem parseDerivation_derivationValue : parseDerivation (derivationValue d) = .ok d := by
  have error : (d.gcRootError.map Json.string).bind asStr = d.gcRootError := by
    cases d.gcRootError <;> rfl
  simp [parseDerivation, parseOutputs_derivationValue, parseInputDrvs_derivationValue,
    parseConstituents_derivationValue, stringField, stringVecField, get?_derivationValue,
    List.lookup_cons, asStr, error, bind, Except.bind, pure,
    Except.pure]

end Derivations

/-! ## Reading an event -/

/-- The parser gives back every event. -/
theorem parseEventValue_eventValue (event : Event) :
    parseEventValue (eventValue event) = .ok event := by
  cases event with
  | derivation d =>
    have there : ((derivationValue d).get? "drvPath").isSome = true := by
      simp [get?_derivationValue, List.lookup_cons]
    rw [eventValue, parseEventValue, if_pos there, parseDerivation_derivationValue]
    rfl
  | attrSet attr attrPath attrs =>
    simp [eventValue, parseEventValue, get?_ofFields, stringField, stringVecField,
      List.lookup_cons, asStr, bind, Except.bind, pure, Except.pure]
  | error failure =>
    simp [eventValue, parseEventValue, get?_ofFields, stringField, stringVecField,
      List.lookup_cons, asStr, asBool, bind, Except.bind, pure, Except.pure]

/-- Events with the same value are the same event. -/
theorem eventValue_injective {first second : Event} (same : eventValue first = eventValue second) :
    first = second := by
  have reads := parseEventValue_eventValue first
  rw [same, parseEventValue_eventValue] at reads
  exact (Except.ok.inj reads).symm

/-- A value is read back from its text. -/
def JsonText.Keeps (text : JsonText) (value : Json) : Prop :=
  text.parse (text.print value) = some value

instance (text : JsonText) (value : Json) : Decidable (text.Keeps value) :=
  inferInstanceAs (Decidable (_ = _))

/-- The line of an event whose value is read back. -/
theorem JsonText.Keeps.parseEventLine {text : JsonText} {event : Event}
    (keeps : text.Keeps (eventValue event)) :
    text.parseEventLine (text.eventLine event) = .ok event := by
  rw [JsonText.parseEventLine, JsonText.eventLine, keeps]
  exact parseEventValue_eventValue event

/-- Every event is read back from its value, the kinds of events are never confused, and events
whose values are read back from their text have different lines. -/
theorem event_lines (text : JsonText) :
    (∀ event, parseEventValue (eventValue event) = .ok event) ∧ Function.Injective eventValue ∧
      Set.InjOn text.eventLine {event | text.Keeps (eventValue event)} := by
  refine ⟨parseEventValue_eventValue, fun _ _ => eventValue_injective, ?_⟩
  intro first one second other same
  have reads := JsonText.Keeps.parseEventLine one
  rw [same, JsonText.Keeps.parseEventLine other] at reads
  exact (Except.ok.inj reads).symm

/-- A text for the values of a table. -/
def JsonText.table (documents : List (Json × String)) : JsonText where
  print value := (documents.lookup value).getD ""
  parse line := (documents.find? fun document => document.2 = line).map Prod.fst

/-- The line of the first value of a table. -/
theorem JsonText.table_print (document : Json) (line : String) (rest : List (Json × String)) :
    (JsonText.table ((document, line) :: rest)).print document = line := by
  simp [JsonText.table]

/-- The first value of a table is read back from its line. -/
theorem JsonText.table_keeps (document : Json) (line : String) (rest : List (Json × String)) :
    (JsonText.table ((document, line) :: rest)).Keeps document := by
  simp [JsonText.Keeps, JsonText.table]

/-- A derivation whose `meta` is null. -/
def nullJob : Event := .derivation { (default : Derivation) with attr := "a", «meta» := some .null }

/-- The flat line of the derivation whose `meta` is null. -/
def nullJobLine : String :=
  "\x7b\"attr\":\"a\",\"attrPath\":[],\"drvPath\":\"\",\"meta\":null,\"name\":\"\"," ++
    "\"outputs\":\x7b\x7d,\"system\":\"\"\x7d"

/-- An error has another line than a derivation under the same path. -/
theorem event_lines_null :
    let failure : Event := .error ⟨"a", [], "boom", false⟩
    let text : JsonText := .table [(eventValue nullJob, nullJobLine), (eventValue failure,
      "\x7b\"attr\":\"a\",\"attrPath\":[],\"error\":\"boom\",\"fatal\":false\x7d")]
    text.eventLine nullJob ≠ text.eventLine failure := by
  intro failure text same
  have one : text.Keeps (eventValue nullJob) := by decide
  have other : text.Keeps (eventValue failure) := by decide
  exact absurd ((event_lines text).2.2 one other same) (by decide)

/-! ## Differences -/

/-- The events that the parser reads in the array of a name. -/
def readEvents (value : Json) (name : String) : Option (List (Except String Event)) :=
  ((value.get? name).bind asArray).map (·.map parseEventValue)

/-- Every element of a difference is read back by the parser of events, in order. -/
structure DecodesAsEvents (diff : Diff) : Prop where
  /-- What is added. -/
  added : readEvents (diffValue diff) "added" = some (diff.added.map (.ok <| .derivation ·))
  /-- What is removed. -/
  removed : readEvents (diffValue diff) "removed" = some (diff.removed.map (.ok <| .derivation ·))
  /-- The errors. -/
  errors : readEvents (diffValue diff) "errors" = some (diff.errors.map (.ok <| .error ·))

/-- The events of an array that is there. -/
theorem readEvents_array {value : Json} {name : String} {items : List Json}
    (there : value.get? name = some (.array items)) :
    readEvents value name = some (items.map parseEventValue) := by
  rw [readEvents, there]
  rfl

/-- The events of the three arrays of a difference. -/
theorem readEvents_diffValue (diff : Diff) :
    readEvents (diffValue diff) "added" =
        some ((diff.added.map derivationValue).map parseEventValue) ∧
      readEvents (diffValue diff) "removed" =
        some ((diff.removed.map derivationValue).map parseEventValue) ∧
      readEvents (diffValue diff) "errors" =
        some ((diff.errors.map EvalError.document).map parseEventValue) := by
  refine ⟨readEvents_array ?_, readEvents_array ?_, readEvents_array ?_⟩
  · simp [diffValue, get?_ofFields, List.lookup_cons]
  · simp [diffValue, get?_ofFields, List.lookup_cons]
  · simp [diffValue, get?_ofFields]

/-- The derivations of a difference are read back. -/
theorem readEvents_derivations (derivations : List Derivation) :
    (derivations.map derivationValue).map parseEventValue =
      derivations.map (.ok <| .derivation ·) := by
  rw [List.map_map]
  exact List.map_congr_left fun d _ => parseEventValue_eventValue (.derivation d)

/-- The derived encoding of an error lacks a field that the parser of events looks for. -/
theorem parseEventValue_document (e : EvalError) :
    parseEventValue e.document = .error "missing string list field \"attrPath\"" := by
  have name : stringField e.document "attr" = .ok e.attr := rfl
  have path : stringVecField e.document "attrPath" =
      .error "missing string list field \"attrPath\"" := by
    have absent : e.document.get? "attrPath" = none := rfl
    rw [stringVecField, absent]
    decide
  have event : (e.document.get? "drvPath").isSome = false := rfl
  have error : (e.document.get? "error").isSome = true := rfl
  rw [parseEventValue, event, error, name, path]
  rfl

/-- **The elements of a difference are read back by the parser of events exactly when it has no
errors.** -/
theorem diffValue_decodes (diff : Diff) : DecodesAsEvents diff ↔ diff.errors = [] := by
  obtain ⟨added, removed, errors⟩ := readEvents_diffValue diff
  rw [readEvents_derivations] at added removed
  constructor
  · intro decodes
    cases listed : diff.errors with
    | nil => rfl
    | cons e others =>
      have same := Option.some.inj (errors.symm.trans decodes.errors)
      rw [listed, List.map_cons, List.map_cons, List.map_cons, parseEventValue_document] at same
      cases (List.cons.inj same).1
  · intro none
    refine ⟨added, removed, ?_⟩
    rw [errors, none]
    rfl

/-- An error in a difference is not read back. -/
theorem diffValue_decodes_broken : ¬ DecodesAsEvents ⟨[], [], [⟨"a", ["a"], "boom", false⟩]⟩ := by
  intro decodes
  have read := (readEvents_diffValue _).2.2.symm.trans decodes.errors
  rw [List.map_cons, List.map_cons, parseEventValue_document] at read
  cases (List.cons.inj (Option.some.inj read)).1

end Evix
