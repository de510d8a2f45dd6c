import Evix.Library.Fallible
import Evix.RemoteProto.Wire
import Evix.Verif.Ndjson

/-!
# The round trip of the worker protocol

A reader gives back every message that a writer accepts. A list is set item by item, so it is the
list of the items that were set; the rest follows field by field.
-/

namespace Evix

open Fallible

/-! ## Writers that succeed -/

/-- An index that is in range stays. -/
theorem listIndex_eq {index position : Nat} (granted : listIndex index = .ok position) :
    position = index := by
  unfold listIndex at granted
  split at granted
  · exact (Except.ok.inj granted).symm
  · cases granted

/-- Setting the items of a list from an index to its end. -/
theorem setItems_eq {α β : Type} {write : α → β} {index : Nat} {values : List α}
    {items written : List β} (accepted : setItems write index values items = .ok written)
    (length : items.length = index + values.length) :
    written = items.take index ++ values.map write := by
  induction values generalizing index items with
  | nil =>
    obtain rfl := Except.ok.inj accepted
    rw [List.map_nil, List.append_nil]
    exact (List.take_of_length_le (Nat.le_of_eq length)).symm
  | cons value values ih =>
    obtain ⟨position, granted, rest⟩ := bind_eq_ok accepted
    obtain rfl := listIndex_eq granted
    rw [List.length_cons] at length
    have inside : position < items.length := by omega
    have set : (items.set position (write value)).take (position + 1) =
        items.take position ++ [write value] := by
      rw [List.take_add_one, List.take_set_of_le (Nat.le_refl position),
        List.getElem?_set_self inside]
      rfl
    rw [ih rest (by rw [List.length_set]; omega), set, List.append_assoc]
    rfl

/-- A list that is initialised and set holds the items that were set. -/
theorem setList_eq {α β : Type} {empty : β} {write : α → β} {field : String} {values : List α}
    {written : List β} (accepted : setList empty write field values = .ok written) :
    written = values.map write := by
  obtain ⟨len, granted, items⟩ := bind_eq_ok accepted
  unfold listLen at granted
  split at granted
  · obtain rfl := Except.ok.inj granted
    rw [setItems_eq items (by rw [List.length_replicate, Nat.zero_add])]
    rfl
  · cases granted

/-- A list of texts is set as it is. -/
theorem setTextList_eq {field : String} {values written : List String}
    (accepted : setTextList field values = .ok written) : written = values :=
  (setList_eq accepted).trans (List.map_id values)

/-- Pairs are read as they were set. -/
theorem readPairs_eq {field : String} {pairs : List (String × String)}
    {written : List WorkerCapnp.StringPair} (accepted : setPairs field pairs = .ok written) :
    readPairs written = pairs := by
  rw [setList_eq accepted, readPairs, List.map_map]
  exact List.map_id pairs

/-- A text that may be missing is read as it was set. -/
@[simp]
theorem readTextOpt_setTextOpt (value : Option String) :
    readTextOpt (setTextOpt value) = value := by
  cases value <;> rfl

/-- A path that is text is the path of its text. -/
theorem ofStr_eq {path : PathBuf} {text : String} (found : path.toStr = some text) :
    PathBuf.ofStr text = path := by
  unfold PathBuf.toStr String.fromUTF8? at found
  split at found
  · obtain rfl := Option.some.inj found
    rfl
  · cases found

/-! ## The configuration of a worker -/

section Config

variable {debug : PathBuf → String}

theorem readInput_eq {input : Input} {written : WorkerCapnp.Input}
    (accepted : setInput debug input = .ok written) : readInput written = input := by
  cases input with
  | flake | expr =>
    obtain rfl := Except.ok.inj accepted
    rfl
  | file path =>
    simp only [setInput] at accepted
    split at accepted
    · rename_i text found
      obtain rfl := Except.ok.inj accepted
      exact congrArg Input.file (ofStr_eq found)
    · cases accepted

theorem readAutoArgs_eq {args : List (String × AutoArg)} {written : List WorkerCapnp.AutoArg}
    {field : String} (accepted : setList {} setAutoArg field args = .ok written) :
    written.map readAutoArg = args := by
  rw [setList_eq accepted, List.map_map]
  refine (List.map_congr_left fun arg _ => ?_).trans (List.map_id args)
  obtain ⟨name, expr | value⟩ := arg <;> rfl

theorem gcRootsDirText_eq {dir : Option PathBuf} {text : Option String}
    (accepted : gcRootsDirText debug dir = .ok text) : text.map .ofStr = dir := by
  cases dir with
  | none =>
    obtain rfl := Except.ok.inj accepted
    rfl
  | some path =>
    simp only [gcRootsDirText] at accepted
    split at accepted
    · rename_i found
      obtain rfl := Except.ok.inj accepted
      exact congrArg some (ofStr_eq found)
    · cases accepted

/-- The numbers of a configuration are what its types and its checks allow. -/
structure WorkerConfig.Sized (config : WorkerConfig) : Prop where
  /-- A time limit is not zero. -/
  positive : 0 < config.itemTimeoutSeconds
  /-- A time limit has 64 bits. -/
  timeout : config.itemTimeoutSeconds < 2 ^ 64
  /-- A memory limit has 64 bits. -/
  memory : config.maxMemorySize < 2 ^ 64

/-- The time limit is read as it was set. -/
theorem readItemTimeoutSeconds_eq {config : WorkerConfig} (sized : config.Sized)
    {reader : WorkerCapnp.WorkerConfig}
    (set : reader.itemTimeoutSeconds = .ofNat config.itemTimeoutSeconds) :
    readItemTimeoutSeconds reader = config.itemTimeoutSeconds := by
  have same : (UInt64.ofNat config.itemTimeoutSeconds).toNat = config.itemTimeoutSeconds :=
    UInt64.toNat_ofNat_of_lt' sized.timeout
  have nonzero : UInt64.ofNat config.itemTimeoutSeconds ≠ 0 := by
    intro zero
    rw [zero] at same
    exact Nat.ne_of_lt sized.positive same
  rw [readItemTimeoutSeconds, set, if_neg nonzero, same]

/-- The configuration is read as it was set. -/
theorem readWorkerConfig_eq {config : WorkerConfig} (sized : config.Sized)
    {written : WorkerCapnp.WorkerConfig} (accepted : setWorkerConfig debug config = .ok written) :
    readWorkerConfig written = config := by
  obtain ⟨input, inputSet, rest⟩ := bind_eq_ok accepted
  obtain ⟨autoArgs, autoArgsSet, rest⟩ := bind_eq_ok rest
  obtain ⟨gcRootsDir, gcRootsDirSet, rest⟩ := bind_eq_ok rest
  obtain ⟨overrideInputs, overrideInputsSet, rest⟩ := bind_eq_ok rest
  obtain ⟨nixOptions, nixOptionsSet, rest⟩ := bind_eq_ok rest
  have set := Except.ok.inj rest
  have seconds : readItemTimeoutSeconds written = config.itemTimeoutSeconds :=
    readItemTimeoutSeconds_eq sized (by rw [← set])
  have memory : (UInt64.ofNat config.maxMemorySize).toNat = config.maxMemorySize :=
    UInt64.toNat_ofNat_of_lt' sized.memory
  rw [readWorkerConfig, seconds, ← set]
  simp only [readInput_eq inputSet, readAutoArgs_eq autoArgsSet, readTextOpt_setTextOpt,
    gcRootsDirText_eq gcRootsDirSet, memory, readPairs_eq overrideInputsSet,
    readPairs_eq nixOptionsSet]

/-- The numbers of a message are what its types and the checks of its sender allow. -/
def ClientMessage.Sized : ClientMessage → Prop
  | .setup config _ _ => config.Sized
  | .work _ | .shutdown => True

/-- A message of a client is read as it was written. -/
theorem decodeClient_eq {message : ClientMessage} (sized : message.Sized)
    {written : WorkerCapnp.ClientMessage} (accepted : writeClient debug message = .ok written) :
    decodeClient written = .ok message := by
  cases message with
  | setup config token expectedStoreDir =>
    obtain ⟨wire, configSet, rest⟩ := bind_eq_ok accepted
    obtain rfl := Except.ok.inj rest
    simp only [decodeClient, validateWorkerProtocol, if_true, readWorkerConfig_eq sized configSet,
      readTextOpt_setTextOpt]
    rfl
  | work path =>
    obtain ⟨wire, pathSet, rest⟩ := bind_eq_ok accepted
    obtain rfl := Except.ok.inj rest
    exact congrArg (fun path => Except.ok (ClientMessage.work path)) (setTextList_eq pathSet)
  | shutdown =>
    obtain rfl := Except.ok.inj accepted
    rfl

end Config

/-! ## Events -/

section Events

variable {text : JsonText}

/-- The JSON texts that an event carries on the wire. -/
def Event.embedded : Event → List Json
  | .derivation d => d.meta.toList ++ d.inputDrvs.entries.map fun input => Json.strings input.2
  | .attrSet .. | .error _ => []

theorem readOutputs_eq {outputs : SortedMap String (Option String)} {field : String}
    {written : List WorkerCapnp.Output}
    (accepted : setList {} setOutput field outputs.entries = .ok written) :
    SortedMap.collect (written.map readOutput) = outputs := by
  have same : written.map readOutput = outputs.entries := by
    rw [setList_eq accepted, List.map_map]
    refine (List.map_congr_left fun output _ => ?_).trans (List.map_id _)
    obtain ⟨name, none | path⟩ := output <;> rfl
  rw [same, SortedMap.collect_self]

theorem readInputDrvs_eq {inputs : List (String × List String)} {field : String}
    (keeps : ∀ input ∈ inputs, text.Keeps (Json.strings input.2))
    {written : List WorkerCapnp.InputDrv}
    (accepted : setList {} (setInputDrv text) field inputs = .ok written) :
    written.mapM (readInputDrv text) = .ok inputs := by
  rw [setList_eq accepted]
  clear accepted
  induction inputs with
  | nil => rfl
  | cons input inputs ih =>
    have kept : text.parse (text.print (Json.strings input.2)) = some (Json.strings input.2) :=
      keeps input List.mem_cons_self
    have first : readInputDrv text (setInputDrv text input) = .ok input := by
      simp only [readInputDrv, setInputDrv, kept, Option.bind_some, toStrings_strings]
    rw [List.map_cons, List.mapM_cons, first,
      ih fun other member => keeps other (List.mem_cons_of_mem _ member)]
    rfl

theorem readMeta_eq {value : Option Json} (keeps : ∀ json ∈ value, text.Keeps json) :
    readMeta text (setTextOpt (value.map text.print)) = .ok value := by
  cases value with
  | none => rfl
  | some json =>
    have kept : text.parse (text.print json) = some json := keeps json rfl
    simp only [readMeta, readTextOpt_setTextOpt, Option.map_some, kept]

theorem readConstituents_eq {constituents : Option (List String)}
    {written : WorkerCapnp.TextListOpt} (accepted : setConstituents constituents = .ok written) :
    readTextListOpt written = constituents := by
  cases constituents with
  | none =>
    obtain rfl := Except.ok.inj accepted
    rfl
  | some names =>
    obtain ⟨list, set, rfl⟩ := map_eq_ok accepted
    exact congrArg some (setTextList_eq set)

/-- A derivation is read as it was set. -/
theorem readDerivation_eq {d : Derivation}
    (keeps : ∀ json ∈ (Event.derivation d).embedded, text.Keeps json)
    {written : WorkerCapnp.Derivation} (accepted : setDerivation text d = .ok written) :
    readDerivation text written = .ok d := by
  obtain ⟨attrPath, attrPathSet, rest⟩ := bind_eq_ok accepted
  obtain ⟨outputs, outputsSet, rest⟩ := bind_eq_ok rest
  obtain ⟨inputDrvs, inputDrvsSet, rest⟩ := bind_eq_ok rest
  obtain ⟨constituents, constituentsSet, rest⟩ := bind_eq_ok rest
  obtain rfl := Except.ok.inj rest
  have value : ∀ json ∈ d.meta, text.Keeps json := fun json member =>
    keeps json (List.mem_append_left _ (Option.mem_toList.mpr member))
  have inputs : ∀ input ∈ d.inputDrvs.entries, text.Keeps (Json.strings input.2) :=
    fun input member => keeps _ (List.mem_append_right _ (List.mem_map_of_mem member))
  simp only [readDerivation, readInputDrvs_eq inputs inputDrvsSet, readOutputs_eq outputsSet,
    readMeta_eq value, readTextOpt_setTextOpt, readConstituents_eq constituentsSet,
    setTextList_eq attrPathSet, SortedMap.collect_self, bind, Except.bind]
  rfl

/-- An event is read as it was set. -/
theorem readEvent_eq {event : Event} (keeps : ∀ json ∈ event.embedded, text.Keeps json)
    {written : WorkerCapnp.Event} (accepted : setEvent text event = .ok written) :
    readEvent text written = .ok event := by
  cases event with
  | derivation d =>
    obtain ⟨wire, set, rfl⟩ := map_eq_ok accepted
    rw [readEvent, readDerivation_eq keeps set]
    rfl
  | attrSet attr attrPath attrs =>
    obtain ⟨path, pathSet, rest⟩ := bind_eq_ok accepted
    obtain ⟨names, namesSet, rest⟩ := bind_eq_ok rest
    obtain rfl := Except.ok.inj rest
    simp only [readEvent, setTextList_eq pathSet, setTextList_eq namesSet]
  | error failure =>
    obtain ⟨wire, set, rfl⟩ := map_eq_ok accepted
    obtain ⟨path, pathSet, rest⟩ := bind_eq_ok set
    obtain rfl := Except.ok.inj rest
    simp only [readEvent, readEvalError, setTextList_eq pathSet]

/-- The JSON texts that a message carries on the wire. -/
def ServerMessage.embedded : ServerMessage → List Json
  | .event value => value.embedded
  | .ready | .status _ | .error _ => []

/-- A message of a server is read as it was written. -/
theorem readServer_eq {message : ServerMessage} (keeps : ∀ json ∈ message.embedded, text.Keeps json)
    {written : WorkerCapnp.ServerMessage} (accepted : encodeServer text message = .ok written) :
    readServer text written = .ok message := by
  cases message with
  | ready | error =>
    obtain rfl := Except.ok.inj accepted
    rfl
  | status status =>
    obtain rfl := Except.ok.inj accepted
    cases status <;> rfl
  | event event =>
    obtain ⟨wire, set, rfl⟩ := map_eq_ok accepted
    rw [readServer, readEvent_eq keeps set]
    rfl

end Events

/-- A reader gives back every message that a writer accepts. -/
theorem wire_round_trip (debug : PathBuf → String) (text : JsonText) :
    (∀ (message : ClientMessage) (written : WorkerCapnp.ClientMessage), message.Sized →
      writeClient debug message = .ok written → decodeClient written = .ok message) ∧
    ∀ (message : ServerMessage) (written : WorkerCapnp.ServerMessage),
      (∀ json ∈ message.embedded, text.Keeps json) →
      encodeServer text message = .ok written → readServer text written = .ok message :=
  ⟨fun _ _ sized accepted => decodeClient_eq sized accepted,
    fun _ _ keeps accepted => readServer_eq keeps accepted⟩

/-- A configuration with every kind of field. -/
def richConfig : WorkerConfig where
  input := .file (.ofStr "/srv/a.nix")
  autoArgs := [("x", .expr "1"), ("y", .str "b")]
  forceRecurse := true
  gcRootsDir := some (.ofStr "/nix/var/nix/gcroots/evix")
  maxMemorySize := 4096
  itemTimeoutSeconds := 60
  «meta» := true
  showInputDrvs := true
  overrideInputs := [("nixpkgs", "path:/srv/nixpkgs")]
  nixOptions := [("cores", "1")]
  lockedFlakeJson := some "lock"

/-- A configuration with every kind of field and a derivation with a null `meta` come back. -/
theorem wire_round_trip_rich :
    let debug : PathBuf → String := fun _ => ""
    let text : JsonText := .table [(.null, "null"), (Json.strings ["out"], "[\"out\"]")]
    let setup : ClientMessage := .setup richConfig (some "token") none
    let event : ServerMessage := .event (.derivation { (default : Derivation) with
      attr := "a", «meta» := some .null, constituents := some [],
      outputs := .collect [("out", none), ("dev", some "/nix/store/a-dev")],
      inputDrvs := .collect [("/nix/store/b.drv", ["out"])] })
    (∃ written, writeClient debug setup = .ok written ∧ decodeClient written = .ok setup) ∧
      ∃ written, encodeServer text event = .ok written ∧ readServer text written = .ok event := by
  intro debug text setup event
  have sized : setup.Sized := ⟨by decide, by decide, by decide⟩
  have keeps : ∀ json ∈ event.embedded, text.Keeps json := by decide
  exact ⟨⟨_, rfl, (wire_round_trip debug text).1 setup _ sized rfl⟩,
    ⟨_, rfl, (wire_round_trip debug text).2 event _ keeps rfl⟩⟩

end Evix
