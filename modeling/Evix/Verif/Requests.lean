import Evix.Daemon.Request
import Evix.Verif.DaemonEval
import Evix.Verif.SessionKey

/-!
# Requests on the wire

A request is read back as it was written, whatever the order of its fields, and what is read is a
request that can be written again.
-/

namespace Evix

open Json Records Fallible

/-! ## Reading what was written -/

/-- A number is read back. -/
theorem asNat_document {value : Nat} (small : value < 2 ^ 64) :
    asNat (natDocument value) = some value := by
  simp only [asNat, natDocument, UInt64.toNat_ofNat_of_lt' small]

/-- A path is read back. -/
theorem path_document {path : PathBuf} {document : Json} (written : path.document = .ok document) :
    PathBuf.ofDocument document = some path := by
  unfold PathBuf.document at written
  cases text : path.toStr with
  | none =>
    rw [text] at written
    cases written
  | some found =>
    rw [text] at written
    obtain rfl := Except.ok.inj written
    exact congrArg some (ofStr_eq text)

/-- An input is read back. -/
theorem input_document {input : Input} {document : Json} (written : input.document = .ok document) :
    Input.ofDocument document = some input := by
  cases input with
  | flake reference | expr expression =>
    obtain rfl := Except.ok.inj written
    simp [Input.ofDocument, tagged, variantName, recordFields, without, required, one, values,
      asStr]
  | file path =>
    obtain ⟨inner, text, rfl⟩ := fileDocument written
    simp [Input.ofDocument, tagged, variantName, recordFields, without, required, one, values,
      path_document text]

/-- An argument is read back. -/
theorem autoArg_document (arg : String × AutoArg) :
    AutoArg.ofDocument (AutoArg.document arg) = some arg := by
  obtain ⟨name, value | value⟩ := arg <;>
    simp [AutoArg.ofDocument, AutoArg.document, recordFields, required, one, values, asStr,
      autoArgKind, autoArgKindOf]

/-- A list is read back when its elements are. -/
theorem decodeList_written {α : Type} {write : α → Json} {read : Json → Option α}
    {elements : List α}
    (reads : ∀ value ∈ elements, read (write value) = some value) :
    decodeList read (.array (elements.map write)) = some elements := by
  show (elements.map write).mapM read = some elements
  induction elements with
  | nil => rfl
  | cons value elements ih =>
    rw [List.forall_mem_cons] at reads
    rw [List.map_cons, List.mapM_cons, reads.1, ih reads.2]
    rfl

/-- A pair is read back. -/
theorem pair_document (pair : String × String) : decodePair (pairDocument pair) = some pair := rfl

/-- A remote is read back. -/
theorem remote_document {remote : Remote} (small : remote.workers < 2 ^ 64) :
    Remote.ofDocument remote.document = some remote := by
  obtain ⟨endpoint, systems, workers, token | token⟩ := remote <;>
    simp [Remote.ofDocument, Remote.document, recordFields, required, optional, defaulted, one,
      values, optionalField, asStr, asNat_document small, toStrings_strings, decodeOption]

/-- An optional path is read back. -/
theorem optionalPath_document {path : Option PathBuf} {document : Json}
    (written : optionalPathDocument path = .ok document) :
    decodeOption PathBuf.ofDocument document = some path := by
  cases path with
  | none =>
    obtain rfl := Except.ok.inj written
    rfl
  | some path =>
    have read := path_document written
    cases document with
    | null => exact absurd written (pathDocument_ne_null path)
    | string text => exact congrArg (Option.map some) read
    | bool | number | array | object => cases read

/-- The fields of a written configuration. -/
def Config.wireFields (config : Config) (input gcRootsDir : Json) : List (String × Json) :=
  [("input", input),
    ("autoArgs", .array (config.autoArgs.map AutoArg.document)),
    ("forceRecurse", .bool config.forceRecurse),
    ("gcRootsDir", gcRootsDir),
    ("workers", natDocument config.workers),
    ("maxMemorySize", natDocument config.maxMemorySize),
    ("itemTimeoutSeconds", natDocument config.itemTimeoutSeconds),
    ("meta", .bool config.meta),
    ("showInputDrvs", .bool config.showInputDrvs),
    ("overrideInputs", .array (config.overrideInputs.map pairDocument)),
    ("nixOptions", .array (config.nixOptions.map pairDocument)),
    ("remotes", .array (config.remotes.map Remote.document))]

/-- What a written configuration is. -/
theorem config_document {config : Config} {document : Json}
    (written : config.document = .ok document) :
    ∃ input gcRootsDir, config.input.document = .ok input ∧
      optionalPathDocument config.gcRootsDir = .ok gcRootsDir ∧
      document = .object (config.wireFields input gcRootsDir) := by
  obtain ⟨input, read, rest⟩ := bind_eq_ok written
  obtain ⟨gcRootsDir, found, made⟩ := bind_eq_ok rest
  exact ⟨input, gcRootsDir, read, found, (Except.ok.inj made).symm⟩

/-- A configuration is written when its paths are. -/
theorem config_written {config : Config} {input gcRootsDir : Json}
    (read : config.input.document = .ok input)
    (found : optionalPathDocument config.gcRootsDir = .ok gcRootsDir) :
    config.document = .ok (.object (config.wireFields input gcRootsDir)) := by
  simp only [Config.document, SessionKeyConfig.document, SessionKeyConfig.ofConfig, read, found]
  rfl

/-- A configuration as the daemon has it: the worker executable stays behind. -/
def Config.received (config : Config) : Config := { config with workerExe := none }

/-- A configuration is read back. -/
theorem config_fields {config : Config} (sized : config.Sized) {input gcRootsDir : Json}
    (read : config.input.document = .ok input)
    (found : optionalPathDocument config.gcRootsDir = .ok gcRootsDir) :
    Config.ofDocument (.object (config.wireFields input gcRootsDir)) = some config.received := by
  have args := decodeList_written fun arg (_ : arg ∈ config.autoArgs) => autoArg_document arg
  have overrides := decodeList_written fun pair (_ : pair ∈ config.overrideInputs) =>
    pair_document pair
  have options := decodeList_written fun pair (_ : pair ∈ config.nixOptions) => pair_document pair
  have remotes := decodeList_written fun remote here => remote_document (sized.remotes remote here)
  have distinct : ((config.wireFields input gcRootsDir).map (·.1)).Nodup := by
    simp [Config.wireFields]
  rw [Config.ofDocument, recordFields, Option.bind_some, Config.ofFields]
  simp only [Option.bind_eq_bind, optional]
  rw [(required_of_lookup distinct rfl).trans (input_document read), Option.bind_some,
    (required_of_lookup distinct rfl).trans args, Option.bind_some,
    defaulted_of_lookup distinct rfl, asBool, Option.bind_some,
    (defaulted_of_lookup distinct rfl).trans (optionalPath_document found), Option.bind_some,
    (required_of_lookup distinct rfl).trans (asNat_document sized.workers), Option.bind_some,
    (required_of_lookup distinct rfl).trans (asNat_document sized.memory), Option.bind_some,
    (defaulted_of_lookup distinct rfl).trans (asNat_document sized.timeout), Option.bind_some,
    defaulted_of_lookup distinct rfl, asBool, Option.bind_some,
    defaulted_of_lookup distinct rfl, asBool, Option.bind_some,
    (defaulted_of_lookup distinct rfl).trans overrides, Option.bind_some,
    (defaulted_of_lookup distinct rfl).trans options, Option.bind_some,
    (defaulted_of_lookup distinct rfl).trans remotes, Option.bind_some]
  rfl

/-- How optional values are written and read. -/
structure ReadsBack {α : Type} (write : α → Json) (read : Json → Option α) : Prop where
  /-- A value is read back. -/
  reads : ∀ value, read (write value) = some value
  /-- No value is written as an absent one. -/
  present : ∀ value, write value ≠ .null

section Optional

variable {α : Type} {write : α → Json} {read : Json → Option α}

/-- A value that is there is read back. -/
theorem ReadsBack.some (back : ReadsBack write read) (value : α) :
    decodeOption read (write value) = .some (.some value) := by
  have there := back.reads value
  cases written : write value with
  | null => exact absurd written (back.present value)
  | bool | number | string | array | object =>
    rw [written] at there
    simp [decodeOption, there]

/-- A field that is `null` when it is absent. -/
theorem ReadsBack.kept (back : ReadsBack write read) (value : Option α) :
    decodeOption read (optionDocument (value.map write)) = .some value := by
  cases value with
  | none => rfl
  | some value => exact back.some value

/-- A field that is left out when it is absent. -/
theorem ReadsBack.skipped (back : ReadsBack write read) {name : String}
    {fields : List (String × Json)} {value : Option α}
    (found : one [name] fields = .some (value.map write)) :
    optional read [name] fields = .some value := by
  rw [optional, defaulted, found]
  cases value with
  | none => rfl
  | some value => exact back.some value

end Optional

/-- Lists of strings are read back. -/
theorem strings_readsBack : ReadsBack strings toStrings :=
  ⟨toStrings_strings, fun _ => by simp [strings]⟩

/-- Lists of attribute paths are read back. -/
theorem paths_readsBack : ReadsBack pathsDocument (decodeList toStrings) :=
  ⟨fun paths => decodeList_written fun path (_ : path ∈ paths) => toStrings_strings path,
    fun _ => by simp [pathsDocument]⟩

/-- An optional field has its name. -/
theorem optionalField_names (name : String) (value : Option Json) :
    ((optionalField name value).map (·.1)).Sublist [name] := by
  cases value <;> simp [optionalField]

/-- The fields of a written filter are distinct. -/
theorem filter_distinct {fields : List (String × Json)} {filter : Filter}
    (written : filter.document = .object fields) : (fields.map (·.1)).Nodup := by
  obtain rfl := Json.object.inj written
  have names : (["systems", "attrPrefix"] ++ ["attrPrefixes"] ++ ["attrs"] ++ ["names"] ++
      ["drvPaths"] ++ ["includePatterns"] ++ ["excludePatterns"]).Nodup := by decide
  refine names.sublist ?_
  simp only [List.map_append, List.map_cons, List.map_nil]
  exact (((((((List.Sublist.refl _).append (optionalField_names _ _)).append
    (optionalField_names _ _)).append (optionalField_names _ _)).append
    (optionalField_names _ _)).append (optionalField_names _ _)).append (optionalField_names _ _))

/-- A filter is read back. -/
theorem filter_document (filter : Filter) : Filter.ofDocument filter.document = some filter := by
  obtain ⟨fields, written⟩ : ∃ fields, filter.document = .object fields := ⟨_, rfl⟩
  have found (name : String) : one [name] fields = some (fields.lookup name) :=
    one_eq_lookup (filter_distinct written)
  have made := Json.object.inj written
  have kept {name : String} {value : Option (List String)}
      (here : fields.lookup name = some (optionDocument (value.map strings))) :
      optional toStrings [name] fields = some value := by
    rw [optional, defaulted, found, here]
    exact strings_readsBack.kept value
  have skipped {α : Type} {write : α → Json} {read : Json → Option α}
      (back : ReadsBack write read) {name : String} {value : Option α}
      (here : fields.lookup name = value.map write) : optional read [name] fields = some value :=
    back.skipped (by rw [found, here])
  have systems : optional toStrings ["systems"] fields = some filter.systems :=
    kept (by simp [← made])
  have attrPrefix : optional toStrings ["attrPrefix"] fields = some filter.attrPrefix :=
    kept (by simp [← made, List.lookup_cons])
  have attrPrefixes : optional (decodeList toStrings) ["attrPrefixes"] fields =
      some filter.attrPrefixes :=
    skipped paths_readsBack (by simp [← made, List.lookup_append, lookup_optionalField,
      List.lookup_cons])
  have attrs : optional (decodeList toStrings) ["attrs"] fields = some filter.attrs :=
    skipped paths_readsBack (by simp [← made, List.lookup_append, lookup_optionalField,
      List.lookup_cons])
  have names : optional toStrings ["names"] fields = some filter.names :=
    skipped strings_readsBack (by simp [← made, List.lookup_append, lookup_optionalField,
      List.lookup_cons])
  have drvPaths : optional toStrings ["drvPaths"] fields = some filter.drvPaths :=
    skipped strings_readsBack (by simp [← made, List.lookup_append, lookup_optionalField,
      List.lookup_cons])
  have includePatterns : optional toStrings ["includePatterns"] fields =
      some filter.includePatterns :=
    skipped strings_readsBack (by simp [← made, List.lookup_append, lookup_optionalField,
      List.lookup_cons])
  have excludePatterns : optional toStrings ["excludePatterns"] fields =
      some filter.excludePatterns :=
    skipped strings_readsBack (by simp [← made, List.lookup_append, lookup_optionalField,
      List.lookup_cons])
  rw [written]
  simp [Filter.ofDocument, recordFields, systems, attrPrefix, attrPrefixes, attrs, names, drvPaths,
    includePatterns, excludePatterns]

/-! ## Requests -/

/-- A configuration is read the same in any order, among fields that it does not know. -/
theorem config_shuffled {fields inner extra : List (String × Json)}
    (unknown : ∀ field ∈ extra, field.1 ∉ configNames) (shuffled : inner.Perm (extra ++ fields)) :
    Config.ofDocument (.object inner) = Config.ofDocument (.object fields) := by
  have same {name : String} (isName : name ∈ configNames) :
      one [name] inner = one [name] fields := by
    rw [one_perm shuffled]
    refine one_append_other fun field member found => unknown field member ?_
    rwa [List.mem_singleton.mp found]
  show Config.ofFields inner = Config.ofFields fields
  unfold Config.ofFields required optional defaulted
  repeat rw [same (by simp [configNames])]

/-- A request with its configuration as the daemon has it. -/
def Request.received : Request → Request
  | .eval config => .eval config.received
  | .replay config => .replay config.received
  | .watch config => .watch config.received
  | .query config filter => .query config.received filter
  | .diff config => .diff config.received

/-- A request with its protocol version, as the daemon has it. -/
def VersionedRequest.received (message : VersionedRequest) : VersionedRequest :=
  { message with request := message.request.received }

/-- A protocol version is read back. -/
theorem asVersion_document (version : UInt32) :
    asVersion (versionDocument version) = some version := by
  simpa [asVersion, asNat, versionDocument] using version.toNat_lt

/-- The fields of a request are distinct and known. -/
theorem fields_distinct (message : VersionedRequest) (config : Json) :
    (message.fields config).map (·.1) = "type" :: requestFields message.request.tag ∧
      ("type" :: requestFields message.request.tag).Nodup := by
  obtain ⟨version, request⟩ := message
  cases request <;>
    simp [VersionedRequest.fields, Request.filterFields, requestFields, Request.tag]

/-- A field of a request is found in any order. -/
theorem one_fields {message : VersionedRequest} {config : Json} {fields : List (String × Json)}
    (shuffled : fields.Perm (message.fields config)) (name : String) :
    one [name] fields = some ((message.fields config).lookup name) := by
  obtain ⟨names, distinct⟩ := fields_distinct message config
  rw [one_perm shuffled, one_eq_lookup (names ▸ distinct)]

/-- The fields of a request are known in any order. -/
theorem known_fields {message : VersionedRequest} {config : Json} {fields : List (String × Json)}
    (shuffled : fields.Perm (message.fields config)) :
    known (["type"] ++ requestFields message.request.tag) fields = true := by
  rw [known_perm shuffled, known, List.all_eq_true]
  intro field member
  have named := List.mem_map_of_mem (f := (·.1)) member
  rw [(fields_distinct message config).1] at named
  exact decide_eq_true named

/-- A field of the content of a request is one of the request. -/
theorem one_content {fields : List (String × Json)} {name : String} (apart : name ≠ "type") :
    one [name] (without ["type"] fields) = one [name] fields :=
  one_without fun other same => by
    rw [List.mem_singleton.mp same]
    simpa using apart

/-- What becomes of a request that is written as an object. -/
theorem request_object {fields : List (String × Json)} {tag : String}
    (found : required asStr ["type"] fields = some tag) :
    VersionedRequest.ofDocument (.object fields) =
      if known (["type"] ++ requestFields tag) fields then do
        let protocolVersion ← required asVersion ["protocolVersion"] fields
        let config ← required Config.ofDocument ["config"] fields
        let request ← requestOf tag config fields
        return { protocolVersion, request }
      else none := by
  have version : required asVersion ["protocolVersion"] (without ["type"] fields) =
      required asVersion ["protocolVersion"] fields := by
    rw [required, required, one_content (by decide)]
  have inner : required Config.ofDocument ["config"] (without ["type"] fields) =
      required Config.ofDocument ["config"] fields := by
    rw [required, required, one_content (by decide)]
  have request (config : Config) : requestOf tag config (without ["type"] fields) =
      requestOf tag config fields := by
    unfold requestOf defaulted
    rw [one_content (by decide)]
  simp only [VersionedRequest.ofDocument, tagged, found, Option.map_some, Option.bind_eq_bind,
    Option.bind_some, recordFields, known_without, version, inner, request]

/-- A request is read whatever the order of its fields. -/
theorem request_shuffled {message : VersionedRequest} {config : Json}
    (read : Config.ofDocument config = some message.request.config.received)
    {fields : List (String × Json)} (shuffled : fields.Perm (message.fields config)) :
    VersionedRequest.ofDocument (.object fields) = some message.received := by
  have found := one_fields shuffled
  have tag : required asStr ["type"] fields = some message.request.tag := by
    rw [required, found]
    rfl
  have version : required asVersion ["protocolVersion"] fields = some message.protocolVersion := by
    rw [required, found]
    exact asVersion_document _
  have inner : required Config.ofDocument ["config"] fields =
      some message.request.config.received := by
    rw [required, found]
    exact read
  have request : requestOf message.request.tag message.request.config.received fields =
      some message.request.received := by
    obtain ⟨protocolVersion, request⟩ := message
    cases request with
    | eval config | replay config | watch config | diff config => rfl
    | query config filter =>
      have filtered : defaulted Filter.ofDocument {} ["filter"] fields = some filter := by
        rw [defaulted, found]
        exact filter_document filter
      simp [requestOf, Request.tag, filtered, Request.config, Request.received]
  rw [request_object tag, if_pos (known_fields shuffled)]
  simp [version, inner, request, VersionedRequest.received]

/-- A request that is written is read back. -/
theorem request_document {message : VersionedRequest} (sized : message.request.config.Sized)
    {document : Json} (written : message.document = .ok document) :
    VersionedRequest.ofDocument document = some message.received := by
  obtain ⟨config, made, built⟩ := bind_eq_ok written
  obtain rfl := Except.ok.inj built
  obtain ⟨input, gcRootsDir, first, second, rfl⟩ := config_document made
  exact request_shuffled (config_fields sized first second) (List.Perm.refl _)

/-- An object that is read as a request has a tag, knows its fields and has none twice. -/
theorem request_fields {fields : List (String × Json)} {message : VersionedRequest}
    (read : VersionedRequest.ofDocument (.object fields) = some message) :
    ∃ tag, required asStr ["type"] fields = some tag ∧
      known (["type"] ++ requestFields tag) fields = true ∧ (fields.map (·.1)).Nodup := by
  obtain ⟨tag, found⟩ : ∃ tag, required asStr ["type"] fields = some tag := by
    cases found : required asStr ["type"] fields with
    | none => simp [VersionedRequest.ofDocument, tagged, found] at read
    | some tag => exact ⟨tag, rfl⟩
  rw [request_object found] at read
  split at read
  · rename_i all
    simp only [Option.bind_eq_bind, Option.bind_eq_some_iff] at read
    obtain ⟨version, hasVersion, config, hasConfig, request, made, _⟩ := read
    refine ⟨tag, found, all, nodup_of_known all fun name named => ?_⟩
    simp only [requestFields, List.mem_append, List.mem_cons, List.not_mem_nil, or_false] at named
    obtain rfl | (rfl | rfl) | filter := named
    · exact found_of_required found
    · exact found_of_required hasVersion
    · exact found_of_required hasConfig
    · split at filter
      · rename_i query
        obtain rfl := List.mem_singleton.mp filter
        subst query
        obtain ⟨filter, read, _⟩ := Option.map_eq_some_iff.mp made
        exact found_of_defaulted read
      · contradiction
  · contradiction

/-- A request is read back as the daemon must have it, however its fields and those of its
configuration are ordered, and whatever other fields its configuration has; an object with a field
that requests of its kind do not have, or with a name twice, is refused. -/
theorem request_read_back {message : VersionedRequest} (sized : message.request.config.Sized)
    {config inner extra fields : List (String × Json)}
    (written : message.request.config.document = .ok (.object config))
    (unknown : ∀ field ∈ extra, field.1 ∉ configNames) (shuffled : inner.Perm (extra ++ config))
    (outer : fields.Perm (message.fields (.object inner))) :
    VersionedRequest.ofDocument (.object fields) = some message.received ∧
      (∀ (other : List (String × Json)) (tag : String), required asStr ["type"] other = some tag →
        (∃ field ∈ other, field.1 ≠ "type" ∧ field.1 ∉ requestFields tag) →
        VersionedRequest.ofDocument (.object other) = none) ∧
      ∀ other : List (String × Json), ¬(other.map (·.1)).Nodup →
        VersionedRequest.ofDocument (.object other) = none := by
  have read : Config.ofDocument (.object inner) = some message.request.config.received := by
    obtain ⟨input, gcRootsDir, first, second, made⟩ := config_document written
    rw [config_shuffled unknown shuffled, made]
    exact config_fields sized first second
  refine ⟨request_shuffled read outer, ?_, ?_⟩
  · rintro other tag found ⟨field, member, named, stranger⟩
    rw [request_object found, if_neg]
    intro all
    have isKnown := of_decide_eq_true (List.all_eq_true.mp all field member)
    rw [List.mem_append, List.mem_singleton] at isKnown
    exact isKnown.elim named stranger
  · intro other twice
    cases read : VersionedRequest.ofDocument (.object other) with
    | none => rfl
    | some message =>
      obtain ⟨_, _, _, distinct⟩ := request_fields read
      exact absurd distinct twice

/-- A query of a configuration with a remote. -/
def exampleQuery : VersionedRequest :=
  ⟨daemonProtocolVersion, .query
    { Config.default with
      autoArgs := [("system", .str "x86_64-linux")]
      remotes := [⟨"builder:9000", ["x86_64-linux"], 2, some "secret"⟩]
      workerExe := some (.ofStr "/bin/evix") }
    { names := some ["hello"] }⟩

/-- The query is read with all its fields reversed and a field that its configuration does not
know; it is refused with that field of its own, and with a second version after all its fields. -/
theorem request_read_back_reversed : ∃ config inner fields : List (String × Json),
    exampleQuery.request.config.document = .ok (.object config) ∧
      inner = ([("threads", Json.null)] ++ config).reverse ∧
      fields = (exampleQuery.fields (.object inner)).reverse ∧
      VersionedRequest.ofDocument (.object fields) = some exampleQuery.received ∧
      VersionedRequest.ofDocument (.object (fields ++ [("threads", .null)])) = none ∧
      VersionedRequest.ofDocument (.object (fields ++ [("protocolVersion", .null)])) = none := by
  have sized : exampleQuery.request.config.Sized :=
    ⟨by decide, by decide, by decide, by decide⟩
  obtain ⟨config, written⟩ : ∃ config, exampleQuery.request.config.document =
      .ok (.object config) := ⟨_, rfl⟩
  have unknown : ∀ field ∈ [("threads", Json.null)], field.1 ∉ configNames := by decide
  obtain ⟨read, strange, twice⟩ := request_read_back sized written unknown
    (List.reverse_perm ([("threads", Json.null)] ++ config)) (List.reverse_perm _)
  exact ⟨config, _, _, written, rfl, rfl, read,
    strange _ "query" rfl ⟨("threads", .null), by simp, by decide, by decide⟩,
    twice _ (by simp [exampleQuery, VersionedRequest.fields, Request.filterFields])⟩

/-! ## What is accepted -/

/-- A number that is read is a machine integer. -/
theorem asNat_small {document : Json} {value : Nat} (read : asNat document = some value) :
    value < 2 ^ 64 := by
  unfold asNat at read
  split at read
  · obtain rfl := Option.some.inj read
    exact UInt64.toNat_lt _
  · contradiction

/-- The path of a text is text. -/
theorem toStr_ofStr (text : String) : (PathBuf.ofStr text).toStr = some text := by
  have valid : ByteArray.IsValidUTF8 ⟨text.toByteArray.data⟩ := text.isValidUTF8
  simpa [PathBuf.toStr, PathBuf.ofStr, String.fromUTF8?, String.fromUTF8] using valid

/-- A path that is read is text. -/
theorem ofDocument_text {document : Json} {path : PathBuf}
    (read : PathBuf.ofDocument document = some path) : ∃ written, path.document = .ok written := by
  obtain ⟨text, _, rfl⟩ := Option.map_eq_some_iff.mp read
  exact ⟨.string text, by simp [PathBuf.document, toStr_ofStr]⟩

/-- An input that is read can be written. -/
theorem ofDocument_input {document : Json} {input : Input}
    (read : Input.ofDocument document = some input) : ∃ written, input.document = .ok written := by
  simp only [Input.ofDocument, Option.bind_eq_bind, Option.bind_eq_some_iff] at read
  obtain ⟨⟨tag, content⟩, _, fields, _, rest⟩ := read
  simp only at rest
  split at rest
  · obtain ⟨value, _, rfl⟩ := Option.map_eq_some_iff.mp rest
    exact ⟨_, rfl⟩
  · obtain ⟨value, _, rfl⟩ := Option.map_eq_some_iff.mp rest
    exact ⟨_, rfl⟩
  · obtain ⟨path, found, rfl⟩ := Option.map_eq_some_iff.mp rest
    obtain ⟨written, decoded⟩ := required_eq_some found
    obtain ⟨again, text⟩ := ofDocument_text decoded
    exact ⟨_, by simp only [Input.document, text]; rfl⟩
  · contradiction

/-- An element of a list that is read was read. -/
theorem mem_decodeList {α : Type} {read : Json → Option α} {document : Json} {elements : List α}
    (decoded : decodeList read document = some elements) {element : α}
    (member : element ∈ elements) :
    ∃ written, read written = some element := by
  cases document with
  | array items =>
    have traversed : items.mapM read = some elements := decoded
    clear decoded
    induction items generalizing elements with
    | nil =>
      obtain rfl := Option.some.inj traversed
      contradiction
    | cons item items ih =>
      rw [List.mapM_cons] at traversed
      obtain ⟨first, found, rest⟩ := Option.bind_eq_some_iff.mp traversed
      obtain ⟨later, others, built⟩ := Option.bind_eq_some_iff.mp rest
      obtain rfl := Option.some.inj built
      obtain rfl | older := List.mem_cons.mp member
      · exact ⟨item, found⟩
      · exact ih older others
  | null | bool | number | string | object => contradiction

/-- A remote that is read has a machine integer of workers. -/
theorem ofDocument_remote {document : Json} {remote : Remote}
    (read : Remote.ofDocument document = some remote) : remote.workers < 2 ^ 64 := by
  simp only [Remote.ofDocument, Option.bind_eq_bind, Option.bind_eq_some_iff] at read
  obtain ⟨fields, _, endpoint, _, systems, _, workers, found, token, _, built⟩ := read
  obtain rfl := Option.some.inj built
  obtain ⟨written, decoded⟩ := required_eq_some found
  exact asNat_small decoded

/-- A configuration that is read has machine integers and paths that are text. -/
theorem ofDocument_config {document : Json} {config : Config}
    (read : Config.ofDocument document = some config) :
    config.Sized ∧ config.received = config ∧ ∃ fields, config.document = .ok (.object fields) := by
  obtain ⟨fields, _, rest⟩ := Option.bind_eq_some_iff.mp read
  obtain ⟨input, hasInput, rest⟩ := Option.bind_eq_some_iff.mp rest
  obtain ⟨autoArgs, _, rest⟩ := Option.bind_eq_some_iff.mp rest
  obtain ⟨forceRecurse, _, rest⟩ := Option.bind_eq_some_iff.mp rest
  obtain ⟨gcRootsDir, hasDir, rest⟩ := Option.bind_eq_some_iff.mp rest
  obtain ⟨workers, hasWorkers, rest⟩ := Option.bind_eq_some_iff.mp rest
  obtain ⟨maxMemorySize, hasMemory, rest⟩ := Option.bind_eq_some_iff.mp rest
  obtain ⟨timeout, hasTimeout, rest⟩ := Option.bind_eq_some_iff.mp rest
  obtain ⟨«meta», _, rest⟩ := Option.bind_eq_some_iff.mp rest
  obtain ⟨showInputDrvs, _, rest⟩ := Option.bind_eq_some_iff.mp rest
  obtain ⟨overrideInputs, _, rest⟩ := Option.bind_eq_some_iff.mp rest
  obtain ⟨nixOptions, _, rest⟩ := Option.bind_eq_some_iff.mp rest
  obtain ⟨remotes, hasRemotes, built⟩ := Option.bind_eq_some_iff.mp rest
  obtain rfl := Option.some.inj built
  refine ⟨⟨?_, ?_, ?_, ?_⟩, rfl, ?_⟩
  · obtain ⟨_, decoded⟩ := required_eq_some hasWorkers
    exact asNat_small decoded
  · obtain ⟨_, decoded⟩ := required_eq_some hasMemory
    exact asNat_small decoded
  · obtain rfl | ⟨_, decoded⟩ := defaulted_eq_some hasTimeout
    · show defaultItemTimeoutSeconds < 2 ^ 64
      decide
    · exact asNat_small decoded
  · intro remote member
    obtain rfl | ⟨_, decoded⟩ := defaulted_eq_some hasRemotes
    · contradiction
    · obtain ⟨_, found⟩ := mem_decodeList decoded member
      exact ofDocument_remote found
  · obtain ⟨_, decodedInput⟩ := required_eq_some hasInput
    obtain ⟨inputDocument, writtenInput⟩ := ofDocument_input decodedInput
    have dir : ∃ written, optionalPathDocument gcRootsDir = .ok written := by
      obtain rfl | ⟨document, decoded⟩ := defaulted_eq_some hasDir
      · exact ⟨.null, rfl⟩
      · cases gcRootsDir with
        | none => exact ⟨.null, rfl⟩
        | some path =>
          unfold decodeOption at decoded
          split at decoded
          · cases decoded
          · obtain ⟨found, some, same⟩ := Option.map_eq_some_iff.mp decoded
            obtain rfl := Option.some.inj same
            exact ofDocument_text some
    obtain ⟨dirDocument, writtenDir⟩ := dir
    exact ⟨_, config_written writtenInput writtenDir⟩

/-- The request of a tag has its configuration, and its tag. -/
theorem requestOf_eq_some {tag : String} {config : Config} {fields : List (String × Json)}
    {request : Request} (made : requestOf tag config fields = some request) :
    request.config = config ∧ (config.received = config → request.received = request) := by
  unfold requestOf at made
  split at made
  all_goals first
    | contradiction
    | obtain ⟨filter, _, rfl⟩ := Option.map_eq_some_iff.mp made
      exact ⟨rfl, fun same => by simp [Request.received, same]⟩
    | obtain rfl := Option.some.inj made
      exact ⟨rfl, fun same => by simp [Request.received, same]⟩

/-- What the daemon accepts is what a client can send: its numbers are machine integers, it can be
written, it is read back as itself, and its configuration has a session key. -/
theorem request_accepted {document : Json} {message : VersionedRequest}
    (read : VersionedRequest.ofDocument document = some message) :
    message.request.config.Sized ∧
      (∃ again, message.document = .ok again ∧ VersionedRequest.ofDocument again = some message) ∧
      ∀ text : JsonText, ∃ key, text.key (.ofConfig message.request.config) = .ok key := by
  simp only [VersionedRequest.ofDocument, Option.bind_eq_bind, Option.bind_eq_some_iff] at read
  obtain ⟨⟨tag, content⟩, _, fields, _, rest⟩ := read
  simp only at rest
  split at rest
  · simp only [Option.bind_eq_some_iff] at rest
    obtain ⟨version, _, config, found, request, made, built⟩ := rest
    obtain rfl := Option.some.inj built
    obtain ⟨_, decoded⟩ := required_eq_some found
    obtain ⟨sized, same, inner, written⟩ := ofDocument_config decoded
    obtain ⟨rfl, received⟩ := requestOf_eq_some made
    have whole : VersionedRequest.document ⟨version, request⟩ =
        .ok (.object (VersionedRequest.fields ⟨version, request⟩ (.object inner))) := by
      simp only [VersionedRequest.document, written]
      rfl
    have again := request_document sized whole
    rw [VersionedRequest.received, received same] at again
    refine ⟨sized, ⟨_, whole, again⟩, ?_⟩
    · intro text
      exact ⟨text.print (.object inner), congrArg (Except.map text.print) written⟩
  · contradiction

/-- A request that leaves out what has a default, and calls the endpoint of a remote its host. The
request and its input are arrays, and the variants inside it are not written by their names. -/
def exampleHost : Json :=
  .array [.string "eval", versionDocument 2,
    .object [("remotes", .array [.object [("host", .string "builder:9000"),
        ("systems", .array []), ("workers", natDocument 2)]]),
      ("input", .array [natDocument 2, .string "/etc/hello.nix"]),
      ("autoArgs", .array [.object [("name", .string "system"), ("kind", .object [("str", .null)]),
        ("value", .string "x86_64-linux")]]),
      ("workers", natDocument 1), ("maxMemorySize", natDocument 512)]]

/-- The request of a host is accepted, and is read back with an endpoint. -/
theorem request_accepted_host : ∃ message, VersionedRequest.ofDocument exampleHost = some message ∧
    message.request.config.remotes = [⟨"builder:9000", [], 2, none⟩] ∧
      ∃ again, message.document = .ok again ∧ VersionedRequest.ofDocument again = some message := by
  obtain ⟨message, read⟩ : ∃ message, VersionedRequest.ofDocument exampleHost = some message :=
    ⟨_, rfl⟩
  have remotes : (VersionedRequest.ofDocument exampleHost).map (·.request.config.remotes) =
      some [⟨"builder:9000", [], 2, none⟩] := by decide
  rw [read] at remotes
  exact ⟨message, read, Option.some.inj remotes, (request_accepted read).2.1⟩

end Evix
