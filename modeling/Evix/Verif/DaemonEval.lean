import Evix.Cli
import Evix.Verif.Ndjson

/-!
# Evaluating through the daemon

An event goes through the derived encoding of responses before the command line prints it. All of
it comes back except a `meta` that is null, which is read as no `meta`, so the daemon and the local
evaluation print the same lines exactly when no event carries a null `meta`.
-/

namespace Evix

open Json

/-! ## What decoding gives back -/

/-- A `meta` that is null is none. -/
def Derivation.normal (d : Derivation) : Derivation :=
  { d with «meta» := match d.meta with
    | some .null => none
    | value => value }

/-- The event that is decoded. -/
def Event.normal : Event → Event
  | .derivation d => .derivation d.normal
  | event => event

/-- Whether an event carries a null `meta`. -/
def Event.hasNullMeta : Event → Bool
  | .derivation d => d.meta = some .null
  | _ => false

/-- An event is decoded as it was unless it carries a null `meta`. -/
theorem Event.normal_eq (event : Event) : event.normal = event ↔ event.hasNullMeta = false := by
  cases event with
  | attrSet | error => exact ⟨fun _ => rfl, fun _ => rfl⟩
  | derivation d =>
    simp only [normal, Derivation.normal, hasNullMeta, Event.derivation.injEq,
      decide_eq_false_iff_not]
    obtain ⟨attr, attrPath, name, system, drvPath, outputs, value, inputDrvs, constituents,
      error⟩ := d
    simp only [Derivation.mk.injEq, true_and, and_true]
    split
    · exact ⟨fun same => absurd same nofun, fun other => absurd rfl other⟩
    · rename_i other
      exact ⟨fun _ => other, fun _ => rfl⟩

/-- An ordered map is decoded as it was. -/
theorem decodeMap_entries {α : Type} {write : α → Json} {read : Json → Option α}
    (reads : ∀ value, read (write value) = some value) (map : SortedMap String α) :
    decodeMap read (.object (map.entries.map fun entry => (entry.1, write entry.2))) =
      some map := by
  have same : (map.entries.map fun entry => (entry.1, write entry.2)).mapM
      (fun entry => (read entry.2).map fun value => (entry.1, value)) = some map.entries :=
    mapM_map (fun entry => by rw [reads]; rfl) map.entries
  rw [decodeMap, same]
  exact congrArg some map.collect_self

/-- A path that may be missing is decoded as it was. -/
theorem decodeOption_outputValue (path : Option String) :
    decodeOption asStr (outputValue path) = some path := by
  cases path <;> rfl

/-- The field of a name in the document of a derivation. -/
theorem get?_document (d : Derivation) (name : String) :
    d.document.get? name =
      ([("attr", .string d.attr), ("attr_path", strings d.attrPath), ("name", .string d.name),
        ("system", .string d.system), ("drv_path", .string d.drvPath),
        ("outputs", .object (d.outputs.entries.map fun output =>
          (output.1, outputValue output.2)))].lookup name).or
      ((if name = "meta" then d.meta else none).or
      ((if name = "input_drvs" then
        (if d.inputDrvs.entries.isEmpty then none
          else some (.object (d.inputDrvs.entries.map fun input => (input.1, strings input.2))))
        else none).or
      ((if name = "constituents" then d.constituents.map strings else none).or
      (if name = "gc_root_error" then d.gcRootError.map .string else none)))) := by
  show List.lookup name _ = _
  simp only [List.lookup_append, lookup_optionalField, Option.or_assoc]

/-- Decoding a derivation. -/
theorem ofDocument_derivation (d : Derivation) :
    Derivation.ofDocument d.document = some d.normal := by
  have outputs : field (decodeMap (decodeOption asStr)) d.document "outputs" = some d.outputs := by
    rw [field, get?_document]
    exact decodeMap_entries decodeOption_outputValue d.outputs
  have value : optionField some d.document "meta" = some d.normal.meta := by
    have there : d.document.get? "meta" = d.meta := by simp [get?_document, List.lookup_cons]
    rw [optionField, there, Derivation.normal]
    cases d.meta with
    | none => rfl
    | some value => cases value <;> rfl
  have inputDrvs : defaultField (decodeMap toStrings) ∅ d.document "input_drvs" =
      some d.inputDrvs := by
    rw [defaultField, get?_document]
    by_cases empty : d.inputDrvs.entries.isEmpty
    · simp only [List.lookup_cons, empty, if_true]
      exact congrArg some (SortedMap.ext (List.isEmpty_iff.mp empty).symm)
    · simp only [List.lookup_cons, empty]
      exact decodeMap_entries toStrings_strings d.inputDrvs
  have constituents : optionField toStrings d.document "constituents" = some d.constituents := by
    have there : d.document.get? "constituents" = d.constituents.map strings := by
      simp [get?_document, List.lookup_cons]
    rw [optionField, there]
    cases d.constituents with
    | none => rfl
    | some names => exact congrArg (Option.map some) (toStrings_strings names)
  have error : optionField asStr d.document "gc_root_error" = some d.gcRootError := by
    have there : d.document.get? "gc_root_error" = d.gcRootError.map .string := by
      simp [get?_document, List.lookup_cons]
    rw [optionField, there]
    cases d.gcRootError <;> rfl
  unfold Derivation.ofDocument
  rw [outputs, value, inputDrvs, constituents, error]
  simp [field, get?_document, List.lookup_cons, asStr]
  rfl

/-- Decoding an evaluation error. -/
theorem ofDocument_evalError (e : EvalError) : EvalError.ofDocument e.document = some e := by
  simp [EvalError.ofDocument, EvalError.document, field, get?, List.lookup_cons, asStr, asBool]

/-- Decoding an event. -/
theorem ofDocument_event (event : Event) : Event.ofDocument event.document = some event.normal := by
  cases event with
  | derivation d =>
    rw [Event.document, Event.ofDocument, ofDocument_derivation]
    rfl
  | attrSet attr attrPath attrs =>
    simp [Event.ofDocument, Event.document, Event.normal, field, get?, List.lookup_cons, asStr]
  | error e =>
    rw [Event.document, Event.ofDocument, ofDocument_evalError]
    rfl

/-- The response that is decoded. -/
def Response.normal : Response → Response
  | .event value => .event value.normal
  | .diff value => .diff ⟨value.added.map Derivation.normal, value.removed.map Derivation.normal,
      value.errors⟩
  | response => response

/-- Decoding a list. -/
theorem decodeList_map {α : Type} {write : α → Json} {read : Json → Option α} {same : α → α}
    (reads : ∀ value, read (write value) = some (same value)) (values : List α) :
    decodeList read (.array (values.map write)) = some (values.map same) := by
  show (values.map write).mapM read = _
  induction values with
  | nil => rfl
  | cons value values ih => rw [List.map_cons, List.mapM_cons, reads, ih]; rfl

/-- Decoding a difference. -/
theorem ofDocument_diff (diff : Diff) : Diff.ofDocument diff.document =
    some ⟨diff.added.map Derivation.normal, diff.removed.map Derivation.normal, diff.errors⟩ := by
  have reads : ∀ e : EvalError, EvalError.ofDocument e.document = some (id e) :=
    ofDocument_evalError
  have errors := decodeList_map reads diff.errors
  simp [Diff.ofDocument, Diff.document, field, get?, List.lookup_cons,
    decodeList_map ofDocument_derivation, errors]

/-- Decoding a response. -/
theorem ofDocument_response (response : Response) :
    Response.ofDocument response.document = some response.normal := by
  cases response with
  | event value =>
    simp [Response.ofDocument, Response.document, field, get?, List.lookup_cons, ofDocument_event,
      Response.normal]
  | diff value =>
    simp [Response.ofDocument, Response.document, field, get?, List.lookup_cons, ofDocument_diff,
      Response.normal]
  | done => rfl
  | error message => rfl

/-! ## What the command line reads -/

/-- A document is read back from its text, which is one line that is not blank. -/
structure JsonText.Faithful (text : JsonText) (value : Json) : Prop where
  /-- The text is read back. -/
  keeps : text.Keeps value
  /-- Control characters are escaped. -/
  line : Text.IsLine (text.print value).toList
  /-- The text is not blank. -/
  visible : Text.isBlank (text.print value).toList = false

instance (text : JsonText) (value : Json) : Decidable (text.Faithful value) :=
  decidable_of_iff (text.Keeps value ∧ Text.IsLine (text.print value).toList ∧
    Text.isBlank (text.print value).toList = false)
    ⟨fun all => ⟨all.1, all.2.1, all.2.2⟩, fun all => ⟨all.keeps, all.line, all.visible⟩⟩

section Reading

variable {text : JsonText}

/-- What the command line reads of what the daemon writes. -/
theorem lines_handleEval {items : List (Except Error Event)}
    (faithful : ∀ response ∈ items.map itemResponse ++ [Response.done],
      text.Faithful response.document) :
    Text.lines (text.handleEval items) = (items.map itemResponse ++ [Response.done]).map
      fun response => (text.print response.document).toList := by
  have written : text.handleEval items = ((items.map itemResponse ++ [Response.done]).map
      fun response => (text.print response.document).toList).flatMap (· ++ ['\n']) := by
    rw [List.flatMap_map]
    rfl
  rw [written, Text.lines_written]
  intro line member
  obtain ⟨response, there, rfl⟩ := List.mem_map.mp member
  exact (faithful response there).line

/-- A line of the daemon is decoded. -/
theorem readResponses_line {response : Response} (faithful : text.Faithful response.document)
    (expectDone : Bool) (lines : List (List Char)) (stdout : Stdout) :
    readResponses text expectDone ((text.print response.document).toList :: lines) stdout =
      match response.normal with
      | .event event =>
        match writeOutputLine stdout (text.eventLine event) with
        | (stdout, .ok .continue) => readResponses text expectDone lines stdout
        | (stdout, .ok .closed) => (stdout, .ok ())
        | (stdout, .error error) => (stdout, .error error)
      | .diff diff =>
        match writeOutputLine stdout (text.diffLine diff) with
        | (stdout, .ok .continue) => readResponses text expectDone lines stdout
        | (stdout, .ok .closed) => (stdout, .ok ())
        | (stdout, .error error) => (stdout, .error error)
      | .done => (stdout, .ok ())
      | .error message => (stdout, .error (.evaluation message)) := by
  have decoded : (text.parse (.ofList (text.print response.document).toList)).bind
      Response.ofDocument = some response.normal := by
    rw [String.ofList_toList, faithful.keeps, Option.bind_some, ofDocument_response]
  rw [readResponses, if_neg (by rw [faithful.visible]; nofun), decoded]
  cases response.normal <;> rfl

/-- An item as the command line reads it. -/
def normalItem : Except Error Event → Except Error Event
  | .ok event => .ok event.normal
  | .error error => .error error

/-- The command prints through the daemon what it prints by itself of the events decoded. -/
theorem runDaemonEval_eq {items : List (Except Error Event)}
    (faithful : ∀ response ∈ items.map itemResponse ++ [Response.done],
      text.Faithful response.document) (stdout : Stdout) :
    runDaemonEval text stdout items = runLocalEval text stdout (items.map normalItem) := by
  rw [runDaemonEval, lines_handleEval faithful]
  induction items generalizing stdout with
  | nil =>
    have done := faithful .done (List.mem_singleton_self _)
    exact readResponses_line done true [] stdout
  | cons item items ih =>
    have first := faithful (itemResponse item) List.mem_cons_self
    have rest := ih fun response member => faithful response (List.mem_cons_of_mem _ member)
    rw [List.map_cons, List.cons_append, List.map_cons, readResponses_line first]
    cases item with
    | error error => rfl
    | ok event =>
      rw [List.map_cons, normalItem, runLocalEval]
      simp only [itemResponse, Response.normal]
      generalize writeOutputLine stdout (text.eventLine event.normal) = written
      obtain ⟨next, failed | goes | closed⟩ := written
      · rfl
      · exact rest next
      · rfl

end Reading

/-! ## The same lines -/

/-- The items of a session: any events, and maybe an error at the end. -/
def sessionItems (events : List Event) (failure : Option Error) : List (Except Error Event) :=
  events.map .ok ++ failure.toList.map .error

/-- A standard output that takes every line. -/
def openStdout : Stdout := ⟨fun _ => .done, []⟩

/-- What the command prints by itself when every write succeeds. -/
theorem runLocalEval_open (text : JsonText) (events : List Event) (failure : Option Error)
    (stdout : Stdout) (taken : stdout.writes = fun _ => .done) :
    (runLocalEval text stdout (sessionItems events failure)).1.printed =
      stdout.printed ++ events.map text.eventLine := by
  induction events generalizing stdout with
  | nil => cases failure <;> exact (List.append_nil _).symm
  | cons event events ih =>
    have written : writeOutputLine stdout (text.eventLine event) =
        ({ stdout with printed := stdout.printed ++ [text.eventLine event] }, .ok .continue) := by
      rw [writeOutputLine, taken]
    rw [sessionItems, List.map_cons, List.cons_append, runLocalEval, written]
    have rest := ih { stdout with printed := stdout.printed ++ [text.eventLine event] } taken
    rw [List.append_assoc] at rest
    exact rest

/-- The items that are read of the items of a session. -/
theorem map_normalItem (events : List Event) (failure : Option Error) :
    (sessionItems events failure).map normalItem =
      sessionItems (events.map Event.normal) failure := by
  rw [sessionItems, sessionItems, List.map_append, List.map_map, List.map_map, List.map_map]
  rfl

/-- Decoding the response of an event gives back the event exactly when it carries no null `meta`,
and `evix eval` through the daemon prints the same lines and succeeds or fails in the same way as
by itself, whatever becomes of its output, exactly when no event carries one. -/
theorem daemon_eval (text : JsonText) (events : List Event) (failure : Option Error)
    (faithful : ∀ response ∈ (sessionItems events failure).map itemResponse ++ [Response.done],
      text.Faithful response.document)
    (printed : ∀ event ∈ events, text.Keeps (eventValue event) ∧
      text.Keeps (eventValue event.normal)) :
    (∀ event, Response.ofDocument (Response.event event).document = some (.event event) ↔
      event.hasNullMeta = false) ∧
    ((∀ stdout, runDaemonEval text stdout (sessionItems events failure) =
      runLocalEval text stdout (sessionItems events failure)) ↔
      ∀ event ∈ events, event.hasNullMeta = false) := by
  refine ⟨fun event => ?_, fun same event member => ?_, fun plain stdout => ?_⟩
  · rw [ofDocument_response, Response.normal, Option.some.injEq, Response.event.injEq]
    exact event.normal_eq
  · have lines := congrArg (fun result => result.1.printed) (same openStdout)
    rw [runDaemonEval_eq faithful, map_normalItem] at lines
    simp only [runLocalEval_open text _ _ openStdout rfl] at lines
    have line : text.eventLine event.normal = text.eventLine event := by
      rw [List.map_map] at lines
      exact List.map_inj_left.mp (List.append_cancel_left lines) event member
    obtain ⟨kept, normal⟩ := printed event member
    have reads := kept.parseEventLine
    rw [← line, normal.parseEventLine] at reads
    exact event.normal_eq.mp (Except.ok.inj reads)
  · rw [runDaemonEval_eq faithful, map_normalItem]
    have kept : events.map Event.normal = events :=
      (List.map_congr_left fun event member => event.normal_eq.mpr (plain event member)).trans
        (List.map_id events)
    rw [kept]

/-- An attribute set, and how it and the end of the evaluation are written. -/
theorem daemon_eval_attrSet :
    let event : Event := .attrSet "" [] ["a"]
    let text : JsonText := .table [
      ((Response.event event).document, "\x7b\"type\":\"event\",\"event\":\x7b\"attr_set\":" ++
        "\x7b\"attr\":\"\",\"attr_path\":[],\"attrs\":[\"a\"]\x7d\x7d\x7d"),
      (Response.done.document, "\x7b\"type\":\"done\"\x7d"),
      (eventValue event, "\x7b\"attr\":\"\",\"attrPath\":[],\"attrs\":[\"a\"]\x7d")]
    ∀ stdout, runDaemonEval text stdout (sessionItems [event] none) =
      runLocalEval text stdout (sessionItems [event] none) := by
  intro event text
  exact (daemon_eval text [event] none (by decide) (by decide)).2.mpr (by decide)

/-- The flat line of a derivation whose `meta` is null, without it. -/
def normalJobLine : String :=
  "\x7b\"attr\":\"a\",\"attrPath\":[],\"drvPath\":\"\",\"name\":\"\"," ++
    "\"outputs\":\x7b\x7d,\"system\":\"\"\x7d"

/-- How a derivation whose `meta` is null and the end of the evaluation are written. -/
def nullJobText : JsonText := .table [
  ((Response.event nullJob).document,
    "\x7b\"type\":\"event\",\"event\":\x7b\"derivation\":\x7b\"attr\":\"a\",\"attr_path\":[]," ++
      "\"name\":\"\",\"system\":\"\",\"drv_path\":\"\",\"outputs\":\x7b\x7d,\"meta\":null" ++
      "\x7d\x7d\x7d"),
  (Response.done.document, "\x7b\"type\":\"done\"\x7d"), (eventValue nullJob, nullJobLine),
  (eventValue nullJob.normal, normalJobLine)]

/-- A derivation whose `meta` is null comes back without it, so the daemon and the local evaluation
print different lines, although the daemon's text is read as it was written. -/
theorem daemon_eval_null :
    (∀ response ∈ (sessionItems [nullJob] none).map itemResponse ++ [Response.done],
      nullJobText.Faithful response.document) ∧
    Response.ofDocument (Response.event nullJob).document ≠ some (.event nullJob) ∧
    (runDaemonEval nullJobText openStdout (sessionItems [nullJob] none)).1.printed =
      [normalJobLine] ∧
    (runLocalEval nullJobText openStdout (sessionItems [nullJob] none)).1.printed =
      [nullJobLine] ∧ normalJobLine ≠ nullJobLine := by
  have faithful : ∀ response ∈ (sessionItems [nullJob] none).map itemResponse ++ [Response.done],
      nullJobText.Faithful response.document := by decide +kernel
  refine ⟨faithful, ?_, ?_, ?_, by decide⟩
  · rw [ofDocument_response]
    decide
  · rw [runDaemonEval_eq faithful, map_normalItem, runLocalEval_open _ _ _ _ rfl]
    decide
  · rw [runLocalEval_open _ _ _ _ rfl]
    decide

end Evix
