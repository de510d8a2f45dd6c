import Evix.Daemon.Conversation
import Evix.Verif.DaemonEval
import Evix.Verif.Framing
import Evix.Verif.Requests

/-!
# A client and the daemon

What a client asks for is what the daemon handles, and what the daemon answers is what the client
shows: a request crosses the socket whatever the chunks are in which it arrives, and every answer
ends in a way that the client understands.
-/

namespace Evix

open Streams

/-! ## The answers -/

section Answers

variable (text : JsonText)

/-- What the command line shows of responses that it has decoded. -/
def showResponses (expectDone : Bool) :
    List Response → Stdout → Stdout × Except CliError Unit
  | [], stdout => (stdout, if expectDone then .error .incomplete else .ok ())
  | .event event :: responses, stdout =>
    match writeOutputLine stdout (text.eventLine event) with
    | (stdout, .ok .continue) => showResponses expectDone responses stdout
    | (stdout, .ok .closed) => (stdout, .ok ())
    | (stdout, .error error) => (stdout, .error error)
  | .diff diff :: responses, stdout =>
    match writeOutputLine stdout (text.diffLine diff) with
    | (stdout, .ok .continue) => showResponses expectDone responses stdout
    | (stdout, .ok .closed) => (stdout, .ok ())
    | (stdout, .error error) => (stdout, .error error)
  | .done :: _, stdout => (stdout, .ok ())
  | .error message :: _, stdout => (stdout, .error (.evaluation message))

variable {text}

/-- The client shows what the daemon writes, as it is decoded. -/
theorem runDaemonRequest_eq {request : Request} {responses : List Response}
    (faithful : ∀ response ∈ responses, text.Faithful response.document) (stdout : Stdout) :
    runDaemonRequest text request responses stdout =
      showResponses text request.expectDone (responses.map Response.normal) stdout := by
  have written : responses.flatMap text.responseLine = (responses.map fun response =>
      (text.print response.document).toList).flatMap (· ++ ['\n']) := by
    rw [List.flatMap_map]
    rfl
  have lines : Text.lines (responses.flatMap text.responseLine) = responses.map fun response =>
      (text.print response.document).toList := by
    rw [written, Text.lines_written]
    intro line member
    obtain ⟨response, there, rfl⟩ := List.mem_map.mp member
    exact (faithful response there).line
  rw [runDaemonRequest, lines]
  clear lines written
  induction responses generalizing stdout with
  | nil => rfl
  | cons response responses ih =>
    have rest := ih fun other member => faithful other (List.mem_cons_of_mem _ member)
    rw [List.map_cons, readResponses_line (faithful response List.mem_cons_self), List.map_cons]
    cases response.normal with
    | event event =>
      simp only [showResponses]
      generalize writeOutputLine stdout (text.eventLine event) = shown
      obtain ⟨next, failed | goes | closed⟩ := shown
      · rfl
      · exact rest next
      · rfl
    | diff diff =>
      simp only [showResponses]
      generalize writeOutputLine stdout (text.diffLine diff) = shown
      obtain ⟨next, failed | goes | closed⟩ := shown
      · rfl
      · exact rest next
      · rfl
    | done => rfl
    | error message => rfl

/-- Whether a response ends what a client reads. -/
def Response.isLast : Response → Bool
  | .done | .error _ => true
  | .event _ | .diff _ => false

/-- A line that is not written is no answer that cannot be read. -/
theorem writeOutputLine_error {stdout next : Stdout} {line : String} {error : CliError}
    (written : writeOutputLine stdout line = (next, .error error)) : error = .output := by
  unfold writeOutputLine at written
  split at written
  · cases written
  · cases written
  · exact (Except.error.inj (Prod.mk.inj written).2).symm

/-- A client that waits for an end finds it. -/
theorem showResponses_ends {expectDone : Bool} {responses : List Response}
    (ends : expectDone = true → ∃ response ∈ responses, response.isLast = true) (stdout : Stdout) :
    (showResponses text expectDone responses stdout).2 ≠ .error .incomplete ∧
      (showResponses text expectDone responses stdout).2 ≠ .error .undecodable := by
  induction responses generalizing stdout with
  | nil =>
    cases expectDone with
    | false => simp [showResponses]
    | true =>
      obtain ⟨response, member, _⟩ := ends rfl
      contradiction
  | cons response responses ih =>
    have rest (middle : response.isLast = false) := ih fun waits => by
      obtain ⟨other, member, last⟩ := ends waits
      obtain rfl | later := List.mem_cons.mp member
      · rw [middle] at last
        contradiction
      · exact ⟨other, later, last⟩
    cases response with
    | done => simp [showResponses]
    | error message => simp [showResponses]
    | event event =>
      simp only [showResponses]
      cases shown : writeOutputLine stdout (text.eventLine event) with
      | mk next outcome =>
        obtain error | goes | closed := outcome
        · rw [writeOutputLine_error shown]
          simp
        · exact rest rfl next
        · simp
    | diff diff =>
      simp only [showResponses]
      cases shown : writeOutputLine stdout (text.diffLine diff) with
      | mk next outcome =>
        obtain error | goes | closed := outcome
        · rw [writeOutputLine_error shown]
          simp
        · exact rest rfl next
        · simp

/-- The line that a client prints for a response. -/
def Response.shown (text : JsonText) (response : Response) : List String :=
  match response.normal with
  | .event value => [text.eventLine value]
  | .diff value => [text.diffLine value]
  | .done | .error _ => []

/-- The error that a response reports. -/
def Response.failure? : Response → Option String
  | .error message => some message
  | .event _ | .diff _ | .done => none

/-- How a client ends after some responses: at the first error, if there is one. -/
def clientResult (responses : List Response) : Except CliError Unit :=
  match responses.findSome? Response.failure? with
  | some message => .error (.evaluation message)
  | none => .ok ()

/-- How responses end: with `Done`, with an error, or without either when nobody waits for it. -/
inductive Closing (expectDone : Bool) : List Response → Prop where
  /-- The request is done. -/
  | done : Closing expectDone [.done]
  /-- The handler has failed. -/
  | error (message : String) : Closing expectDone [.error message]
  /-- A watch has ended. -/
  | quiet : expectDone = false → Closing expectDone []

/-- A client whose output is taken prints the responses before the first error. -/
theorem showResponses_open {expectDone : Bool} {middle ending : List Response}
    (plain : ∀ response ∈ middle, response ≠ .done) (closing : Closing expectDone ending)
    (stdout : Stdout) (taken : stdout.writes = fun _ => .done) :
    showResponses text expectDone ((middle ++ ending).map Response.normal) stdout =
      ({ stdout with printed := stdout.printed ++
          ((middle ++ ending).takeWhile (!·.isLast)).flatMap (Response.shown text) },
        clientResult (middle ++ ending)) := by
  induction middle generalizing stdout with
  | nil =>
    cases closing with
    | done | error message => simp [showResponses, Response.normal, Response.isLast, clientResult,
        Response.failure?]
    | quiet ignored => simp [showResponses, ignored, clientResult]
  | cons response middle ih =>
    have rest := ih fun other member => plain other (List.mem_cons_of_mem _ member)
    have written (line : String) : writeOutputLine stdout line =
        ({ stdout with printed := stdout.printed ++ [line] }, .ok .continue) := by
      rw [writeOutputLine, taken]
    cases response with
    | done => exact absurd rfl (plain .done List.mem_cons_self)
    | error message => simp [showResponses, Response.normal, Response.isLast, clientResult,
        Response.failure?, List.findSome?_cons]
    | event event =>
      have later := rest { stdout with
        printed := stdout.printed ++ [text.eventLine event.normal] } taken
      simp only [List.cons_append, List.map_cons, Response.normal, showResponses, written, later]
      simp [Response.isLast, Response.shown, Response.normal, clientResult, Response.failure?,
        List.findSome?_cons]
    | diff diff =>
      have later := rest { stdout with
        printed := stdout.printed ++ [text.diffLine ⟨diff.added.map Derivation.normal,
          diff.removed.map Derivation.normal, diff.errors⟩] } taken
      simp only [List.cons_append, List.map_cons, Response.normal, showResponses, written, later]
      simp [Response.isLast, Response.shown, Response.normal, clientResult, Response.failure?,
        List.findSome?_cons]

end Answers

/-! ## The request -/

/-- How a request is printed: on one line, in printable form and without blanks around it. -/
structure JsonText.Sends (text : JsonText) (document : Json) : Prop where
  /-- The text is read back. -/
  keeps : text.Keeps document
  /-- Line feeds are escaped. -/
  unbroken : newlineByte ∉ (text.print document).toUTF8.data.toList
  /-- The text does not end with a carriage return. -/
  unended : (text.print document).toUTF8.data.toList.getLast? ≠ some returnByte
  /-- There is no whitespace at its ends. -/
  trimmed : Text.trim (text.print document).toList = (text.print document).toList
  /-- It is not blank. -/
  visible : Text.isBlank (text.print document).toList = false

/-- What the characters of a printed request have to meet. -/
theorem JsonText.Sends.of_letters {text : JsonText} {document : Json} {letters : List Char}
    (printed : text.print document = .ofList letters) (keeps : text.Keeps document)
    (unbroken : newlineByte ∉ letters.flatMap String.utf8EncodeChar)
    (unended : (letters.flatMap String.utf8EncodeChar).getLast? ≠ some returnByte)
    (start : letters.head?.any Text.isWhitespace = false)
    (stop : letters.getLast?.any Text.isWhitespace = false)
    (visible : Text.isBlank letters = false) : text.Sends document := by
  refine ⟨keeps, ?_, ?_, ?_, ?_⟩
  · rwa [printed, Text.utf8_ofList]
  · rwa [printed, Text.utf8_ofList]
  · rw [printed, String.toList_ofList, Text.trim_eq_self start stop]
  · rwa [printed, String.toList_ofList]

/-- What is sent for the characters of a printed request. -/
theorem JsonText.requestBytes_of_letters {text : JsonText} {document : Json} {letters : List Char}
    (printed : text.print document = .ofList letters) :
    text.requestBytes document = letters.flatMap String.utf8EncodeChar ++ [newlineByte] := by
  rw [JsonText.requestBytes, printed, Text.utf8_ofList]

/-- A request that is printed is read as it was sent, however it arrives. -/
theorem admitConnection_eq {text : JsonText} {request : Request} {document : Json}
    (sized : request.config.Sized) (written : request.versioned.document = .ok document)
    (sent : text.Sends document) {chunks : List (List UInt8)}
    (nonempty : ∀ chunk ∈ chunks, chunk ≠ []) {rest : List UInt8}
    (arrives : chunks.flatten = text.requestBytes document ++ rest)
    (short : (text.requestBytes document).length ≤ maxRequestBytes) (uid : Nat) :
    admitConnection text (.ok uid) uid ⟨chunks, none⟩ = .request request.received := by
  have line : chunks.flatten =
      (text.print document).toUTF8.data.toList ++ newlineByte :: rest := by
    rw [arrives, JsonText.requestBytes, List.append_assoc]
    rfl
  have bound : (text.print document).toUTF8.data.toList.length < maxRequestBytes := by
    simp only [JsonText.requestBytes, List.length_append, List.length_singleton] at short
    omega
  have read : readRequestLine ⟨chunks, none⟩ = .ok (text.print document) := by
    have decoded : String.fromUTF8? ⟨(text.print document).toUTF8.data.toList.toArray⟩ =
        some (text.print document) := toStr_ofStr (text.print document)
    rw [readRequestLine_line sent.unbroken sent.unended nonempty line bound, decoded]
  have parsed : (text.parse (.ofList (Text.trim (text.print document).toList))).bind
      VersionedRequest.ofDocument = some request.versioned.received := by
    rw [sent.trimmed, String.ofList_toList, sent.keeps, Option.bind_some]
    exact request_document sized written
  simp only [admitConnection, authorizePeer, ↓reduceIte, read, sent.visible, Bool.false_eq_true,
    parsed]
  rfl

/-- What the daemon writes for a request ends in a way that its client waits for. -/
theorem handleRequest_ends {sessions : Sessions} {request : Request} {responses : List Response}
    (handled : handleRequest sessions request.received = .ok responses) :
    ∃ middle ending, responses = middle ++ ending ∧
      (∀ response ∈ middle, response ≠ .done) ∧ Closing request.expectDone ending := by
  cases request with
  | eval config =>
    obtain ⟨items, _, made⟩ := Fallible.bind_eq_ok handled
    obtain rfl := Except.ok.inj made
    refine ⟨_, _, rfl, fun response member => ?_, .done⟩
    obtain ⟨item, _, rfl⟩ := List.mem_map.mp member
    cases item <;> simp [itemResponse]
  | replay config =>
    obtain ⟨events, _, made⟩ := Fallible.bind_eq_ok handled
    obtain rfl := Except.ok.inj made
    refine ⟨_, _, rfl, fun response member => ?_, .done⟩
    obtain ⟨event, _, rfl⟩ := List.mem_map.mp member
    simp
  | watch config =>
    obtain ⟨items, _, made⟩ := Fallible.bind_eq_ok handled
    obtain rfl := Except.ok.inj made
    refine ⟨_, [], (List.append_nil _).symm, fun response member => ?_, .quiet rfl⟩
    obtain ⟨item, _, rfl⟩ := List.mem_map.mp member
    cases item <;> simp [diffResponse]
  | query config filter =>
    obtain ⟨derivations, _, made⟩ := Fallible.bind_eq_ok handled
    obtain rfl := Except.ok.inj made
    refine ⟨_, _, rfl, fun response member => ?_, .done⟩
    obtain ⟨derivation, _, rfl⟩ := List.mem_map.mp member
    simp
  | diff config =>
    obtain ⟨diff, _, made⟩ := Fallible.bind_eq_ok handled
    obtain rfl := Except.ok.inj made
    exact ⟨[.diff diff], _, rfl, by simp, .done⟩

/-- The daemon handles exactly the request that a client sends, however it arrives and whatever
follows it, and it answers with what its handler gives or with its handler's error. A client that
reads all of it shows every response before the first error, fails with that error if there is one
and succeeds otherwise; whatever becomes of its output, it never finds an answer that it cannot read
or that does not end. -/
theorem client_served {text : JsonText} (sessions : Sessions) {request : Request} {document : Json}
    (sized : request.config.Sized) (written : request.versioned.document = .ok document)
    (sent : text.Sends document) {chunks : List (List UInt8)}
    (nonempty : ∀ chunk ∈ chunks, chunk ≠ []) {rest : List UInt8}
    (arrives : chunks.flatten = text.requestBytes document ++ rest)
    (short : (text.requestBytes document).length ≤ maxRequestBytes) {uid : Nat}
    (faithful : ∀ response ∈ (handleConnection text sessions (.ok uid) uid ⟨chunks, none⟩).1,
      text.Faithful response.document) :
    let answered := handleConnection text sessions (.ok uid) uid ⟨chunks, none⟩
    answered = finishConnection (handleRequest sessions request.received) ∧
    (∀ stdout, (runDaemonRequest text request answered.1 stdout).2 ≠ .error .incomplete ∧
      (runDaemonRequest text request answered.1 stdout).2 ≠ .error .undecodable) ∧
    ∀ stdout, stdout.writes = (fun _ => .done) →
      runDaemonRequest text request answered.1 stdout =
        ({ stdout with printed := stdout.printed ++
            (answered.1.takeWhile (!·.isLast)).flatMap (Response.shown text) },
          clientResult answered.1) := by
  have handled : handleConnection text sessions (.ok uid) uid ⟨chunks, none⟩ =
      finishConnection (handleRequest sessions request.received) := by
    rw [handleConnection, admitConnection_eq sized written sent nonempty arrives short uid]
  have shape : ∃ middle ending,
      (handleConnection text sessions (.ok uid) uid ⟨chunks, none⟩).1 = middle ++ ending ∧
        (∀ response ∈ middle, response ≠ .done) ∧ Closing request.expectDone ending := by
    rw [handled]
    cases handled : handleRequest sessions request.received with
    | ok responses =>
      obtain ⟨middle, ending, rfl, plain, closing⟩ := handleRequest_ends handled
      exact ⟨middle, ending, rfl, plain, closing⟩
    | error error => exact ⟨[], _, rfl, by simp, .error error⟩
  obtain ⟨middle, ending, responses, plain, closing⟩ := shape
  refine ⟨handled, fun stdout => ?_, fun stdout taken => ?_⟩
  · rw [runDaemonRequest_eq faithful]
    refine showResponses_ends (fun waits => ?_) stdout
    rw [responses]
    cases closing with
    | done => exact ⟨.done, by simp [Response.normal], rfl⟩
    | error message => exact ⟨.error message, by simp [Response.normal], rfl⟩
    | quiet ignored =>
      rw [ignored] at waits
      contradiction
  · rw [runDaemonRequest_eq faithful, responses]
    exact showResponses_open plain closing stdout taken

/-! ## A query -/

/-- A derivation that a query finds. -/
def plainJob : Derivation := { (default : Derivation) with attr := "a" }

/-- The document of a query of the default configuration. -/
def queryDocument : Json :=
  .object [("type", .string "query"), ("protocolVersion", versionDocument 2),
    ("config", .object (Config.default.wireFields
      (.object [("type", .string "expr"), ("value", .string "\x7b\x7d")]) .null)),
    ("filter", Filter.document {})]

/-- The line of the derivation. -/
def plainJobLine : String :=
  "\x7b\"attr\":\"a\",\"attrPath\":[],\"drvPath\":\"\",\"name\":\"\",\"outputs\":\x7b\x7d," ++
    "\"system\":\"\"\x7d"

/-- The line of the query. -/
def queryLine : String :=
  "\x7b\"type\":\"query\",\"protocolVersion\":2,\"config\":\x7b\"input\":\x7b\"type\":\"expr\"," ++
    "\"value\":\"\x7b\x7d\"\x7d,\"autoArgs\":[],\"forceRecurse\":false,\"gcRootsDir\":null," ++
    "\"workers\":1,\"maxMemorySize\":4096,\"itemTimeoutSeconds\":1800,\"meta\":false," ++
    "\"showInputDrvs\":false,\"overrideInputs\":[],\"nixOptions\":[],\"remotes\":[]\x7d," ++
    "\"filter\":\x7b\"systems\":null,\"attrPrefix\":null\x7d\x7d"

/-- How the query and its answer are written. -/
def queryText : JsonText := .table [
  (queryDocument, queryLine),
  ((Response.event (.derivation plainJob)).document,
    "\x7b\"type\":\"event\",\"event\":\x7b\"derivation\":\x7b\"attr\":\"a\",\"attr_path\":[]," ++
      "\"name\":\"\",\"system\":\"\",\"drv_path\":\"\",\"outputs\":\x7b\x7d\x7d\x7d\x7d"),
  (Response.done.document, "\x7b\"type\":\"done\"\x7d"),
  (eventValue (.derivation plainJob), plainJobLine)]

/-- Sessions that have one derivation. -/
def plainSessions : Sessions where
  eval _ := .ok [.ok (.derivation plainJob)]
  replay _ := .ok [.derivation plainJob]
  watch _ := .ok []
  query _ _ := .ok [plainJob]
  diff _ := .ok ⟨[], [], []⟩

/-- The query, in two chunks. -/
def queryChunks : List (List UInt8) :=
  [(queryText.requestBytes queryDocument).take 7, (queryText.requestBytes queryDocument).drop 7]

/-- A query that arrives in two chunks is answered with its derivation. -/
theorem client_served_query :
    runDaemonRequest queryText (.query Config.default {})
      (handleConnection queryText plainSessions (.ok 0) 0 ⟨queryChunks, none⟩).1 openStdout =
      ({ openStdout with printed := [plainJobLine] }, .ok ()) := by
  have sized : (Request.query Config.default {}).config.Sized :=
    ⟨by decide, by decide, by decide, by decide⟩
  have written : (Request.query Config.default {}).versioned.document = .ok queryDocument := rfl
  have printed : queryText.print queryDocument = queryLine := JsonText.table_print _ _ _
  have keeps : queryText.Keeps queryDocument := JsonText.table_keeps _ _ _
  have spelled : queryText.print queryDocument = .ofList _ :=
    printed.trans (Text.append_spelled (Text.append_spelled (Text.append_spelled
      (Text.append_spelled rfl rfl) rfl) rfl) rfl)
  have bytes := JsonText.requestBytes_of_letters spelled
  have sent : queryText.Sends queryDocument :=
    .of_letters spelled keeps (by decide +kernel) (by decide +kernel) (by decide +kernel)
      (by decide +kernel) (by decide +kernel)
  have nonempty : ∀ chunk ∈ queryChunks, chunk ≠ [] := by
    rw [queryChunks, bytes]
    decide +kernel
  have arrives : queryChunks.flatten = queryText.requestBytes queryDocument ++ [] := by
    simp [queryChunks]
  have short : (queryText.requestBytes queryDocument).length ≤ maxRequestBytes := by
    rw [bytes]
    decide +kernel
  have handled : handleConnection queryText plainSessions (.ok 0) 0 ⟨queryChunks, none⟩ =
      ([.event (.derivation plainJob), .done], .ok ()) := by
    rw [handleConnection, admitConnection_eq sized written sent nonempty arrives short]
    rfl
  have faithful : ∀ response ∈
      (handleConnection queryText plainSessions (.ok 0) 0 ⟨queryChunks, none⟩).1,
      queryText.Faithful response.document := by
    rw [handled]
    decide +kernel
  have shown := (client_served plainSessions sized written sent nonempty arrives short
    faithful).2.2 openStdout rfl
  have lines : ([.event (.derivation plainJob), .done].takeWhile (!·.isLast)).flatMap
      (Response.shown queryText) = [plainJobLine] := by decide +kernel
  rw [shown, handled, lines]
  rfl

/-! ## Watching -/

/-- The difference that is decoded. -/
def Diff.normal (diff : Diff) : Diff :=
  ⟨diff.added.map Derivation.normal, diff.removed.map Derivation.normal, diff.errors⟩

/-- An item of a diff stream as the command line reads it. -/
def normalDiffItem : Except Error Diff → Except Error Diff
  | .ok diff => .ok diff.normal
  | .error error => .error error

/-- The command prints through the daemon what it prints by itself of the differences decoded. -/
theorem daemonWatch_eq {text : JsonText} {config : Config} {items : List (Except Error Diff)}
    (faithful : ∀ response ∈ items.map diffResponse, text.Faithful response.document)
    (stdout : Stdout) :
    runDaemonRequest text (.watch config) (items.map diffResponse) stdout =
      runLocalWatch text stdout (items.map normalDiffItem) := by
  rw [runDaemonRequest_eq faithful]
  clear faithful
  induction items generalizing stdout with
  | nil => rfl
  | cons item items ih =>
    cases item with
    | error error => rfl
    | ok diff =>
      simp only [List.map_cons, diffResponse, Response.normal, showResponses, normalDiffItem,
        runLocalWatch, Diff.normal]
      generalize writeOutputLine stdout _ = shown
      obtain ⟨next, failed | goes | closed⟩ := shown
      · rfl
      · exact ih next
      · rfl

/-- A difference is known from the derivations that the parser of events reads in its value. -/
theorem derivations_of_diffValue {first second : Diff} (same : diffValue first = diffValue second) :
    first.added = second.added ∧ first.removed = second.removed := by
  obtain ⟨added, removed, _⟩ := readEvents_diffValue first
  obtain ⟨added', removed', _⟩ := readEvents_diffValue second
  rw [readEvents_derivations] at added removed added' removed'
  rw [same] at added removed
  have known : Function.Injective fun d : Derivation =>
      (Except.ok (.derivation d) : Except String Event) := fun _ _ equal =>
    Event.derivation.inj (Except.ok.inj equal)
  exact ⟨known.list_map (Option.some.inj (added.symm.trans added')),
    known.list_map (Option.some.inj (removed.symm.trans removed'))⟩

/-- Derivations are decoded as they were when none of them carries a null `meta`. -/
theorem map_normal (derivations : List Derivation) :
    derivations.map Derivation.normal = derivations ↔
      ∀ d ∈ derivations, (Event.derivation d).hasNullMeta = false := by
  have one (d : Derivation) : d.normal = d ↔ (Event.derivation d).hasNullMeta = false := by
    rw [← Event.normal_eq, Event.normal, Event.derivation.injEq]
  induction derivations with
  | nil => simp
  | cons d derivations ih =>
    simp only [List.map_cons, List.cons.injEq, one, ih, List.forall_mem_cons]

/-- A difference is decoded as it was when none of its derivations carries a null `meta`. -/
theorem Diff.normal_eq (diff : Diff) :
    diff.normal.added = diff.added ∧ diff.normal.removed = diff.removed ↔
      ∀ d ∈ diff.added ++ diff.removed, (Event.derivation d).hasNullMeta = false := by
  simp only [Diff.normal, map_normal, List.forall_mem_append]

/-- The items of a watch: any differences, and maybe an error at the end. -/
def watchItems (diffs : List Diff) (failure : Option Error) : List (Except Error Diff) :=
  diffs.map .ok ++ failure.toList.map .error

/-- The items that are read of the items of a watch. -/
theorem map_normalDiffItem (diffs : List Diff) (failure : Option Error) :
    (watchItems diffs failure).map normalDiffItem =
      watchItems (diffs.map Diff.normal) failure := by
  rw [watchItems, watchItems, List.map_append, List.map_map, List.map_map, List.map_map]
  rfl

/-- What the command prints by itself when every write succeeds. -/
theorem runLocalWatch_open (text : JsonText) (diffs : List Diff) (failure : Option Error)
    (stdout : Stdout) (taken : stdout.writes = fun _ => .done) :
    (runLocalWatch text stdout (watchItems diffs failure)).1.printed =
      stdout.printed ++ diffs.map text.diffLine := by
  induction diffs generalizing stdout with
  | nil => cases failure <;> exact (List.append_nil _).symm
  | cons diff diffs ih =>
    have written : writeOutputLine stdout (text.diffLine diff) =
        ({ stdout with printed := stdout.printed ++ [text.diffLine diff] }, .ok .continue) := by
      rw [writeOutputLine, taken]
    rw [watchItems, List.map_cons, List.cons_append, runLocalWatch, written]
    have rest := ih { stdout with printed := stdout.printed ++ [text.diffLine diff] } taken
    rw [List.append_assoc] at rest
    exact rest

/-- `evix watch` through the daemon prints the same lines and succeeds or fails in the same way as
by itself, whatever becomes of its output, exactly when no derivation of a difference carries a null
`meta`. -/
theorem daemon_watch (text : JsonText) (config : Config) (diffs : List Diff)
    (failure : Option Error)
    (faithful : ∀ response ∈ (watchItems diffs failure).map diffResponse,
      text.Faithful response.document)
    (printed : ∀ diff ∈ diffs, text.Keeps (diffValue diff) ∧ text.Keeps (diffValue diff.normal)) :
    (∀ stdout, runDaemonRequest text (.watch config)
        ((watchItems diffs failure).map diffResponse) stdout =
      runLocalWatch text stdout (watchItems diffs failure)) ↔
      ∀ diff ∈ diffs, ∀ d ∈ diff.added ++ diff.removed,
        (Event.derivation d).hasNullMeta = false := by
  refine ⟨fun same diff member => ?_, fun plain stdout => ?_⟩
  · have lines := congrArg (fun result => result.1.printed) (same openStdout)
    simp only [daemonWatch_eq faithful, map_normalDiffItem,
      runLocalWatch_open text _ _ openStdout rfl] at lines
    have line : text.diffLine diff.normal = text.diffLine diff := by
      rw [List.map_map] at lines
      exact List.map_inj_left.mp (List.append_cancel_left lines) diff member
    obtain ⟨kept, normal⟩ := printed diff member
    have reads : text.parse (text.diffLine diff) = some (diffValue diff) := kept
    rw [← line] at reads
    have values := Option.some.inj (Eq.trans (Eq.symm normal) reads)
    exact diff.normal_eq.mp (derivations_of_diffValue values)
  · rw [daemonWatch_eq faithful, map_normalDiffItem]
    have kept : diffs.map Diff.normal = diffs := by
      refine (List.map_congr_left fun diff member => ?_).trans (List.map_id diffs)
      obtain ⟨added, removed⟩ := diff.normal_eq.mpr (plain diff member)
      obtain ⟨one, other, errors⟩ := diff
      simp only [Diff.normal] at added removed
      simp only [Diff.normal, added, removed, id]
    rw [kept]

/-- A difference that adds a derivation, and how it is written. -/
theorem daemon_watch_added :
    let diff : Diff := ⟨[plainJob], [], []⟩
    let text : JsonText := .table [
      ((Response.diff diff).document,
        "\x7b\"type\":\"diff\",\"diff\":\x7b\"added\":[\x7b\"attr\":\"a\",\"attr_path\":[]," ++
          "\"name\":\"\",\"system\":\"\",\"drv_path\":\"\",\"outputs\":\x7b\x7d\x7d]," ++
          "\"removed\":[],\"errors\":[]\x7d\x7d"),
      (diffValue diff, "\x7b\"added\":[" ++ plainJobLine ++ "],\"errors\":[],\"removed\":[]\x7d")]
    ∀ stdout, runDaemonRequest text (.watch Config.default) [.diff diff] stdout =
      runLocalWatch text stdout [.ok diff] := by
  intro diff text
  exact (daemon_watch text Config.default [diff] none (by decide +kernel) (by decide +kernel)).mpr
    (by decide)

end Evix
