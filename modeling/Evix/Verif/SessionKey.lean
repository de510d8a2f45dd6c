import Evix.Daemon.SessionKey
import Evix.Verif.WireCodec

/-!
# Session keys name configurations

The document of a session key tells two configurations apart by every field that the daemon
protocol carries: each kind of input has its own tag, a token is there or left out, and the lists
are written element by element.
-/

namespace Evix

open Fallible

/-- The numbers of a configuration are machine integers. -/
structure Config.Sized (config : Config) : Prop where
  /-- The number of workers. -/
  workers : config.workers < 2 ^ 64
  /-- The memory limit. -/
  memory : config.maxMemorySize < 2 ^ 64
  /-- The time limit. -/
  timeout : config.itemTimeoutSeconds < 2 ^ 64
  /-- The numbers of connections. -/
  remotes : ∀ remote ∈ config.remotes, remote.workers < 2 ^ 64

/-! ## Documents -/

/-- A list is known from the documents of its elements. -/
theorem map_injective_on {α β : Type} {write : α → β} {first second : List α}
    (apart : ∀ one ∈ first, ∀ other ∈ second, write one = write other → one = other)
    (same : first.map write = second.map write) : first = second := by
  induction first generalizing second with
  | nil => exact (List.map_eq_nil_iff.mp same.symm).symm
  | cons one first ih =>
    cases second with
    | nil => cases same
    | cons other second =>
      obtain ⟨head, tail⟩ := List.cons.inj same
      have rest := ih (fun one here other there =>
        apart one (List.mem_cons_of_mem _ here) other (List.mem_cons_of_mem _ there)) tail
      rw [apart one List.mem_cons_self other List.mem_cons_self head, rest]

/-- Two machine integers with one document. -/
theorem natDocument_injective {one other : Nat} (small : one < 2 ^ 64) (fits : other < 2 ^ 64)
    (same : natDocument one = natDocument other) : one = other := by
  have words : UInt64.ofNat one = UInt64.ofNat other :=
    JsonNumber.posInt.inj (Json.number.inj same)
  have numbers := congrArg UInt64.toNat words
  rwa [UInt64.toNat_ofNat_of_lt' small, UInt64.toNat_ofNat_of_lt' fits] at numbers

/-- Two lists of strings with one document. -/
theorem strings_injective {one other : List String} (same : Json.strings one = Json.strings other) :
    one = other :=
  map_injective_on (fun _ _ _ _ => Json.string.inj) (Json.array.inj same)

/-- Two paths with one document. -/
theorem pathDocument_injective {one other : PathBuf} {document : Json}
    (here : one.document = .ok document) (there : other.document = .ok document) :
    one = other := by
  unfold PathBuf.document at here there
  cases first : one.toStr with
  | none =>
    rw [first] at here
    cases here
  | some text =>
    cases second : other.toStr with
    | none =>
      rw [second] at there
      cases there
    | some again =>
      rw [first] at here
      rw [second] at there
      obtain rfl := Json.string.inj (Except.ok.inj (here.trans there.symm))
      rw [← ofStr_eq first, ← ofStr_eq second]

/-- The document of a path is not `null`. -/
theorem pathDocument_ne_null (path : PathBuf) : path.document ≠ .ok .null := by
  unfold PathBuf.document
  split <;> nofun

/-- Two optional paths with one document. -/
theorem optionalPathDocument_injective {one other : Option PathBuf} {document : Json}
    (here : optionalPathDocument one = .ok document)
    (there : optionalPathDocument other = .ok document) : one = other := by
  cases one with
  | none =>
    cases other with
    | none => rfl
    | some path => exact absurd (there.trans here.symm) (pathDocument_ne_null path)
  | some path =>
    cases other with
    | none => exact absurd (here.trans there.symm) (pathDocument_ne_null path)
    | some again => rw [pathDocument_injective here there]

/-- The document of an input file. -/
theorem fileDocument {path : PathBuf} {document : Json}
    (written : (Input.file path).document = .ok document) :
    ∃ inner, path.document = .ok inner ∧
      document = .object [("type", .string "file"), ("path", inner)] := by
  obtain ⟨inner, read, made⟩ := bind_eq_ok written
  exact ⟨inner, read, (Except.ok.inj made).symm⟩

/-- Two inputs with one document. -/
theorem inputDocument_injective {one other : Input} {document : Json}
    (here : one.document = .ok document) (there : other.document = .ok document) :
    one = other := by
  cases one with
  | file path =>
    obtain ⟨inner, written, rfl⟩ := fileDocument here
    cases other with
    | file again =>
      obtain ⟨inner', rewritten, same⟩ := fileDocument there
      simp only [Json.object.injEq, List.cons.injEq, Prod.mk.injEq, true_and, and_true] at same
      subst same
      rw [pathDocument_injective written rewritten]
    | flake | expr => simp [Input.document] at there
  | flake | expr =>
    obtain rfl := Except.ok.inj here
    cases other with
    | file again =>
      obtain ⟨inner, _, same⟩ := fileDocument there
      simp at same
    | flake | expr => simp_all [Input.document]

/-- Two arguments with one document. -/
theorem argDocument_injective {one other : String × AutoArg}
    (same : AutoArg.document one = AutoArg.document other) : one = other := by
  obtain ⟨name, expr | text⟩ := one <;> obtain ⟨again, expr | text⟩ := other <;>
    simp_all [AutoArg.document]

/-- Two pairs of strings with one document. -/
theorem pairDocument_injective {one other : String × String}
    (same : pairDocument one = pairDocument other) : one = other := by
  obtain ⟨key, rest⟩ := List.cons.inj (strings_injective same)
  exact Prod.ext key (List.cons.inj rest).1

/-- Two remotes with one document. -/
theorem remoteDocument_injective {one other : Remote} (small : one.workers < 2 ^ 64)
    (fits : other.workers < 2 ^ 64) (same : one.document = other.document) : one = other := by
  have fields := Json.object.inj same
  simp only [List.cons_append, List.nil_append, List.cons.injEq, Prod.mk.injEq, true_and,
    Json.string.injEq] at fields
  obtain ⟨endpoint, systems, workers, token⟩ := fields
  have tokens : one.token = other.token := by
    cases first : one.token <;> cases second : other.token <;>
      simp_all [optionalField]
  obtain ⟨_, _, _, _⟩ := one
  obtain ⟨_, _, _, _⟩ := other
  simp only [Remote.mk.injEq]
  exact ⟨endpoint, strings_injective systems, natDocument_injective small fits workers, tokens⟩

/-- The two fallible parts of the document of a session key. -/
theorem keyDocument_parts {config : SessionKeyConfig} {document : Json}
    (written : config.document = .ok document) :
    ∃ input dir, config.input.document = .ok input ∧
      optionalPathDocument config.gcRootsDir = .ok dir ∧ document = .object [
        ("input", input),
        ("autoArgs", .array (config.autoArgs.map AutoArg.document)),
        ("forceRecurse", .bool config.forceRecurse),
        ("gcRootsDir", dir),
        ("workers", natDocument config.workers),
        ("maxMemorySize", natDocument config.maxMemorySize),
        ("itemTimeoutSeconds", natDocument config.itemTimeoutSeconds),
        ("meta", .bool config.meta),
        ("showInputDrvs", .bool config.showInputDrvs),
        ("overrideInputs", .array (config.overrideInputs.map pairDocument)),
        ("nixOptions", .array (config.nixOptions.map pairDocument)),
        ("remotes", .array (config.remotes.map Remote.document))] := by
  obtain ⟨input, read, written⟩ := bind_eq_ok written
  obtain ⟨dir, found, written⟩ := bind_eq_ok written
  exact ⟨input, dir, read, found, (Except.ok.inj written).symm⟩

/-- Two session keys with one document name configurations that differ in the worker executable
only. -/
theorem keyDocument_injective {first second : Config} (small : first.Sized) (fits : second.Sized)
    {document : Json} (here : (SessionKeyConfig.ofConfig first).document = .ok document)
    (there : (SessionKeyConfig.ofConfig second).document = .ok document) :
    { first with workerExe := second.workerExe } = second := by
  obtain ⟨input, dir, read, found, rfl⟩ := keyDocument_parts here
  obtain ⟨_, _, reread, refound, same⟩ := keyDocument_parts there
  simp only [Json.object.injEq, List.cons.injEq, Prod.mk.injEq, true_and, and_true,
    Json.array.injEq, Json.bool.injEq] at same
  obtain ⟨rfl, args, recurse, rfl, workers, memory, timeout, withMeta, drvs, overrides, settings,
    remotes⟩ := same
  have inputs := inputDocument_injective read reread
  have autoArgs := map_injective_on (fun _ _ _ _ => argDocument_injective) args
  have dirs := optionalPathDocument_injective found refound
  have locals := natDocument_injective small.workers fits.workers workers
  have limits := natDocument_injective small.memory fits.memory memory
  have seconds := natDocument_injective small.timeout fits.timeout timeout
  have inputPairs := map_injective_on (fun _ _ _ _ => pairDocument_injective) overrides
  have optionPairs := map_injective_on (fun _ _ _ _ => pairDocument_injective) settings
  have endpoints := map_injective_on (fun one member other its =>
    remoteDocument_injective (small.remotes one member) (fits.remotes other its)) remotes
  obtain ⟨_, _, _, _, _, _, _, _, _, _, _, _, _⟩ := first
  obtain ⟨_, _, _, _, _, _, _, _, _, _, _, _, _⟩ := second
  simp only [Config.mk.injEq, and_true]
  exact ⟨inputs, autoArgs, recurse, dirs, locals, limits, seconds, withMeta, drvs, inputPairs,
    optionPairs, endpoints⟩

/-! ## Keys -/

/-- A session key that can be made is the text of its document. -/
theorem sessionKey_document {serializer : Serializer} {text : JsonText}
    (derived : serializer.key = text.key) {config : Config} {key : String}
    (keyed : serializer.sessionKey config = .ok key) :
    ∃ document, (SessionKeyConfig.ofConfig config).document = .ok document ∧
      text.print document = key := by
  unfold Serializer.sessionKey at keyed
  rw [derived, JsonText.key] at keyed
  cases written : (SessionKeyConfig.ofConfig config).document with
  | error error =>
    rw [written] at keyed
    cases keyed
  | ok document =>
    rw [written] at keyed
    exact ⟨document, rfl, Except.ok.inj keyed⟩

/-- Configurations that have session keys have the same one exactly when they agree on every field
but the worker executable. -/
theorem sessionKey_agrees {serializer : Serializer} {text : JsonText} {configs : Set Config}
    (derived : serializer.key = text.key) (sized : ∀ config ∈ configs, config.Sized)
    (injective : Set.InjOn text.print
      {document | ∃ config ∈ configs, (SessionKeyConfig.ofConfig config).document = .ok document})
    {first second : Config} (here : first ∈ configs) (there : second ∈ configs)
    {one other : String} (keyed : serializer.sessionKey first = .ok one)
    (rekeyed : serializer.sessionKey second = .ok other) :
    one = other ↔ { first with workerExe := second.workerExe } = second := by
  constructor
  · intro same
    obtain ⟨document, written, rfl⟩ := sessionKey_document derived keyed
    obtain ⟨document', rewritten, rfl⟩ := sessionKey_document derived rekeyed
    obtain rfl := injective ⟨first, here, written⟩ ⟨second, there, rewritten⟩ same
    exact keyDocument_injective (sized first here) (sized second there) written rewritten
  · intro agree
    have names : SessionKeyConfig.ofConfig first = SessionKeyConfig.ofConfig second := by
      rw [← agree]
      rfl
    rw [Serializer.sessionKey, names] at keyed
    exact Except.ok.inj (keyed.symm.trans rekeyed)

/-- The session key of an argument that is a string or an expression. -/
def argumentKey (kind : String) : String :=
  "\x7b\"input\":\x7b\"type\":\"expr\",\"value\":\"\x7b\x7d\"\x7d,\"autoArgs\":[\x7b\"name\":" ++
    "\"x\",\"kind\":\"" ++ kind ++ "\",\"value\":\"1\"\x7d],\"forceRecurse\":false," ++
    "\"gcRootsDir\":null,\"workers\":1,\"maxMemorySize\":4096,\"itemTimeoutSeconds\":1800," ++
    "\"meta\":false,\"showInputDrvs\":false,\"overrideInputs\":[],\"nixOptions\":[]," ++
    "\"remotes\":[]\x7d"

set_option maxRecDepth 4000 in
/-- An argument that is a string names another session than the same expression. -/
theorem sessionKey_agrees_argument :
    let config (arg : AutoArg) : Config := { Config.default with autoArgs := [("x", arg)] }
    let document (arg : AutoArg) : Json :=
      ((SessionKeyConfig.ofConfig (config arg)).document.toOption).getD .null
    let text : JsonText := .table [(document (.expr "1"), argumentKey "expr"),
      (document (.str "1"), argumentKey "str")]
    let serializer : Serializer := ⟨text.key, fun _ => .ok []⟩
    serializer.sessionKey (config (.expr "1")) = .ok (argumentKey "expr") ∧
      serializer.sessionKey (config (.str "1")) = .ok (argumentKey "str") ∧
      argumentKey "expr" ≠ argumentKey "str" := by
  intro config document text serializer
  have first : serializer.sessionKey (config (.expr "1")) = .ok (argumentKey "expr") := by decide
  have second : serializer.sessionKey (config (.str "1")) = .ok (argumentKey "str") := by decide
  have sized : ∀ other ∈ ({config (.expr "1"), config (.str "1")} : Set Config), other.Sized := by
    rintro other (rfl | rfl) <;> exact ⟨by decide, by decide, by decide, nofun⟩
  have injective : Set.InjOn text.print {value | ∃ other ∈
      ({config (.expr "1"), config (.str "1")} : Set Config),
        (SessionKeyConfig.ofConfig other).document = .ok value} := by
    rintro one ⟨_, rfl | rfl, here⟩ other ⟨_, rfl | rfl, there⟩ same <;>
      obtain rfl := Except.ok.inj here <;> obtain rfl := Except.ok.inj there <;>
      first | rfl | exact absurd same (by decide)
  have agrees := sessionKey_agrees rfl sized injective (.inl rfl) (.inr rfl) first second
  refine ⟨first, second, fun same => ?_⟩
  exact absurd (agrees.mp same) (by decide)

end Evix
