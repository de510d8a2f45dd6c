import Evix.CommandPlan
import Evix.Library.Fallible
import Evix.Verif.Portability
import Evix.Verif.Requests

/-!
# What the command line asks for

Every configuration that the command line plans passes the check of the session that evaluates it,
here or in the daemon, and the daemon reads it as it was sent.
-/

namespace Evix

open Args Fallible

/-! ## Parsed arguments -/

/-- One digit more. -/
theorem parseDigits_cons (result : Nat) (char : Char) (chars : List Char) :
    parseDigits result (char :: chars) =
      if char.isDigit then
        if result * 10 + (char.toNat - '0'.toNat) < 2 ^ 64 then
          parseDigits (result * 10 + (char.toNat - '0'.toNat)) chars
        else .error "number too large to fit in target type"
      else .error "invalid digit found in string" :=
  rfl

/-- The digits of a number that is read make a machine integer. -/
theorem parseDigits_lt {chars : List Char} {result value : Nat} (small : result < 2 ^ 64)
    (read : parseDigits result chars = .ok value) : value < 2 ^ 64 := by
  induction chars generalizing result with
  | nil =>
    obtain rfl := Except.ok.inj read
    exact small
  | cons char chars ih =>
    rw [parseDigits_cons] at read
    split at read
    · split at read
      · rename_i fits
        exact ih fits read
      · cases read
    · cases read

/-- The text of a remote gives some workers, and a machine integer of them. -/
theorem fromArg_workers {text : String} {remote : RemoteArg}
    (read : RemoteArg.fromArg text = .ok remote) :
    0 < remote.workers ∧ remote.workers < 2 ^ 64 := by
  simp only [RemoteArg.fromArg] at read
  split at read
  · cases read
  · split at read
    · cases read
    · split at read
      · cases read
      · rename_i workers parsed
        split at read
        · cases read
        · rename_i positive
          obtain rfl := Except.ok.inj read
          refine ⟨Nat.pos_of_ne_zero positive, ?_⟩
          simp only [parseUsize] at parsed
          split at parsed
          · cases parsed
          · cases parsed
          · exact parseDigits_lt (Nat.two_pow_pos 64) parsed
          · exact parseDigits_lt (Nat.two_pow_pos 64) parsed

/-- What the texts of arguments are parsed to: paths are texts, and numbers are machine integers. -/
structure EvalInput.Parsed (args : EvalInput) : Prop where
  /-- `--file`. -/
  file : ∀ path ∈ args.file, ∃ text, path = .ofStr text
  /-- `--gc-roots-dir`. -/
  gcRootsDir : ∀ path ∈ args.gcRootsDir, ∃ text, path = .ofStr text
  /-- `--remote`. -/
  remote : ∀ remote ∈ args.remote, ∃ text, RemoteArg.fromArg text = .ok remote
  /-- `--workers`. -/
  workers : args.workers < 2 ^ 64
  /-- `--max-memory`. -/
  memory : args.maxMemory < 2 ^ 64
  /-- `--item-timeout-seconds`. -/
  timeout : args.itemTimeoutSeconds < 2 ^ 64

/-- The arguments of an evaluation. -/
def Commands.input? : Commands → Option EvalInput
  | .eval input .. | .watch input .. | .query input .. | .diff input _ => some input
  | .daemon .. | .worker .. => none

/-- `--socket`. -/
def Commands.socket : Commands → Option PathBuf
  | .eval _ socket .. | .watch _ socket _ | .query _ socket .. | .diff _ socket
  | .daemon socket _ => socket
  | .worker .. => none

/-- Whether a request is of the kind that a command asks for. -/
def Commands.Asks : Commands → Request → Prop
  | .eval _ _ noDaemon replay, .eval _ => noDaemon = false ∧ replay = false
  | .eval _ _ noDaemon replay, .replay _ => noDaemon = false ∧ replay = true
  | .watch _ _ noDaemon, .watch _ => noDaemon = false
  | .query _ _ system attrPrefix _, .query _ filter => filter = Args.filter system attrPrefix
  | .diff .., .diff _ => True
  | _, _ => False

/-! ## Planned configurations -/

section Plans

variable {token : Option String} {args : EvalInput} {config : Config}

/-- The paths of a configuration are texts. -/
structure Config.Textual (config : Config) : Prop where
  /-- The input file. -/
  input : ∀ path, config.input = .file path → path.toStr.isSome = true
  /-- The directory of the garbage collector roots. -/
  gcRootsDir : ∀ path ∈ config.gcRootsDir, path.toStr.isSome = true

/-- What the command line makes sure of. -/
structure Config.Planned (token : Option String) (args : EvalInput) (config : Config) : Prop where
  /-- Its numbers are machine integers. -/
  sized : config.Sized
  /-- The directory of the garbage collector roots is a text. -/
  gcRootsDir : ∀ path ∈ config.gcRootsDir, path.toStr.isSome = true
  /-- Items have time. -/
  timeout : 0 < config.itemTimeoutSeconds
  /-- Remotes have workers. -/
  workers : ∀ remote ∈ config.remotes, 0 < remote.workers
  /-- Remotes have the token that was given, which is not empty, or none if that was allowed. -/
  token : ∀ remote ∈ config.remotes, remote.token = args.remoteToken.or token ∧
    remote.token ≠ some "" ∧ (remote.token = none → args.insecureTokenlessRemote = true)
  /-- The worker executable is the default one. -/
  workerExe : config.workerExe = none

/-- A check that is passed did not fail. -/
theorem ite_error_eq_ok {ε α : Type} {condition : Prop} [Decidable condition] {error : ε}
    {rest : Except ε α} {result : α}
    (passed : (if condition then .error error else rest) = .ok result) :
    ¬ condition ∧ rest = .ok result := by
  split at passed
  · cases passed
  · rename_i fails
    exact ⟨fails, passed⟩

/-- A token that is taken is the one that was given, and is not empty. -/
theorem remoteToken_eq_ok {flag chosen : Option String}
    (taken : remoteToken token flag = .ok chosen) : chosen = flag.or token ∧ chosen ≠ some "" := by
  simp only [remoteToken] at taken
  split at taken
  · rename_i given found
    split at taken
    · cases taken
    · rename_i filled
      obtain rfl := Except.ok.inj taken
      refine ⟨found.symm, fun same => filled ?_⟩
      rw [Option.some.inj same]
      rfl
  · rename_i missing
    obtain rfl := Except.ok.inj taken
    exact ⟨missing.symm, nofun⟩

/-- The text of a path. -/
theorem isSome_toStr_ofStr (text : String) : (PathBuf.ofStr text).toStr.isSome = true := by
  rw [toStr_ofStr]
  rfl

/-- What a configuration that the command line makes is. -/
theorem config_planned (parsed : args.Parsed) (made : args.config token = .ok config) :
    config.Planned token args ∧ args.input = .ok config.input := by
  obtain ⟨input, chosen, rest⟩ := bind_eq_ok made
  obtain ⟨given, taken, rest⟩ := bind_eq_ok rest
  obtain ⟨trusted, rest⟩ := ite_error_eq_ok rest
  obtain ⟨timeout, rest⟩ := ite_error_eq_ok rest
  obtain rfl := Except.ok.inj rest
  obtain ⟨rfl, filled⟩ := remoteToken_eq_ok taken
  have allowed : ∀ remote ∈ args.remote, args.remoteToken.or token = none →
      args.insecureTokenlessRemote = true := by
    intro remote member none
    cases insecure : args.insecureTokenlessRemote with
    | true => rfl
    | false =>
      have some_remote : args.remote.isEmpty = false := by
        cases listed : args.remote with
        | nil =>
          rw [listed] at member
          cases member
        | cons => rfl
      rw [none, insecure, some_remote] at trusted
      exact absurd rfl trusted
  refine ⟨⟨⟨parsed.workers, parsed.memory, parsed.timeout, ?_⟩, ?_, Nat.pos_of_ne_zero timeout, ?_,
    ?_, rfl⟩, chosen⟩
  · intro remote member
    obtain ⟨arg, listed, rfl⟩ := List.mem_map.mp member
    obtain ⟨text, read⟩ := parsed.remote arg listed
    exact (fromArg_workers read).2
  · intro path member
    obtain ⟨text, rfl⟩ := parsed.gcRootsDir path member
    exact isSome_toStr_ofStr text
  · intro remote member
    obtain ⟨arg, listed, rfl⟩ := List.mem_map.mp member
    obtain ⟨text, read⟩ := parsed.remote arg listed
    exact (fromArg_workers read).1
  · intro remote member
    obtain ⟨arg, listed, rfl⟩ := List.mem_map.mp member
    exact ⟨rfl, filled, allowed arg listed⟩

/-- Remotes with workers pass. -/
theorem validateRemotes_ok {remotes : List Remote}
    (workers : ∀ remote ∈ remotes, 0 < remote.workers) : validateRemotes remotes = .ok () := by
  induction remotes with
  | nil => rfl
  | cons remote remotes ih =>
    have positive := workers remote List.mem_cons_self
    rw [validateRemotes, if_neg (Nat.ne_of_gt positive)]
    exact ih fun other member => workers other (List.mem_cons_of_mem _ member)

/-- A configuration with time, workers and paths that are texts passes. -/
theorem validateConfig_ok (timeout : 0 < config.itemTimeoutSeconds)
    (workers : ∀ remote ∈ config.remotes, 0 < remote.workers) (textual : config.Textual) :
    validateConfig config = .ok () := by
  have remotes := validateRemotes_ok workers
  have some_time : config.itemTimeoutSeconds ≠ 0 := Nat.ne_of_gt timeout
  have roots : ∀ dir ∈ config.gcRootsDir, dir.toStr ≠ none := fun dir member =>
    Option.isSome_iff_ne_none.mp (textual.gcRootsDir dir member)
  cases named : config.input with
  | file path =>
    have text : path.toStr ≠ none := Option.isSome_iff_ne_none.mp (textual.input path named)
    cases rooted : config.gcRootsDir with
    | some dir => simp [validateConfig, some_time, named, rooted, text, roots dir rooted, remotes]
    | none => simp [validateConfig, some_time, named, rooted, text, remotes]
  | flake | expr =>
    cases rooted : config.gcRootsDir with
    | some dir => simp [validateConfig, some_time, named, rooted, roots dir rooted, remotes]
    | none => simp [validateConfig, some_time, named, rooted, remotes]

/-- A file input is a text as the arguments have it. -/
theorem Config.Planned.textual (planned : config.Planned token args)
    (input : ∀ path, config.input = .file path → path.toStr.isSome = true) : config.Textual :=
  ⟨input, planned.gcRootsDir⟩

/-- The document of a path that is a text, or is none. -/
theorem path_written {path : PathBuf} (text : path.toStr.isSome = true) :
    ∃ document, path.document = .ok document := by
  obtain ⟨text, found⟩ := Option.isSome_iff_exists.mp text
  refine ⟨.string text, ?_⟩
  rw [PathBuf.document, found]

/-- A configuration whose paths are texts is written. -/
theorem Config.Textual.written (textual : config.Textual) :
    ∃ document, config.document = .ok document := by
  have input : ∃ document, config.input.document = .ok document := by
    cases named : config.input with
    | file path =>
      obtain ⟨document, written⟩ := path_written (textual.input path named)
      refine ⟨.object [("type", .string "file"), ("path", document)], ?_⟩
      rw [Input.document, written]
      rfl
    | flake | expr => exact ⟨_, rfl⟩
  have roots : ∃ document, optionalPathDocument config.gcRootsDir = .ok document := by
    cases named : config.gcRootsDir with
    | some dir => exact path_written (textual.gcRootsDir dir named)
    | none => exact ⟨_, rfl⟩
  obtain ⟨input, read⟩ := input
  obtain ⟨gcRootsDir, found⟩ := roots
  exact ⟨_, config_written read found⟩

/-- A configuration that is written has an input whose path is a text. -/
theorem textual_of_written {document : Json} (written : config.document = .ok document)
    (path : PathBuf) (named : config.input = .file path) : path.toStr.isSome = true := by
  obtain ⟨input, _, read, _⟩ := config_document written
  rw [named] at read
  obtain ⟨text, found, _⟩ := bind_eq_ok read
  rw [PathBuf.document] at found
  split at found
  · rename_i given
    rw [given]
    rfl
  · cases found

end Plans

/-! ## The course of a command -/

section Courses

variable {token : Option String} {args : EvalInput} {config : Config}

/-- A configuration for the daemon differs in its input only. -/
theorem daemonConfig_planned {paths : ClientPaths} {directory : PathBuf} {sent : Config}
    (planned : config.Planned token args) (made : daemonConfig paths directory config = .ok sent) :
    sent.Planned token args := by
  obtain ⟨input, _, built⟩ := bind_eq_ok made
  obtain rfl := Except.ok.inj built
  exact ⟨⟨planned.sized.workers, planned.sized.memory, planned.sized.timeout,
    planned.sized.remotes⟩, planned.gcRootsDir, planned.timeout, planned.workers, planned.token,
    planned.workerExe⟩

/-- Whether a request can be answered: the daemon reads it as it was sent, and its configuration
passes the check of the session. -/
def Request.Answerable (request : Request) : Prop :=
  validateConfig request.config = .ok () ∧ ∃ document, request.versioned.document = .ok document ∧
    VersionedRequest.ofDocument document = some request.versioned ∧
    request.versioned.validateProtocol = .ok ()

/-- What holds of the course of a command. -/
def Course.IsSound (token : Option String) (around : Surroundings) (command : Commands) :
    Course → Prop
  | .localEval config =>
    ∃ args socket noDaemon, command = .eval args socket noDaemon false ∧
      (noDaemon = true ∨ around.connect (socketPath around socket) = .notFound) ∧
      config.Planned token args ∧ validateConfig config = .ok ()
  | .localWatch config =>
    ∃ args socket noDaemon, command = .watch args socket noDaemon ∧
      (noDaemon = true ∨ around.connect (socketPath around socket) = .notFound) ∧
      config.Planned token args ∧ validateConfig config = .ok () ∧
      ∀ expression, config.input ≠ .expr expression
  | .daemonRequest request =>
    around.connect (socketPath around command.socket) = .ok ∧ command.Asks request ∧
    ∃ args, command.input? = some args ∧ request.config.Planned token args ∧
      ((∃ path, request.config.input = .file path ∧ path.toStr = none) ∧
          (∃ error, request.versioned.document = .error error) ∨
        request.Answerable)
  | .daemon .. => command.input? = none
  | .worker _ chosen => chosen ≠ some "" ∧
      ∃ listen flag insecure, command = .worker listen flag insecure ∧ chosen = flag.or token ∧
        (chosen = none → insecure = true)
  | .failed _ => True

/-- A planned request is answerable, unless its input file has a path that is no text. -/
theorem answerable_of_planned {request : Request} (planned : request.config.Planned token args) :
    (∃ path, request.config.input = .file path ∧ path.toStr = none) ∧
        (∃ error, request.versioned.document = .error error) ∨ request.Answerable := by
  by_cases text : ∀ path, request.config.input = .file path → path.toStr.isSome = true
  · have textual := planned.textual text
    obtain ⟨document, written⟩ := textual.written
    have whole : request.versioned.document =
        .ok (.object (request.versioned.fields document)) := by
      have same : request.versioned.request.config.document = .ok document := written
      rw [VersionedRequest.document, same]
      rfl
    have received : request.versioned.received = request.versioned := by
      have default_exe : request.config.received = request.config := by
        rw [Config.received, ← planned.workerExe]
      cases request <;>
        simp only [Request.config] at default_exe <;>
        simp only [VersionedRequest.received, Request.versioned, Request.received, default_exe]
    have read := request_document planned.sized whole
    rw [received] at read
    exact .inr ⟨validateConfig_ok planned.timeout planned.workers textual, _, whole, read, rfl⟩
  · obtain ⟨path, rest⟩ := not_forall.mp text
    obtain ⟨named, broken⟩ := not_forall.mp rest
    have missing : path.toStr = none := Option.not_isSome_iff_eq_none.mp broken
    refine .inl ⟨⟨path, named, missing⟩, ?_⟩
    cases written : request.versioned.document with
    | error error => exact ⟨error, rfl⟩
    | ok document =>
      obtain ⟨inner, made, _⟩ := bind_eq_ok written
      exact absurd (textual_of_written made path named) broken

/-- A request that is prepared for the daemon is planned. -/
theorem daemonRequest_planned {paths : ClientPaths} {directory : PathBuf} {request sent : Request}
    (planned : request.config.Planned token args)
    (made : daemonRequest paths directory request = .ok sent) :
    sent.config.Planned token args := by
  cases request <;>
    obtain ⟨config, changed, rfl⟩ := map_eq_ok made <;>
    exact daemonConfig_planned planned changed

variable {around : Surroundings} {command : Commands} {request : Request}

/-- A request that is prepared for the daemon is of the same kind. -/
theorem daemonRequest_asks {paths : ClientPaths} {directory : PathBuf} {sent : Request}
    (asked : command.Asks request) (made : daemonRequest paths directory request = .ok sent) :
    command.Asks sent := by
  cases request <;>
    obtain ⟨config, _, rfl⟩ := map_eq_ok made <;>
    cases command <;>
    exact asked

/-- A request that only the daemon answers. -/
theorem runDaemonOnly_sound (taken : command.input? = some args) (asked : command.Asks request)
    (planned : request.config.Planned token args) :
    (runDaemonOnly around request command.socket).IsSound token around command := by
  simp only [runDaemonOnly]
  split
  · rename_i connected
    exact ⟨connected, asked, args, taken, planned, answerable_of_planned planned⟩
  · trivial
  · trivial

/-- A request that is answered here when there is no daemon. -/
theorem runClientOrLocal_sound (taken : command.input? = some args)
    (asked : command.Asks request) (planned : request.config.Planned token args) {fallback : Course}
    (here : around.connect (socketPath around command.socket) = .notFound →
      fallback.IsSound token around command) :
    (runClientOrLocal around request command.socket fallback).IsSound token around command := by
  simp only [runClientOrLocal]
  split
  · rename_i connected
    exact ⟨connected, asked, args, taken, planned, answerable_of_planned planned⟩
  · rename_i missing
    exact here missing
  · trivial

/-- A request that is prepared first. -/
theorem prepared_sound (asked : command.Asks request)
    (planned : request.config.Planned token args) {send : Request → Course}
    (sound : ∀ sent : Request, command.Asks sent → sent.config.Planned token args →
      (send sent).IsSound token around command) :
    (prepared around request send).IsSound token around command := by
  unfold prepared
  split
  · rename_i sent made
    exact sound sent (daemonRequest_asks asked made) (daemonRequest_planned planned made)
  · trivial

/-- The configuration that the command line makes passes the check of a session here. -/
theorem config_valid (parsed : args.Parsed) (made : args.config token = .ok config) :
    validateConfig config = .ok () := by
  obtain ⟨planned, input⟩ := config_planned parsed made
  refine validateConfig_ok planned.timeout planned.workers (planned.textual fun path named => ?_)
  rw [named, EvalInput.input] at input
  split at input
  · cases input
  · cases input
  · rename_i file _ _ given
    obtain rfl := Input.file.inj (Except.ok.inj input)
    obtain ⟨text, rfl⟩ := parsed.file _ given
    exact isSome_toStr_ofStr text
  · cases input

/-- A watch that is planned has an input that can be watched. -/
theorem watch_plan {input : EvalInput} {socket : Option PathBuf} {noDaemon : Bool}
    {plan : CommandPlan}
    (planned : commandPlan token (.watch input socket noDaemon) = .ok plan) :
    ∃ config, input.config token = .ok config ∧ (∀ expression, config.input ≠ .expr expression) ∧
      plan = .watch config socket (!noDaemon) := by
  obtain ⟨config, configured, rest⟩ := bind_eq_ok planned
  refine ⟨config, configured, ?_⟩
  split at rest
  · cases rest
  all_goals
    rename_i named
    refine ⟨fun expression same => ?_, (Except.ok.inj rest).symm⟩
    rw [named] at same
    cases same

/-- A token that a remote service takes is the one that was given, and it may have none only if that
was allowed. -/
theorem remoteWorkerToken_eq_ok {flag chosen : Option String} {insecure : Bool}
    (taken : remoteWorkerToken token flag insecure = .ok chosen) :
    chosen = flag.or token ∧ chosen ≠ some "" ∧ (chosen = none → insecure = true) := by
  unfold remoteWorkerToken at taken
  split at taken
  · cases taken
  · rename_i given found
    obtain rfl := Except.ok.inj taken
    obtain ⟨same, filled⟩ := remoteToken_eq_ok found
    exact ⟨same, filled, fun none => absurd none (Option.some_ne_none given)⟩
  · rename_i found
    split at taken
    · rename_i allowed
      obtain rfl := Except.ok.inj taken
      obtain ⟨same, filled⟩ := remoteToken_eq_ok found
      exact ⟨same, filled, fun _ => allowed⟩
    · cases taken

/-- Wherever a command is carried out: an evaluation or a watch runs here only if the daemon was not
wanted or has no socket, and its configuration passes the check of the session; a request that is
sent is of the kind that was asked for, the daemon reads it as it was sent, and its configuration
passes the check there, unless the canonical path of its input file is no text; and remotes have the
token that was given, or none if that was allowed. -/
theorem cli_course {plan : CommandPlan} (parsed : ∀ args ∈ command.input?, args.Parsed)
    (planned : commandPlan token command = .ok plan) :
    (runPlan around plan).IsSound token around command := by
  cases command with
  | eval input socket noDaemon replay =>
    obtain ⟨compatible, made⟩ := ite_error_eq_ok planned
    obtain ⟨config, configured, built⟩ := bind_eq_ok made
    obtain rfl := Except.ok.inj built
    have input_parsed := parsed input rfl
    obtain ⟨complete, _⟩ := config_planned input_parsed configured
    have valid := config_valid input_parsed configured
    cases replay with
    | true =>
      have wanted : noDaemon = false := by simpa using compatible
      subst wanted
      have asked : (Commands.eval input socket false true).Asks (.replay config) := ⟨rfl, rfl⟩
      exact prepared_sound asked complete fun sent same sent_planned =>
        runDaemonOnly_sound rfl same sent_planned
    | false =>
      cases noDaemon with
      | true => exact ⟨input, socket, true, rfl, .inl rfl, complete, valid⟩
      | false =>
        have asked : (Commands.eval input socket false false).Asks (.eval config) := ⟨rfl, rfl⟩
        exact prepared_sound asked complete fun sent same sent_planned =>
          runClientOrLocal_sound rfl same sent_planned fun missing =>
            ⟨input, socket, false, rfl, .inr missing, complete, valid⟩
  | watch input socket noDaemon =>
    obtain ⟨config, configured, watchable, rfl⟩ := watch_plan planned
    have input_parsed := parsed input rfl
    obtain ⟨complete, _⟩ := config_planned input_parsed configured
    have valid := config_valid input_parsed configured
    cases noDaemon with
    | true => exact ⟨input, socket, true, rfl, .inl rfl, complete, valid, watchable⟩
    | false =>
      have asked : (Commands.watch input socket false).Asks (.watch config) := rfl
      exact prepared_sound asked complete fun sent same sent_planned =>
        runClientOrLocal_sound rfl same sent_planned fun missing =>
          ⟨input, socket, false, rfl, .inr missing, complete, valid, watchable⟩
  | query input socket system attrPrefix noDaemon =>
    obtain ⟨config, configured, built⟩ := bind_eq_ok planned
    obtain rfl := Except.ok.inj built
    obtain ⟨complete, _⟩ := config_planned (parsed input rfl) configured
    have asked : (Commands.query input socket system attrPrefix noDaemon).Asks
        (.query config (Args.filter system attrPrefix)) := rfl
    exact prepared_sound asked complete fun sent same sent_planned =>
      runDaemonOnly_sound rfl same sent_planned
  | diff input socket =>
    obtain ⟨config, configured, built⟩ := bind_eq_ok planned
    obtain rfl := Except.ok.inj built
    obtain ⟨complete, _⟩ := config_planned (parsed input rfl) configured
    have asked : (Commands.diff input socket).Asks (.diff config) := trivial
    exact prepared_sound asked complete fun sent same sent_planned =>
      runDaemonOnly_sound rfl same sent_planned
  | daemon socket foreground =>
    obtain rfl := Except.ok.inj planned
    rfl
  | worker listen flag insecure =>
    obtain ⟨chosen, taken, built⟩ := bind_eq_ok planned
    obtain rfl := Except.ok.inj built
    obtain ⟨same, filled, allowed⟩ := remoteWorkerToken_eq_ok taken
    exact ⟨filled, listen, flag, insecure, rfl, same, allowed⟩

/-- `evix eval --flake . --remote builder x86_64-linux 4`. -/
def exampleCommand : Commands :=
  .eval {
    flake := some "."
    expr := none
    file := none
    arg := []
    argstr := []
    overrideInput := []
    option := []
    remote := [⟨"builder", ["x86_64-linux"], 4⟩]
    remoteToken := none
    insecureTokenlessRemote := false
    «meta» := false
    showInputDrvs := false
    workers := 1
    maxMemory := 4096
    itemTimeoutSeconds := 600
    forceRecurse := false
    gcRootsDir := none } none false false

/-- A directory of a machine with a daemon. -/
def exampleSurroundings : Surroundings where
  paths := examplePaths
  directory := .ofStr "/home/user"
  evixSocket := none
  uid := 1000
  connect _ := .ok

/-- A flake that is sent to a daemon, with a token from the environment. -/
theorem cli_course_sent :
    ∃ plan, commandPlan (some "secret") exampleCommand = .ok plan ∧
      (runPlan exampleSurroundings plan).IsSound (some "secret") exampleSurroundings
        exampleCommand := by
  have parsed : ∀ args ∈ exampleCommand.input?, args.Parsed := by
    intro args taken
    obtain rfl := Option.some.inj taken
    refine ⟨by simp, by simp, ?_, by decide, by decide, by decide⟩
    intro remote member
    obtain rfl := List.mem_singleton.mp member
    exact ⟨"builder\x1fx86_64-linux\x1f4", by decide +kernel⟩
  exact ⟨_, rfl, cli_course parsed rfl⟩

end Courses

end Evix
