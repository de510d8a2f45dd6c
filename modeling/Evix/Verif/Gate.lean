import Mathlib.Data.List.GetD
import Evix.Library.Fallible
import Evix.RemoteWorker.Gate
import Evix.Verif.NixOptions

/-!
# Only through the gate

No evaluator of a remote service is started unless the first message passed every check, and the
file it is started with says nothing but what the allowed settings say: a value has no line feed,
so that each line starts with an allowed key and is cut no earlier than at its equals sign.
-/

namespace Evix

open RemoteWorker Fallible

/-! ## Tokens -/

/-- An accumulated difference vanishes when its start and all its parts do. -/
theorem foldl_or_eq_zero (parts : Nat → Nat) (positions : List Nat) (start : Nat) :
    positions.foldl (fun diff index => diff ||| parts index) start = 0 ↔
      start = 0 ∧ ∀ index ∈ positions, parts index = 0 := by
  induction positions generalizing start with
  | nil => simp
  | cons index positions ih =>
    rw [List.foldl_cons, ih, Nat.or_eq_zero_iff, List.forall_mem_cons, and_assoc]

/-- The difference of two texts vanishes when the texts are equal, whatever their lengths. -/
theorem tokenDiff_eq_zero (actual expected : List UInt8) :
    tokenDiff actual expected = 0 ↔ actual = expected := by
  rw [tokenDiff, foldl_or_eq_zero]
  constructor
  · rintro ⟨lengths, bytes⟩
    have same : actual.length = expected.length := calc
      actual.length = actual.length ^^^ expected.length ^^^ expected.length := by
        rw [Nat.xor_assoc, Nat.xor_self, Nat.xor_zero]
      _ = expected.length := by rw [lengths, Nat.zero_xor]
    refine List.ext_getElem same fun index inside within => ?_
    have part := bytes index (by rw [List.mem_range]; omega)
    rw [List.getD_eq_getElem _ _ inside, List.getD_eq_getElem _ _ within] at part
    exact UInt8.xor_eq_zero_iff.mp (UInt8.toNat_inj.mp part)
  · rintro rfl
    exact ⟨Nat.xor_self _, fun index _ => by rw [UInt8.xor_self]; rfl⟩

/-- Tokens match when they are equal as byte strings, absent ones included. -/
theorem tokenMatches_iff (actual expected : Option String) :
    tokenMatches actual expected = true ↔ actual.map asBytes = expected.map asBytes := by
  cases expected with
  | none => cases actual <;> simp [tokenMatches]
  | some expected =>
    cases actual with
    | none => simp [tokenMatches]
    | some actual =>
      rw [tokenMatches, beq_iff_eq, tokenDiff_eq_zero, Option.map_some, Option.map_some,
        Option.some_inj]

/-! ## The checks -/

/-- A store directory that passes is not asked for, or is the local one. -/
theorem validateStoreDir_ok {actual : Except String String} {expected : Option String}
    (valid : validateStoreDir actual expected = .ok ()) :
    ∀ directory ∈ expected, actual = .ok directory := by
  rintro directory member
  rw [Option.mem_def] at member
  rw [member, validateStoreDir] at valid
  obtain ⟨found, isFound, same⟩ := bind_eq_ok valid
  by_cases differs : found ≠ directory
  · rw [if_pos differs] at same
    cases same
  · rw [isFound, not_not.mp differs]

/-- A configuration that passes has allowed keys only. -/
theorem validateRemoteConfig_ok {debug : String → String} {options : List (String × String)}
    (valid : validateRemoteConfig debug options = .ok ()) :
    ∀ option ∈ options, option.1 ∈ allowedRemoteNixOptions := by
  induction options with
  | nil => simp
  | cons option options ih =>
    rw [validateRemoteConfig] at valid
    by_cases allowed : option.1 ∈ allowedRemoteNixOptions
    · rw [if_pos allowed] at valid
      exact List.forall_mem_cons.mpr ⟨allowed, ih valid⟩
    · rw [if_neg allowed] at valid
      cases valid

/-! ## The file -/

/-- Every allowed key is plain. -/
theorem allowed_plain : ∀ key ∈ allowedRemoteNixOptions, PlainKey key.toList := by
  decide +kernel

/-- A file of plain keys with values of one line each holds one setting for each, and then nothing.
-/
theorem readNixConf_settings {options : List (String × String)}
    (plain : ∀ option ∈ options, PlainKey option.1.toList)
    (single : ∀ option ∈ options, '\n' ∉ option.1.toList ∧ '\n' ∉ option.2.toList) :
    readNixConf (options.flatMap nixOptionLine) =
      (options.map fun option => NixLine.setting option.1.toList) ++ [.blank] := by
  rw [readNixConf, splitOn_written single, List.map_append, List.map_map]
  have settings : ∀ option ∈ options,
      readNixLine (option.1.toList ++ " = ".toList ++ option.2.toList) =
        .setting option.1.toList :=
    fun option listed => readNixLine_setting (plain option listed) option.2.toList
  exact congrArg (· ++ [.blank]) (List.map_congr_left settings)

/-- A file that says nothing but what allowed keys are set to. -/
def OnlyAllowed (contents : List Char) : Prop :=
  ∀ line ∈ readNixConf contents,
    line = .blank ∨ ∃ key ∈ allowedRemoteNixOptions, line = .setting key.toList

/-- Allowed options make a file that says nothing else. -/
theorem prepareNixOptionsEnv_allowed {host : NixOptionsHost} {options : List (String × String)}
    (allowed : ∀ option ∈ options, option.1 ∈ allowedRemoteNixOptions)
    {file : Option NixOptionsFile} (prepared : prepareNixOptionsEnv host options = .ok file) :
    ∀ contents ∈ file.map NixOptionsFile.contents, OnlyAllowed contents := by
  rcases prepareNixOptionsEnv_cases host options with
    ⟨_, without⟩ | ⟨_, error, failed⟩ | ⟨kept, _, made, returned, holds⟩
  · cases without.symm.trans prepared
    simp
  · cases failed.symm.trans prepared
  · cases returned.symm.trans prepared
    rintro contents member line occurs
    cases member
    have plain : ∀ option ∈ options, PlainKey option.1.toList :=
      fun option inside => allowed_plain _ (allowed option inside)
    have single := validateNixOptions_ok (validateNixOptions_eq_ok.mpr kept)
    rw [holds, readNixConf_settings plain single, List.mem_append, List.mem_map,
      List.mem_singleton] at occurs
    rcases occurs with ⟨option, inside, rfl⟩ | blank
    · exact Or.inr ⟨option.1, allowed option inside, rfl⟩
    · exact Or.inl blank

/-! ## The connection -/

/-- What holds of the effects of two outcomes holds of the effects of both. -/
theorem Outcome.forall_andThen {property : Effect → Prop} {outcome later : Outcome}
    (now : ∀ effect ∈ outcome.1, property effect) (after : ∀ effect ∈ later.1, property effect) :
    ∀ effect ∈ (outcome.andThen later).1, property effect := by
  obtain ⟨effects, result⟩ := outcome
  cases result with
  | error => exact now
  | ok =>
    rintro effect occurs
    rcases List.mem_append.mp occurs with inside | inside
    · exact now effect inside
    · exact after effect inside

/-- What a service does for a configuration: it writes, and it starts evaluators of the
configuration with a file of its settings. -/
def Serves (config : WorkerConfig) : Effect → Prop
  | .write _ => True
  | .spawn spawned nixConf =>
    spawned = config ∧ ∃ settings file, prepareNixOptionsEnv settings config.nixOptions = .ok file ∧
      nixConf = file.map NixOptionsFile.contents

/-- A start of an evaluator serves its configuration. -/
theorem spawnLocal_serves (host : Host) (config : WorkerConfig) (start : Nat) :
    ∀ effect ∈ (spawnLocal host config start).1, Serves config effect := by
  cases prepared : prepareNixOptionsEnv (host.nixOptions start) config.nixOptions with
  | error => simp [spawnLocal, prepared]
  | ok file =>
    simp only [spawnLocal, prepared, List.forall_mem_singleton]
    exact ⟨rfl, _, file, prepared, rfl⟩

/-- The loop serves the configuration it was entered with, through all restarts. -/
theorem serveRequests_serves (host : Host) (config : WorkerConfig) (start : Nat)
    (passes : List Pass) :
    ∀ effect ∈ (serveRequests host config start passes).1, Serves config effect := by
  induction start, passes using serveRequests.induct with
  | case1 => simp [serveRequests]
  | case2 start _ event passes ih =>
    rw [serveRequests, if_pos rfl]
    refine Outcome.forall_andThen
      (Outcome.forall_andThen ?_ (spawnLocal_serves host config start)) ih
    simp [Serves]
  | case3 start _ event status passes goesOn ih =>
    rw [serveRequests, if_neg goesOn]
    refine Outcome.forall_andThen ?_ ih
    simp [Serves]
  | case4 => simp [serveRequests, Serves]
  | case5 => simp [serveRequests]
  | case6 => simp [serveRequests]
  | case7 => simp [serveRequests]
  | case8 => simp [serveRequests]

/-- A first message that passes every check of the gate. -/
structure Admits (host : Host) (first : Except String WorkerCapnp.ClientMessage)
    (setup : WorkerCapnp.Setup) : Prop where
  /-- It is a setup. -/
  isSetup : first = .ok (.setup setup)
  /-- It is of the current protocol. -/
  version : setup.protocolVersion = workerProtocolVersion
  /-- It presents the configured token. -/
  token : (readTextOpt setup.token).map asBytes = host.token.map asBytes
  /-- It expects no store directory, or the local one. -/
  storeDir : ∀ directory ∈ readTextOpt setup.expectedStoreDir, host.storeDir = .ok directory
  /-- It sets allowed keys only. -/
  options : ∀ option ∈ (readWorkerConfig setup.config).nixOptions,
    option.1 ∈ allowedRemoteNixOptions

/-- A setup that is decoded is of the current protocol. -/
theorem decodeClient_setup {message : WorkerCapnp.ClientMessage} {config : WorkerConfig}
    {token expectedStoreDir : Option String}
    (decoded : decodeClient message = .ok (.setup config token expectedStoreDir)) :
    ∃ setup, message = .setup setup ∧ setup.protocolVersion = workerProtocolVersion ∧
      config = readWorkerConfig setup.config ∧ token = readTextOpt setup.token ∧
      expectedStoreDir = readTextOpt setup.expectedStoreDir := by
  cases message with
  | setup setup =>
    obtain ⟨_, valid, returned⟩ := bind_eq_ok decoded
    cases returned
    refine ⟨setup, rfl, ?_, rfl, rfl, rfl⟩
    by_contra other
    rw [validateWorkerProtocol, if_neg other] at valid
    cases valid
  | work => cases decoded
  | shutdown => cases decoded

/-- A connection serves the configuration of an admitted setup, or does no more than to refuse. -/
theorem serveConnection_serves (host : Host) (first : Except String WorkerCapnp.ClientMessage)
    (passes : List Pass) :
    (∃ setup, Admits host first setup ∧
      ∀ effect ∈ (serveConnection host first passes).1,
        Serves (readWorkerConfig setup.config) effect) ∨
    ∀ effect ∈ (serveConnection host first passes).1,
      effect = .write (.error authenticationFailed) := by
  cases decoded : first.bind decodeClient with
  | error => simp [serveConnection, decoded]
  | ok message =>
    cases message with
    | work => simp [serveConnection, decoded]
    | shutdown => simp [serveConnection, decoded]
    | setup config token expectedStoreDir =>
      obtain ⟨message, arrived, read⟩ := bind_eq_ok decoded
      obtain ⟨setup, isSetup, version, rfl, rfl, rfl⟩ := decodeClient_setup read
      by_cases matching : tokenMatches (readTextOpt setup.token) host.token
      · cases checked : checkSetup host (readWorkerConfig setup.config)
            (readTextOpt setup.expectedStoreDir) with
        | error => simp [serveConnection, decoded, matching, checked]
        | ok =>
          obtain ⟨_, directory, allowed⟩ := bind_eq_ok checked
          refine Or.inl ⟨setup, ⟨arrived.trans (congrArg _ isSetup), version,
            (tokenMatches_iff _ _).mp matching, validateStoreDir_ok directory,
            validateRemoteConfig_ok allowed⟩, ?_⟩
          simp only [serveConnection, decoded, matching, checked]
          refine Outcome.forall_andThen (Outcome.forall_andThen (spawnLocal_serves _ _ _) ?_)
            (serveRequests_serves _ _ _ _)
          simp [Serves]
      · right
        simp [serveConnection, decoded, matching]

/-- Whatever arrives on a connection, an evaluator is started and the service answers that it is
ready only for a first message that passes every check; an evaluator is started with the
configuration of that message and with a file that sets allowed keys only. -/
theorem remote_gate (host : Host) (first : Except String WorkerCapnp.ClientMessage)
    (passes : List Pass) (effect : Effect)
    (occurs : effect ∈ (serveConnection host first passes).1) :
    (effect = .write .ready → ∃ setup, Admits host first setup) ∧
    ∀ config nixConf, effect = .spawn config nixConf →
      ∃ setup, Admits host first setup ∧ config = readWorkerConfig setup.config ∧
        ∀ contents ∈ nixConf, OnlyAllowed contents := by
  rcases serveConnection_serves host first passes with ⟨setup, admitted, serves⟩ | refuses
  · refine ⟨fun _ => ⟨setup, admitted⟩, ?_⟩
    rintro config nixConf rfl
    obtain ⟨same, settings, file, prepared, rfl⟩ := serves _ occurs
    exact ⟨setup, admitted, same, prepareNixOptionsEnv_allowed admitted.options prepared⟩
  · rw [refuses effect occurs]
    exact ⟨nofun, nofun⟩

/-- A service with a token. -/
def guardedHost : Host where
  token := some "clé"
  storeDir := .ok "/nix/store"
  nixOptions _ := plainNixOptionsHost
  evaluator _ := .ok ()
  debug := id
  debugMessage _ := ""

/-- A setup with the token and two settings, one of which reads like more than a value. -/
def guardedSetup : WorkerCapnp.Setup where
  config := { nixOptions := [⟨"allowed-uris", "a = b # include c"⟩, ⟨"restrict-eval", ""⟩] }
  token := .some "clé"
  expectedStoreDir := .some "/nix/store"
  protocolVersion := workerProtocolVersion

/-- Two settings, and a worker that is restarted. -/
theorem remote_gate_restart :
    let failure : Event := .error ⟨"a", ["a"], "boom", false⟩
    let passes : List Pass := [⟨.ok (.work ["a"]), .worker (.ok (failure, .restart))⟩]
    let nixConf := "allowed-uris = a = b # include c\nrestrict-eval = \n".toList
    let spawn := Effect.spawn (readWorkerConfig guardedSetup.config) (some nixConf)
    (serveConnection guardedHost (.ok (.setup guardedSetup)) passes).1 =
        [spawn, .write .ready, .write (.event failure), .write (.status .restart), spawn] ∧
      ∃ setup, Admits guardedHost (.ok (.setup guardedSetup)) setup ∧
        readWorkerConfig guardedSetup.config = readWorkerConfig setup.config ∧
        ∀ contents ∈ some nixConf, OnlyAllowed contents := by
  intro failure passes nixConf spawn
  have effects : (serveConnection guardedHost (.ok (.setup guardedSetup)) passes).1 =
      [spawn, .write .ready, .write (.event failure), .write (.status .restart), spawn] := by
    decide +kernel
  refine ⟨effects, (remote_gate guardedHost (.ok (.setup guardedSetup)) passes spawn ?_).2 _ _ rfl⟩
  rw [effects]
  exact List.mem_cons_self

end Evix
