import Mathlib.Data.List.TakeWhile
import Evix.NixOptions
import Evix.Library.Fallible

/-!
# What Nix reads in the generated configuration

Nix reads its configuration file line by line. Every line that `prepare_nix_options_env` writes is
to be read as the setting it was written for.
-/

namespace Evix

open Fallible

/-- A line is a setting with the key of an option, and its value up to the width of blanks. -/
def Sets (option : String × String) (line : List Char) : Prop :=
  readNixLine line = .setting option.1.toList ∧
    Text.tokens isNixBlank (nixValue line) = Text.tokens isNixBlank option.2.toList

/-- Options are refused, or Nix reads exactly them. -/
def ReachWorker (host : NixOptionsHost) (options : List (String × String)) : Prop :=
  match prepareNixOptionsEnv host options with
  | .error _ => True
  | .ok none => options = []
  | .ok (some file) => List.Forall₂ Sets options (nixLines file.contents)

/-! ## What is refused -/

/-- A part of an option that is refused: with a line end, or with a directive as its first word. -/
def IsRefused (part : String) : Prop :=
  ('\n' ∈ part.toList ∨ '\r' ∈ part.toList) ∨
    (firstWord part.toList = some "include".toList ∨
      firstWord part.toList = some "!include".toList)

/-- The host does not write the file, or cannot name it beside the other files. -/
def NixOptionsHost.Fails (host : NixOptionsHost) : Prop :=
  (∃ error, host.written = .error error) ∨
    ∃ error, nixUserConfFiles host (nixOptionsPath host) = .error error

/-- A part is validated exactly when it is not refused. -/
theorem validateNixOptionPart_eq_ok (label part : String) :
    validateNixOptionPart label part = .ok () ↔ ¬ IsRefused part := by
  unfold validateNixOptionPart IsRefused
  split
  case isTrue ended => exact ⟨(nomatch ·), fun kept => absurd (.inl ended) kept⟩
  case isFalse whole =>
    split
    case isTrue directive => exact ⟨(nomatch ·), fun kept => absurd (.inr directive) kept⟩
    case isFalse plain => exact ⟨fun _ refused => refused.elim whole plain, fun _ => rfl⟩

/-- The options are validated exactly when no part of them is refused. -/
theorem validateNixOptions_eq_ok {options : List (String × String)} :
    validateNixOptions options = .ok () ↔
      ∀ option ∈ options, ¬ IsRefused option.1 ∧ ¬ IsRefused option.2 := by
  induction options with
  | nil => exact ⟨fun _ _ listed => absurd listed List.not_mem_nil, fun _ => rfl⟩
  | cons option options ih =>
    rw [List.forall_mem_cons, ← ih, ← validateNixOptionPart_eq_ok "key",
      ← validateNixOptionPart_eq_ok "value"]
    refine ⟨fun valid => ?_, fun ⟨⟨key, value⟩, others⟩ => ?_⟩
    · obtain ⟨_, key, rest⟩ := bind_eq_ok valid
      obtain ⟨_, value, others⟩ := bind_eq_ok rest
      exact ⟨⟨key, value⟩, others⟩
    · rw [validateNixOptions, key, value, others]
      rfl

/-- Options that pass have no line feed in a key or a value. -/
theorem validateNixOptions_ok {options : List (String × String)}
    (valid : validateNixOptions options = .ok ()) :
    ∀ option ∈ options, '\n' ∉ option.1.toList ∧ '\n' ∉ option.2.toList := by
  intro option listed
  obtain ⟨key, value⟩ := validateNixOptions_eq_ok.mp valid option listed
  exact ⟨fun inside => key (.inl (.inl inside)), fun inside => value (.inl (.inl inside))⟩

/-- What the preparation gives: nothing without options, an error when a part is refused or the
host fails, else the file with a line for each option. -/
theorem prepareNixOptionsEnv_cases (host : NixOptionsHost) (options : List (String × String)) :
    (options = [] ∧ prepareNixOptionsEnv host options = .ok none) ∨
    (((∃ option ∈ options, IsRefused option.1 ∨ IsRefused option.2) ∨ host.Fails) ∧
      ∃ error, prepareNixOptionsEnv host options = .error error) ∨
    ((∀ option ∈ options, ¬ IsRefused option.1 ∧ ¬ IsRefused option.2) ∧ ¬ host.Fails ∧
      ∃ file, prepareNixOptionsEnv host options = .ok (some file) ∧
        file.contents = options.flatMap nixOptionLine) := by
  cases options with
  | nil => exact .inl ⟨rfl, rfl⟩
  | cons option options =>
    refine .inr ?_
    generalize listed_eq : option :: options = listed
    have prepared : prepareNixOptionsEnv host listed = (do
        validateNixOptions listed
        host.written.mapError fun _ => "writing Nix options file"
        let confFiles ← nixUserConfFiles host (nixOptionsPath host)
        return some
          { path := nixOptionsPath host, contents := listed.flatMap nixOptionLine,
            confFiles }) := by
      subst listed_eq
      rfl
    rw [prepared]
    cases checked : validateNixOptions listed with
    | error error =>
      refine .inl ⟨.inl ?_, error, rfl⟩
      by_contra kept
      push Not at kept
      rw [validateNixOptions_eq_ok.mpr kept] at checked
      cases checked
    | ok =>
      have valid := validateNixOptions_eq_ok.mp checked
      cases written : host.written with
      | error error => exact .inl ⟨.inr (.inl ⟨error, written⟩), _, rfl⟩
      | ok =>
        cases named : nixUserConfFiles host (nixOptionsPath host) with
        | error error => exact .inl ⟨.inr (.inr ⟨error, named⟩), error, rfl⟩
        | ok confFiles =>
          refine .inr ⟨valid, ?_, _, rfl, rfl⟩
          simp [NixOptionsHost.Fails, written, named]

/-! ## What is read -/

/-- A key that Nix reads as it is: one token without a comment. -/
def IsNixName (key : String) : Prop :=
  key ≠ "" ∧ ∀ char ∈ key.toList, isNixBlank char = false ∧ char ≠ '#'

/-- An option whose line Nix reads as it is meant. -/
def IsReadable (option : String × String) : Prop := IsNixName option.1 ∧ '#' ∉ option.2.toList

/-- What a line can start with: a word without blanks and comments that is no directive. -/
def PlainKey (key : List Char) : Prop :=
  key ≠ [] ∧ (∀ char ∈ key, isNixBlank char = false ∧ char ≠ '#') ∧
    key ≠ "include".toList ∧ key ≠ "!include".toList

instance (key : List Char) : Decidable (PlainKey key) :=
  have : Decidable (∀ char ∈ key, isNixBlank char = false ∧ char ≠ '#') := List.decidableBAll _ _
  inferInstanceAs (Decidable (_ ∧ _ ∧ _ ∧ _))

/-- The words of a line are its tokens up to a comment. -/
theorem nixWords_eq (line : List Char) :
    nixWords line = Text.tokens isNixBlank (line.takeWhile fun char => char ≠ '#') := rfl

/-- The words of a line that starts with a plain key and an equals sign. -/
theorem nixWords_option {key : List Char} (plain : PlainKey key) (value : List Char) :
    nixWords (key ++ " = ".toList ++ value) = key :: ['='] :: nixWords value := by
  obtain ⟨present, chars, _, _⟩ := plain
  have kept : (key ++ " = ".toList ++ value).takeWhile (fun char => char ≠ '#') =
      key ++ ' ' :: (['='] ++ ' ' :: value.takeWhile fun char => char ≠ '#') := by
    rw [List.append_assoc, List.takeWhile_append_of_pos fun char member => by
      simpa using (chars char member).2]
    rfl
  rw [nixWords_eq, kept, Text.tokens_append rfl, Text.tokens_append rfl,
    Text.tokens_single present fun char member => (chars char member).1]
  rfl

/-- A line that starts with a plain key and an equals sign is a setting of that key. -/
theorem readNixLine_setting {key : List Char} (plain : PlainKey key) (value : List Char) :
    readNixLine (key ++ " = ".toList ++ value) = .setting key := by
  rw [readNixLine, nixWords_option plain]
  dsimp only
  rw [if_neg (not_or.mpr plain.2.2), if_pos List.head?_cons]

/-- The words of a line that is read as a setting. -/
theorem readNixLine_eq_setting {line name : List Char} (found : readNixLine line = .setting name) :
    nixWords line = name :: ['='] :: (nixWords line).drop 2 := by
  unfold readNixLine at found
  split at found
  case h_1 => cases found
  case h_2 first words parts =>
    split at found
    · cases found
    split at found
    case isFalse => cases found
    case isTrue assigned =>
      obtain rfl := NixLine.setting.inj found
      obtain ⟨rest, rfl⟩ := List.head?_eq_some_iff.mp assigned
      rw [parts]
      rfl

/-- The tokens of what Nix sets the name of a line to. -/
theorem tokens_nixValue (line : List Char) :
    Text.tokens isNixBlank (nixValue line) = (nixWords line).drop 2 := by
  refine Text.tokens_intercalate rfl fun token listed => ?_
  rw [nixWords_eq] at listed
  have held := Text.mem_tokens (List.mem_of_mem_drop listed)
  exact ⟨held.1, fun char member => (held.2 char member).2⟩

/-- The line of a readable option that is not refused sets what the option says. -/
theorem sets_option {option : String × String} (kept : ¬ IsRefused option.1)
    (readable : IsReadable option) :
    Sets option (option.1.toList ++ " = ".toList ++ option.2.toList) := by
  obtain ⟨⟨nonempty, chars⟩, uncommented⟩ := readable
  have present : option.1.toList ≠ [] := by simpa using nonempty
  have first : ∀ word, (word = "include".toList ∨ word = "!include".toList) →
      firstWord word = some word := by
    rintro word (rfl | rfl)
    · decide
    · decide
  have plain : PlainKey option.1.toList := by
    refine ⟨present, chars, fun directive => kept (.inr (.inl ?_)),
      fun directive => kept (.inr (.inr ?_))⟩
    · rw [first _ (.inl directive), directive]
    · rw [first _ (.inr directive), directive]
  have whole : option.2.toList.takeWhile (fun char => char ≠ '#') = option.2.toList :=
    List.takeWhile_eq_self_iff.mpr fun char member =>
      decide_eq_true fun same => uncommented (same ▸ member)
  refine ⟨readNixLine_setting plain _, ?_⟩
  rw [tokens_nixValue, nixWords_option plain, nixWords_eq, whole]
  rfl

/-- An option whose line sets what it says is readable. -/
theorem isReadable_of_sets {option : String × String}
    (sets : Sets option (option.1.toList ++ " = ".toList ++ option.2.toList)) :
    IsReadable option := by
  obtain ⟨found, same⟩ := sets
  have parts := readNixLine_eq_setting found
  rw [← tokens_nixValue, same, nixWords_eq] at parts
  have uncommented : ∀ char ∈ (option.1.toList ++ " = ".toList ++ option.2.toList).takeWhile
      (fun char => char ≠ '#'), char ≠ '#' := fun char member => by
    simpa using List.mem_takeWhile_imp member
  have key := Text.mem_tokens (parts ▸ List.mem_cons_self)
  refine ⟨⟨?_, fun char member => ?_⟩, fun commented => ?_⟩
  · simpa using key.1
  · exact ⟨(key.2 char member).2, uncommented char (key.2 char member).1⟩
  · have held : '#' ∈ (Text.tokens isNixBlank option.2.toList).flatten := by
      rw [Text.flatten_tokens]
      exact List.mem_filter.mpr ⟨commented, rfl⟩
    obtain ⟨token, listed, member⟩ := List.mem_flatten.mp held
    have inside := Text.mem_tokens
      (parts ▸ List.mem_cons_of_mem _ (List.mem_cons_of_mem _ listed))
    exact uncommented '#' (inside.2 '#' member).1 rfl

/-- The lines of the generated file. -/
theorem splitOn_written {options : List (String × String)}
    (single : ∀ option ∈ options, '\n' ∉ option.1.toList ∧ '\n' ∉ option.2.toList) :
    (options.flatMap nixOptionLine).splitOn '\n' =
      (options.map fun option => option.1.toList ++ " = ".toList ++ option.2.toList) ++ [[]] := by
  induction options with
  | nil => rfl
  | cons option options ih =>
    obtain ⟨key, value⟩ := single option List.mem_cons_self
    have noFeed : '\n' ∉ option.1.toList ++ " = ".toList ++ option.2.toList := by
      rw [List.mem_append, List.mem_append]
      rintro ((member | member) | member)
      · exact key member
      · exact absurd member (by decide)
      · exact value member
    rw [List.flatMap_cons, nixOptionLine, List.append_assoc, List.singleton_append,
      List.splitOn_append_cons_self_of_not_mem noFeed, List.map_cons, List.cons_append,
      ih fun other member => single other (List.mem_cons_of_mem _ member)]

/-- The lines of the generated file match its options exactly when the line of every option does,
and something is left of it. -/
theorem forall₂_nixLines {relation : String × String → List Char → Prop}
    {options : List (String × String)}
    (single : ∀ option ∈ options, '\n' ∉ option.1.toList ∧ '\n' ∉ option.2.toList) :
    List.Forall₂ relation options (nixLines (options.flatMap nixOptionLine)) ↔
      ∀ option ∈ options,
        readNixLine (option.1.toList ++ " = ".toList ++ option.2.toList) ≠ .blank ∧
          relation option (option.1.toList ++ " = ".toList ++ option.2.toList) := by
  have lines : nixLines (options.flatMap nixOptionLine) = options.filterMap
      ((Option.guard fun line => readNixLine line ≠ .blank) ∘
        fun option => option.1.toList ++ " = ".toList ++ option.2.toList) := by
    rw [nixLines, splitOn_written single, List.filter_append, ← List.filterMap_eq_filter,
      List.filterMap_map]
    exact List.append_nil _
  rw [lines, forall₂_filterMap]
  refine forall₂_congr fun option _ => ?_
  simp [Option.guard_eq_some_iff]

/-- **Options reach the worker unchanged exactly when they are refused, the host fails, or every
key is one token and neither part of an option holds a comment.** -/
theorem nixOptions_reachWorker (host : NixOptionsHost) (options : List (String × String)) :
    ReachWorker host options ↔
      host.Fails ∨ (∃ option ∈ options, IsRefused option.1 ∨ IsRefused option.2) ∨
        ∀ option ∈ options, IsReadable option := by
  unfold ReachWorker
  obtain ⟨rfl, prepared⟩ | ⟨refused, error, prepared⟩ | ⟨valid, works, file, prepared, written⟩ :=
    prepareNixOptionsEnv_cases host options
  · rw [prepared]
    simp
  · rw [prepared]
    exact ⟨fun _ => refused.symm.imp_right .inl, fun _ => trivial⟩
  · have none_refused : ¬ ∃ option ∈ options, IsRefused option.1 ∨ IsRefused option.2 :=
      fun ⟨option, listed, refused⟩ => refused.elim (valid option listed).1 (valid option listed).2
    have single := validateNixOptions_ok (validateNixOptions_eq_ok.mpr valid)
    rw [prepared, or_iff_right works, or_iff_right none_refused]
    show List.Forall₂ Sets options (nixLines file.contents) ↔ _
    rw [written, forall₂_nixLines single]
    refine forall₂_congr fun option listed => ⟨fun found => isReadable_of_sets found.2, ?_⟩
    intro readable
    have sets := sets_option (valid option listed).1 readable
    exact ⟨sets.1 ▸ (nomatch ·), sets⟩

/-- A host whose worker has no other configuration. -/
def plainNixOptionsHost : NixOptionsHost where
  tempDir := "/tmp"
  process := 7
  nanos := 5
  previous := none
  defaultConfig := none
  written := .ok ()

/-- A value with a comment character is accepted, and Nix reads only the part before it. -/
theorem nixOptions_reachWorker_broken :
    ¬ ReachWorker plainNixOptionsHost [("allowed-uris", "github:a/b#c")] := by
  have prepared : prepareNixOptionsEnv plainNixOptionsHost [("allowed-uris", "github:a/b#c")] =
      .ok (some
        { path := "/tmp/evix-nix-options-7-5.conf"
          contents := "allowed-uris = github:a/b#c\n".toList
          confFiles := "/tmp/evix-nix-options-7-5.conf" }) := by
    decide +kernel
  have lines : nixLines "allowed-uris = github:a/b#c\n".toList =
      ["allowed-uris = github:a/b#c".toList] := by
    decide +kernel
  rw [ReachWorker, prepared]
  show ¬ List.Forall₂ Sets _ (nixLines _)
  rw [lines]
  intro kept
  obtain ⟨_, value⟩ := (List.forall₂_cons.mp kept).1
  revert value
  decide +kernel

end Evix
