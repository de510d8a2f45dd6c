import Evix.DaemonRequest
import Evix.Verif.WireCodec
import Mathlib.Data.List.TakeWhile

/-!
# Requests that mean the same in every directory

The daemon resolves a reference in its own working directory. The input of a request is made
canonical before it is sent, and the references of the input overrides are sent as they are.
-/

namespace Evix

open Fallible

/-- What `fs::canonicalize` does: a canonical path is absolute and its own canonical path, and the
working directory does not matter to an absolute path. -/
structure ClientPaths.Canonicalizes (paths : ClientPaths) : Prop where
  /-- A canonical path is absolute. -/
  absolute : ∀ directory path canonical,
    paths.canonicalize directory path = .ok canonical → canonical.isAbsolute = true
  /-- A canonical path is its own canonical path. -/
  idempotent : ∀ directory path canonical,
    paths.canonicalize directory path = .ok canonical →
    paths.canonicalize directory canonical = .ok canonical
  /-- An absolute path is resolved the same in every directory. -/
  independent : ∀ directory other path, path.isAbsolute = true →
    paths.canonicalize directory path = paths.canonicalize other path

section Portability

variable (paths : ClientPaths) (directory : PathBuf)

/-- The references of a configuration are fixed points of `daemon_flake_ref` in every directory, and
an input file is absolute. -/
structure Config.IsPortable (config : Config) : Prop where
  /-- The flake input. -/
  flake : ∀ reference, config.input = .flake reference →
    ∀ there, daemonFlakeRef paths there reference = .ok reference
  /-- The input overrides. -/
  overrides : ∀ replacement ∈ config.overrideInputs,
    ∀ there, daemonFlakeRef paths there replacement.2 = .ok replacement.2
  /-- The input file. -/
  file : ∀ path, config.input = .file path → path.isAbsolute = true

/-- A path is written as its canonical path. -/
def IsCanonicalPath (path : String) : Prop := canonicalFlakePath paths directory path = .ok path

/-- The path and the fragment of a reference that names a path. -/
def namedPath (reference : String) : Option (String × String) :=
  match stripPathScheme reference with
  | some pathRef => some (splitFlakeFragment pathRef)
  | none =>
    let path := (splitFlakeFragment reference).1
    if isRelativeFlakePath path || (PathBuf.ofStr path).isAbsolute then
      some (splitFlakeFragment reference)
    else none

/-- A reference that names no path, or names a canonical path by its scheme. -/
def IsPortableReference (reference : String) : Prop :=
  match stripPathScheme reference with
  | some pathRef => IsCanonicalPath paths directory (splitFlakeFragment pathRef).1
  | none => namedPath reference = none

/-- What a path stands for is canonical up to its first `#`. -/
def StandsForPortable (reference : String) : Prop :=
  ∀ path fragment, namedPath reference = some (path, fragment) →
    ∀ canonical, canonicalFlakePath paths directory path = .ok canonical →
      IsCanonicalPath paths directory (splitFlakeFragment canonical).1

end Portability

/-! ## Splitting -/

/-- The path of a reference is what stands before the first mark. -/
theorem splitFlakeFragment_fst (reference : String) :
    (splitFlakeFragment reference).1 = .ofList (reference.toList.takeWhile (· ≠ '#')) := by
  unfold splitFlakeFragment
  split
  · rename_i unmarked
    have whole := List.takeWhile_append_dropWhile (p := (· ≠ '#')) (l := reference.toList)
    rw [unmarked, List.append_nil] at whole
    rw [whole, String.ofList_toList]
  · rfl

/-- The fragment of a reference is empty or begins with the mark. -/
theorem splitFlakeFragment_snd (reference : String) :
    (splitFlakeFragment reference).2 = .ofList (reference.toList.dropWhile (· ≠ '#')) := by
  unfold splitFlakeFragment
  split
  · rename_i unmarked
    rw [unmarked]
  · rename_i first fragment marked
    have head := List.head?_dropWhile_not (p := (· ≠ '#')) reference.toList
    rw [marked] at head
    simp only [List.head?_cons, decide_eq_false_iff_not, not_not] at head
    rw [marked, head, ← String.toList_inj]
    simp

/-- A reference is its path and its fragment. -/
theorem splitFlakeFragment_append (reference : String) :
    (splitFlakeFragment reference).1 ++ (splitFlakeFragment reference).2 = reference := by
  rw [splitFlakeFragment_fst, splitFlakeFragment_snd, ← String.ofList_append,
    List.takeWhile_append_dropWhile, String.ofList_toList]

/-- What is dropped up to a mark adds nothing to what is taken up to it. -/
theorem takeWhile_append_dropped {α : Type} (p : α → Bool) (text rest : List α) :
    (text ++ rest.dropWhile p).takeWhile p = text.takeWhile p := by
  induction text with
  | nil =>
    induction rest with
    | nil => rfl
    | cons head rest ih =>
      cases passes : p head with
      | true => rw [List.dropWhile_cons_of_pos passes, ih]
      | false =>
        rw [List.dropWhile_cons_of_neg (Bool.not_eq_true _ ▸ passes), List.nil_append,
          List.takeWhile_cons, passes]
        rfl
  | cons head text ih => rw [List.cons_append, List.takeWhile_cons, List.takeWhile_cons, ih]

/-- A fragment behind a text does not change the path of the text. -/
theorem splitFlakeFragment_fragment (text reference : String) :
    (splitFlakeFragment (text ++ (splitFlakeFragment reference).2)).1 =
      (splitFlakeFragment text).1 := by
  rw [splitFlakeFragment_fst, splitFlakeFragment_fst, splitFlakeFragment_snd,
    String.toList_append, String.toList_ofList, takeWhile_append_dropped]

/-- A text without a mark is its own path. -/
theorem splitFlakeFragment_unmarked {text : String} (unmarked : '#' ∉ text.toList) :
    (splitFlakeFragment text).1 = text := by
  have whole : text.toList.takeWhile (· ≠ '#') = text.toList := by
    refine List.takeWhile_eq_self_iff.mpr fun char member => ?_
    exact decide_eq_true fun same => unmarked (same ▸ member)
  rw [splitFlakeFragment_fst, whole, String.ofList_toList]

/-- What `isPrefixOf?` gives is what comes after. -/
theorem isPrefixOf?_eq_some {leading text rest : List Char} :
    leading.isPrefixOf? text = some rest ↔ text = leading ++ rest := by
  induction leading generalizing text with
  | nil => simp [List.isPrefixOf?]
  | cons first leading ih =>
    cases text with
    | nil => simp [List.isPrefixOf?]
    | cons char text =>
      by_cases same : first = char
      · subst same
        simp [List.isPrefixOf?, ih]
      · simp [List.isPrefixOf?, same, Ne.symm same]

/-- The scheme of path references. -/
theorem stripPathScheme_eq_some {reference pathRef : String} :
    stripPathScheme reference = some pathRef ↔ reference = "path:" ++ pathRef := by
  unfold stripPathScheme
  rw [Option.map_eq_some_iff]
  constructor
  · rintro ⟨rest, found, rfl⟩
    have parts := isPrefixOf?_eq_some.mp found
    rw [← String.toList_inj, parts, String.toList_append]
    exact congrArg _ String.toList_ofList.symm
  · rintro rfl
    refine ⟨pathRef.toList, isPrefixOf?_eq_some.mpr String.toList_append, ?_⟩
    exact String.ofList_toList

/-! ## References -/

section References

variable {paths : ClientPaths} {directory : PathBuf} {reference carried : String}

/-- `daemon_flake_ref` by the path that a reference names. -/
theorem daemonFlakeRef_eq : daemonFlakeRef paths directory reference =
    match namedPath reference with
    | some (path, fragment) => do
      return "path:" ++ (← canonicalFlakePath paths directory path) ++ fragment
    | none => .ok reference := by
  unfold daemonFlakeRef namedPath
  cases stripPathScheme reference with
  | some pathRef => rfl
  | none =>
    dsimp only
    split <;> rfl

/-- What `daemon_flake_ref` makes of a reference that names a path. -/
theorem daemonFlakeRef_named {path fragment : String}
    (named : namedPath reference = some (path, fragment)) :
    daemonFlakeRef paths directory reference = .ok carried ↔
      ∃ canonical, canonicalFlakePath paths directory path = .ok canonical ∧
        carried = "path:" ++ canonical ++ fragment := by
  rw [daemonFlakeRef_eq, named]
  constructor
  · intro made
    obtain ⟨canonical, found, made⟩ := bind_eq_ok made
    exact ⟨canonical, found, (Except.ok.inj made).symm⟩
  · rintro ⟨canonical, found, rfl⟩
    simp only [found]
    rfl

/-- The path that a reference names, and its fragment, are split from it. -/
theorem namedPath_split {path fragment : String}
    (named : namedPath reference = some (path, fragment)) :
    ∃ text, fragment = (splitFlakeFragment text).2 := by
  unfold namedPath at named
  split at named
  · rename_i pathRef _
    exact ⟨pathRef, congrArg Prod.snd (Option.some.inj named).symm⟩
  · dsimp only at named
    split at named
    · exact ⟨reference, congrArg Prod.snd (Option.some.inj named).symm⟩
    · cases named

/-- The fixed points of `daemon_flake_ref`. -/
theorem daemonFlakeRef_fixed :
    daemonFlakeRef paths directory reference = .ok reference ↔
      IsPortableReference paths directory reference := by
  unfold IsPortableReference
  cases schemed : stripPathScheme reference with
  | some pathRef =>
    have named : namedPath reference =
        some ((splitFlakeFragment pathRef).1, (splitFlakeFragment pathRef).2) := by
      rw [namedPath, schemed]
    have whole := stripPathScheme_eq_some.mp schemed
    rw [daemonFlakeRef_named named]
    constructor
    · rintro ⟨canonical, found, same⟩
      have parts := splitFlakeFragment_append pathRef
      rw [whole, String.append_assoc, String.append_right_inj] at same
      have own := (String.append_left_inj _).mp (parts.trans same)
      rw [← own] at found
      exact found
    · intro canonical
      refine ⟨_, canonical, ?_⟩
      rw [whole, String.append_assoc, splitFlakeFragment_append]
  | none =>
    cases named : namedPath reference with
    | none =>
      rw [daemonFlakeRef_eq, named]
      exact ⟨fun _ => rfl, fun _ => rfl⟩
    | some pair =>
      obtain ⟨path, fragment⟩ := pair
      rw [daemonFlakeRef_named named]
      constructor
      · rintro ⟨canonical, found, same⟩
        rw [String.append_assoc] at same
        cases schemed.symm.trans (stripPathScheme_eq_some.mpr same)
      · intro absent
        cases absent

/-- What `daemon_flake_ref` makes of a reference is a fixed point exactly when what the path of the
reference stands for is canonical up to its first mark. -/
theorem daemonFlakeRef_portable (made : daemonFlakeRef paths directory reference = .ok carried) :
    daemonFlakeRef paths directory carried = .ok carried ↔
      StandsForPortable paths directory reference := by
  rw [daemonFlakeRef_fixed]
  cases named : namedPath reference with
  | none =>
    rw [daemonFlakeRef_eq, named] at made
    obtain rfl := Except.ok.inj made
    have unschemed : stripPathScheme reference = none := by
      unfold namedPath at named
      split at named
      · cases named
      · assumption
    rw [IsPortableReference, unschemed]
    refine ⟨fun _ path fragment named' => ?_, fun _ => named⟩
    cases named.symm.trans named'
  | some pair =>
    obtain ⟨path, fragment⟩ := pair
    obtain ⟨canonical, found, rfl⟩ := (daemonFlakeRef_named named).mp made
    obtain ⟨text, rfl⟩ := namedPath_split named
    rw [IsPortableReference, stripPathScheme_eq_some.mpr String.append_assoc]
    dsimp only
    rw [splitFlakeFragment_fragment]
    constructor
    · intro portable other rest named' again found'
      obtain ⟨rfl, rfl⟩ := Prod.mk.inj (Option.some.inj (named.symm.trans named'))
      obtain rfl := Except.ok.inj (found.symm.trans found')
      exact portable
    · intro stands
      exact stands path _ named canonical found

/-- The canonical path that a text is written as. -/
theorem canonicalFlakePath_eq_ok {path text : String} :
    canonicalFlakePath paths directory path = .ok text ↔
      ∃ canonical, paths.canonicalize directory (.ofStr (if path.isEmpty then "." else path)) =
        .ok canonical ∧ canonical.toStr = some text := by
  unfold canonicalFlakePath
  constructor
  · intro found
    dsimp only at found
    split at found
    · cases found
    · rename_i canonical made
      split at found
      · rename_i written
        obtain rfl := Except.ok.inj found
        exact ⟨canonical, made, written⟩
      · cases found
  · rintro ⟨canonical, made, written⟩
    simp only [made, written]

/-- A text that is a canonical path is the path it stands for. -/
theorem IsCanonicalPath.self (canonicalizes : paths.Canonicalizes) {path : String}
    (canonical : IsCanonicalPath paths directory path) :
    path.isEmpty = false ∧ paths.canonicalize directory (.ofStr path) = .ok (.ofStr path) := by
  obtain ⟨found, made, written⟩ := canonicalFlakePath_eq_ok.mp canonical
  have same := ofStr_eq written
  have full : path.isEmpty = false := by
    have absolute := canonicalizes.absolute _ _ _ made
    cases empty : path.isEmpty with
    | false => rfl
    | true =>
      rw [← same, String.isEmpty_iff.mp empty] at absolute
      cases absolute
  rw [full, if_neg Bool.false_ne_true] at made
  rw [← same] at made
  exact ⟨full, made⟩

/-- A canonical path is canonical in every directory. -/
theorem IsCanonicalPath.everywhere (canonicalizes : paths.Canonicalizes) {path : String}
    (canonical : IsCanonicalPath paths directory path) (there : PathBuf) :
    IsCanonicalPath paths there path := by
  obtain ⟨full, made⟩ := canonical.self canonicalizes
  have absolute := canonicalizes.absolute _ _ _ made
  refine canonicalFlakePath_eq_ok.mpr ⟨.ofStr path, ?_, ?_⟩
  · rw [full, if_neg Bool.false_ne_true, ← canonicalizes.independent directory there _ absolute]
    exact made
  · obtain ⟨found, _, written⟩ := canonicalFlakePath_eq_ok.mp canonical
    rw [ofStr_eq written]
    exact written

/-- A fixed point of `daemon_flake_ref` is one in every directory. -/
theorem daemonFlakeRef_everywhere (canonicalizes : paths.Canonicalizes)
    (fixed : daemonFlakeRef paths directory reference = .ok reference) (there : PathBuf) :
    daemonFlakeRef paths there reference = .ok reference := by
  rw [daemonFlakeRef_fixed] at fixed ⊢
  unfold IsPortableReference at fixed ⊢
  split
  · rename_i pathRef schemed
    rw [schemed] at fixed
    exact IsCanonicalPath.everywhere canonicalizes fixed there
  · rename_i unschemed
    rw [unschemed] at fixed
    exact fixed

/-- A path without a mark in its canonical path stands for a portable one. -/
theorem standsForPortable_of_unmarked (canonicalizes : paths.Canonicalizes)
    (unmarked : ∀ path fragment, namedPath reference = some (path, fragment) →
      ∀ canonical, canonicalFlakePath paths directory path = .ok canonical →
        '#' ∉ canonical.toList) : StandsForPortable paths directory reference := by
  intro path fragment named canonical made
  rw [splitFlakeFragment_unmarked (unmarked path fragment named canonical made)]
  obtain ⟨found, resolved, written⟩ := canonicalFlakePath_eq_ok.mp made
  have absolute := canonicalizes.absolute _ _ _ resolved
  have full : canonical.isEmpty = false := by
    cases empty : canonical.isEmpty with
    | false => rfl
    | true =>
      rw [← ofStr_eq written, String.isEmpty_iff.mp empty] at absolute
      cases absolute
  refine canonicalFlakePath_eq_ok.mpr ⟨found, ?_, written⟩
  rw [full, if_neg Bool.false_ne_true, ofStr_eq written]
  exact canonicalizes.idempotent _ _ _ resolved

end References

/-! ## Requests -/

section Requests

variable {paths : ClientPaths} {directory : PathBuf}

/-- The configuration of a request that is prepared for the daemon. -/
theorem daemonRequest_config {request carried : Request}
    (made : daemonRequest paths directory request = .ok carried) :
    daemonConfig paths directory request.config = .ok carried.config := by
  cases request <;>
    obtain ⟨config, prepared, rfl⟩ := map_eq_ok made <;>
    exact prepared

/-- What a configuration that is prepared for the daemon has changed. -/
theorem daemonConfig_eq_ok {config carried : Config}
    (made : daemonConfig paths directory config = .ok carried) :
    ∃ input, daemonInput paths directory config.input = .ok input ∧
      carried = { config with input } := by
  obtain ⟨input, prepared, made⟩ := bind_eq_ok made
  exact ⟨input, prepared, (Except.ok.inj made).symm⟩

/-- What an input becomes. -/
theorem daemonInput_cases {input carried : Input}
    (prepared : daemonInput paths directory input = .ok carried) :
    (∃ path canonical, input = .file path ∧ carried = .file canonical ∧
      paths.canonicalize directory path = .ok canonical) ∨
    (∃ reference kept, input = .flake reference ∧ carried = .flake kept ∧
      daemonFlakeRef paths directory reference = .ok kept) ∨
    ∃ expression, input = .expr expression ∧ carried = .expr expression := by
  cases input with
  | file path =>
    unfold daemonInput at prepared
    dsimp only at prepared
    split at prepared
    · rename_i canonical made
      exact .inl ⟨path, canonical, rfl, (Except.ok.inj prepared).symm, made⟩
    · cases prepared
  | flake reference =>
    obtain ⟨kept, rewritten, same⟩ := map_eq_ok prepared
    exact .inr (.inl ⟨reference, kept, rfl, same.symm, rewritten⟩)
  | expr expression =>
    exact .inr (.inr ⟨expression, rfl, (Except.ok.inj prepared).symm⟩)

/-- The daemon resolves what a request carries as the client would exactly when the canonical path
of the flake input is canonical up to its first mark, and every input override names no path or
names a canonical one by its scheme. -/
theorem daemonRequest_portable (canonicalizes : paths.Canonicalizes) {request carried : Request}
    (made : daemonRequest paths directory request = .ok carried) :
    carried.config.IsPortable paths ↔
      (∀ reference, request.config.input = .flake reference →
        StandsForPortable paths directory reference) ∧
      ∀ replacement ∈ request.config.overrideInputs,
        IsPortableReference paths directory replacement.2 := by
  obtain ⟨input, prepared, same⟩ := daemonConfig_eq_ok (daemonRequest_config made)
  have overridden : (∀ replacement ∈ request.config.overrideInputs,
      ∀ there, daemonFlakeRef paths there replacement.2 = .ok replacement.2) ↔
      ∀ replacement ∈ request.config.overrideInputs,
        IsPortableReference paths directory replacement.2 := by
    refine forall_congr' fun replacement => forall_congr' fun _ => ?_
    refine ⟨fun fixed => ?_, fun portable => ?_⟩
    · exact daemonFlakeRef_fixed.mp (fixed directory)
    · exact daemonFlakeRef_everywhere canonicalizes (daemonFlakeRef_fixed.mpr portable)
  rw [same, ← overridden]
  obtain ⟨path, canonical, given, rfl, made⟩ | ⟨reference, kept, given, rfl, rewritten⟩ |
    ⟨expression, given, rfl⟩ := daemonInput_cases prepared
  · constructor
    · intro portable
      refine ⟨fun reference flake => ?_, portable.overrides⟩
      cases given.symm.trans flake
    · rintro ⟨_, overrides⟩
      refine ⟨nofun, overrides, fun path file => ?_⟩
      rw [← Input.file.inj file]
      exact canonicalizes.absolute _ _ _ made
  · constructor
    · intro portable
      refine ⟨fun original flake => ?_, portable.overrides⟩
      obtain rfl := Input.flake.inj (given.symm.trans flake)
      exact (daemonFlakeRef_portable rewritten).mp (portable.flake kept rfl directory)
    · rintro ⟨flake, overrides⟩
      refine ⟨fun other same => ?_, overrides, nofun⟩
      rw [← Input.flake.inj same]
      exact daemonFlakeRef_everywhere canonicalizes
        ((daemonFlakeRef_portable rewritten).mpr (flake reference given))
  · constructor
    · intro portable
      refine ⟨fun reference flake => ?_, portable.overrides⟩
      cases given.symm.trans flake
    · rintro ⟨_, overrides⟩
      exact ⟨nofun, overrides, nofun⟩

end Requests

/-! ## A machine -/

/-- The directories of a machine. -/
def exampleDirectories : List String := ["/home/user", "/home/user/nixpkgs", "/home/user/c#"]

/-- The directory that a path names from another one. -/
def exampleResolve (directory path : PathBuf) : PathBuf :=
  if path.isAbsolute then path
  else if path = .ofStr "." then directory
  else if path = .ofStr "./nixpkgs" then ⟨directory.bytes ++ (PathBuf.ofStr "/nixpkgs").bytes⟩
  else path

/-- The paths of a machine with these directories. -/
def examplePaths : ClientPaths where
  canonicalize directory path :=
    if exampleResolve directory path ∈ exampleDirectories.map .ofStr then
      .ok (exampleResolve directory path)
    else .error "No such file or directory (os error 2)"
  display path := path.toStr.getD ""
  debug path := "\"" ++ path.toStr.getD "" ++ "\""

/-- Paths are canonicalized as they should be when each is resolved to a known absolute path, and an
absolute path to itself. -/
theorem canonicalizes_of_resolve {paths : ClientPaths} {known : List PathBuf}
    {resolve : PathBuf → PathBuf → PathBuf} {missing : String}
    (absolute : ∀ path ∈ known, path.isAbsolute = true)
    (still : ∀ directory path, path.isAbsolute = true → resolve directory path = path)
    (resolves : ∀ directory path, paths.canonicalize directory path =
      if resolve directory path ∈ known then .ok (resolve directory path) else .error missing) :
    paths.Canonicalizes := by
  have result : ∀ directory path canonical,
      paths.canonicalize directory path = .ok canonical → canonical ∈ known := by
    intro directory path canonical made
    rw [resolves] at made
    split at made
    · rename_i there
      exact Except.ok.inj made ▸ there
    · cases made
  refine ⟨fun directory path canonical made => absolute _ (result _ _ _ made),
    fun directory path canonical made => ?_, fun directory other path absolute => ?_⟩
  · have there := result _ _ _ made
    rw [resolves, still _ _ (absolute _ there), if_pos there]
  · rw [resolves, resolves, still _ _ absolute, still _ _ absolute]

/-- Its paths are canonicalized as they should be. -/
theorem examplePaths_canonicalizes : examplePaths.Canonicalizes := by
  have known : ∀ path ∈ exampleDirectories.map PathBuf.ofStr, path.isAbsolute = true := by
    decide +kernel
  exact canonicalizes_of_resolve known (fun _ _ absolute => if_pos absolute) fun _ _ => rfl

/-- A configuration of a flake with an override of its input `nixpkgs`. -/
def overrideConfig (reference replacement : String) : Config :=
  { Config.default with input := .flake reference, overrideInputs := [("nixpkgs", replacement)] }

/-- A request for the current directory with an override by a canonical path. -/
theorem daemonRequest_portable_canonical :
    (overrideConfig "path:/home/user#jobs" "path:/home/user/nixpkgs").IsPortable examplePaths := by
  have prepared : daemonConfig examplePaths (.ofStr "/home/user")
      (overrideConfig ".#jobs" "path:/home/user/nixpkgs") =
        .ok (overrideConfig "path:/home/user#jobs" "path:/home/user/nixpkgs") := by
    decide +kernel
  have made : daemonRequest examplePaths (.ofStr "/home/user")
      (.eval (overrideConfig ".#jobs" "path:/home/user/nixpkgs")) =
        .ok (.eval (overrideConfig "path:/home/user#jobs" "path:/home/user/nixpkgs")) :=
    congrArg (Request.eval <$> ·) prepared
  refine (daemonRequest_portable examplePaths_canonicalizes made).mpr
    ⟨fun reference given => ?_, fun replacement member => ?_⟩
  · obtain rfl := Input.flake.inj given
    have names : namedPath ".#jobs" = some (".", "#jobs") := by decide +kernel
    have stands : canonicalFlakePath examplePaths (.ofStr "/home/user") "." =
        .ok "/home/user" := by decide +kernel
    refine standsForPortable_of_unmarked examplePaths_canonicalizes ?_
    intro path fragment named canonical resolved
    obtain ⟨rfl, _⟩ := Prod.mk.inj (Option.some.inj (names.symm.trans named))
    obtain rfl := Except.ok.inj (stands.symm.trans resolved)
    decide
  · obtain rfl := List.mem_singleton.mp member
    refine daemonFlakeRef_fixed.mp ?_
    decide +kernel

/-- An override by a relative path is sent as it is, and a directory whose name holds the mark is
cut at the mark. -/
theorem daemonRequest_portable_broken :
    (daemonConfig examplePaths (.ofStr "/home/user") (overrideConfig "." "./nixpkgs") =
        .ok (overrideConfig "path:/home/user" "./nixpkgs") ∧
      ¬ (overrideConfig "path:/home/user" "./nixpkgs").IsPortable examplePaths) ∧
    daemonConfig examplePaths (.ofStr "/home/user/c#") { Config.default with input := .flake "." } =
        .ok { Config.default with input := .flake "path:/home/user/c#" } ∧
      ¬ { Config.default with input := .flake "path:/home/user/c#" }.IsPortable examplePaths := by
  refine ⟨⟨by decide +kernel, fun portable => ?_⟩, by decide +kernel, fun portable => ?_⟩
  · have resolves : daemonFlakeRef examplePaths (.ofStr "/home/user") "./nixpkgs" =
        .ok "path:/home/user/nixpkgs" := by decide +kernel
    have fixed := portable.overrides _ (List.mem_singleton_self _) (.ofStr "/home/user")
    exact absurd (Except.ok.inj (resolves.symm.trans fixed)) (by decide)
  · have resolves : daemonFlakeRef examplePaths (.ofStr "/home/user/c#") "path:/home/user/c#" =
        .error "canonicalizing flake path \"/home/user/c\"" := by decide +kernel
    have fixed := portable.flake _ rfl (.ofStr "/home/user/c#")
    cases resolves.symm.trans fixed

end Evix
