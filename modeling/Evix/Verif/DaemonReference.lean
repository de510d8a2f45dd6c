import Evix.Verif.FlakeReference

/-!
# What a reference means to the daemon

The command line makes the references of local flakes absolute, because the daemon runs in the root
directory.
-/

namespace Evix

/-- The fragment of a reference, with its mark. -/
def flakeFragment (reference : String) : String := (splitFlakeFragment (schemeless reference)).2

section Meaning

variable (paths : ClientPaths) (directory : PathBuf)

/-- The canonical path of the directory that a reference names. -/
def namedDirectory (reference : String) : Except String PathBuf :=
  let path := flakePath reference
  paths.canonicalize directory (.ofStr (if path.isEmpty then "." else path))

/-- The directory that the daemon runs in. -/
def daemonDirectory : PathBuf := .ofStr "/"

/-- A reference names to the daemon what another one names to the client, and it is not rewritten
again. -/
structure KeepsMeaning (reference carried : String) : Prop where
  /-- The same directory. -/
  directory :
    namedDirectory paths daemonDirectory carried = namedDirectory paths directory reference
  /-- The same fragment. -/
  fragment : flakeFragment carried = flakeFragment reference
  /-- Nothing is left to rewrite. -/
  fixed : ∀ there, daemonFlakeRef paths there carried = .ok carried

/-- A local reference to a directory that exists is rewritten to one of the same meaning, and every
other reference that is returned unchanged is not local. -/
structure IsRewrittenWell (reference : String) : Prop where
  /-- A local reference to a directory that exists. -/
  kept : ∀ found, isLocalFlakeReference reference = true →
    namedDirectory paths directory reference = .ok found →
    ∃ carried, daemonFlakeRef paths directory reference = .ok carried ∧
      KeepsMeaning paths directory reference carried
  /-- Another reference. -/
  other : ¬ (isLocalFlakeReference reference = true ∧
      ∃ found, namedDirectory paths directory reference = .ok found) →
    daemonFlakeRef paths directory reference = .ok reference →
    isLocalFlakeReference reference = false

/-- The references to the parent directory without the scheme. -/
def NamesParent (reference : String) : Prop :=
  stripPathScheme reference = none ∧ flakePath reference = ".."

/-- What a local reference needs to keep its meaning: the parent directory, when it is named without
the scheme, exists and is that of the daemon as well; any other directory has a canonical path that
is text without the mark. -/
def MeaningCondition (reference : String) : Prop :=
  isLocalFlakeReference reference = true →
    (NamesParent reference → ∃ found, paths.canonicalize directory (.ofStr "..") = .ok found ∧
      paths.canonicalize daemonDirectory (.ofStr "..") = .ok found) ∧
    (¬ NamesParent reference → ∀ found, namedDirectory paths directory reference = .ok found →
      ∃ text, found.toStr = some text ∧ '#' ∉ text.toList)

end Meaning

section Rewriting

variable {paths : ClientPaths} {directory : PathBuf} {reference : String}

/-- The path of a local reference is local. -/
theorem isLocalPath_of_local (taken : isLocalFlakeReference reference = true) :
    IsLocalPath (flakePath reference) := by
  refine (isLocalFlakeReference_path fun schemed => by_contra fun unmarked => ?_).mp taken
  rw [isLocalFlakeReference_scheme schemed unmarked] at taken
  cases taken

/-- The parent directory without the scheme is not seen as a path. -/
theorem namedPath_parent (parent : NamesParent reference) : namedPath reference = none := by
  have path : (splitFlakeFragment reference).1 = ".." := by
    rw [← parent.2, flakePath, schemeless, parent.1, Option.getD_none]
  have refused : (isRelativeFlakePath ".." || (PathBuf.ofStr "..").isAbsolute) = false := by
    decide +kernel
  unfold namedPath
  rw [parent.1]
  dsimp only
  rw [path, refused]
  rfl

/-- Any other local reference is seen as a path. -/
theorem namedPath_local (taken : isLocalFlakeReference reference = true)
    (other : ¬ NamesParent reference) :
    namedPath reference = some (flakePath reference, flakeFragment reference) := by
  have form := isLocalPath_of_local taken
  unfold namedPath flakePath flakeFragment schemeless
  cases schemed : stripPathScheme reference with
  | some pathRef => rfl
  | none =>
    have path : flakePath reference = (splitFlakeFragment reference).1 := by
      rw [flakePath, schemeless, schemed, Option.getD_none]
    have level : (splitFlakeFragment reference).1 ≠ ".." := fun parent =>
      other ⟨schemed, path.trans parent⟩
    have seen : (isRelativeFlakePath (splitFlakeFragment reference).1 ||
        (PathBuf.ofStr (splitFlakeFragment reference).1).isAbsolute) = true := by
      rw [path] at form
      rw [Bool.or_eq_true, isAbsolute_ofStr]
      unfold isRelativeFlakePath
      simp only [Bool.or_eq_true, String.isEmpty_iff, beq_iff_eq, List.isPrefixOf_iff_prefix]
      rcases form with (empty | current | parent | slash | below) | above
      · exact .inl (.inl (.inl (.inl (.inl empty))))
      · exact .inl (.inl (.inl (.inl (.inr current))))
      · exact absurd parent level
      · exact .inr slash
      · exact .inl (.inl (.inl (.inr below)))
      · exact .inl (.inl (.inr above))
    dsimp only
    rw [seen]
    rfl

/-- The parent directory without the scheme is returned as it is. -/
theorem daemonFlakeRef_parent (parent : NamesParent reference) :
    daemonFlakeRef paths directory reference = .ok reference := by
  rw [daemonFlakeRef_eq, namedPath_parent parent]

/-- What the parent directory without the scheme needs. -/
theorem isRewrittenWell_parent (taken : isLocalFlakeReference reference = true)
    (parent : NamesParent reference) :
    IsRewrittenWell paths directory reference ↔
      ∃ found, paths.canonicalize directory (.ofStr "..") = .ok found ∧
        paths.canonicalize daemonDirectory (.ofStr "..") = .ok found := by
  have names : ∀ here, namedDirectory paths here reference =
      paths.canonicalize here (.ofStr "..") := fun here => by
    rw [namedDirectory, parent.2]
    rfl
  constructor
  · intro well
    cases resolved : paths.canonicalize directory (.ofStr "..") with
    | error error =>
      have missing : ¬ (isLocalFlakeReference reference = true ∧
          ∃ found, namedDirectory paths directory reference = .ok found) := by
        rintro ⟨_, found, there⟩
        cases ((names directory).trans resolved).symm.trans there
      cases taken.symm.trans (well.other missing (daemonFlakeRef_parent parent))
    | ok found =>
      obtain ⟨carried, made, keeps⟩ := well.kept found taken ((names directory).trans resolved)
      obtain rfl := Except.ok.inj ((daemonFlakeRef_parent parent).symm.trans made)
      have same := keeps.directory
      rw [names, names, resolved] at same
      exact ⟨found, rfl, same⟩
  · rintro ⟨found, here, there⟩
    refine ⟨fun _ _ _ => ⟨reference, daemonFlakeRef_parent parent, ?_, rfl, fun _ => ?_⟩,
      fun missing => ?_⟩
    · rw [names, names, here, there]
    · exact daemonFlakeRef_parent parent
    · exact absurd ⟨taken, found, (names directory).trans here⟩ missing

/-- What another local reference to a directory that exists is rewritten to. -/
theorem daemonFlakeRef_local (taken : isLocalFlakeReference reference = true)
    (other : ¬ NamesParent reference) {found : PathBuf}
    (resolved : namedDirectory paths directory reference = .ok found) (carried : String) :
    daemonFlakeRef paths directory reference = .ok carried ↔
      ∃ text, found.toStr = some text ∧ carried = "path:" ++ text ++ flakeFragment reference := by
  rw [daemonFlakeRef_named (namedPath_local taken other)]
  refine exists_congr fun text => and_congr_left fun _ => canonicalFlakePath_eq_ok.trans ?_
  refine ⟨fun ⟨canonical, made, written⟩ => ?_, fun written => ⟨found, resolved, written⟩⟩
  obtain rfl := Except.ok.inj (resolved.symm.trans made)
  exact written

/-- What is left of a reference that is put together again, without its scheme. -/
theorem schemeless_rendered (text fragment : String) :
    schemeless ("path:" ++ text ++ fragment) = text ++ fragment := by
  rw [schemeless, stripPathScheme_eq_some.mpr String.append_assoc, Option.getD_some]

/-- A path with the scheme in front and a fragment behind is cut at its own first mark. -/
theorem flakePath_rendered (text reference : String) :
    flakePath ("path:" ++ text ++ flakeFragment reference) = (splitFlakeFragment text).1 := by
  rw [flakePath, schemeless_rendered, flakeFragment, splitFlakeFragment_fragment]

/-- The fragment that is put behind a path is read again exactly when the path has no mark. -/
theorem flakeFragment_rendered (text reference : String) :
    flakeFragment ("path:" ++ text ++ flakeFragment reference) = flakeFragment reference ↔
      '#' ∉ text.toList := by
  have parts := splitFlakeFragment_append (text ++ flakeFragment reference)
  have path : (splitFlakeFragment (text ++ flakeFragment reference)).1 =
      (splitFlakeFragment text).1 := splitFlakeFragment_fragment text _
  rw [path] at parts
  rw [flakeFragment, schemeless_rendered]
  constructor
  · intro same marked
    rw [same, String.append_left_inj, splitFlakeFragment_fst] at parts
    have cut : '#' ∈ text.toList.takeWhile (· ≠ '#') := by
      rw [← String.toList_ofList (l := text.toList.takeWhile (· ≠ '#')), parts]
      exact marked
    simpa using List.mem_takeWhile_imp cut
  · intro unmarked
    rw [splitFlakeFragment_unmarked unmarked, String.append_right_inj] at parts
    exact parts

/-- What another local reference needs: the canonical path of its directory is text without the
mark. -/
theorem isRewrittenWell_other (canonicalizes : paths.Canonicalizes)
    (taken : isLocalFlakeReference reference = true) (other : ¬ NamesParent reference) :
    IsRewrittenWell paths directory reference ↔
      ∀ found, namedDirectory paths directory reference = .ok found →
        ∃ text, found.toStr = some text ∧ '#' ∉ text.toList := by
  constructor
  · intro well found resolved
    obtain ⟨carried, made, keeps⟩ := well.kept found taken resolved
    obtain ⟨text, written, rfl⟩ := (daemonFlakeRef_local taken other resolved carried).mp made
    exact ⟨text, written, (flakeFragment_rendered text reference).mp keeps.fragment⟩
  · intro plain
    refine ⟨fun found _ resolved => ?_, fun missing returned => ?_⟩
    · obtain ⟨text, written, unmarked⟩ := plain found resolved
      have rendered : canonicalFlakePath paths directory (flakePath reference) = .ok text :=
        canonicalFlakePath_eq_ok.mpr ⟨found, resolved, written⟩
      have stands : StandsForPortable paths directory reference := by
        refine standsForPortable_of_unmarked canonicalizes ?_
        intro path fragment named canonical made
        obtain ⟨rfl, _⟩ :=
          Prod.mk.inj (Option.some.inj ((namedPath_local taken other).symm.trans named))
        obtain rfl := Except.ok.inj (rendered.symm.trans made)
        exact unmarked
      have own : IsCanonicalPath paths directory text := by
        have cut := stands _ _ (namedPath_local taken other) text rendered
        rwa [splitFlakeFragment_unmarked unmarked] at cut
      have made : daemonFlakeRef paths directory reference =
          .ok ("path:" ++ text ++ flakeFragment reference) :=
        (daemonFlakeRef_local taken other resolved _).mpr ⟨text, written, rfl⟩
      refine ⟨_, made, ?_, (flakeFragment_rendered text reference).mpr unmarked, ?_⟩
      · obtain ⟨full, there⟩ := (own.everywhere canonicalizes daemonDirectory).self canonicalizes
        rw [resolved, namedDirectory, flakePath_rendered, splitFlakeFragment_unmarked unmarked]
        rw [full, if_neg Bool.false_ne_true, there, ofStr_eq written]
      · exact daemonFlakeRef_everywhere canonicalizes ((daemonFlakeRef_portable made).mpr stands)
    · have named := namedPath_local taken other
      obtain ⟨canonical, made, _⟩ := (daemonFlakeRef_named named).mp returned
      obtain ⟨found, resolved, _⟩ := canonicalFlakePath_eq_ok.mp made
      exact absurd ⟨taken, found, resolved⟩ missing

/-- **A reference keeps its meaning on the way to the daemon, exactly when it meets the condition.**
-/
theorem daemonFlakeRef_meaning (canonicalizes : paths.Canonicalizes) (directory : PathBuf)
    (reference : String) :
    IsRewrittenWell paths directory reference ↔ MeaningCondition paths directory reference := by
  unfold MeaningCondition
  cases taken : isLocalFlakeReference reference with
  | false =>
    refine ⟨fun _ => nofun, fun _ => ⟨fun _ contrary => ?_, fun _ _ => taken⟩⟩
    cases taken.symm.trans contrary
  | true =>
    rw [forall_prop_of_true rfl]
    by_cases parent : NamesParent reference
    · rw [isRewrittenWell_parent taken parent]
      exact ⟨fun same => ⟨fun _ => same, fun other => absurd parent other⟩,
        fun both => both.1 parent⟩
    · rw [isRewrittenWell_other canonicalizes taken parent]
      exact ⟨fun plain => ⟨fun contrary => absurd contrary parent, fun _ => plain⟩,
        fun both => both.2 parent⟩

end Rewriting

/-! ## Directories of a machine -/

/-- The current directory keeps its meaning when no directory above it has the mark in its name. -/
theorem daemonFlakeRef_meaning_current :
    IsRewrittenWell examplePaths (.ofStr "/home/user") ".#jobs" := by
  refine (daemonFlakeRef_meaning examplePaths_canonicalizes _ _).mpr fun _ =>
    ⟨fun parent => ?_, fun _ found resolved => ?_⟩
  · have path : flakePath ".#jobs" = "." := by decide +kernel
    exact absurd (path.symm.trans parent.2) (by decide)
  · have names : namedDirectory examplePaths (.ofStr "/home/user") ".#jobs" =
        .ok (.ofStr "/home/user") := by decide +kernel
    obtain rfl := Except.ok.inj (names.symm.trans resolved)
    exact ⟨"/home/user", by decide +kernel, by decide +kernel⟩

/-- What a path is in a home directory. -/
def homeResolve (directory path : PathBuf) : PathBuf :=
  if path.isAbsolute then path
  else if directory = .ofStr "/home/user" then .ofStr "/home"
  else .ofStr "/"

/-- A machine where only the parent directories are named by relative paths. -/
def homePaths : ClientPaths where
  canonicalize directory path :=
    if homeResolve directory path ∈ ["/", "/home", "/home/user"].map .ofStr then
      .ok (homeResolve directory path)
    else .error "No such file or directory (os error 2)"
  display path := path.toStr.getD ""
  debug path := "\"" ++ path.toStr.getD "" ++ "\""

/-- Its paths are canonicalized as they should be. -/
theorem homePaths_canonicalizes : homePaths.Canonicalizes := by
  have known : ∀ path ∈ ["/", "/home", "/home/user"].map PathBuf.ofStr,
      path.isAbsolute = true := by
    decide +kernel
  exact canonicalizes_of_resolve known (fun _ _ absolute => if_pos absolute) fun _ _ => rfl

/-- The parent directory is sent as it is, and a directory whose name holds the mark is cut. -/
theorem daemonFlakeRef_meaning_broken :
    (homePaths.Canonicalizes ∧ ¬ IsRewrittenWell homePaths (.ofStr "/home/user") "..") ∧
      examplePaths.Canonicalizes ∧ ¬ IsRewrittenWell examplePaths (.ofStr "/home/user/c#") "." := by
  refine ⟨⟨homePaths_canonicalizes, fun well => ?_⟩, examplePaths_canonicalizes, fun well => ?_⟩
  · have named : namedDirectory homePaths (.ofStr "/home/user") ".." = .ok (.ofStr "/home") := by
      decide +kernel
    have returned : daemonFlakeRef homePaths (.ofStr "/home/user") ".." = .ok ".." := by
      decide +kernel
    obtain ⟨carried, made, keeps⟩ := well.kept _ (by decide +kernel) named
    obtain rfl := Except.ok.inj (returned.symm.trans made)
    have there : namedDirectory homePaths daemonDirectory ".." = .ok (.ofStr "/") := by
      decide +kernel
    have same := there.symm.trans (keeps.directory.trans named)
    exact absurd (Except.ok.inj same) (by decide +kernel)
  · have named : namedDirectory examplePaths (.ofStr "/home/user/c#") "." =
        .ok (.ofStr "/home/user/c#") := by decide +kernel
    have returned : daemonFlakeRef examplePaths (.ofStr "/home/user/c#") "." =
        .ok "path:/home/user/c#" := by decide +kernel
    obtain ⟨carried, made, keeps⟩ := well.kept _ (by decide +kernel) named
    obtain rfl := Except.ok.inj (returned.symm.trans made)
    exact absurd keeps.fragment (by decide +kernel)

end Evix
