import Evix.Verif.Portability

/-!
# Which flake references are local

A worker strips the scheme of a reference before its fragment and a watch strips the fragment
first. Both then look at the form of the path.
-/

namespace Evix

/-! ## Forms of paths -/

/-- A path that names the current directory or its parent, or begins at the root or at the current
directory. -/
def IsRootedPath (path : String) : Prop :=
  path = "" ∨ path = "." ∨ path = ".." ∨ "/".toList <+: path.toList ∨ "./".toList <+: path.toList

instance (path : String) : Decidable (IsRootedPath path) := inferInstanceAs (Decidable (_ ∨ _))

/-- A path that begins at the parent directory. -/
def IsUpwardPath (path : String) : Prop := "../".toList <+: path.toList

instance (path : String) : Decidable (IsUpwardPath path) := inferInstanceAs (Decidable (_ <+: _))

/-- A path that a worker takes for a path of its machine. -/
def IsLocalPath (path : String) : Prop := IsRootedPath path ∨ IsUpwardPath path

instance (path : String) : Decidable (IsLocalPath path) := inferInstanceAs (Decidable (_ ∨ _))

/-- A text is an absolute path when it begins with a slash. -/
theorem isAbsolute_ofStr {path : String} :
    (PathBuf.ofStr path).isAbsolute = true ↔ "/".toList <+: path.toList := by
  have bytes : (PathBuf.ofStr path).bytes = path.toList.utf8Encode.data.toList := by
    rw [String.utf8Encode_toList]
    rfl
  rw [PathBuf.isAbsolute, decide_eq_true_iff, bytes]
  constructor
  · intro slash
    cases encoded : path.toList.utf8Encode.data.toList with
    | nil =>
      rw [encoded] at slash
      cases slash
    | cons first rest =>
      rw [encoded] at slash
      obtain rfl : first = 0x2F := Option.some.inj slash
      refine List.isPrefix_of_utf8Encode_append_eq_utf8Encode ⟨rest.toArray⟩ ?_
      apply ByteArray.ext
      apply Array.toList_inj.mp
      rw [encoded]
      rfl
  · rintro ⟨rest, parts⟩
    have slash : path.toList.utf8Encode = ['/'].utf8Encode ++ rest.utf8Encode := by
      rw [← parts]
      exact List.utf8Encode_append
    have first : ['/'].utf8Encode.data.toList = [0x2F] := by decide +kernel
    rw [slash, ByteArray.data_append, Array.toList_append, first]
    rfl

/-- A path does not begin both at the parent directory and elsewhere. -/
theorem IsUpwardPath.not_rooted {path : String} (upward : IsUpwardPath path) :
    ¬ IsRootedPath path := by
  obtain ⟨rest, parts⟩ := upward
  unfold IsRootedPath
  rw [← String.toList_inj, ← String.toList_inj, ← String.toList_inj, ← parts]
  simp

/-- The scheme is not the beginning of a local path. -/
theorem not_isLocalPath_scheme (pathRef : String) : ¬ IsLocalPath ("path:" ++ pathRef) := by
  unfold IsLocalPath IsRootedPath IsUpwardPath
  rw [← String.toList_inj, ← String.toList_inj, ← String.toList_inj, String.toList_append]
  simp

/-! ## The path of a reference -/

/-- What stands before the first mark of a reference, or something else without a mark. -/
theorem splitOnce_getD (reference other : String) :
    ((Text.splitOnce '#' reference).map (·.1)).getD other =
      if '#' ∈ reference.toList then (splitFlakeFragment reference).1 else other := by
  by_cases marked : '#' ∈ reference.toList
  · obtain ⟨before, after, parts, absent⟩ := List.eq_append_cons_of_mem marked
    have split : Text.splitOnce '#' reference = some (.ofList before, .ofList after) := by
      rw [Text.splitOnce_eq_some, ← String.toList_inj, parts]
      simpa using absent
    have plain : ∀ char ∈ before, decide (char ≠ '#') = true := fun char member =>
      decide_eq_true fun same => absent (same ▸ member)
    rw [split, if_pos marked, splitFlakeFragment_fst, parts, List.takeWhile_append_of_pos plain]
    simp
  · rw [Text.splitOnce_eq_none.mpr marked, if_neg marked]
    rfl

/-- A reference without the scheme of paths. -/
def schemeless (reference : String) : String := (stripPathScheme reference).getD reference

/-- The path of a reference, without the scheme and the fragment. -/
def flakePath (reference : String) : String := (splitFlakeFragment (schemeless reference)).1

/-- The scheme of a path is not cut with the fragment. -/
theorem splitFlakeFragment_scheme (pathRef : String) :
    (splitFlakeFragment ("path:" ++ pathRef)).1 = "path:" ++ (splitFlakeFragment pathRef).1 := by
  have plain : ∀ char ∈ "path:".toList, (decide (char ≠ '#')) = true := by simp
  rw [splitFlakeFragment_fst, splitFlakeFragment_fst, String.toList_append,
    List.takeWhile_append_of_pos plain, String.ofList_append, String.ofList_toList]

/-- The scheme and the fragment are cut in either order. -/
theorem schemeless_split (reference : String) :
    schemeless (splitFlakeFragment reference).1 = flakePath reference := by
  unfold flakePath schemeless
  cases schemed : stripPathScheme reference with
  | some pathRef =>
    rw [stripPathScheme_eq_some.mp schemed, splitFlakeFragment_scheme,
      stripPathScheme_eq_some.mpr rfl]
    rfl
  | none =>
    cases early : stripPathScheme (splitFlakeFragment reference).1 with
    | none => rfl
    | some pathRef =>
      have whole := splitFlakeFragment_append reference
      rw [stripPathScheme_eq_some.mp early, String.append_assoc] at whole
      cases schemed.symm.trans (stripPathScheme_eq_some.mpr whole.symm)

/-- The mark is not in the scheme. -/
theorem mem_schemeless (reference : String) :
    '#' ∈ (schemeless reference).toList ↔ '#' ∈ reference.toList := by
  unfold schemeless
  cases schemed : stripPathScheme reference with
  | none => rfl
  | some pathRef =>
    rw [stripPathScheme_eq_some.mp schemed, String.toList_append, List.mem_append]
    simp

/-! ## The classifiers -/

/-- A worker takes a reference for local by the form of its path, or of the whole reference when it
has no fragment. -/
theorem isLocalFlakeReference_eq_true (reference : String) :
    isLocalFlakeReference reference = true ↔
      IsLocalPath (if '#' ∈ reference.toList then flakePath reference else reference) := by
  have path := splitOnce_getD (schemeless reference) reference
  simp only [mem_schemeless] at path
  unfold isLocalFlakeReference
  rw [← schemeless, path, ← flakePath]
  generalize (if '#' ∈ reference.toList then flakePath reference else reference) = path
  simp only [Bool.or_eq_true, String.isEmpty_iff, beq_iff_eq, List.isPrefixOf_iff_prefix,
    isAbsolute_ofStr, IsLocalPath, IsRootedPath, IsUpwardPath]
  tauto

/-- A watch takes a reference for local by the form of its path. -/
theorem localFlakeRoot_isSome (reference : String) :
    (localFlakeRoot reference).isSome = true ↔ IsRootedPath (flakePath reference) := by
  have path := splitOnce_getD reference reference
  have cut : (if '#' ∈ reference.toList then (splitFlakeFragment reference).1 else reference) =
      (splitFlakeFragment reference).1 := by
    split
    case isTrue => rfl
    case isFalse unmarked => exact (splitFlakeFragment_unmarked unmarked).symm
  unfold localFlakeRoot
  dsimp only
  rw [path, cut, ← schemeless, schemeless_split]
  generalize flakePath reference = path
  unfold IsRootedPath
  split
  case isTrue empty => simp [String.isEmpty_iff.mp empty]
  case isFalse full =>
    rw [String.isEmpty_iff] at full
    split
    case isTrue rooted => simp_all [or_assoc]
    case isFalse other => simp_all

/-! ## The worker and the watch -/

/-- The references that a worker and a watch tell alike: with the scheme and without a fragment,
those whose path a watch does not recognize, and otherwise those whose path does not begin at the
parent directory. -/
def IsClassifiedAlike (reference : String) : Prop :=
  if (stripPathScheme reference).isSome ∧ '#' ∉ reference.toList then
    ¬ IsRootedPath (flakePath reference)
  else ¬ IsUpwardPath (flakePath reference)

/-- A reference without scheme and fragment is its path. -/
theorem flakePath_plain {reference : String} (schemed : stripPathScheme reference = none)
    (unmarked : '#' ∉ reference.toList) : flakePath reference = reference := by
  rw [flakePath, schemeless, schemed, Option.getD_none, splitFlakeFragment_unmarked unmarked]

/-- What a worker looks at, unless a scheme without a fragment is left in front of the path. -/
theorem isLocalFlakeReference_path {reference : String}
    (cut : (stripPathScheme reference).isSome → '#' ∈ reference.toList) :
    isLocalFlakeReference reference = true ↔ IsLocalPath (flakePath reference) := by
  rw [isLocalFlakeReference_eq_true]
  split
  case isTrue => rfl
  case isFalse unmarked =>
    have schemed : stripPathScheme reference = none := by simpa using mt cut unmarked
    rw [flakePath_plain schemed unmarked]

/-- A worker takes no reference with the scheme and without a fragment for local. -/
theorem isLocalFlakeReference_scheme {reference : String}
    (schemed : (stripPathScheme reference).isSome) (unmarked : '#' ∉ reference.toList) :
    isLocalFlakeReference reference = false := by
  obtain ⟨pathRef, stripped⟩ := Option.isSome_iff_exists.mp schemed
  rw [Bool.eq_false_iff, ne_eq, isLocalFlakeReference_eq_true, if_neg unmarked,
    stripPathScheme_eq_some.mp stripped]
  exact not_isLocalPath_scheme pathRef

/-- **A worker takes a flake for local exactly when a watch can follow it, exactly for the
references that are classified alike.** -/
theorem localFlake_agree (reference : String) :
    (isLocalFlakeReference reference = true ↔ (localFlakeRoot reference).isSome = true) ↔
      IsClassifiedAlike reference := by
  rw [localFlakeRoot_isSome]
  unfold IsClassifiedAlike
  split
  case isTrue kept =>
    rw [isLocalFlakeReference_scheme kept.1 kept.2]
    simp
  case isFalse cut =>
    rw [isLocalFlakeReference_path fun schemed => by_contra fun unmarked => cut ⟨schemed, unmarked⟩]
    constructor
    · intro alike upward
      exact upward.not_rooted (alike.mp (.inr upward))
    · intro level
      exact ⟨fun taken => taken.resolve_right level, .inl⟩

/-- A directory beside the parent is local for a worker only, and the current directory with the
scheme for a watch only. -/
theorem localFlake_agree_broken :
    ¬ (isLocalFlakeReference "../x" = true ↔ (localFlakeRoot "../x").isSome = true) ∧
      ¬ (isLocalFlakeReference "path:." = true ↔ (localFlakeRoot "path:.").isSome = true) := by
  decide +kernel

/-! ## The fragment and the lock mode -/

/-- A fragment does not change the path of a reference. -/
theorem flakePath_fragment {reference : String} (unmarked : '#' ∉ reference.toList)
    (fragment : String) :
    flakePath (reference ++ "#" ++ fragment) = schemeless reference := by
  have plain : ∀ char ∈ reference.toList, decide (char ≠ '#') = true := fun char member =>
    decide_eq_true fun same => unmarked (same ▸ member)
  have cut : (splitFlakeFragment (reference ++ "#" ++ fragment)).1 = reference := by
    rw [splitFlakeFragment_fst, String.append_assoc, String.toList_append,
      List.takeWhile_append_of_pos plain, String.toList_append]
    simp
  rw [← schemeless_split, cut]

/-- **A fragment does not change the mode in which a flake is locked, exactly when the reference
does not name a local path by its scheme.** -/
theorem localFlake_fragment {reference : String} (unmarked : '#' ∉ reference.toList)
    (fragment : String) :
    (isLocalFlakeReference reference = isLocalFlakeReference (reference ++ "#" ++ fragment) ∧
      flakeLockMode (isLocalFlakeReference reference) =
        flakeLockMode (isLocalFlakeReference (reference ++ "#" ++ fragment))) ↔
      ∀ path, stripPathScheme reference = some path → ¬ IsLocalPath path := by
  have marked : '#' ∈ (reference ++ "#" ++ fragment).toList := by simp
  have selected : isLocalFlakeReference (reference ++ "#" ++ fragment) = true ↔
      IsLocalPath (flakePath (reference ++ "#" ++ fragment)) :=
    isLocalFlakeReference_path fun _ => marked
  rw [flakePath_fragment unmarked] at selected
  rw [and_iff_left_of_imp (congrArg flakeLockMode), Bool.eq_iff_iff, selected]
  cases schemed : stripPathScheme reference with
  | none =>
    rw [isLocalFlakeReference_path (by simp [schemed]), flakePath_plain schemed unmarked,
      schemeless, schemed]
    simp
  | some path =>
    rw [isLocalFlakeReference_scheme (by simp [schemed]) unmarked, schemeless, schemed]
    simp

/-- A reference to a registry keeps its mode. -/
theorem localFlake_fragment_registry :
    isLocalFlakeReference "nixpkgs" = isLocalFlakeReference "nixpkgs#hello" ∧
      flakeLockMode (isLocalFlakeReference "nixpkgs") =
        flakeLockMode (isLocalFlakeReference "nixpkgs#hello") :=
  have schemeless : stripPathScheme "nixpkgs" = none := by decide +kernel
  have unmarked : '#' ∉ "nixpkgs".toList := by decide +kernel
  (localFlake_fragment unmarked "hello").mpr fun _ schemed => nomatch schemeless.symm.trans schemed

/-- A directory that is named by its scheme is locked in another mode when an output is selected. -/
theorem localFlake_fragment_broken :
    isLocalFlakeReference "path:/tmp" ≠ isLocalFlakeReference ("path:/tmp" ++ "#" ++ "hello") ∧
      flakeLockMode (isLocalFlakeReference "path:/tmp") ≠
        flakeLockMode (isLocalFlakeReference ("path:/tmp" ++ "#" ++ "hello")) := by
  decide +kernel

end Evix
