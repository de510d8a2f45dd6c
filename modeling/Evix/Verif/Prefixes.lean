import Evix.Args

/-!
# Attribute path prefixes of a query

A query is given its prefixes in the dotted form in which an attribute path is printed. The dots
are all that is left of the names: a name that holds a dot is split and an empty one is lost.
-/

namespace Evix

/-- The dotted form of an attribute path. -/
def renderedAttr (path : List String) : String := ".".intercalate path

/-- What `--attr-prefix` selects by when it is given the dotted form of a path: the parts between
the dots of its names, without the empty ones. -/
def nameParts (path : List String) : List String := path.flatMap Args.splitAttrPrefix

/-- A name that its dotted form keeps. -/
def IsPlainName (name : String) : Prop := name ≠ "" ∧ '.' ∉ name.toList

instance (name : String) : Decidable (IsPlainName name) :=
  inferInstanceAs (Decidable (_ ∧ _))

section Rendering

/-- The dotted form of a path is split into the parts of its names. -/
theorem splitAttrPrefix_rendered (path : List String) :
    Args.splitAttrPrefix (renderedAttr path) = nameParts path := by
  induction path with
  | nil => rfl
  | cons name path ih =>
    cases path with
    | nil => rw [renderedAttr, String.intercalate_singleton, nameParts, List.flatMap_singleton]
    | cons next path =>
      rw [nameParts, List.flatMap_cons, ← nameParts, ← ih, renderedAttr,
        String.intercalate_cons_cons, ← renderedAttr]
      have split : (name ++ "." ++ renderedAttr (next :: path)).toList.splitOn '.' =
          name.toList.splitOn '.' ++ (renderedAttr (next :: path)).toList.splitOn '.' := by
        rw [String.toList_append, String.toList_append, List.append_assoc]
        exact List.splitOn_append_cons_self _ _
      rw [Args.splitAttrPrefix, split, List.map_append, List.filter_append]
      rfl

/-- A plain name is its only part. -/
theorem splitAttrPrefix_plain {name : String} (plain : IsPlainName name) :
    Args.splitAttrPrefix name = [name] := by
  obtain ⟨full, dotless⟩ := plain
  rw [Args.splitAttrPrefix, List.splitOn_eq_singleton dotless, List.map_singleton,
    String.ofList_toList, List.filter_singleton, decide_eq_true full, cond_true]

/-- A path of plain names is the parts of its names. -/
theorem nameParts_plain {path : List String} (plain : ∀ name ∈ path, IsPlainName name) :
    nameParts path = path := by
  induction path with
  | nil => rfl
  | cons name path ih =>
    rw [nameParts, List.flatMap_cons, splitAttrPrefix_plain (plain name List.mem_cons_self)]
    exact congrArg (name :: ·) (ih fun other member => plain other (List.mem_cons_of_mem _ member))

end Rendering

section Selection

variable {drv : Derivation} {systems : List String} {paths : List (List String)}

/-- `attr_path_starts_with` decides whether one path is a prefix of the other. -/
theorem attrPathStartsWith_iff (attrPath leading : List String) :
    attrPathStartsWith attrPath leading = true ↔ leading <+: attrPath := by
  induction leading generalizing attrPath with
  | nil => simp [attrPathStartsWith]
  | cons name leading ih =>
    cases attrPath with
    | nil => simp [attrPathStartsWith]
    | cons first attrPath =>
      rw [List.cons_prefix_cons, ← ih]
      simp only [attrPathStartsWith, List.length_cons, Nat.add_le_add_iff_right, List.zip_cons_cons,
        List.all_cons, Bool.and_eq_true, decide_eq_true_iff, beq_iff_eq]
      constructor
      · rintro ⟨short, same, rest⟩
        exact ⟨same.symm, short, rest⟩
      · rintro ⟨same, short, rest⟩
        exact ⟨short, same.symm, rest⟩

/-- What a filter by systems and prefixes selects. -/
theorem matchesFilter_prefixes (filter : Filter) (attrs : filter.attrs = none)
    (names : filter.names = none) (drvPaths : filter.drvPaths = none)
    (includes : filter.includePatterns = none) (excludes : filter.excludePatterns = none) :
    matchesFilter drv filter = true ↔
      (∀ systems, filter.systems = some systems → drv.system ∈ systems) ∧
      (∀ leading, filter.attrPrefix = some leading → leading <+: drv.attrPath) ∧
      ∀ prefixes, filter.attrPrefixes = some prefixes →
        ∃ leading ∈ prefixes, leading <+: drv.attrPath := by
  simp only [matchesFilter, attrs, names, drvPaths, includes, excludes, Option.all_none,
    Bool.and_true, Bool.and_eq_true, Option.all_eq_true, List.any_eq_true, beq_iff_eq,
    attrPathStartsWith_iff, exists_eq_right, and_assoc]

/-- What the filter of a query selects. -/
theorem matchesFilter_filter (prefixes : List String) :
    matchesFilter drv (Args.filter systems prefixes) = true ↔
      (systems = [] ∨ drv.system ∈ systems) ∧
        (prefixes = [] ∨ ∃ leading ∈ prefixes, Args.splitAttrPrefix leading <+: drv.attrPath) := by
  rw [matchesFilter_prefixes _ rfl rfl rfl rfl rfl]
  apply and_congr
  · cases systems <;> simp [Args.filter]
  · rcases prefixes with _ | ⟨first, _ | ⟨second, others⟩⟩ <;> simp [Args.filter]

end Selection

/-- A query with the dotted forms of paths selects by the parts of their names, which are the paths
themselves when the names are plain; the printed path of a derivation of plain names selects it;
and a single prefix selects the same in either field. -/
theorem query_prefixes (drv : Derivation) (systems : List String) (paths : List (List String)) :
    (matchesFilter drv (Args.filter systems (paths.map renderedAttr)) = true ↔
      (systems = [] ∨ drv.system ∈ systems) ∧
        (paths = [] ∨ ∃ path ∈ paths, nameParts path <+: drv.attrPath)) ∧
    ((∀ path ∈ paths, ∀ name ∈ path, IsPlainName name) →
      (matchesFilter drv (Args.filter systems (paths.map renderedAttr)) = true ↔
        (systems = [] ∨ drv.system ∈ systems) ∧
          (paths = [] ∨ ∃ path ∈ paths, path <+: drv.attrPath))) ∧
    (drv.attr = renderedAttr drv.attrPath → (∀ name ∈ drv.attrPath, IsPlainName name) →
      matchesFilter drv (Args.filter [] [drv.attr]) = true) ∧
    ∀ (filter : Filter) leading,
      matchesFilter drv { filter with attrPrefix := some leading, attrPrefixes := none } =
        matchesFilter drv { filter with attrPrefix := none, attrPrefixes := some [leading] } := by
  have selects : matchesFilter drv (Args.filter systems (paths.map renderedAttr)) = true ↔
      (systems = [] ∨ drv.system ∈ systems) ∧
        (paths = [] ∨ ∃ path ∈ paths, nameParts path <+: drv.attrPath) := by
    rw [matchesFilter_filter, List.map_eq_nil_iff]
    simp only [List.mem_map, exists_exists_and_eq_and, splitAttrPrefix_rendered]
  refine ⟨selects, fun plain => ?_, fun printed plain => ?_, fun filter leading => ?_⟩
  · rw [selects]
    have parts : (∃ path ∈ paths, nameParts path <+: drv.attrPath) ↔
        ∃ path ∈ paths, path <+: drv.attrPath := by
      refine exists_congr fun path => and_congr_right fun member => ?_
      rw [nameParts_plain (plain path member)]
    rw [parts]
  · rw [matchesFilter_filter, printed]
    refine ⟨.inl rfl, .inr ⟨_, List.mem_singleton_self _, ?_⟩⟩
    simp only [splitAttrPrefix_rendered, nameParts_plain plain, List.prefix_rfl]
  · simp only [matchesFilter, Option.all_some, Option.all_none, List.any_cons, List.any_nil,
      Bool.or_false, Bool.and_true]

/-- A printed path of plain names among the prefixes of a query. -/
theorem query_prefixes_plain :
    let drv : Derivation := { (default : Derivation) with
      attr := "hydraJobs.release", attrPath := ["hydraJobs", "release"], system := "x86_64-linux" }
    matchesFilter drv (Args.filter ["x86_64-linux"] ["packages", "hydraJobs"]) = true ∧
      matchesFilter drv (Args.filter [] [drv.attr]) = true := by
  intro drv
  have selects := query_prefixes drv ["x86_64-linux"] [["packages"], ["hydraJobs"]]
  exact ⟨(selects.2.1 (by decide)).mpr (by decide), selects.2.2.1 rfl (by decide)⟩

/-- A name with a dot is not selected by its own path, and a path with an empty name selects more
than the paths below it. -/
theorem query_prefixes_dotted :
    let job (path : List String) : Derivation :=
      { (default : Derivation) with attr := renderedAttr path, attrPath := path }
    let dotted := job ["a.b"]
    let other := job ["a", "b"]
    matchesFilter dotted (Args.filter [] [dotted.attr]) = false ∧
      matchesFilter other (Args.filter [] [renderedAttr ["a", ""]]) = true ∧
        ¬ ["a", ""] <+: other.attrPath := by
  decide

end Evix
