import Evix.GcRoots

/-!
# Where garbage collector roots end up

Directories are created before the place they end up at is checked, and the link is made through
the path as it was given rather than the one that was checked. Both stay inside the directory of
the roots exactly when the deepest directory that is there lies inside before anything is created
below it, and when the given path, with `..` and links as the kernel reads them, leads inside.
-/

namespace Evix

open Files FileSystem

/-- Everything one file system has beyond another lies inside a directory. -/
def Confined (root : List FileName) (before after : WorkerFiles) : Prop :=
  ∀ place name, before.entry (place ++ [name]) = none → after.entry (place ++ [name]) ≠ none →
    root <+: place

/-- Where `create_gc_root_link` makes a link: the given path resolves to a directory in which the
name of the derivation is free. -/
structure LinksAt (fs : WorkerFiles) (budget : Nat) (gcDir drvPath : PathBuf)
    (parent : List FileName) (name : FileName) : Prop where
  /-- The derivation has a name. -/
  named : drvPath.fileName = some name
  /-- The kernel takes the path of the link. -/
  linkPath : (gcDir.join name).hasNul = false
  /-- The kernel takes the target. -/
  target : drvPath.hasNul = false
  /-- The given path resolves to the directory. -/
  resolves : fs.resolve budget gcDir.kernelComponents = .ok parent
  /-- The name is free there. -/
  free : fs.entry (parent ++ [name]) = none

/-- The condition under which a call stays inside a directory: if names of the normalised path
are missing, they are missing inside; and if the path ends inside, then once its directories are
there a link through the given path is made inside. -/
def StaysInside (display : PathBuf → String) (budget : Nat) (fs : WorkerFiles)
    (root : List FileName) (gcDir drvPath : PathBuf) : Prop :=
  ∀ normalized, validateGcRootsDirPath display gcDir = .ok normalized →
    (PathBuf.ofNames normalized).hasNul = false →
    ∀ place names, Anchor fs budget normalized place names →
      (names ≠ [] → root <+: place) ∧
        (root <+: place ++ names → ∀ overlay, Grown fs place names overlay →
          ∀ parent name, LinksAt overlay budget gcDir drvPath parent name → root <+: parent)

/-! ## What is confined -/

section Confined

variable {root place names : List FileName} {fs after : WorkerFiles}

/-- Nothing is beyond itself. -/
theorem Confined.refl (root : List FileName) (fs : WorkerFiles) : Confined root fs fs :=
  fun _ _ missing present => absurd missing present

/-- A chain of directories lies inside when it begins inside. -/
theorem confined_grown (grown : Grown fs place names after)
    (missing : ∀ name ∈ names.head?, fs.entry (place ++ [name]) = none) :
    Confined root fs after ↔ (names ≠ [] → root <+: place) := by
  constructor
  · intro confined some
    obtain ⟨name, rest, rfl⟩ := List.exists_cons_of_ne_nil some
    refine confined place name (missing name rfl) ?_
    rw [grown.chain [name] (List.cons_prefix_cons.mpr ⟨rfl, List.nil_prefix⟩)]
    nofun
  · intro inside spot name fresh present
    obtain ⟨upper, last, within, same⟩ := grown.only _ fresh present
    obtain ⟨rfl, _⟩ := List.append_inj' same rfl
    have some : names ≠ [] := by
      rintro rfl
      simp at within
    exact (inside some).trans (List.prefix_append _ _)

/-- One more entry lies inside when its directory does. -/
theorem confined_add {parent : List FileName} {name : FileName} {node : Node FileName}
    (grows : Extends fs after) (isDirectory : after.entry parent = some .directory)
    (free : after.entry (parent ++ [name]) = none) :
    Confined root fs (after.add parent name node isDirectory free) ↔
      Confined root fs after ∧ root <+: parent := by
  constructor
  · intro confined
    refine ⟨fun spot other fresh present => confined spot other fresh ?_, ?_⟩
    · obtain ⟨found, stands⟩ := Option.ne_none_iff_exists'.mp present
      rw [add_extends _ _ stands]
      nofun
    · refine confined parent name ?_ (by rw [add_entry_self]; nofun)
      by_contra present
      obtain ⟨found, stands⟩ := Option.ne_none_iff_exists'.mp present
      rw [grows _ _ stands] at free
      cases free
  · rintro ⟨confined, inside⟩ spot other fresh present
    by_cases same : spot ++ [other] = parent ++ [name]
    · obtain ⟨rfl, _⟩ := List.append_inj' same rfl
      exact inside
    · rw [add_entry_of_ne same] at present
      exact confined spot other fresh present

end Confined

/-! ## The link -/

section Link

variable (display : PathBuf → String) {budget : Nat} {root parent : List FileName}
  {name : FileName} {fs after : WorkerFiles} {gcDir drvPath : PathBuf}

/-- A link is made in one place. -/
theorem LinksAt.unique {other : List FileName} {second : FileName}
    (links : LinksAt fs budget gcDir drvPath parent name)
    (again : LinksAt fs budget gcDir drvPath other second) : parent = other ∧ name = second :=
  ⟨Except.ok.inj (links.resolves.symm.trans again.resolves),
    Option.some.inj (links.named.symm.trans again.named)⟩

/-- A link is made where it can be. -/
theorem createGcRootLink_made (links : LinksAt fs budget gcDir drvPath parent name) :
    ∃ node isDirectory, createGcRootLink display budget fs gcDir drvPath =
      (fs.add parent name node isDirectory links.free, .ok ()) := by
  obtain ⟨reached, walked, rfl⟩ := Fallible.map_eq_ok links.resolves
  refine ⟨.link ⟨drvPath.isAbsolute, drvPath.kernelComponents⟩,
    walk_isDirectory fs.root walked, ?_⟩
  have looked : fs.symlinkMetadata budget gcDir.kernelComponents name = .error .notFound := by
    simp only [symlinkMetadata, links.resolves, links.free]
  simp only [createGcRootLink, links.named, links.linkPath, links.target, looked,
    create_free walked links.free, Bool.false_eq_true, if_false]

/-- Nothing is made otherwise. -/
theorem createGcRootLink_unmade
    (never : ∀ parent name, ¬ LinksAt fs budget gcDir drvPath parent name) :
    (createGcRootLink display budget fs gcDir drvPath).1 = fs := by
  unfold createGcRootLink
  cases named : drvPath.fileName with
  | none => rfl
  | some name =>
    by_cases linkPath : (gcDir.join name).hasNul = true
    · simp only [linkPath, if_true]
    · simp only [linkPath, Bool.false_eq_true, if_false]
      cases looked : fs.symlinkMetadata budget gcDir.kernelComponents name with
      | ok node => rfl
      | error errno =>
        cases errno with
        | alreadyExists => rfl
        | loop => rfl
        | notFound =>
          by_cases target : drvPath.hasNul = true
          · simp only [target, if_true]
          · simp only [target, Bool.false_eq_true, if_false]
            -- Either the directory does not resolve, or a link could be made there.
            cases walked : fs.walk budget [] gcDir.kernelComponents with
            | error errno => simp only [create_unresolved walked]
            | ok reached =>
              have resolves : fs.resolve budget gcDir.kernelComponents = .ok reached.1 := by
                rw [resolve, walked]
                rfl
              by_cases free : fs.entry (reached.1 ++ [name]) = none
              · exact absurd ⟨named, Bool.eq_false_iff.mpr linkPath, Bool.eq_false_iff.mpr target,
                  resolves, free⟩ (never reached.1 name)
              · simp only [create_exists walked free]

/-- The link lies inside if the given path leads inside. -/
theorem createGcRootLink_confined (grows : Extends fs after) :
    Confined root fs (createGcRootLink display budget after gcDir drvPath).1 ↔
      Confined root fs after ∧
        ∀ parent name, LinksAt after budget gcDir drvPath parent name → root <+: parent := by
  by_cases made : ∃ parent name, LinksAt after budget gcDir drvPath parent name
  · obtain ⟨parent, name, links⟩ := made
    obtain ⟨node, isDirectory, result⟩ := createGcRootLink_made display links
    rw [result, confined_add grows]
    refine and_congr_right fun _ => ⟨fun inside other second again => ?_, fun all => ?_⟩
    · rw [← (links.unique again).1]
      exact inside
    · exact all parent name links
  · have never : ∀ parent name, ¬ LinksAt after budget gcDir drvPath parent name :=
      fun parent name links => made ⟨parent, name, links⟩
    rw [createGcRootLink_unmade display never]
    exact ⟨fun confined => ⟨confined, fun parent name links => absurd links (never parent name)⟩,
      And.left⟩

end Link

/-! ## The directory and the link -/

section Register

variable (display : PathBuf → String) {budget : Nat} {root : List FileName} {fs : WorkerFiles}

/-- What is registered when a path can be created: the chain of its directories, and a link if
the path ends inside. -/
theorem registerGcRoot_anchor {gcDir drvPath : PathBuf} {normalized place names : List FileName}
    {after : WorkerFiles} (valid : validateGcRootsDirPath display gcDir = .ok normalized)
    (plain : (PathBuf.ofNames normalized).hasNul = false)
    (anchor : Anchor fs budget normalized place names) (grown : Grown fs place names after)
    (created : fs.createDirAll budget normalized = (after, .ok ()))
    (rooted : fs.resolve budget (nixGcRootsDir.map .name) = .ok root) :
    (registerGcRoot display budget fs gcDir drvPath).1 =
      if root <+: place ++ names then (createGcRootLink display budget after gcDir drvPath).1
      else after := by
  have again := resolve_extends grown.kept rooted
  have canonical := anchor.resolve_grown grown
  by_cases inside : root <+: place ++ names
  · simp only [registerGcRoot, ensureGcRootsDir, valid, plain, created, again, canonical, inside,
      Bool.false_eq_true, if_false, if_true]
  · simp only [registerGcRoot, ensureGcRootsDir, valid, plain, created, again, canonical, inside,
      Bool.false_eq_true, if_false]

/-- For every file system in which the directory of the roots is there, and for every path and
derivation, everything that is created lies inside exactly under the condition. -/
theorem gc_roots_confined (rooted : fs.resolve budget (nixGcRootsDir.map .name) = .ok root)
    (gcDir drvPath : PathBuf) :
    Confined root fs (registerGcRoot display budget fs gcDir drvPath).1 ↔
      StaysInside display budget fs root gcDir drvPath := by
  cases valid : validateGcRootsDirPath display gcDir with
  | error error =>
    have same : (registerGcRoot display budget fs gcDir drvPath).1 = fs := by
      simp only [registerGcRoot, ensureGcRootsDir, valid]
    rw [same]
    refine ⟨fun _ normalized accepted => ?_, fun _ => Confined.refl root fs⟩
    rw [valid] at accepted
    cases accepted
  | ok normalized =>
    have only : ∀ other, validateGcRootsDirPath display gcDir = .ok other →
        normalized = other := fun other accepted => Except.ok.inj (valid.symm.trans accepted)
    by_cases nul : (PathBuf.ofNames normalized).hasNul = true
    · have same : (registerGcRoot display budget fs gcDir drvPath).1 = fs := by
        simp only [registerGcRoot, ensureGcRootsDir, valid, nul, if_true]
      rw [same]
      refine ⟨fun _ other accepted plain => ?_, fun _ => Confined.refl root fs⟩
      rw [← only other accepted, nul] at plain
      cases plain
    · have plain := Bool.eq_false_iff.mpr nul
      rcases createDirAll_cases fs budget normalized with ⟨place, names, anchor⟩ |
        ⟨_, reason, _, stuck⟩
      · obtain ⟨after, created, grown⟩ := createDirAll_anchor anchor
        have chain : Confined root fs after ↔ (names ≠ [] → root <+: place) :=
          confined_grown grown anchor.missing
        rw [registerGcRoot_anchor display valid plain anchor grown created rooted]
        constructor
        · intro confined other accepted _ spot rest another
          obtain rfl := only other accepted
          obtain ⟨rfl, rfl⟩ := anchor.unique another
          by_cases inside : root <+: place ++ names
          · rw [if_pos inside, createGcRootLink_confined display grown.kept] at confined
            refine ⟨chain.mp confined.1, fun _ overlay overlaid => ?_⟩
            rw [← grown.unique overlaid]
            exact confined.2
          · rw [if_neg inside] at confined
            exact ⟨chain.mp confined, fun ends => absurd ends inside⟩
        · intro stays
          obtain ⟨begins, links⟩ := stays normalized valid plain place names anchor
          by_cases inside : root <+: place ++ names
          · rw [if_pos inside, createGcRootLink_confined display grown.kept]
            exact ⟨chain.mpr begins, links inside after grown⟩
          · rw [if_neg inside]
            exact chain.mpr begins
      · -- No anchor: creating the directories fails at a link that does not resolve.
        have same : (registerGcRoot display budget fs gcDir drvPath).1 = fs := by
          simp only [registerGcRoot, ensureGcRootsDir, valid, plain, stuck, Bool.false_eq_true,
            if_false]
        rw [same]
        refine ⟨fun _ other accepted _ place names anchor => ?_, fun _ => Confined.refl root fs⟩
        obtain rfl := only other accepted
        obtain ⟨after, created, _⟩ := createDirAll_anchor anchor
        rw [stuck] at created
        cases created

end Register

/-! ## A link out of the roots -/

/-- The path that a string spells. -/
def pathOf (text : String) : PathBuf := ⟨FileName.ofStr text⟩

/-- A file system of directories, each after the one it is in. -/
def directories (places : List (List FileName)) : WorkerFiles :=
  places.foldl (fun fs place => fs.put place.dropLast (place.getLastD []) .directory)
    (.empty FileName)

/-- The directories of the roots, and others. -/
def plainFiles : WorkerFiles :=
  directories ([["nix"], ["nix", "var"], ["nix", "var", "nix"], ["nix", "var", "nix", "gcroots"],
    ["tmp"], ["tmp", "x"], ["tmp", "b"]].map (·.map FileName.ofStr))

/-- A name below the roots. -/
def evixName : FileName := FileName.ofStr "evix"

/-- A path with `.`, `..` and slashes to spare that stays inside. -/
def roundabout : PathBuf := pathOf "/nix/var//nix/gcroots/./evix/../evix/"

/-- The directory and the link are made below the roots. -/
theorem gc_roots_confined_roundabout :
    let after := (registerGcRoot (fun _ => "") 40 plainFiles roundabout
      (pathOf "/nix/store/a.drv")).1
    (after.entry (nixGcRootsDir ++ [evixName, FileName.ofStr "a.drv"])).isSome = true ∧
      Confined nixGcRootsDir plainFiles after := by
  intro after
  refine ⟨by decide +kernel, (gc_roots_confined (fun _ => "") (by decide +kernel) _ _).mpr ?_⟩
  intro normalized accepted _ place names anchor
  have valid : validateGcRootsDirPath (fun _ => "") roundabout =
      .ok (nixGcRootsDir ++ [evixName]) := by
    decide +kernel
  obtain rfl := Except.ok.inj (valid.symm.trans accepted)
  have known : Anchor plainFiles 40 (nixGcRootsDir ++ [evixName]) nixGcRootsDir [evixName] :=
    ⟨⟨nixGcRootsDir, 40, rfl, by decide +kernel⟩, by decide +kernel⟩
  obtain ⟨rfl, rfl⟩ := known.unique anchor
  refine ⟨fun _ => List.prefix_refl _, fun _ overlay overlaid parent name links => ?_⟩
  obtain ⟨grown, created, isGrown⟩ := createDirAll_anchor known
  have same : overlay = (plainFiles.createDirAll 40 (nixGcRootsDir ++ [evixName])).1 := by
    rw [created]
    exact overlaid.unique isGrown
  have resolves := links.resolves
  rw [same] at resolves
  have place : (plainFiles.createDirAll 40 (nixGcRootsDir ++ [evixName])).1.resolve 40
      roundabout.kernelComponents = .ok (nixGcRootsDir ++ [evixName]) := by
    decide +kernel
  obtain rfl := Except.ok.inj (place.symm.trans resolves)
  exact List.prefix_append _ _

/-- A file system in which `out` leads from the roots to `/tmp/x`. -/
def strayFiles : WorkerFiles :=
  plainFiles.put nixGcRootsDir (FileName.ofStr "out")
    (.link ⟨true, [.name (FileName.ofStr "tmp"), .name (FileName.ofStr "x")]⟩)

/-- What is registered in that file system for a directory of roots. -/
def strayRegister (gcDir : String) : WorkerFiles × Except String Unit :=
  registerGcRoot (fun _ => "") 40 strayFiles (pathOf gcDir) (pathOf "/nix/store/a.drv")

/-- A directory below a link out of the roots is created outside before the call fails, and a
link through `..` after such a link is made outside by a call that succeeds. -/
theorem gc_roots_confined_stray :
    strayFiles.resolve 40 (nixGcRootsDir.map .name) = .ok nixGcRootsDir ∧
    ((strayRegister "/nix/var/nix/gcroots/out/new").2.isOk = false ∧
      ¬ Confined nixGcRootsDir strayFiles (strayRegister "/nix/var/nix/gcroots/out/new").1) ∧
    (strayRegister "/nix/var/nix/gcroots/out/../b").2.isOk = true ∧
      ¬ Confined nixGcRootsDir strayFiles (strayRegister "/nix/var/nix/gcroots/out/../b").1 := by
  refine ⟨by decide +kernel, ⟨by decide +kernel, fun confined => ?_⟩,
    by decide +kernel, fun confined => ?_⟩
  · have outside := confined [FileName.ofStr "tmp", FileName.ofStr "x"] (FileName.ofStr "new")
      (by decide +kernel) (by decide +kernel)
    exact absurd outside (by decide +kernel)
  · have outside := confined [FileName.ofStr "tmp", FileName.ofStr "b"] (FileName.ofStr "a.drv")
      (by decide +kernel) (by decide +kernel)
    exact absurd outside (by decide +kernel)

end Evix
