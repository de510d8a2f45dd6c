import Mathlib.Data.List.Infix
import Mathlib.Data.List.Induction
import Mathlib.Logic.Function.Basic
import Evix.Library.Fallible

/-!
# Directories and symbolic links

A place is the list of names from the root down through directories, and a file system is what
stands at each place. A path is resolved component by component: a symbolic link is replaced by
its target, `..` leaves the directory that was reached, and the number of links is bounded.

Entries are only ever added, so whatever resolves goes on resolving to the same place
(`walk_extends`). Creating a directory with all its parents adds the chain of directories below
the deepest parent that is there (`createDirAll_anchor`), or nothing (`createDirAll_cases`).
-/

namespace Files

open Fallible

universe u

/-- A component of a path. -/
inductive Component (ν : Type u) where
  /-- The directory itself. -/
  | current
  /-- The directory above. -/
  | parent
  /-- An entry of the directory. -/
  | name (name : ν)
  deriving DecidableEq

/-- Where a symbolic link points. -/
structure Target (ν : Type u) where
  /-- Whether it starts at the root. -/
  isAbsolute : Bool
  /-- Its components. -/
  components : List (Component ν)
  deriving DecidableEq

/-- Where a target starts from the directory of its link. -/
def Target.start {ν : Type u} (target : Target ν) (here : List ν) : List ν :=
  if target.isAbsolute then [] else here

/-- What stands at a place. -/
inductive Node (ν : Type u) where
  /-- A directory. -/
  | directory
  /-- A symbolic link. -/
  | link (target : Target ν)
  deriving DecidableEq

/-- Why a call fails. -/
inductive Errno where
  /-- A component is not there. -/
  | notFound
  /-- Something stands at the place. -/
  | alreadyExists
  /-- There are too many links. -/
  | loop
  deriving DecidableEq

/-- A file system of directories and symbolic links. -/
structure FileSystem (ν : Type u) where
  /-- What stands at a place, if anything does. -/
  entry : List ν → Option (Node ν)
  /-- The root is a directory. -/
  root : entry [] = some .directory
  /-- What stands anywhere stands in a directory. -/
  parents : ∀ place name, entry (place ++ [name]) ≠ none → entry place = some .directory

namespace FileSystem

variable {ν : Type u}

/-- A file system with nothing below its root. -/
def empty (ν : Type u) : FileSystem ν where
  entry place := if place.isEmpty then some .directory else none
  root := rfl
  parents place name present := by simp at present

/-- Everything that stands in one file system stands in another. -/
def Extends (before after : FileSystem ν) : Prop :=
  ∀ place node, before.entry place = some node → after.entry place = some node

/-- A file system extends itself. -/
theorem Extends.refl (fs : FileSystem ν) : Extends fs fs := fun _ _ present => present

/-- What extends an extension is an extension. -/
theorem Extends.trans {first second third : FileSystem ν} (before : Extends first second)
    (after : Extends second third) : Extends first third :=
  fun place node present => after place node (before place node present)

/-- Nothing stands below a place where nothing stands. -/
theorem entry_append_none (fs : FileSystem ν) {place : List ν} (missing : fs.entry place = none)
    (names : List ν) : fs.entry (place ++ names) = none := by
  induction names using List.reverseRecOn with
  | nil => rw [List.append_nil, missing]
  | append_singleton names name ih =>
    by_contra present
    rw [← List.append_assoc] at present
    rw [fs.parents _ _ present] at ih
    cases ih

/-! ## Resolving a path -/

section Walk

variable (fs : FileSystem ν)

/-- Resolve components from a place; `follow` goes on at the target of a link. -/
def steps (budget : Nat)
    (follow : List ν → List (Component ν) → Except Errno (List ν × Nat)) :
    List ν → List (Component ν) → Except Errno (List ν × Nat)
  | here, [] => .ok (here, budget)
  | here, .current :: rest => steps budget follow here rest
  | here, .parent :: rest => steps budget follow here.dropLast rest
  | here, .name name :: rest =>
    match fs.entry (here ++ [name]) with
    | none => .error .notFound
    | some .directory => steps budget follow (here ++ [name]) rest
    | some (.link target) => follow (target.start here) (target.components ++ rest)

/-- Resolve components from a place with a budget of links; what is left of it is returned. -/
def walk : Nat → List ν → List (Component ν) → Except Errno (List ν × Nat)
  | 0 => fs.steps 0 fun _ _ => .error .loop
  | budget + 1 => fs.steps (budget + 1) (walk budget)

/-- The place an absolute path resolves to, all links followed. -/
def resolve (budget : Nat) (path : List (Component ν)) : Except Errno (List ν) :=
  (fs.walk budget [] path).map Prod.fst

/-- `is_dir`: everything that resolves is a directory. -/
def isDir (budget : Nat) (path : List (Component ν)) : Bool := (fs.resolve budget path).isOk

variable {fs} {budget : Nat} {here : List ν} {name : ν} {target : Target ν}
  {rest : List (Component ν)}

/-- No component is left. -/
@[simp]
theorem walk_nil : fs.walk budget here [] = .ok (here, budget) := by
  cases budget <;> rfl

/-- A directory is its own `.`. -/
@[simp]
theorem walk_current : fs.walk budget here (.current :: rest) = fs.walk budget here rest := by
  cases budget <;> rfl

/-- `..` drops the last name. -/
@[simp]
theorem walk_parent :
    fs.walk budget here (.parent :: rest) = fs.walk budget here.dropLast rest := by
  cases budget <;> rfl

/-- A name that is missing. -/
theorem walk_missing (missing : fs.entry (here ++ [name]) = none) :
    fs.walk budget here (.name name :: rest) = .error .notFound := by
  cases budget <;> simp only [walk, steps, missing]

/-- A directory is entered. -/
theorem walk_directory (isDirectory : fs.entry (here ++ [name]) = some .directory) :
    fs.walk budget here (.name name :: rest) = fs.walk budget (here ++ [name]) rest := by
  cases budget <;> simp only [walk, steps, isDirectory]

/-- A link is followed. -/
theorem walk_link (isLink : fs.entry (here ++ [name]) = some (.link target)) :
    fs.walk (budget + 1) here (.name name :: rest) =
      fs.walk budget (target.start here) (target.components ++ rest) := by
  simp only [walk, steps, isLink]

/-- A link is too many. -/
theorem walk_loop (isLink : fs.entry (here ++ [name]) = some (.link target)) :
    fs.walk 0 here (.name name :: rest) = .error .loop := by
  simp only [walk, steps, isLink]

/-- What resolves is a directory. -/
theorem isDir_of_walk {path : List (Component ν)} {reached : List ν × Nat}
    (found : fs.walk budget [] path = .ok reached) : fs.isDir budget path = true := by
  rw [isDir, resolve, found]
  rfl

/-- What does not resolve is none. -/
theorem isDir_of_unresolved {path : List (Component ν)} {errno : Errno}
    (failed : fs.walk budget [] path = .error errno) : fs.isDir budget path = false := by
  rw [isDir, resolve, failed]
  rfl

/-- Induction over the components that are resolved, those of links included. -/
@[elab_as_elim]
theorem walk_induction (fs : FileSystem ν) {motive : Nat → List ν → List (Component ν) → Prop}
    (nil : ∀ budget here, motive budget here [])
    (current : ∀ budget here rest, motive budget here rest →
      motive budget here (.current :: rest))
    (parent : ∀ budget here rest, motive budget here.dropLast rest →
      motive budget here (.parent :: rest))
    (missing : ∀ budget here name rest, fs.entry (here ++ [name]) = none →
      motive budget here (.name name :: rest))
    (directory : ∀ budget here name rest, fs.entry (here ++ [name]) = some .directory →
      motive budget (here ++ [name]) rest → motive budget here (.name name :: rest))
    (loop : ∀ here name target rest, fs.entry (here ++ [name]) = some (.link target) →
      motive 0 here (.name name :: rest))
    (link : ∀ budget here name target rest, fs.entry (here ++ [name]) = some (.link target) →
      motive budget (target.start here) (target.components ++ rest) →
      motive (budget + 1) here (.name name :: rest))
    (budget : Nat) (here : List ν) (path : List (Component ν)) : motive budget here path := by
  have within : ∀ budget, (∀ here name target rest,
      fs.entry (here ++ [name]) = some (.link target) → motive budget here (.name name :: rest)) →
      ∀ path here, motive budget here path := by
    intro budget linked path
    induction path with
    | nil => exact nil budget
    | cons component rest ih =>
      intro here
      cases component with
      | current => exact current budget here rest (ih here)
      | parent => exact parent budget here rest (ih here.dropLast)
      | name name =>
        cases present : fs.entry (here ++ [name]) with
        | none => exact missing budget here name rest present
        | some node =>
          cases node with
          | directory => exact directory budget here name rest present (ih _)
          | link target => exact linked here name target rest present
  induction budget generalizing here path with
  | zero => exact within 0 loop path here
  | succ budget ih =>
    exact within (budget + 1) (fun here name target rest present =>
      link budget here name target rest present (ih _ _)) path here

/-- A path is resolved in two parts. -/
theorem walk_append (budget : Nat) (here : List ν) (path more : List (Component ν)) :
    fs.walk budget here (path ++ more) =
      (fs.walk budget here path).bind fun reached => fs.walk reached.2 reached.1 more := by
  induction budget, here, path using walk_induction fs with
  | nil budget here =>
    rw [List.nil_append, walk_nil]
    rfl
  | current budget here rest ih => rw [List.cons_append, walk_current, walk_current, ih]
  | parent budget here rest ih => rw [List.cons_append, walk_parent, walk_parent, ih]
  | missing budget here name rest missing =>
    rw [List.cons_append, walk_missing missing, walk_missing missing]
    rfl
  | directory budget here name rest isDirectory ih =>
    rw [List.cons_append, walk_directory isDirectory, walk_directory isDirectory, ih]
  | loop here name target rest isLink =>
    rw [List.cons_append, walk_loop isLink, walk_loop isLink]
    rfl
  | link budget here name target rest isLink ih =>
    rw [List.cons_append, walk_link isLink, walk_link isLink, ← List.append_assoc, ih]

/-- What resolves goes on resolving to the same place. -/
theorem walk_extends {after : FileSystem ν} (grows : Extends fs after) {path : List (Component ν)}
    {reached : List ν × Nat} (found : fs.walk budget here path = .ok reached) :
    after.walk budget here path = .ok reached := by
  induction budget, here, path using walk_induction fs with
  | nil budget here =>
    rw [walk_nil] at found ⊢
    exact found
  | current budget here rest ih =>
    rw [walk_current] at found ⊢
    exact ih found
  | parent budget here rest ih =>
    rw [walk_parent] at found ⊢
    exact ih found
  | missing budget here name rest missing =>
    rw [walk_missing missing] at found
    cases found
  | directory budget here name rest isDirectory ih =>
    rw [walk_directory isDirectory] at found
    rw [walk_directory (grows _ _ isDirectory)]
    exact ih found
  | loop here name target rest isLink =>
    rw [walk_loop isLink] at found
    cases found
  | link budget here name target rest isLink ih =>
    rw [walk_link isLink] at found
    rw [walk_link (grows _ _ isLink)]
    exact ih found

/-- A place goes on being what a path resolves to. -/
theorem resolve_extends {after : FileSystem ν} (grows : Extends fs after)
    {path : List (Component ν)} {place : List ν} (found : fs.resolve budget path = .ok place) :
    after.resolve budget path = .ok place := by
  obtain ⟨reached, walked, rfl⟩ := map_eq_ok found
  rw [resolve, walk_extends grows walked]
  rfl

/-- The directory above a directory is one. -/
theorem dropLast_isDirectory (fs : FileSystem ν) (isDirectory : fs.entry here = some .directory) :
    fs.entry here.dropLast = some .directory := by
  rcases List.eq_nil_or_concat here with rfl | ⟨above, name, rfl⟩
  · exact isDirectory
  · rw [List.concat_eq_append] at isDirectory ⊢
    rw [List.dropLast_concat]
    exact fs.parents above name (by rw [isDirectory]; nofun)

/-- What resolves from a directory is one. -/
theorem walk_isDirectory (isDirectory : fs.entry here = some .directory)
    {path : List (Component ν)} {reached : List ν × Nat}
    (found : fs.walk budget here path = .ok reached) :
    fs.entry reached.1 = some .directory := by
  induction budget, here, path using walk_induction fs with
  | nil budget here =>
    rw [walk_nil] at found
    cases found
    exact isDirectory
  | current budget here rest ih =>
    rw [walk_current] at found
    exact ih isDirectory found
  | parent budget here rest ih =>
    rw [walk_parent] at found
    exact ih (fs.dropLast_isDirectory isDirectory) found
  | missing budget here name rest missing =>
    rw [walk_missing missing] at found
    cases found
  | directory budget here name rest entered ih =>
    rw [walk_directory entered] at found
    exact ih entered found
  | loop here name target rest isLink =>
    rw [walk_loop isLink] at found
    cases found
  | link budget here name target rest isLink ih =>
    rw [walk_link isLink] at found
    refine ih ?_ found
    rw [Target.start]
    split
    · exact fs.root
    · exact isDirectory

end Walk

/-! ## Adding entries -/

section Add

variable [DecidableEq ν]

/-- Put something into a directory. -/
def add (fs : FileSystem ν) (place : List ν) (name : ν) (node : Node ν)
    (isDirectory : fs.entry place = some .directory) (free : fs.entry (place ++ [name]) = none) :
    FileSystem ν where
  entry := Function.update fs.entry (place ++ [name]) (some node)
  root := by rw [Function.update_of_ne (by simp), fs.root]
  parents above child present := by
    by_cases same : above ++ [child] = place ++ [name]
    · obtain ⟨rfl, _⟩ := List.append_inj' same rfl
      rw [Function.update_of_ne (by simp), isDirectory]
    · rw [Function.update_of_ne same] at present
      have entered := fs.parents above child present
      rw [Function.update_of_ne (by rintro rfl; rw [free] at entered; cases entered), entered]

variable {fs : FileSystem ν} {place : List ν} {name : ν} {node : Node ν}
  {isDirectory : fs.entry place = some .directory} {free : fs.entry (place ++ [name]) = none}

/-- What was put there stands there. -/
theorem add_entry_self :
    (fs.add place name node isDirectory free).entry (place ++ [name]) = some node :=
  Function.update_self ..

/-- Nothing else changes. -/
theorem add_entry_of_ne {other : List ν} (apart : other ≠ place ++ [name]) :
    (fs.add place name node isDirectory free).entry other = fs.entry other :=
  Function.update_of_ne apart ..

/-- Adding extends. -/
theorem add_extends : Extends fs (fs.add place name node isDirectory free) := by
  intro other found present
  rw [add_entry_of_ne, present]
  rintro rfl
  rw [free] at present
  cases present

end Add

/-! ## Calls -/

section Calls

variable [DecidableEq ν] (fs : FileSystem ν) (budget : Nat)

/-- Put something into a directory if there is room for it. -/
def put (fs : FileSystem ν) (place : List ν) (name : ν) (node : Node ν) : FileSystem ν :=
  if fits : fs.entry place = some .directory ∧ fs.entry (place ++ [name]) = none then
    fs.add place name node fits.1 fits.2
  else fs

/-- `mkdir` and `symlink`: the directory of the last name is resolved, and what is created is put
there unless something stands there. -/
def create (path : List (Component ν)) (name : ν) (node : Node ν) :
    Except Errno (FileSystem ν) :=
  match found : fs.walk budget [] path with
  | .error errno => .error errno
  | .ok reached =>
    if free : fs.entry (reached.1 ++ [name]) = none then
      .ok (fs.add reached.1 name node (walk_isDirectory fs.root found) free)
    else .error .alreadyExists

/-- `lstat`: the last name is not followed. -/
def symlinkMetadata (path : List (Component ν)) (name : ν) : Except Errno (Node ν) :=
  match fs.resolve budget path with
  | .error errno => .error errno
  | .ok place =>
    match fs.entry (place ++ [name]) with
    | none => .error .notFound
    | some node => .ok node

/-- `create_dir_all`, with the names from the last to the first. -/
def createDirs (budget : Nat) : List ν → FileSystem ν → FileSystem ν × Except Errno Unit
  | [], fs => (fs, .ok ())
  | name :: above, fs =>
    let path := above.reverse.map Component.name
    match fs.create budget path name .directory with
    | .ok after => (after, .ok ())
    | .error .notFound =>
      match createDirs budget above fs with
      | (after, .error errno) => (after, .error errno)
      | (after, .ok ()) =>
        match after.create budget path name .directory with
        | .ok last => (last, .ok ())
        | .error errno =>
          if after.isDir budget (path ++ [.name name]) then (after, .ok ())
          else (after, .error errno)
    | .error errno =>
      if fs.isDir budget (path ++ [.name name]) then (fs, .ok ()) else (fs, .error errno)

/-- `create_dir_all` of the names from the root down. -/
def createDirAll (names : List ν) : FileSystem ν × Except Errno Unit :=
  createDirs budget names.reverse fs

variable {fs} {budget} {path : List (Component ν)} {name : ν} {node : Node ν} {errno : Errno}
  {reached : List ν × Nat}

/-- Nothing is created in a directory that does not resolve. -/
theorem create_unresolved (failed : fs.walk budget [] path = .error errno) :
    fs.create budget path name node = .error errno := by
  unfold create
  split
  · rename_i found
    rw [failed] at found
    cases found
    rfl
  · rename_i found
    rw [failed] at found
    cases found

/-- Nothing is created where something stands. -/
theorem create_exists (found : fs.walk budget [] path = .ok reached)
    (present : fs.entry (reached.1 ++ [name]) ≠ none) :
    fs.create budget path name node = .error .alreadyExists := by
  unfold create
  split
  · rename_i failed
    rw [found] at failed
    cases failed
  · rename_i again
    rw [found] at again
    cases again
    rw [dif_neg present]

/-- Something is created where nothing stands. -/
theorem create_free (found : fs.walk budget [] path = .ok reached)
    (free : fs.entry (reached.1 ++ [name]) = none) :
    fs.create budget path name node =
      .ok (fs.add reached.1 name node (walk_isDirectory fs.root found) free) := by
  unfold create
  split
  · rename_i failed
    rw [found] at failed
    cases failed
  · rename_i again
    rw [found] at again
    cases again
    rw [dif_pos free]

/-- A step of `create_dir_all`. -/
theorem createDirAll_concat (names : List ν) :
    fs.createDirAll budget (names ++ [name]) =
      match fs.create budget (names.map .name) name .directory with
      | .ok after => (after, .ok ())
      | .error .notFound =>
        match fs.createDirAll budget names with
        | (after, .error errno) => (after, .error errno)
        | (after, .ok ()) =>
          match after.create budget (names.map .name) name .directory with
          | .ok last => (last, .ok ())
          | .error errno =>
            if after.isDir budget (names.map .name ++ [.name name]) then (after, .ok ())
            else (after, .error errno)
      | .error errno =>
        if fs.isDir budget (names.map .name ++ [.name name]) then (fs, .ok ())
        else (fs, .error errno) := by
  unfold createDirAll
  rw [List.reverse_append, List.reverse_singleton, List.singleton_append, createDirs,
    List.reverse_reverse]

end Calls

/-! ## A chain of directories -/

section Chain

variable {fs : FileSystem ν} {budget : Nat} {path place names : List ν} {name : ν}
  {errno : Errno}

/-- File systems in which the same stands everywhere are the same. -/
theorem ext_entry {first second : FileSystem ν} (same : first.entry = second.entry) :
    first = second := by
  cases first
  cases second
  cases same
  rfl

/-- What has grown: everything that was there, and a chain of directories below a place. -/
structure Grown (before : FileSystem ν) (place names : List ν) (after : FileSystem ν) : Prop where
  /-- Everything that was there still is. -/
  kept : Extends before after
  /-- The chain is there. -/
  chain : ∀ upper, upper <+: names → after.entry (place ++ upper) = some .directory
  /-- Nothing else is. -/
  only : ∀ other, before.entry other = none → after.entry other ≠ none →
    ∃ upper name, upper ++ [name] <+: names ∧ other = place ++ upper ++ [name]

/-- Only one file system has grown by a chain. -/
theorem Grown.unique {before first second : FileSystem ν} (one : Grown before place names first)
    (other : Grown before place names second) : first = second := by
  have agrees : ∀ {first second : FileSystem ν}, Grown before place names first →
      Grown before place names second → ∀ spot node, first.entry spot = some node →
      second.entry spot = some node := by
    intro first second one other spot node present
    cases old : before.entry spot with
    | some found =>
      have same := (one.kept spot found old).symm.trans present
      rw [← same]
      exact other.kept spot found old
    | none =>
      obtain ⟨upper, name, within, rfl⟩ := one.only spot old (by rw [present]; nofun)
      rw [List.append_assoc] at present ⊢
      rw [one.chain _ within] at present
      rw [← present]
      exact other.chain _ within
  apply ext_entry
  funext spot
  cases present : first.entry spot with
  | some node => exact (agrees one other spot node present).symm
  | none =>
    by_contra apart
    obtain ⟨node, found⟩ := Option.ne_none_iff_exists'.mp (Ne.symm apart)
    rw [agrees other one spot node found] at present
    cases present

/-- A chain of directories is walked to its end. -/
theorem walk_chain (names : List ν) (place : List ν)
    (chain : ∀ upper, upper <+: names → fs.entry (place ++ upper) = some .directory) :
    fs.walk budget place (names.map .name) = .ok (place ++ names, budget) := by
  induction names generalizing place with
  | nil => rw [List.map_nil, walk_nil, List.append_nil]
  | cons name names ih =>
    have entered := chain [name] (List.cons_prefix_cons.mpr ⟨rfl, List.nil_prefix⟩)
    rw [List.map_cons, walk_directory entered, ih]
    · rw [List.append_assoc, List.singleton_append]
    · intro upper within
      rw [List.append_assoc, List.singleton_append]
      exact chain _ (List.cons_prefix_cons.mpr ⟨rfl, within⟩)

/-- A path with the chain appended resolves to the end of the chain. -/
theorem Grown.walk {after : FileSystem ν} (grown : Grown fs place names after)
    {path : List (Component ν)} {left : Nat} (found : fs.walk budget [] path = .ok (place, left)) :
    after.walk budget [] (path ++ names.map .name) = .ok (place ++ names, left) := by
  rw [walk_append, walk_extends grown.kept found]
  exact walk_chain names place grown.chain

/-- The next directory of a chain that begins where nothing stands is free. -/
theorem Grown.free {after : FileSystem ν} (grown : Grown fs place names after)
    (missing : ∀ first ∈ (names ++ [name]).head?, fs.entry (place ++ [first]) = none) :
    after.entry (place ++ names ++ [name]) = none := by
  have fresh : fs.entry (place ++ names ++ [name]) = none := by
    rw [List.append_assoc]
    cases whole : names ++ [name] with
    | nil => simp at whole
    | cons first rest =>
      have below := fs.entry_append_none (missing first (by rw [whole]; rfl)) rest
      rwa [List.append_assoc, List.singleton_append] at below
  by_contra present
  obtain ⟨upper, last, within, same⟩ := grown.only _ fresh present
  have longer := within.length_le
  have lengths := congrArg List.length same
  simp only [List.length_append, List.length_singleton] at longer lengths
  omega

/-- Everything has grown by the empty chain below a directory. -/
theorem Grown.nil (isDirectory : fs.entry place = some .directory) : Grown fs place [] fs where
  kept := Extends.refl fs
  chain upper within := by
    rw [List.prefix_nil.mp within, List.append_nil, isDirectory]
  only other missing present := absurd missing present

/-- A chain grows by a directory at its end. -/
theorem Grown.concat [DecidableEq ν] {after : FileSystem ν} (grown : Grown fs place names after)
    (isDirectory : after.entry (place ++ names) = some .directory)
    (free : after.entry (place ++ names ++ [name]) = none) :
    Grown fs place (names ++ [name])
      (after.add (place ++ names) name .directory isDirectory free) where
  kept := grown.kept.trans add_extends
  chain upper within := by
    rcases List.prefix_concat_iff.mp within with rfl | shorter
    · rw [← List.append_assoc, add_entry_self]
    · exact add_extends _ _ (grown.chain upper shorter)
  only other missing present := by
    by_cases last : other = place ++ names ++ [name]
    · exact ⟨names, name, List.prefix_refl _, last⟩
    · rw [add_entry_of_ne last] at present
      obtain ⟨upper, child, within, same⟩ := grown.only other missing present
      exact ⟨upper, child, within.trans (List.prefix_append _ _), same⟩

/-- A path whose first part resolves to a place, and whose other names are missing there. -/
structure Anchor (fs : FileSystem ν) (budget : Nat) (path place names : List ν) : Prop where
  /-- The first part resolves to the place. -/
  split : ∃ above left, path = above ++ names ∧
    fs.walk budget [] (above.map .name) = .ok (place, left)
  /-- The first of the other names is missing there. -/
  missing : ∀ name ∈ names.head?, fs.entry (place ++ [name]) = none

/-- A path does not resolve beyond its anchor. -/
theorem Anchor.unresolved (anchor : Anchor fs budget path place names) (beyond : names ≠ []) :
    fs.walk budget [] (path.map .name) = .error .notFound := by
  obtain ⟨⟨above, left, rfl, found⟩, missing⟩ := anchor
  obtain ⟨name, rest, rfl⟩ := List.exists_cons_of_ne_nil beyond
  rw [List.map_append, walk_append, found]
  exact walk_missing (missing name rfl)

/-- Once the chain has grown, the path resolves to its end. -/
theorem Anchor.resolve_grown {after : FileSystem ν} (anchor : Anchor fs budget path place names)
    (grown : Grown fs place names after) :
    after.resolve budget (path.map .name) = .ok (place ++ names) := by
  obtain ⟨above, left, rfl, found⟩ := anchor.split
  rw [resolve, List.map_append, grown.walk found]
  rfl

/-- A path has one anchor. -/
theorem Anchor.unique {place' names' : List ν} (one : Anchor fs budget path place names)
    (other : Anchor fs budget path place' names') : place = place' ∧ names = names' := by
  -- A longer first part would resolve beyond the shorter one.
  have shorter : ∀ {above above' names names' mid place place' : List ν} {left left' : Nat},
      fs.walk budget [] (above.map .name) = .ok (place, left) →
      fs.walk budget [] (above'.map .name) = .ok (place', left') →
      (∀ name ∈ names.head?, fs.entry (place ++ [name]) = none) →
      above' = above ++ mid → names = mid ++ names' → place = place' ∧ names = names' := by
    rintro above above' names names' mid place place' left left' found found' missing rfl rfl
    cases mid with
    | nil =>
      rw [List.append_nil, found] at found'
      cases found'
      exact ⟨rfl, rfl⟩
    | cons name mid =>
      rw [List.map_append, walk_append, found] at found'
      have stops := found'.symm.trans (walk_missing (missing name rfl))
      cases stops
  obtain ⟨⟨above, left, rfl, found⟩, missing⟩ := one
  obtain ⟨⟨above', left', same, found'⟩, missing'⟩ := other
  rcases List.append_eq_append_iff.mp same with ⟨mid, longer, rest⟩ | ⟨mid, longer, rest⟩
  · exact shorter found found' missing longer rest
  · obtain ⟨places, others⟩ := shorter found' found missing' longer rest
    exact ⟨places.symm, others.symm⟩

/-- The anchor of a path is that of every longer path whose anchor is missing names. -/
theorem Anchor.concat (anchor : Anchor fs budget path place names)
    (missing : ∀ first ∈ (names ++ [name]).head?, fs.entry (place ++ [first]) = none) :
    Anchor fs budget (path ++ [name]) place (names ++ [name]) := by
  obtain ⟨⟨above, left, rfl, found⟩, _⟩ := anchor
  exact ⟨⟨above, left, List.append_assoc _ _ _, found⟩, missing⟩

variable [DecidableEq ν]

/-- Creating a directory with all its parents adds the chain below the anchor. -/
theorem createDirAll_anchor (anchor : Anchor fs budget path place names) :
    ∃ after, fs.createDirAll budget path = (after, .ok ()) ∧ Grown fs place names after := by
  obtain ⟨⟨above, left, rfl, found⟩, missing⟩ := anchor
  induction names using List.reverseRecOn with
  | nil =>
    refine ⟨fs, ?_, Grown.nil (walk_isDirectory fs.root found)⟩
    rw [List.append_nil]
    rcases List.eq_nil_or_concat above with rfl | ⟨upper, last, rfl⟩
    · rfl
    · rw [List.concat_eq_append] at found ⊢
      have isDir := isDir_of_walk found
      rw [List.map_append, walk_append] at found
      cases half : fs.walk budget [] (upper.map .name) with
      | error errno =>
        rw [half] at found
        cases found
      | ok reached =>
        rw [half] at found
        have present : fs.entry (reached.1 ++ [last]) ≠ none := by
          intro none
          exact absurd ((walk_missing none).symm.trans found) nofun
        rw [List.map_append] at isDir
        rw [createDirAll_concat, create_exists half present]
        simp only [List.map_cons, List.map_nil] at isDir
        simp only [isDir, if_true]
  | append_singleton names name ih =>
    rw [← List.append_assoc]
    have earlier : ∀ first ∈ names.head?, fs.entry (place ++ [first]) = none := by
      intro first member
      apply missing
      rw [List.head?_append_of_ne_nil _ (by rintro rfl; cases member)]
      exact member
    obtain ⟨after, created, grown⟩ := ih earlier
    have free := grown.free missing
    have walked := grown.walk found
    rw [← List.map_append] at walked
    have isDirectory := walk_isDirectory after.root walked
    refine ⟨_, ?_, grown.concat isDirectory free⟩
    rw [createDirAll_concat]
    rcases List.eq_nil_or_concat names with rfl | ⟨upper, last, rfl⟩
    · -- The first missing directory is created at once.
      have same : fs = after := by
        rw [List.append_nil] at created
        exact (Grown.nil (walk_isDirectory fs.root found)).unique grown
      subst same
      rw [create_free walked free]
    · have anchored : Anchor fs budget (above ++ upper.concat last) place (upper.concat last) :=
        ⟨⟨above, left, rfl, found⟩, earlier⟩
      rw [create_unresolved (anchored.unresolved (by simp))]
      simp only [created, create_free walked free]

/-- A path has an anchor, or it does not resolve and creating it with all its parents fails and
adds nothing. -/
theorem createDirAll_cases (fs : FileSystem ν) (budget : Nat) (path : List ν) :
    (∃ place names, Anchor fs budget path place names) ∨
      ∃ errno reason, fs.walk budget [] (path.map .name) = .error errno ∧
        fs.createDirAll budget path = (fs, .error reason) := by
  induction path using List.reverseRecOn with
  | nil => exact .inl ⟨[], [], ⟨[], budget, rfl, walk_nil⟩, nofun⟩
  | append_singleton path last ih =>
    rcases ih with ⟨place, names, anchor⟩ | ⟨errno, reason, failed, created⟩
    · cases names with
      | cons name names => exact .inl ⟨place, _, anchor.concat anchor.missing⟩
      | nil =>
        obtain ⟨above, left, same, found⟩ := anchor.split
        rw [List.append_nil] at same
        subst same
        by_cases missing : fs.entry (place ++ [last]) = none
        · exact .inl ⟨place, [last], ⟨path, left, rfl, found⟩, by simpa using missing⟩
        · -- What stands there is a directory, or a link that may not resolve.
          cases walked : fs.walk budget [] ((path ++ [last]).map .name) with
          | ok reached =>
            exact .inl ⟨reached.1, [], ⟨_, reached.2, (List.append_nil _).symm, walked⟩, nofun⟩
          | error errno =>
            refine .inr ⟨errno, .alreadyExists, rfl, ?_⟩
            have isDir := isDir_of_unresolved walked
            rw [List.map_append, List.map_singleton] at isDir
            rw [createDirAll_concat, create_exists found missing]
            simp only [isDir, Bool.false_eq_true, if_false]
    · right
      have walked : fs.walk budget [] ((path ++ [last]).map .name) = .error errno := by
        rw [List.map_append, walk_append, failed]
        rfl
      have isDir := isDir_of_unresolved walked
      rw [List.map_append, List.map_singleton] at isDir
      cases errno with
      | notFound =>
        refine ⟨.notFound, reason, walked, ?_⟩
        rw [createDirAll_concat, create_unresolved failed]
        simp only [created]
      | alreadyExists =>
        refine ⟨.alreadyExists, .alreadyExists, walked, ?_⟩
        rw [createDirAll_concat, create_unresolved failed]
        simp only [isDir, Bool.false_eq_true, if_false]
      | loop =>
        refine ⟨.loop, .loop, walked, ?_⟩
        rw [createDirAll_concat, create_unresolved failed]
        simp only [isDir, Bool.false_eq_true, if_false]

end Chain

end FileSystem

end Files
