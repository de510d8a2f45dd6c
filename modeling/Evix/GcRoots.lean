import Evix.Protocol
import Evix.Library.FileSystem

/-!
# Garbage collector roots

`register_gc_root` on a file system of directories and symbolic links: the directory is checked
as it is written, created with its parents and checked again as it resolves, and then a link to
the derivation is made in it. A path is a string of bytes, of which the program and the kernel
make components of their own.
-/

namespace Evix

open Files

/-- A name in a directory. -/
abbrev FileName := List UInt8

/-- The name that a string spells. -/
def FileName.ofStr (text : String) : FileName := text.toUTF8.data.toList

/-- The file system of a worker. -/
abbrev WorkerFiles := FileSystem FileName

/-! ## Paths -/

/-- `Component`, without the prefixes of other platforms. -/
inductive PathComponent where
  /-- `RootDir`. -/
  | rootDir
  /-- `CurDir`. -/
  | curDir
  /-- `ParentDir`. -/
  | parentDir
  /-- `Normal`. -/
  | normal (part : FileName)
  deriving DecidableEq

namespace PathBuf

/-- What stands between the slashes of a path. -/
def pieces (path : PathBuf) : List FileName :=
  (path.bytes.splitOn 0x2F).filter fun piece => !piece.isEmpty

/-- The name `.`. -/
def dot : FileName := [0x2E]

/-- The name `..`. -/
def dotDot : FileName := [0x2E, 0x2E]

/-- The component of a piece other than `.`. -/
def component (piece : FileName) : PathComponent :=
  if piece = dotDot then .parentDir else .normal piece

/-- `Path::components`: only a `.` at the start of a relative path is kept. -/
def components (path : PathBuf) : List PathComponent :=
  let named := (path.pieces.filter fun piece => piece ≠ dot).map component
  if path.isAbsolute then .rootDir :: named
  else if path.pieces.head? = some dot then .curDir :: named
  else named

/-- The components a kernel resolves. -/
def kernelComponents (path : PathBuf) : List (Component FileName) :=
  path.pieces.map fun piece =>
    if piece = dot then .current else if piece = dotDot then .parent else .name piece

/-- `Path::file_name`. -/
def fileName (path : PathBuf) : Option FileName :=
  match path.components.getLast? with
  | some (.normal part) => some part
  | _ => none

/-- `Path::join` of a name. -/
def join (path : PathBuf) (name : FileName) : PathBuf :=
  if path.bytes.isEmpty || path.bytes.getLast? = some 0x2F then ⟨path.bytes ++ name⟩
  else ⟨path.bytes ++ 0x2F :: name⟩

/-- Whether a path cannot be handed to a kernel. -/
def hasNul (path : PathBuf) : Bool := path.bytes.any (· == 0)

end PathBuf

/-- `NIX_GCROOTS_DIR`, as names. -/
def nixGcRootsDir : List FileName := ["nix", "var", "nix", "gcroots"].map .ofStr

/-! ## The directory -/

section Register

variable (display : PathBuf → String)

/-- The pass of the loop of `normalize_absolute`. -/
def normalizeComponent (path : PathBuf) (state : Bool × List FileName) :
    PathComponent → Except String (Bool × List FileName)
  | .rootDir => .ok (true, [])
  | .curDir => .ok state
  | .normal part => .ok (state.1, state.2 ++ [part])
  | .parentDir =>
    if state.2.isEmpty then .error s!"path escapes filesystem root: {display path}"
    else .ok (state.1, state.2.dropLast)

/-- `normalize_absolute`: the names of the normalised path. -/
def normalizeAbsolute (path : PathBuf) : Except String (List FileName) := do
  let state ← path.components.foldlM (normalizeComponent display path) (false, [])
  if state.1 then return state.2
  else throw s!"gc roots dir must be absolute: {display path}"

/-- `validate_gc_roots_dir_path`. -/
def validateGcRootsDirPath (gcDir : PathBuf) : Except String (List FileName) := do
  let normalized ← normalizeAbsolute display gcDir
  if nixGcRootsDir <+: normalized then return normalized
  else throw s!"gc roots dir must be under /nix/var/nix/gcroots: {display gcDir}"

/-- The path of names below the root. -/
def PathBuf.ofNames (names : List FileName) : PathBuf :=
  ⟨names.flatMap fun name => 0x2F :: name⟩

variable (budget : Nat)

/-- `ensure_gc_roots_dir`, where a path may lead through `budget` links. -/
def ensureGcRootsDir (fs : WorkerFiles) (gcDir : PathBuf) : WorkerFiles × Except String Unit :=
  match validateGcRootsDirPath display gcDir with
  | .error error => (fs, .error error)
  | .ok normalized =>
    let path := PathBuf.ofNames normalized
    if path.hasNul then (fs, .error s!"creating gc roots dir {display path}")
    else
      match fs.createDirAll budget normalized with
      | (fs, .error _) => (fs, .error s!"creating gc roots dir {display path}")
      | (fs, .ok ()) =>
        match fs.resolve budget (nixGcRootsDir.map .name) with
        | .error _ => (fs, .error "canonicalizing /nix/var/nix/gcroots")
        | .ok root =>
          match fs.resolve budget (normalized.map .name) with
          | .error _ => (fs, .error s!"canonicalizing {display path}")
          | .ok canonical =>
            if root <+: canonical then (fs, .ok ())
            else (fs, .error
              s!"gc roots dir resolves outside /nix/var/nix/gcroots: {display gcDir}")

/-- `create_gc_root_link`. -/
def createGcRootLink (fs : WorkerFiles) (gcDir drvPath : PathBuf) :
    WorkerFiles × Except String Unit :=
  match drvPath.fileName with
  | none => (fs, .error "drv path has no filename")
  | some name =>
    let link := gcDir.join name
    if link.hasNul then (fs, .error s!"checking gc root {display link}")
    else
      match fs.symlinkMetadata budget gcDir.kernelComponents name with
      | .ok _ => (fs, .ok ())
      | .error .notFound =>
        if drvPath.hasNul then
          (fs, .error s!"symlinking {display link} -> {display drvPath}")
        else
          match fs.create budget gcDir.kernelComponents name
              (.link ⟨drvPath.isAbsolute, drvPath.kernelComponents⟩) with
          | .ok after => (after, .ok ())
          | .error _ => (fs, .error s!"symlinking {display link} -> {display drvPath}")
      | .error _ => (fs, .error s!"checking gc root {display link}")

/-- `register_gc_root`. -/
def registerGcRoot (fs : WorkerFiles) (gcDir drvPath : PathBuf) :
    WorkerFiles × Except String Unit :=
  match ensureGcRootsDir display budget fs gcDir with
  | (fs, .error error) => (fs, .error error)
  | (fs, .ok ()) => createGcRootLink display budget fs gcDir drvPath

end Register

end Evix
