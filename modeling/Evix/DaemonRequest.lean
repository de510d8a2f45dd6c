import Evix.Daemon.Handlers
import Evix.FlakeReference

/-!
# Requests for the daemon

How the command line prepares a request before it sends it: the daemon has another working
directory, so the paths of the input are made canonical in the directory of the client.
-/

namespace Evix

/-- The paths of the client's machine. -/
structure ClientPaths where
  /-- `fs::canonicalize` in a working directory. -/
  canonicalize : (directory path : PathBuf) → Except String PathBuf
  /-- `Path::display`. -/
  display : PathBuf → String
  /-- The debug rendering of a path. -/
  debug : PathBuf → String

/-- `split_flake_fragment`: the fragment keeps its mark. -/
def splitFlakeFragment (reference : String) : String × String :=
  match reference.toList.dropWhile (· ≠ '#') with
  | [] => (reference, "")
  | _ :: fragment => (.ofList (reference.toList.takeWhile (· ≠ '#')), "#" ++ .ofList fragment)

/-- `is_relative_flake_path`. -/
def isRelativeFlakePath (path : String) : Bool :=
  path.isEmpty || path == "." || "./".toList.isPrefixOf path.toList ||
    "../".toList.isPrefixOf path.toList ||
    (path.toList.contains '/' && !path.toList.contains ':' && !(PathBuf.ofStr path).isAbsolute)

section Client

variable (paths : ClientPaths) (directory : PathBuf)

/-- `canonical_flake_path`. -/
def canonicalFlakePath (path : String) : Except String String :=
  let path := if path.isEmpty then "." else path
  match paths.canonicalize directory (.ofStr path) with
  | .error _ => .error s!"canonicalizing flake path {paths.debug (.ofStr path)}"
  | .ok canonical =>
    match canonical.toStr with
    | some text => .ok text
    | none => .error s!"flake path {paths.debug canonical} is not valid UTF-8"

/-- `daemon_flake_ref`. -/
def daemonFlakeRef (reference : String) : Except String String :=
  match stripPathScheme reference with
  | some pathRef => do
    let (path, fragment) := splitFlakeFragment pathRef
    return "path:" ++ (← canonicalFlakePath paths directory path) ++ fragment
  | none =>
    let (path, fragment) := splitFlakeFragment reference
    if isRelativeFlakePath path || (PathBuf.ofStr path).isAbsolute then do
      return "path:" ++ (← canonicalFlakePath paths directory path) ++ fragment
    else .ok reference

/-- The input of `daemon_config`. -/
def daemonInput : Input → Except String Input
  | .file path =>
    match paths.canonicalize directory path with
    | .ok canonical => .ok (.file canonical)
    | .error _ => .error s!"canonicalizing input file {paths.display path}"
  | .flake reference => .flake <$> daemonFlakeRef paths directory reference
  | .expr expression => .ok (.expr expression)

/-- `daemon_config`. -/
def daemonConfig (config : Config) : Except String Config := do
  return { config with input := ← daemonInput paths directory config.input }

/-- `daemon_request`. -/
def daemonRequest : Request → Except String Request
  | .eval config => .eval <$> daemonConfig paths directory config
  | .replay config => .replay <$> daemonConfig paths directory config
  | .watch config => .watch <$> daemonConfig paths directory config
  | .query config filter => (.query · filter) <$> daemonConfig paths directory config
  | .diff config => .diff <$> daemonConfig paths directory config

end Client

end Evix
