import Evix.RemoteProto.Wire
import Evix.Library.Text

/-!
# Flake references

How a worker and a watch recognize the reference of a flake that is a directory of their machine.
-/

namespace Evix

/-- `strip_prefix` of the scheme of path references. -/
def stripPathScheme (reference : String) : Option String :=
  ("path:".toList.isPrefixOf? reference.toList).map .ofList

/-- `is_local_flake_reference`. -/
def isLocalFlakeReference (reference : String) : Bool :=
  let path := ((Text.splitOnce '#' ((stripPathScheme reference).getD reference)).map
    (·.1)).getD reference
  path.isEmpty || path == "." || path == ".." || "./".toList.isPrefixOf path.toList ||
    "../".toList.isPrefixOf path.toList || (PathBuf.ofStr path).isAbsolute

/-- The lock modes that a worker chooses from. -/
inductive LockMode where
  /-- The lock file has to be up to date. -/
  | check
  /-- The lock file is computed and not written. -/
  | virtual
  deriving DecidableEq, Repr

/-- `flake_lock_mode`. -/
def flakeLockMode (localFlake : Bool) : LockMode := if localFlake then .check else .virtual

/-- `local_flake_root`. -/
def localFlakeRoot (reference : String) : Option PathBuf :=
  let withoutFragment := ((Text.splitOnce '#' reference).map (·.1)).getD reference
  let path := (stripPathScheme withoutFragment).getD withoutFragment
  if path.isEmpty then some (.ofStr ".")
  else if path == "." || path == ".." || "/".toList.isPrefixOf path.toList ||
      "./".toList.isPrefixOf path.toList then
    some (.ofStr path)
  else none

end Evix
