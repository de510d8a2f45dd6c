import Evix.Protocol

/-!
# Queries over the warm graph

The filter of a snapshot query and what it matches.
-/

namespace Evix

/-- Filter over the derivations of the warm graph; an absent field matches everything. -/
structure Filter where
  /-- Allowed systems. -/
  systems : Option (List String) := none
  /-- Single attribute path prefix. -/
  attrPrefix : Option (List String) := none
  /-- Attribute path prefixes, any of which may match. -/
  attrPrefixes : Option (List (List String)) := none
  /-- Exact attribute paths. -/
  attrs : Option (List (List String)) := none
  /-- Derivation names. -/
  names : Option (List String) := none
  /-- Derivation store paths. -/
  drvPaths : Option (List String) := none
  /-- Wildcard patterns over the rendered attribute path. -/
  includePatterns : Option (List String) := none
  /-- Wildcard patterns that exclude a derivation. -/
  excludePatterns : Option (List String) := none

/-- `attr_path_starts_with`. -/
def attrPathStartsWith (attrPath leading : List String) : Bool :=
  decide (leading.length ≤ attrPath.length) &&
    (attrPath.zip leading).all fun pair => pair.1 == pair.2

/-- A cell of the table of `wildcard_matches`, from its neighbours. -/
def wildcardCell (ch letter : Char) (above left diagonal : Bool) : Bool :=
  if ch = '*' then above || left
  else if ch = '?' then diagonal
  else ch == letter && diagonal

/-- The cells of a row after the first, from left to right. -/
def wildcardCells (ch : Char) : (left : Bool) → (above : List Bool) → List Char → List Bool
  | left, diagonal :: above :: row, letter :: letters =>
    let cell := wildcardCell ch letter above left diagonal
    cell :: wildcardCells ch cell (above :: row) letters
  | _, _, _ => []

/-- The row of a pattern character, from the row above it. -/
def wildcardRow (ch : Char) (above : List Bool) (letters : List Char) : List Bool :=
  let first := if ch = '*' then above.headD false else false
  first :: wildcardCells ch first above letters

/-- `wildcard_matches`: the table is built row by row, and the answer is its last cell. -/
def wildcardMatches (pattern value : String) : Bool :=
  let letters := value.toList
  let start := true :: List.replicate letters.length false
  (pattern.toList.foldl (fun row ch => wildcardRow ch row letters) start).getLastD false

/-- `matches_filter`. -/
def matchesFilter (drv : Derivation) (filter : Filter) : Bool :=
  filter.systems.all (fun systems => systems.any fun system => system == drv.system) &&
    filter.attrPrefix.all (fun leading => attrPathStartsWith drv.attrPath leading) &&
    filter.attrPrefixes.all (fun prefixes =>
      prefixes.any fun leading => attrPathStartsWith drv.attrPath leading) &&
    filter.attrs.all (fun attrs => attrs.any fun attr => attr == drv.attrPath) &&
    filter.names.all (fun names => names.any fun name => name == drv.name) &&
    filter.drvPaths.all (fun paths => paths.any fun path => path == drv.drvPath) &&
    filter.includePatterns.all (fun patterns =>
      patterns.any fun pattern => wildcardMatches pattern drv.attr) &&
    filter.excludePatterns.all (fun patterns =>
      !patterns.any fun pattern => wildcardMatches pattern drv.attr)

example : wildcardMatches "hydraJobs.*" "hydraJobs.release" = true := by decide

end Evix
