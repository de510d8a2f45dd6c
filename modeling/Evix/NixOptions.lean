import Evix.Library.Text

/-!
# Nix options of a worker

`prepare_nix_options_env`: the `--option` pairs of the command line are written to a configuration
file that a worker process reads through `NIX_USER_CONF_FILES`.
-/

namespace Evix

/-! ## The checks -/

/-- The first word of a text. -/
def firstWord (text : List Char) : Option (List Char) :=
  ((text.splitOnP Text.isWhitespace).filter fun word => !word.isEmpty).head?

/-- `validate_nix_option_part`. -/
def validateNixOptionPart (label part : String) : Except String Unit :=
  if '\n' ∈ part.toList ∨ '\r' ∈ part.toList then
    .error s!"nix option {label} must not contain newlines"
  else if firstWord part.toList = some "include".toList ∨
      firstWord part.toList = some "!include".toList then
    .error s!"nix option {label} must not start with include directives"
  else .ok ()

/-- The checks of `prepare_nix_options_env`. -/
def validateNixOptions : List (String × String) → Except String Unit
  | [] => .ok ()
  | option :: options => do
    validateNixOptionPart "key" option.1
    validateNixOptionPart "value" option.2
    validateNixOptions options

/-- A line of the file. -/
def nixOptionLine (option : String × String) : List Char :=
  option.1.toList ++ " = ".toList ++ option.2.toList ++ ['\n']

/-! ## The configuration file -/

/-- What the preparation of Nix options finds and does outside the program. -/
structure NixOptionsHost where
  /-- `env::temp_dir`. -/
  tempDir : String
  /-- `process::id`. -/
  process : Nat
  /-- Nanoseconds since the epoch, or zero. -/
  nanos : Nat
  /-- `NIX_USER_CONF_FILES`. -/
  previous : Option String
  /-- The configuration file of the user, when there is one. -/
  defaultConfig : Option String
  /-- What comes of `fs::write`. -/
  written : Except String Unit

/-- `NixOptionsFile`, with what was written to it. -/
structure NixOptionsFile where
  /-- The generated file. -/
  path : String
  /-- Its contents. -/
  contents : List Char
  /-- The value of `NIX_USER_CONF_FILES` for the worker. -/
  confFiles : String
  deriving DecidableEq, Repr

/-- `env::join_paths`. -/
def joinPaths (paths : List String) : Except String String :=
  if paths.any (·.toList.contains ':') then .error "joining NIX_USER_CONF_FILES"
  else .ok (":".intercalate paths)

/-- `nix_user_conf_files`. -/
def nixUserConfFiles (host : NixOptionsHost) (generated : String) : Except String String :=
  match host.previous.filter (· ≠ "") with
  | some previous => joinPaths (generated :: (previous.toList.splitOn ':').map .ofList)
  | none => joinPaths (generated :: host.defaultConfig.toList)

/-- The path of the generated file. -/
def nixOptionsPath (host : NixOptionsHost) : String :=
  let directory :=
    if host.tempDir.toList.getLast?.all (· == '/') then host.tempDir else host.tempDir ++ "/"
  s!"{directory}evix-nix-options-{host.process}-{host.nanos}.conf"

/-- `prepare_nix_options_env`. -/
def prepareNixOptionsEnv (host : NixOptionsHost) (options : List (String × String)) :
    Except String (Option NixOptionsFile) := do
  if options.isEmpty then return none
  validateNixOptions options
  let path := nixOptionsPath host
  let contents := options.flatMap nixOptionLine
  host.written.mapError fun _ => "writing Nix options file"
  let confFiles ← nixUserConfFiles host path
  return some { path, contents, confFiles }

/-! ## What Nix reads -/

/-- What Nix makes of a line of a configuration file. -/
inductive NixLine where
  /-- Nothing is left of the line. -/
  | blank
  /-- An include directive. -/
  | directive
  /-- A setting gets a value. -/
  | setting (name : List Char)
  /-- The line is refused. -/
  | illegal
  deriving DecidableEq

/-- What Nix takes for a blank. -/
def isNixBlank (char : Char) : Bool := char = ' ' || char = '\t' || char = '\n' || char = '\r'

/-- The words of a line up to a comment. -/
def nixWords (line : List Char) : List (List Char) :=
  ((line.takeWhile fun char => char ≠ '#').splitOnP isNixBlank).filter fun word => !word.isEmpty

/-- How Nix reads a line. -/
def readNixLine (line : List Char) : NixLine :=
  match nixWords line with
  | [] => .blank
  | name :: words =>
    if name = "include".toList ∨ name = "!include".toList then .directive
    else if words.head? = some ['='] then .setting name
    else .illegal

/-- How Nix reads a configuration file. -/
def readNixConf (contents : List Char) : List NixLine := (contents.splitOn '\n').map readNixLine

/-- What Nix sets the name of a line to. -/
def nixValue (line : List Char) : List Char := [' '].intercalate ((nixWords line).drop 2)

/-- The lines of a configuration file in which something is left. -/
def nixLines (contents : List Char) : List (List Char) :=
  (contents.splitOn '\n').filter fun line => readNixLine line ≠ .blank

end Evix
