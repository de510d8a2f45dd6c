import Evix.Daemon.Response
import Evix.Library.Text

/-!
# The command line

What `evix eval` prints, through the daemon and by itself. The command ends at the first write
that does not succeed; a closed pipe is no failure.
-/

namespace Evix

open Json

/-- How a write to the standard output ends. -/
inductive Write where
  /-- The line is written. -/
  | done
  /-- The pipe is closed. -/
  | brokenPipe
  /-- Any other error. -/
  | failed
  deriving DecidableEq, Repr

/-- `OutputWrite`. -/
inductive OutputWrite where
  /-- The command goes on. -/
  | continue
  /-- Nobody reads the output. -/
  | closed
  deriving DecidableEq, Repr

/-- Why the command fails. -/
inductive CliError where
  /-- The evaluation failed. -/
  | evaluation (message : String)
  /-- A response could not be decoded. -/
  | undecodable
  /-- `daemon closed connection before completing request`. -/
  | incomplete
  /-- `writing stdout`. -/
  | output
  deriving DecidableEq, Repr

/-- The standard output. -/
structure Stdout where
  /-- How each write ends. -/
  writes : Nat → Write
  /-- The lines written. -/
  printed : List String

/-- `write_output_line`. -/
def writeOutputLine (stdout : Stdout) (line : String) : Stdout × Except CliError OutputWrite :=
  match stdout.writes stdout.printed.length with
  | .done => ({ stdout with printed := stdout.printed ++ [line] }, .ok .continue)
  | .brokenPipe => (stdout, .ok .closed)
  | .failed => (stdout, .error .output)

section Commands

variable (text : JsonText)

/-- The loop of `run_daemon_request` over the lines of the daemon. -/
def readResponses (expectDone : Bool) :
    List (List Char) → Stdout → Stdout × Except CliError Unit
  | [], stdout => (stdout, if expectDone then .error .incomplete else .ok ())
  | line :: lines, stdout =>
    if Text.isBlank line then readResponses expectDone lines stdout
    else
      match (text.parse (.ofList line)).bind Response.ofDocument with
      | some (.event event) =>
        match writeOutputLine stdout (text.eventLine event) with
        | (stdout, .ok .continue) => readResponses expectDone lines stdout
        | (stdout, .ok .closed) => (stdout, .ok ())
        | (stdout, .error error) => (stdout, .error error)
      | some (.diff diff) =>
        match writeOutputLine stdout (text.diffLine diff) with
        | (stdout, .ok .continue) => readResponses expectDone lines stdout
        | (stdout, .ok .closed) => (stdout, .ok ())
        | (stdout, .error error) => (stdout, .error error)
      | some .done => (stdout, .ok ())
      | some (.error message) => (stdout, .error (.evaluation message))
      | none => (stdout, .error .undecodable)

/-- `run_daemon_request` for an evaluation, reading what the daemon writes. -/
def runDaemonEval (stdout : Stdout) (items : List (Except Error Event)) :
    Stdout × Except CliError Unit :=
  readResponses text true (Text.lines (text.handleEval items)) stdout

/-- `run_local_eval` over the items of its stream. -/
def runLocalEval (stdout : Stdout) : List (Except Error Event) → Stdout × Except CliError Unit
  | [] => (stdout, .ok ())
  | .error error :: _ => (stdout, .error (.evaluation error.message))
  | .ok event :: items =>
    match writeOutputLine stdout (text.eventLine event) with
    | (stdout, .ok .continue) => runLocalEval stdout items
    | (stdout, .ok .closed) => (stdout, .ok ())
    | (stdout, .error error) => (stdout, .error error)

end Commands

end Evix
