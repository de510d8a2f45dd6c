import Evix.Library.Stream

/-!
# Captured output of a worker

`capture_stderr`: what a worker writes to its standard error is logged line by line, and its last
bytes are kept for the error that is made of them when the worker fails.
-/

namespace Evix

open Streams

/-- `STDERR_TAIL_LIMIT`. -/
def stderrTailLimit : Nat := 64 * 1024

/-- `STDERR_LINE_LIMIT`. -/
def stderrLineLimit : Nat := 16 * 1024

/-- `capture_stderr` between two bytes. -/
structure StderrCapture where
  /-- The last bytes. -/
  tail : List UInt8
  /-- The line that has not ended. -/
  line : List UInt8
  /-- Whether bytes of that line were dropped. -/
  truncatedLine : Bool
  /-- The lines given to `trace_stderr_line`, each with whether it is truncated. -/
  logged : List (List UInt8 × Bool)
  deriving DecidableEq, Repr

/-- `push_tail`. -/
def pushTail (tail bytes : List UInt8) : List UInt8 :=
  bytes.foldl (pushBounded stderrTailLimit) tail

namespace StderrCapture

/-- Before the first read. -/
def start : StderrCapture := ⟨[], [], false, []⟩

/-- The loop over the bytes of a read, for one of them. -/
def scanByte (state : StderrCapture) (byte : UInt8) : StderrCapture :=
  if byte = newlineByte then
    { state with
      line := []
      truncatedLine := false
      logged := state.logged ++ [(state.line, state.truncatedLine)] }
  else if state.line.length < stderrLineLimit then { state with line := state.line ++ [byte] }
  else { state with truncatedLine := true }

/-- What is done with the bytes of a read. -/
def captureChunk (state : StderrCapture) (bytes : List UInt8) : StderrCapture :=
  bytes.foldl scanByte { state with tail := pushTail state.tail bytes }

/-- The loop over the reads; one without bytes is the end of the stream. -/
def captureReads : StderrCapture → List (Except String (List UInt8)) → Except String StderrCapture
  | state, [] => .ok state
  | _, .error error :: _ => .error error
  | state, .ok bytes :: reads =>
    if bytes.isEmpty then .ok state else captureReads (state.captureChunk bytes) reads

/-- The lines that are logged in the end: one that has not ended is among them unless it is
empty. -/
def finish (state : StderrCapture) : List (List UInt8 × Bool) :=
  if !state.line.isEmpty || state.truncatedLine then
    state.logged ++ [(state.line, state.truncatedLine)]
  else state.logged

end StderrCapture

/-- `capture_stderr` with the results of its reads: the text of the tail, and the lines logged.
`lossy` is `String::from_utf8_lossy`. -/
def captureStderr (lossy : List UInt8 → String) (reads : List (Except String (List UInt8))) :
    Except String (String × List (List UInt8 × Bool)) :=
  match StderrCapture.start.captureReads reads with
  | .error error => .error error
  | .ok state => .ok (lossy state.tail, state.finish)

end Evix
