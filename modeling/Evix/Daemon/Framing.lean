import Evix.Library.Stream
import Mathlib.Logic.Function.Iterate

/-!
# Requests on a socket

A request is a line of limited length. The reader of a socket buffers whatever a read returns, so a
line may come in any number of chunks. An error is its outermost context, without its causes.
-/

namespace Evix

open Streams

/-- A buffered reader. -/
structure BufReader where
  /-- The chunks that the reads give, the first of them in the buffer. -/
  chunks : List (List UInt8)
  /-- The error of the read behind the last chunk, or the end of the stream. -/
  failure : Option String
  deriving DecidableEq, Repr

namespace BufReader

/-- `fill_buf`: the buffer, empty at the end of the stream. -/
def fillBuf (reader : BufReader) : Except String (List UInt8) :=
  match reader.chunks, reader.failure with
  | chunk :: _, _ => .ok chunk
  | [], some error => .error error
  | [], none => .ok []

/-- `consume`. -/
def consume (reader : BufReader) (length : Nat) : BufReader :=
  match reader.chunks with
  | [] => reader
  | chunk :: chunks =>
    if length < chunk.length then { reader with chunks := chunk.drop length :: chunks }
    else { reader with chunks }

end BufReader

/-- The byte of a carriage return. -/
def returnByte : UInt8 := 0x0D

/-- The error of a line that is too long. -/
def requestTooLong (limit : Nat) : String := s!"daemon request exceeds {limit} bytes"

/-- `read_limited_line` between two passes of its loop. -/
structure LineReading where
  /-- The bytes it holds. -/
  out : List UInt8
  /-- The reader. -/
  reader : BufReader
  /-- What it has returned. -/
  returned : Option (Except String (List UInt8))

/-- One pass of the loop of `read_limited_line`. -/
def LineReading.pass (limit : Nat) (state : LineReading) : LineReading :=
  if state.returned.isSome then state
  else
    match state.reader.fillBuf with
    | .error error => { state with returned := some (.error error) }
    | .ok available =>
      if available.isEmpty then { state with returned := some (.ok state.out) }
      else
        let newline := available.findIdx? (· == newlineByte)
        let length := (newline.map (· + 1)).getD available.length
        if state.out.length + length > limit then
          { state with returned := some (.error (requestTooLong limit)) }
        else
          let out := state.out ++ available.take length
          { out
            reader := state.reader.consume length
            returned := if newline.isSome then some (.ok out) else none }

/-- `read_limited_line` before its first pass. -/
def LineReading.start (reader : BufReader) : LineReading := ⟨[], reader, none⟩

/-- `read_limited_line`: a pass that does not return has emptied the buffer, so one pass more than
there are chunks is enough. -/
def readLimitedLine (limit : Nat) (reader : BufReader) : LineReading :=
  (LineReading.pass limit)^[reader.chunks.length + 1] (.start reader)

/-- `MAX_REQUEST_BYTES`. -/
def maxRequestBytes : Nat := 16 * 1024 * 1024

/-- A line without its line feed and one carriage return before it. -/
def dropLineEnd (bytes : List UInt8) : List UInt8 :=
  if bytes.getLast? = some newlineByte then
    if bytes.dropLast.getLast? = some returnByte then bytes.dropLast.dropLast else bytes.dropLast
  else bytes

/-- `read_request_line`. -/
def readRequestLine (reader : BufReader) : Except String String :=
  match (readLimitedLine maxRequestBytes reader).returned with
  | some (.ok bytes) =>
    match String.fromUTF8? ⟨(dropLineEnd bytes).toArray⟩ with
    | some text => .ok text
    | none => .error "daemon request is not UTF-8"
  | _ => .error "reading daemon request"

end Evix
