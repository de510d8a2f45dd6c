import Evix.StderrCapture

/-!
# The capture does not depend on the reads

However the output of a worker is split into reads, its last bytes are kept and its lines are
logged, and what is held stays within the limits.
-/

namespace Evix

open Streams

/-- The lines of an output: its parts between line feeds, the last of them unless it is empty. -/
def stderrLines (stream : List UInt8) : List (List UInt8) :=
  let parts := stream.splitOn newlineByte
  if parts.getLast? = some [] then parts.dropLast else parts

/-- What is logged of a line: its first bytes, and whether there are more. -/
def cutLine (line : List UInt8) : List UInt8 × Bool :=
  (line.take stderrLineLimit, decide (stderrLineLimit < line.length))

namespace StderrCapture

/-- What is known when a stream was scanned: the lines that have ended are logged, and the beginning
of the one that has not is held. -/
def Scanned (state : StderrCapture) (stream : List UInt8) : Prop :=
  ∃ complete current, stream.splitOn newlineByte = complete ++ [current] ∧
    state.logged = complete.map cutLine ∧ (state.line, state.truncatedLine) = cutLine current

variable {state : StderrCapture} {stream : List UInt8}

/-- Before the first read. -/
theorem scanned_start : Scanned start [] := ⟨[], [], rfl, rfl, rfl⟩

/-- A line goes on with a byte. -/
theorem cutLine_concat {line current : List UInt8} {truncated : Bool}
    (held : (line, truncated) = cutLine current) (byte : UInt8) :
    cutLine (current ++ [byte]) =
      if line.length < stderrLineLimit then (line ++ [byte], truncated) else (line, true) := by
  obtain ⟨rfl, rfl⟩ := Prod.mk.inj held
  unfold cutLine
  rw [List.length_take, List.length_append, List.length_singleton]
  by_cases room : current.length < stderrLineLimit
  · rw [if_pos (by omega), List.take_of_length_le (Nat.le_of_lt room), List.take_of_length_le]
    · have before : ¬ stderrLineLimit < current.length := by omega
      have after : ¬ stderrLineLimit < current.length + 1 := by omega
      rw [decide_eq_false before, decide_eq_false after]
    · rw [List.length_append, List.length_singleton]
      omega
  · rw [if_neg (by omega), List.take_append_of_le_length (by omega),
      decide_eq_true (by omega : stderrLineLimit < current.length + 1)]

/-- A byte is scanned. -/
theorem Scanned.byte (scanned : state.Scanned stream) (byte : UInt8) :
    (state.scanByte byte).Scanned (stream ++ [byte]) := by
  obtain ⟨complete, current, parts, logged, line⟩ := scanned
  unfold scanByte
  by_cases ends : byte = newlineByte
  · rw [if_pos ends]
    refine ⟨complete ++ [current], [], ?_, ?_, rfl⟩
    · rw [ends, List.splitOn_append_cons_self, parts]
      rfl
    · rw [List.map_append, logged, line]
      rfl
  · have grown := cutLine_concat line byte
    refine ⟨complete, current ++ [byte], splitOn_concat ends parts, ?_⟩
    rw [if_neg ends, grown]
    split
    · exact ⟨logged, rfl⟩
    · exact ⟨logged, rfl⟩

/-- Bytes are scanned. -/
theorem Scanned.bytes (scanned : state.Scanned stream) (bytes : List UInt8) :
    (bytes.foldl scanByte state).Scanned (stream ++ bytes) := by
  induction bytes generalizing state stream with
  | nil =>
    rw [List.append_nil]
    exact scanned
  | cons byte bytes ih =>
    rw [List.append_cons]
    exact ih (scanned.byte byte)

/-- The tail is not touched by the scan. -/
theorem foldl_scanByte_tail (state : StderrCapture) (bytes : List UInt8) :
    (bytes.foldl scanByte state).tail = state.tail := by
  induction bytes generalizing state with
  | nil => rfl
  | cons byte bytes ih =>
    rw [List.foldl_cons, ih]
    unfold scanByte
    split
    · rfl
    split
    · rfl
    · rfl

/-- What is known between two reads: the last bytes of the stream are held, and it was scanned. -/
structure Captured (state : StderrCapture) (stream : List UInt8) : Prop where
  /-- The tail. -/
  tail : state.tail = lasts stderrTailLimit stream
  /-- The lines. -/
  scanned : state.Scanned stream

/-- Bytes put behind the tail. -/
theorem Captured.pushTail (captured : state.Captured stream) (bytes : List UInt8) :
    Evix.pushTail state.tail bytes = lasts stderrTailLimit (stream ++ bytes) := by
  rw [Evix.pushTail, captured.tail]
  exact foldl_pushBounded (by decide) stream bytes

/-- A read is captured. -/
theorem Captured.chunk (captured : state.Captured stream) (bytes : List UInt8) :
    (state.captureChunk bytes).Captured (stream ++ bytes) := by
  have before : Scanned { state with tail := Evix.pushTail state.tail bytes } stream :=
    captured.scanned
  refine ⟨?_, before.bytes bytes⟩
  rw [captureChunk, foldl_scanByte_tail]
  exact captured.pushTail bytes

/-- Reads are captured. -/
theorem Captured.chunks (captured : state.Captured stream) (chunks : List (List UInt8)) :
    (chunks.foldl captureChunk state).Captured (stream ++ chunks.flatten) := by
  induction chunks generalizing state stream with
  | nil =>
    rw [List.flatten_nil, List.append_nil]
    exact captured
  | cons chunk chunks ih =>
    rw [List.flatten_cons, ← List.append_assoc]
    exact ih (captured.chunk chunk)

/-- The loop over reads that all give bytes. -/
theorem captureReads_chunks {chunks : List (List UInt8)} (nonempty : ∀ chunk ∈ chunks, chunk ≠ [])
    (state : StderrCapture) :
    state.captureReads (chunks.map .ok) = .ok (chunks.foldl captureChunk state) := by
  induction chunks generalizing state with
  | nil => rfl
  | cons chunk chunks ih =>
    have some := nonempty chunk List.mem_cons_self
    rw [List.map_cons, captureReads, if_neg (by simpa using some)]
    exact ih (fun other member => nonempty other (List.mem_cons_of_mem _ member)) _

/-- A line is held as nothing only when it is empty. -/
theorem cutLine_empty_iff {line current : List UInt8} {truncated : Bool}
    (held : (line, truncated) = cutLine current) :
    (!line.isEmpty || truncated) = true ↔ current ≠ [] := by
  obtain ⟨rfl, rfl⟩ := Prod.mk.inj held
  cases current with
  | nil => decide
  | cons byte rest =>
    have some_room : stderrLineLimit = 16 * 1024 - 1 + 1 := rfl
    rw [some_room, List.take_succ_cons]
    simp

/-- What is logged in the end. -/
theorem Scanned.finish (scanned : state.Scanned stream) :
    state.finish = (stderrLines stream).map cutLine := by
  obtain ⟨complete, current, parts, logged, line⟩ := scanned
  have ending := cutLine_empty_iff line
  unfold StderrCapture.finish stderrLines
  simp only [parts]
  rw [List.getLast?_concat, List.dropLast_concat, logged, line]
  by_cases empty : current = []
  · rw [if_neg (fun some => ending.mp some empty), if_pos (congrArg some empty)]
  · rw [if_pos (ending.mpr empty), if_neg (fun same => empty (Option.some.inj same)),
      List.map_append]
    rfl

/-- What is held keeps to the limits. -/
structure Bounded (state : StderrCapture) : Prop where
  /-- The tail. -/
  tail : state.tail.length ≤ stderrTailLimit
  /-- The line. -/
  line : state.line.length ≤ stderrLineLimit

/-- The last bytes of a stream keep to the limit. -/
theorem length_lasts_le (stream : List UInt8) :
    (lasts stderrTailLimit stream).length ≤ stderrTailLimit := by
  rw [length_lasts]
  exact Nat.min_le_right _ _

/-- The line that is held keeps to its limit. -/
theorem Scanned.line_le (scanned : state.Scanned stream) :
    state.line.length ≤ stderrLineLimit := by
  obtain ⟨complete, current, _, _, line⟩ := scanned
  rw [(Prod.mk.inj line).1, List.length_take]
  exact Nat.min_le_left _ _

/-- While a read is put behind the tail, the limits are kept. -/
theorem Captured.bounded_push (captured : state.Captured stream) (bytes : List UInt8) :
    Bounded { state with tail := Evix.pushTail state.tail bytes } := by
  refine ⟨?_, captured.scanned.line_le⟩
  simp only [captured.pushTail bytes]
  exact length_lasts_le _

/-- While a read is scanned, the limits are kept. -/
theorem Captured.bounded_scan (captured : state.Captured stream) (chunk bytes : List UInt8) :
    (bytes.foldl scanByte { state with tail := Evix.pushTail state.tail chunk }).Bounded := by
  have before : Scanned { state with tail := Evix.pushTail state.tail chunk } stream :=
    captured.scanned
  refine ⟨?_, (before.bytes bytes).line_le⟩
  rw [foldl_scanByte_tail]
  exact (captured.bounded_push chunk).tail

/-- Before the first read nothing is captured. -/
theorem captured_start : Captured start [] := ⟨rfl, scanned_start⟩

end StderrCapture

open StderrCapture

/-- The capture is that of the stream, however it is split into reads: the last bytes are kept as
its tail, and its lines are logged, each cut to its first bytes. The limits are kept at every byte:
while a read is put behind the tail, and while it is scanned. -/
theorem captureStderr_chunks (lossy : List UInt8 → String) {chunks : List (List UInt8)}
    (nonempty : ∀ chunk ∈ chunks, chunk ≠ []) :
    captureStderr lossy (chunks.map .ok) =
        .ok (lossy (lasts stderrTailLimit chunks.flatten),
          (stderrLines chunks.flatten).map cutLine) ∧
      lasts stderrTailLimit chunks.flatten <:+ chunks.flatten ∧
      (lasts stderrTailLimit chunks.flatten).length =
        min chunks.flatten.length stderrTailLimit ∧
      ∀ before chunk after, chunks = before ++ chunk :: after → ∀ part, part <+: chunk →
        let state := before.foldl captureChunk start
        Bounded { state with tail := pushTail state.tail part } ∧
          (part.foldl scanByte { state with tail := pushTail state.tail chunk }).Bounded := by
  have whole := captured_start.chunks chunks
  refine ⟨?_, List.drop_suffix _ _, length_lasts _ _, ?_⟩
  · have tail := whole.tail
    have logged := whole.scanned.finish
    rw [List.nil_append] at tail logged
    unfold captureStderr
    rw [captureReads_chunks nonempty]
    simp only [tail, logged]
  · intro before chunk after _ part _
    have captured := captured_start.chunks before
    exact ⟨captured.bounded_push part, captured.bounded_scan chunk part⟩

/-- The two reads of the witness do not end where the lines do. -/
def twoReads : List (List UInt8) := [[0x61, 0x0A, 0x62], [0x63]]

/-- Text in which each byte is a character. -/
def asciiText (bytes : List UInt8) : String :=
  String.ofList (bytes.map fun byte => Char.ofNat byte.toNat)

/-- Two reads, the first of which ends in the middle of a line. -/
theorem captureStderr_two :
    captureStderr asciiText (twoReads.map .ok) =
      .ok ("a\nbc", [([0x61], false), ([0x62, 0x63], false)]) :=
  (captureStderr_chunks asciiText (by decide : ∀ chunk ∈ twoReads, chunk ≠ [])).1.trans
    (by decide +kernel)

end Evix
