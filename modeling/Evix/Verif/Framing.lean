import Evix.Daemon.Framing
import Evix.Library.Stream

/-!
# Framing does not depend on buffering

However the reads split a stream, a request is the first line of the stream, unless that is too
long.
-/

namespace Evix

open Streams

/-- The bytes that a reader still gives. -/
def BufReader.unread (reader : BufReader) : List UInt8 := reader.chunks.flatten

/-- What the reading of a line leaves behind: the first line of the stream or the size error, and
what was consumed of the stream. -/
structure IsFramed (limit : Nat) (stream : List UInt8) (final : LineReading) : Prop where
  /-- The first line, unless it is too long. -/
  returned : final.returned =
    some (if (firstPiece newlineByte stream).1.length ≤ limit then
      .ok (firstPiece newlineByte stream).1
    else .error (requestTooLong limit))
  /-- Nothing behind a line that is returned is consumed. -/
  unread : (firstPiece newlineByte stream).1.length ≤ limit →
    final.reader.unread = (firstPiece newlineByte stream).2
  /-- Nothing behind the first line is consumed in any case. -/
  consumed : ∃ consumed, consumed ++ final.reader.unread = stream ∧
    consumed <+: (firstPiece newlineByte stream).1

namespace LineReading

variable {limit : Nat} {state : LineReading}

/-! ## A pass of the loop -/

/-- Nothing happens after the return. -/
theorem pass_returned (done : state.returned.isSome) : pass limit state = state := if_pos done

/-- Nothing happens after the return, in any number of passes. -/
theorem passes_returned (done : state.returned.isSome) (passes : Nat) :
    (pass limit)^[passes] state = state :=
  Function.iterate_fixed (pass_returned done) passes

/-- What is consumed of a chunk is its first piece. -/
theorem unread_consume (chunk : List UInt8) (chunks : List (List UInt8)) (failure : Option String) :
    (BufReader.consume ⟨chunk :: chunks, failure⟩ (firstPiece newlineByte chunk).1.length).unread =
      (firstPiece newlineByte chunk).2 ++ chunks.flatten := by
  have parts := firstPiece_append newlineByte chunk
  have lengths := congrArg List.length parts
  rw [List.length_append] at lengths
  unfold BufReader.consume BufReader.unread
  dsimp only
  split
  case isTrue =>
    rw [List.flatten_cons]
    nth_rewrite 2 [← parts]
    rw [List.drop_left]
  case isFalse whole =>
    have empty : (firstPiece newlineByte chunk).2 = [] := List.length_eq_zero_iff.mp (by omega)
    rw [empty, List.nil_append]

/-- A chunk that is consumed as a whole is gone. -/
theorem consume_whole (chunk : List UInt8) (chunks : List (List UInt8)) (failure : Option String) :
    BufReader.consume ⟨chunk :: chunks, failure⟩ chunk.length = ⟨chunks, failure⟩ :=
  if_neg (Nat.lt_irrefl _)

/-- A pass over a chunk. -/
theorem pass_chunk {out chunk : List UInt8} (some : chunk ≠ []) (chunks : List (List UInt8))
    (failure : Option String) :
    pass limit ⟨out, ⟨chunk :: chunks, failure⟩, none⟩ =
      if out.length + (firstPiece newlineByte chunk).1.length > limit then
        ⟨out, ⟨chunk :: chunks, failure⟩, .some (.error (requestTooLong limit))⟩
      else
        ⟨out ++ (firstPiece newlineByte chunk).1,
          BufReader.consume ⟨chunk :: chunks, failure⟩ (firstPiece newlineByte chunk).1.length,
          if newlineByte ∈ chunk then .some (.ok (out ++ (firstPiece newlineByte chunk).1))
          else none⟩ := by
  have taken : chunk.take (firstPiece newlineByte chunk).1.length =
      (firstPiece newlineByte chunk).1 := by
    nth_rewrite 2 [← firstPiece_append newlineByte chunk]
    rw [List.take_left]
  have found : (chunk.findIdx? (· == newlineByte)).isSome = true ↔ newlineByte ∈ chunk := by
    simp [List.findIdx?_isSome]
  have full : ¬ chunk.isEmpty = true := by simpa using some
  unfold pass BufReader.fillBuf
  simp only [Option.isSome_none, Bool.false_eq_true, if_false, full, ← firstPiece_length, taken,
    found]

/-- A pass at the end of the stream. -/
theorem pass_end (out : List UInt8) :
    pass limit ⟨out, ⟨[], none⟩, none⟩ = ⟨out, ⟨[], none⟩, some (.ok out)⟩ := rfl

/-- A pass keeps the bytes within the limit. -/
theorem pass_bounded (bounded : state.out.length ≤ limit) :
    (pass limit state).out.length ≤ limit := by
  unfold pass
  split
  case isTrue => exact bounded
  split
  case h_1 => exact bounded
  case h_2 available _ =>
    split
    case isTrue => exact bounded
    dsimp only
    generalize ((available.findIdx? (· == newlineByte)).map (· + 1)).getD available.length = length
    split
    case isTrue => exact bounded
    case isFalse fits =>
      have taken := List.length_take_le length available
      rw [List.length_append]
      omega

/-- The bytes stay within the limit. -/
theorem passes_bounded (reader : BufReader) (passes : Nat) :
    ((pass limit)^[passes] (.start reader)).out.length ≤ limit := by
  induction passes with
  | zero => exact Nat.zero_le limit
  | succ passes ih =>
    rw [Function.iterate_succ_apply']
    exact pass_bounded ih

/-! ## All passes -/

/-- What is left behind by the passes over a stream that begin with some bytes held. -/
structure ReadsOn (limit : Nat) (held stream : List UInt8) (final : LineReading) : Prop where
  /-- The bytes held and the first line, unless it is too long. -/
  returned : final.returned =
    some (if held.length + (firstPiece newlineByte stream).1.length ≤ limit then
      .ok (held ++ (firstPiece newlineByte stream).1)
    else .error (requestTooLong limit))
  /-- Nothing behind a line that is returned is consumed. -/
  unread : held.length + (firstPiece newlineByte stream).1.length ≤ limit →
    final.reader.unread = (firstPiece newlineByte stream).2
  /-- Nothing behind the first line is consumed in any case. -/
  consumed : ∃ consumed, consumed ++ final.reader.unread = stream ∧
    consumed <+: (firstPiece newlineByte stream).1

/-- A chunk without a line feed is held when the rest is read. -/
theorem ReadsOn.onto {held chunk stream : List UInt8} {final : LineReading}
    (absent : newlineByte ∉ chunk) (later : ReadsOn limit (held ++ chunk) stream final) :
    ReadsOn limit held (chunk ++ stream) final := by
  have piece := firstPiece_of_not_mem absent stream
  obtain ⟨returned, unread, consumed, parts, inside⟩ := later
  rw [List.length_append, Nat.add_assoc, List.append_assoc] at returned
  rw [List.length_append, Nat.add_assoc] at unread
  refine ⟨?_, ?_, chunk ++ consumed, ?_, ?_⟩
  · rw [piece, List.length_append]
    exact returned
  · rw [piece, List.length_append]
    exact unread
  · rw [List.append_assoc, parts]
  · rw [piece]
    exact (List.prefix_append_right_inj chunk).mpr inside

/-- A first line that is too long is not consumed. -/
theorem readsOn_tooLong {held stream : List UInt8} {reader : BufReader}
    (unread : reader.unread = stream)
    (long : limit < held.length + (firstPiece newlineByte stream).1.length) :
    ReadsOn limit held stream ⟨held, reader, some (.error (requestTooLong limit))⟩ := by
  refine ⟨?_, fun fits => ?_, [], unread, List.nil_prefix⟩
  · rw [if_neg (by omega)]
  · omega

/-- A first line that ends in a chunk is returned, and no more than it is consumed. -/
theorem readsOn_line {held chunk : List UInt8} (present : newlineByte ∈ chunk)
    (chunks : List (List UInt8))
    (fits : held.length + (firstPiece newlineByte chunk).1.length ≤ limit) :
    ReadsOn limit held (chunk ++ chunks.flatten)
      ⟨held ++ (firstPiece newlineByte chunk).1,
        BufReader.consume ⟨chunk :: chunks, none⟩ (firstPiece newlineByte chunk).1.length,
        some (.ok (held ++ (firstPiece newlineByte chunk).1))⟩ := by
  obtain ⟨first, second⟩ := Prod.mk.inj (firstPiece_of_mem present chunks.flatten)
  have unread := unread_consume chunk chunks none
  refine ⟨?_, fun _ => ?_, (firstPiece newlineByte chunk).1, ?_, ?_⟩
  · rw [first, if_pos fits]
  · rw [second]
    exact unread
  · rw [unread, ← List.append_assoc, firstPiece_append]
  · simp only [first, List.prefix_rfl]

/-- The passes over the chunks of a stream. -/
theorem readsOn_passes {chunks : List (List UInt8)} (nonempty : ∀ chunk ∈ chunks, chunk ≠ [])
    {held : List UInt8} (bounded : held.length ≤ limit) :
    ReadsOn limit held chunks.flatten
      ((pass limit)^[chunks.length + 1] ⟨held, ⟨chunks, none⟩, none⟩) := by
  induction chunks generalizing held with
  | nil =>
    show ReadsOn limit held [] (pass limit ⟨held, ⟨[], none⟩, none⟩)
    rw [pass_end]
    refine ⟨?_, fun _ => rfl, [], rfl, List.nil_prefix⟩
    simp [firstPiece, bounded]
  | cons chunk chunks ih =>
    have some := nonempty chunk List.mem_cons_self
    have rest := fun other member => nonempty other (List.mem_cons_of_mem _ member)
    rw [List.length_cons, Function.iterate_succ_apply, pass_chunk some, List.flatten_cons]
    by_cases long : held.length + (firstPiece newlineByte chunk).1.length > limit
    · have longer := firstPiece_length_le newlineByte chunk chunks.flatten
      rw [if_pos long, passes_returned rfl]
      exact readsOn_tooLong rfl (by omega)
    rw [if_neg long]
    by_cases present : newlineByte ∈ chunk
    · rw [if_pos present, passes_returned rfl]
      exact readsOn_line present chunks (by omega)
    · rw [firstPiece_self present] at long ⊢
      dsimp only at long ⊢
      rw [if_neg present, consume_whole]
      refine ReadsOn.onto present (ih rest ?_)
      rw [List.length_append]
      omega

end LineReading

/-- **Framing is independent of buffering.** However a stream is split into chunks, its first line
is read when it is not too long, nothing behind it is consumed, and no more bytes than the limit
are held between two passes of the loop. -/
theorem readLimitedLine_framing (limit : Nat) {chunks : List (List UInt8)}
    (nonempty : ∀ chunk ∈ chunks, chunk ≠ []) :
    IsFramed limit chunks.flatten (readLimitedLine limit ⟨chunks, none⟩) ∧
      ∀ passes, ((LineReading.pass limit)^[passes] (.start ⟨chunks, none⟩)).out.length ≤ limit := by
  have final : LineReading.ReadsOn limit [] chunks.flatten (readLimitedLine limit ⟨chunks, none⟩) :=
    LineReading.readsOn_passes nonempty (Nat.zero_le limit)
  refine ⟨⟨?_, ?_, final.consumed⟩, LineReading.passes_bounded _⟩
  · simpa using final.returned
  · simpa using final.unread

/-- A line that comes in two chunks, with the beginning of the next one. -/
theorem readLimitedLine_framing_split :
    IsFramed 4 [[97, 98], [99, 10, 100]].flatten
        (readLimitedLine 4 ⟨[[97, 98], [99, 10, 100]], none⟩) ∧
      ∀ passes, ((LineReading.pass 4)^[passes]
        (.start ⟨[[97, 98], [99, 10, 100]], none⟩)).out.length ≤ 4 :=
  readLimitedLine_framing 4 (by decide)

/-- A request is the text of what stands before the first line feed, however it arrives. -/
theorem readRequestLine_line {line rest : List UInt8} (absent : newlineByte ∉ line)
    (unended : line.getLast? ≠ some returnByte) {chunks : List (List UInt8)}
    (nonempty : ∀ chunk ∈ chunks, chunk ≠ [])
    (written : chunks.flatten = line ++ newlineByte :: rest)
    (short : line.length < maxRequestBytes) :
    readRequestLine ⟨chunks, none⟩ =
      match String.fromUTF8? ⟨line.toArray⟩ with
      | some text => .ok text
      | none => .error "daemon request is not UTF-8" := by
  have final : LineReading.ReadsOn maxRequestBytes [] chunks.flatten
      (readLimitedLine maxRequestBytes ⟨chunks, none⟩) :=
    LineReading.readsOn_passes nonempty (Nat.zero_le _)
  have returned := final.returned
  have fits : ([] : List UInt8).length + (line ++ [newlineByte]).length ≤ maxRequestBytes := by
    rw [List.length_nil, List.length_append, List.length_singleton]
    omega
  have stripped : dropLineEnd (line ++ [newlineByte]) = line := by
    simp [dropLineEnd, unended]
  rw [written, firstPiece_of_cons absent] at returned
  dsimp only at returned
  rw [if_pos fits, List.nil_append] at returned
  rw [readRequestLine, returned]
  cases decoded : String.fromUTF8? ⟨line.toArray⟩ with
  | none => simp only [stripped, decoded]
  | some text => simp only [stripped, decoded]

end Evix
