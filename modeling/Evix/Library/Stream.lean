import Mathlib.Data.List.Basic

/-!
# Pieces of a stream

A piece of a stream reaches up to a separator and includes it; the last piece may lack it. A stream
that is read item by item is split as it grows, and its last items are kept in a bounded queue.
-/

namespace Streams

/-- The byte of a line feed. -/
def newlineByte : UInt8 := 0x0A

section Pieces

variable {α : Type} [DecidableEq α]

/-- The first piece of a stream and what comes after it. -/
def firstPiece (separator : α) : List α → List α × List α
  | [] => ([], [])
  | item :: rest =>
    if item = separator then ([item], rest)
    else (item :: (firstPiece separator rest).1, (firstPiece separator rest).2)

/-- A stream is its first piece and what comes after it. -/
theorem firstPiece_append (separator : α) (stream : List α) :
    (firstPiece separator stream).1 ++ (firstPiece separator stream).2 = stream := by
  induction stream with
  | nil => rfl
  | cons item rest ih =>
    unfold firstPiece
    split
    · rfl
    · rw [List.cons_append, ih]

/-- The first piece goes on behind what holds no separator. -/
theorem firstPiece_of_not_mem {separator : α} {front : List α} (absent : separator ∉ front)
    (rest : List α) :
    firstPiece separator (front ++ rest) =
      (front ++ (firstPiece separator rest).1, (firstPiece separator rest).2) := by
  induction front with
  | nil => rfl
  | cons item front ih =>
    have other : item ≠ separator := fun same => absent (same ▸ List.mem_cons_self)
    have later := ih fun member => absent (List.mem_cons_of_mem _ member)
    rw [List.cons_append, firstPiece, if_neg other, later]
    rfl

/-- The first piece ends at the first separator. -/
theorem firstPiece_of_cons {separator : α} {front : List α} (absent : separator ∉ front)
    (rest : List α) :
    firstPiece separator (front ++ separator :: rest) = (front ++ [separator], rest) := by
  rw [firstPiece_of_not_mem absent, firstPiece, if_pos rfl]

/-- What holds no separator is one piece. -/
theorem firstPiece_self {separator : α} {stream : List α} (absent : separator ∉ stream) :
    firstPiece separator stream = (stream, []) := by
  have whole := firstPiece_of_not_mem absent []
  rwa [List.append_nil, firstPiece, List.append_nil] at whole

/-- What comes behind the first separator does not change the first piece. -/
theorem firstPiece_of_mem {separator : α} {front : List α} (present : separator ∈ front)
    (rest : List α) :
    firstPiece separator (front ++ rest) =
      ((firstPiece separator front).1, (firstPiece separator front).2 ++ rest) := by
  obtain ⟨line, after, rfl, absent⟩ := List.eq_append_cons_of_mem present
  rw [firstPiece_of_cons absent, List.append_assoc, List.cons_append, firstPiece_of_cons absent]

/-- The first piece does not get shorter when the stream goes on. -/
theorem firstPiece_length_le (separator : α) (front rest : List α) :
    (firstPiece separator front).1.length ≤ (firstPiece separator (front ++ rest)).1.length := by
  by_cases present : separator ∈ front
  · have same := congrArg (·.1.length) (firstPiece_of_mem present rest)
    exact Nat.le_of_eq same.symm
  · rw [firstPiece_self present, firstPiece_of_not_mem present]
    dsimp only
    rw [List.length_append]
    omega

/-- Where the first piece ends. -/
theorem firstPiece_length (separator : α) (stream : List α) :
    (firstPiece separator stream).1.length =
      ((stream.findIdx? (· == separator)).map (· + 1)).getD stream.length := by
  induction stream with
  | nil => rfl
  | cons item rest ih =>
    rw [firstPiece, List.findIdx?_cons]
    by_cases same : item = separator
    · simp [same]
    · rw [if_neg same, List.length_cons, ih]
      cases found : rest.findIdx? (· == separator) with
      | none => simp [same]
      | some index => simp [same]

/-- An item that separates nothing goes on with the last part. -/
theorem splitOn_concat {separator item : α} (other : item ≠ separator) {stream : List α}
    {complete : List (List α)} {current : List α}
    (parts : stream.splitOn separator = complete ++ [current]) :
    (stream ++ [item]).splitOn separator = complete ++ [current ++ [item]] := by
  induction stream generalizing complete current with
  | nil =>
    obtain ⟨rfl, rfl⟩ : [] = complete ∧ [] = current := by
      cases complete with
      | nil => exact ⟨rfl, (List.cons.inj parts).1⟩
      | cons first complete => simp at parts
    exact List.splitOn_eq_singleton (by simpa using Ne.symm other)
  | cons first stream ih =>
    rw [List.splitOn_cons_eq_if_modifyHead] at parts
    rw [List.cons_append, List.splitOn_cons_eq_if_modifyHead]
    have some_part := List.splitOn_ne_nil separator stream
    by_cases same : (first == separator) = true
    · rw [if_pos same] at parts ⊢
      cases complete with
      | nil => exact absurd (List.cons.inj parts).2 some_part
      | cons head complete =>
        obtain ⟨rfl, rest⟩ := List.cons.inj parts
        rw [ih rest]
        rfl
    · rw [if_neg same] at parts ⊢
      cases split : stream.splitOn separator with
      | nil => exact absurd split some_part
      | cons head rest =>
        rw [split, List.modifyHead_cons] at parts
        cases complete with
        | nil =>
          obtain ⟨rfl, rfl⟩ := List.cons.inj parts
          have grown : (stream ++ [item]).splitOn separator = [] ++ [head ++ [item]] := ih split
          rw [grown]
          rfl
        | cons opening complete =>
          obtain ⟨rfl, rfl⟩ := List.cons.inj parts
          have grown : (stream ++ [item]).splitOn separator =
              (head :: complete) ++ [current ++ [item]] := ih split
          rw [grown]
          rfl

end Pieces

/-! ## The last items -/

section Last

variable {α : Type}

/-- Put an item behind a queue that keeps a limited number of them. -/
def pushBounded (limit : Nat) (queue : List α) (item : α) : List α :=
  if queue.length = limit then queue.tail ++ [item] else queue ++ [item]

/-- The last items of a stream, as many as there are up to a limit. -/
def lasts (limit : Nat) (stream : List α) : List α := stream.drop (stream.length - limit)

/-- There are as many as the limit allows. -/
theorem length_lasts (limit : Nat) (stream : List α) :
    (lasts limit stream).length = min stream.length limit := by
  rw [lasts, List.length_drop]
  omega

/-- A bounded queue keeps the last items. -/
theorem pushBounded_lasts {limit : Nat} (positive : 0 < limit) (stream : List α) (item : α) :
    pushBounded limit (lasts limit stream) item = lasts limit (stream ++ [item]) := by
  have size := length_lasts limit stream
  unfold pushBounded
  by_cases full : limit ≤ stream.length
  · have next : stream.length - limit + 1 = (stream ++ [item]).length - limit := by
      rw [List.length_append, List.length_singleton]
      omega
    rw [if_pos (by omega), lasts, lasts, List.tail_drop, next, List.drop_append_of_le_length]
    rw [List.length_append, List.length_singleton]
    omega
  · have none_before : stream.length - limit = 0 := by omega
    have none_after : (stream ++ [item]).length - limit = 0 := by
      rw [List.length_append, List.length_singleton]
      omega
    rw [if_neg (by omega), lasts, lasts, none_before, none_after, List.drop_zero, List.drop_zero]

/-- So does one that several items are put behind. -/
theorem foldl_pushBounded {limit : Nat} (positive : 0 < limit) (stream items : List α) :
    items.foldl (pushBounded limit) (lasts limit stream) = lasts limit (stream ++ items) := by
  induction items generalizing stream with
  | nil => rw [List.foldl_nil, List.append_nil]
  | cons item items ih =>
    rw [List.foldl_cons, pushBounded_lasts positive, ih, List.append_assoc, List.singleton_append]

end Last

end Streams
