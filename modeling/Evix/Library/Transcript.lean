import Mathlib.Data.List.Basic

/-!
# Transcripts of paired messages

A server that answers every request with two messages writes a transcript in which the place
of a message tells which request it belongs to, although no message carries an identity: the
answers to request `n` are at the places `2 * n` and `2 * n + 1`.
-/

namespace Transcript

universe u v w

variable {α : Type u} {β : Type v} (first second : α → β)

/-- The two messages of every answer, in order. -/
def pairs (answers : List α) : List β := answers.flatMap fun answer => [first answer, second answer]

/-- Every answer is two messages. -/
@[simp]
theorem pairs_length (answers : List α) :
    (pairs first second answers).length = 2 * answers.length := by
  simp [pairs, List.length_flatMap, Nat.mul_comm]

/-- Later answers follow. -/
theorem pairs_append (earlier later : List α) :
    pairs first second (earlier ++ later) =
      pairs first second earlier ++ pairs first second later := by
  simp [pairs]

/-- An even place holds the first message of its answer. -/
theorem pairs_even (answers : List α) (index : Nat) :
    (pairs first second answers)[2 * index]? = answers[index]?.map first := by
  induction answers generalizing index with
  | nil => rfl
  | cons answer answers ih =>
    cases index with
    | zero => rfl
    | succ index =>
      show (first answer :: second answer :: pairs first second answers)[2 * index + 2]? = _
      simp only [List.getElem?_cons_succ]
      exact ih index

/-- An odd place holds the second message of its answer. -/
theorem pairs_odd (answers : List α) (index : Nat) :
    (pairs first second answers)[2 * index + 1]? = answers[index]?.map second := by
  induction answers generalizing index with
  | nil => rfl
  | cons answer answers ih =>
    cases index with
    | zero => rfl
    | succ index =>
      show (first answer :: second answer :: pairs first second answers)[2 * index + 1 + 2]? = _
      simp only [List.getElem?_cons_succ]
      exact ih index

/-! ## Answers in two parts -/

variable {γ : Type w} (head : α → γ) (tail : β → γ)

/-- The two messages of every answer, in order, where the last answer may lack the second. -/
def alternate : List α → List β → List γ
  | first :: firsts, second :: seconds => head first :: tail second :: alternate firsts seconds
  | first :: _, [] => [head first]
  | [], _ => []

/-- An even place holds a first message. -/
theorem alternate_even {firsts : List α} {seconds : List β} {index : Nat} {message : γ}
    (there : (alternate head tail firsts seconds)[2 * index]? = some message) :
    ∃ first, firsts[index]? = some first ∧ message = head first := by
  induction firsts, seconds using alternate.induct generalizing index with
  | case1 first firsts second seconds ih =>
    cases index with
    | zero => exact ⟨first, rfl, (Option.some.inj there).symm⟩
    | succ index => exact ih there
  | case2 first firsts =>
    cases index with
    | zero => exact ⟨first, rfl, (Option.some.inj there).symm⟩
    | succ index => cases there
  | case3 seconds =>
    rw [alternate] at there
    cases there

/-- An odd place holds a second message. -/
theorem alternate_odd {firsts : List α} {seconds : List β} {index : Nat} {message : γ}
    (there : (alternate head tail firsts seconds)[2 * index + 1]? = some message) :
    ∃ second, seconds[index]? = some second ∧ message = tail second := by
  induction firsts, seconds using alternate.induct generalizing index with
  | case1 first firsts second seconds ih =>
    cases index with
    | zero => exact ⟨second, rfl, (Option.some.inj there).symm⟩
    | succ index => exact ih there
  | case2 first firsts => cases there
  | case3 seconds =>
    rw [alternate] at there
    cases there

/-- There is no more than the two messages of every answer. -/
theorem alternate_length_le (firsts : List α) (seconds : List β) :
    (alternate head tail firsts seconds).length ≤ firsts.length + seconds.length := by
  induction firsts, seconds using alternate.induct with
  | case1 first firsts second seconds ih =>
    simp only [alternate, List.length_cons]
    omega
  | case2 first firsts =>
    simp only [alternate, List.length_cons, List.length_nil]
    omega
  | case3 seconds => simp [alternate]

/-- The first message of a new answer follows. -/
theorem alternate_first {firsts : List α} {seconds : List β}
    (complete : firsts.length = seconds.length) (first : α) :
    alternate head tail (firsts ++ [first]) seconds =
      alternate head tail firsts seconds ++ [head first] := by
  induction firsts, seconds using alternate.induct with
  | case1 earlier firsts second seconds ih =>
    have rest := ih (Nat.succ.inj complete)
    simp only [List.cons_append, alternate, rest]
  | case2 earlier firsts => cases complete
  | case3 seconds =>
    obtain rfl := List.length_eq_zero_iff.mp complete.symm
    rfl

/-- The second message of the last answer follows. -/
theorem alternate_second {firsts : List α} {seconds : List β}
    (begun : firsts.length = seconds.length + 1) (second : β) :
    alternate head tail firsts (seconds ++ [second]) =
      alternate head tail firsts seconds ++ [tail second] := by
  induction firsts, seconds using alternate.induct with
  | case1 first firsts earlier seconds ih =>
    have rest := ih (Nat.succ.inj begun)
    simp only [List.cons_append, alternate, rest]
  | case2 first firsts =>
    obtain rfl := List.length_eq_zero_iff.mp (Nat.succ.inj begun)
    rfl
  | case3 seconds => cases begun

/-! ## Parts of a transcript -/

/-- A transcript is part of itself. -/
theorem within_of_eq {part whole : List β} (same : part = whole) : part <+: whole :=
  same ▸ List.prefix_rfl

/-- What a part of a transcript holds at a place, the whole transcript holds there. -/
theorem getElem?_within {part whole : List β} (within : part <+: whole) {index : Nat} {message : β}
    (there : part[index]? = some message) : whole[index]? = some message := by
  obtain ⟨rest, rfl⟩ := within
  have inside := (List.getElem?_eq_some_iff.mp there).1
  rw [List.getElem?_append_left inside]
  exact there

end Transcript
