import Mathlib.Data.List.Basic
import Mathlib.Data.List.Forall2

/-!
# Glob patterns

A pattern is a list of pieces. It accepts a text when the text splits into consecutive parts, one
for each piece, that the pieces accept in order. What a pattern says of a text that grows at its
end is told by its last piece, which is what a table filled cell by cell computes.
-/

namespace Glob

universe u

/-- A piece of a pattern. -/
inductive Piece (α : Type u) where
  /-- Any part. -/
  | any
  /-- A part of one letter. -/
  | one
  /-- This letter. -/
  | exactly (letter : α)
  deriving DecidableEq

variable {α : Type u}

/-- A piece accepts a part. -/
def Piece.Accepts : Piece α → List α → Prop
  | .any, _ => True
  | .one, part => part.length = 1
  | .exactly letter, part => part = [letter]

/-- A pattern accepts a text. -/
def Accepts (pattern : List (Piece α)) (text : List α) : Prop :=
  ∃ parts : List (List α), List.Forall₂ Piece.Accepts pattern parts ∧ parts.flatten = text

variable {pattern : List (Piece α)} {piece : Piece α} {text : List α} {letter : α}

/-- The empty pattern accepts the empty text only. -/
theorem accepts_nil : Accepts [] text ↔ text = [] := by
  constructor
  · rintro ⟨parts, split, rfl⟩
    rw [List.forall₂_nil_left_iff.mp split]
    rfl
  · rintro rfl
    exact ⟨[], .nil, rfl⟩

/-- The last piece accepts the end of a text and the pieces before it the rest. -/
theorem accepts_concat : Accepts (pattern ++ [piece]) text ↔
    ∃ before part, Accepts pattern before ∧ piece.Accepts part ∧ before ++ part = text := by
  constructor
  · rintro ⟨parts, split, rfl⟩
    have first := List.forall₂_take pattern.length split
    have last := List.forall₂_drop pattern.length split
    rw [List.take_left] at first
    rw [List.drop_left] at last
    obtain ⟨part, rest, fits, none, back⟩ := List.forall₂_cons_left_iff.mp last
    rw [List.forall₂_nil_left_iff.mp none] at back
    refine ⟨_, part, ⟨_, first, rfl⟩, fits, ?_⟩
    rw [← List.flatten_singleton (l := part), ← List.flatten_append, ← back,
      List.take_append_drop]
  · rintro ⟨_, part, ⟨front, first, rfl⟩, fits, rfl⟩
    refine ⟨front ++ [part], List.rel_append first (.cons fits .nil), ?_⟩
    rw [List.flatten_append, List.flatten_singleton]

/-! ## The last piece -/

/-- A last piece that takes any part may take none. -/
theorem accepts_any_nil : Accepts (pattern ++ [.any]) [] ↔ Accepts pattern [] := by
  rw [accepts_concat]
  constructor
  · rintro ⟨before, part, first, _, same⟩
    obtain ⟨rfl, rfl⟩ := List.append_eq_nil_iff.mp same
    exact first
  · intro first
    exact ⟨[], [], first, trivial, rfl⟩

/-- A last piece that takes any part takes the last letter or none. -/
theorem accepts_any_concat : Accepts (pattern ++ [.any]) (text ++ [letter]) ↔
    Accepts pattern (text ++ [letter]) ∨ Accepts (pattern ++ [.any]) text := by
  rw [accepts_concat, accepts_concat]
  constructor
  · rintro ⟨before, part, first, _, same⟩
    rcases List.eq_nil_or_concat part with rfl | ⟨shorter, last, rfl⟩
    · rw [List.append_nil] at same
      exact .inl (same ▸ first)
    · rw [List.concat_eq_append, ← List.append_assoc] at same
      obtain ⟨rest, _⟩ := List.append_inj' same rfl
      exact .inr ⟨before, shorter, first, trivial, rest⟩
  · rintro (whole | ⟨before, part, first, _, rfl⟩)
    · exact ⟨_, [], whole, trivial, List.append_nil _⟩
    · exact ⟨before, part ++ [letter], first, trivial, (List.append_assoc ..).symm⟩

/-- A last piece of one letter takes no empty text. -/
theorem not_accepts_nil (single : ∀ part, piece.Accepts part → part.length = 1) :
    ¬ Accepts (pattern ++ [piece]) [] := by
  rw [accepts_concat]
  rintro ⟨before, part, _, fits, same⟩
  obtain ⟨_, rfl⟩ := List.append_eq_nil_iff.mp same
  have length := single [] fits
  rw [List.length_nil] at length
  omega

/-- A last piece of one letter takes the last letter. -/
theorem accepts_single_concat (single : ∀ part, piece.Accepts part → part.length = 1) :
    Accepts (pattern ++ [piece]) (text ++ [letter]) ↔
      piece.Accepts [letter] ∧ Accepts pattern text := by
  rw [accepts_concat]
  constructor
  · rintro ⟨before, part, first, fits, same⟩
    obtain ⟨rfl, rfl⟩ := List.append_inj' same (single part fits)
    exact ⟨fits, first⟩
  · rintro ⟨fits, first⟩
    exact ⟨text, [letter], first, fits, rfl⟩

/-! ## A row of the table -/

/-- The answer for a text. -/
noncomputable def answer (pattern : List (Piece α)) (text : List α) : Bool :=
  @decide (Accepts pattern text) (Classical.propDecidable _)

/-- The answers for a text and for every text that some of the letters to come extend it to. -/
noncomputable def row (pattern : List (Piece α)) : List α → List α → List Bool
  | text, [] => [answer pattern text]
  | text, letter :: letters => answer pattern text :: row pattern (text ++ [letter]) letters

/-- The answer is yes exactly when the text is accepted. -/
theorem answer_iff : answer pattern text = true ↔ Accepts pattern text :=
  @decide_eq_true_iff _ (Classical.propDecidable _)

/-- A row begins with the answer for its text. -/
theorem row_eq_cons (pattern : List (Piece α)) (text letters : List α) :
    ∃ rest, row pattern text letters = answer pattern text :: rest := by
  cases letters with
  | nil => exact ⟨_, rfl⟩
  | cons letter letters => exact ⟨_, rfl⟩

/-- A row ends with the answer for the text of all letters. -/
theorem row_getLastD (pattern : List (Piece α)) (text letters : List α) (default : Bool) :
    (row pattern text letters).getLastD default = answer pattern (text ++ letters) := by
  induction letters generalizing text default with
  | nil =>
    rw [List.append_nil]
    rfl
  | cons letter letters ih =>
    rw [row, List.getLastD_cons, ih, List.append_assoc]
    rfl

/-- The row of the empty pattern. -/
theorem row_nil (letters : List α) :
    row [] [] letters = true :: List.replicate letters.length false := by
  have later : ∀ (text : List α) (letters : List α), text ≠ [] →
      row [] text letters = List.replicate (letters.length + 1) false := by
    intro text letters grown
    have no : answer [] text = false := by
      rw [← Bool.not_eq_true, answer_iff, accepts_nil]
      exact grown
    induction letters generalizing text with
    | nil => rw [row, no, List.length_nil]; rfl
    | cons letter letters ih =>
      have more : answer [] (text ++ [letter]) = false := by
        rw [← Bool.not_eq_true, answer_iff, accepts_nil]
        exact List.concat_ne_nil letter text
      rw [row, no, ih _ (List.concat_ne_nil letter text) more, List.length_cons]
      rfl
  have yes : answer [] ([] : List α) = true := answer_iff.mpr (accepts_nil.mpr rfl)
  cases letters with
  | nil => rw [row, yes]; rfl
  | cons letter letters =>
    rw [row, yes, List.nil_append, later _ _ (List.cons_ne_nil letter []), List.length_cons]

end Glob
