import Evix.Filter
import Evix.Library.Glob

/-!
# Wildcard patterns

The table of `wildcard_matches` holds, for every prefix of the pattern and every prefix of the
value, whether the one accepts the other.
-/

namespace Evix

open Glob

/-- What a character of a wildcard pattern stands for. -/
def wildcardPiece (ch : Char) : Piece Char :=
  if ch = '*' then .any else if ch = '?' then .one else .exactly ch

section Rows

variable {pattern : List (Piece Char)} {text : List Char}

/-- A character that is no star stands for one letter. -/
theorem wildcardPiece_single {ch : Char} (plain : ch ≠ '*') (part : List Char)
    (fits : (wildcardPiece ch).Accepts part) : part.length = 1 := by
  unfold wildcardPiece at fits
  rw [if_neg plain] at fits
  split at fits
  · exact fits
  · rw [show part = [ch] from fits]
    rfl

/-- The first cell of a row. -/
theorem wildcard_first (ch : Char) :
    (if ch = '*' then answer pattern [] else false) =
      answer (pattern ++ [wildcardPiece ch]) [] := by
  rw [Bool.eq_iff_iff, answer_iff]
  by_cases star : ch = '*'
  · rw [if_pos star, answer_iff, wildcardPiece, if_pos star, accepts_any_nil]
  · rw [if_neg star]
    exact ⟨nofun, fun accepts => absurd accepts (not_accepts_nil (wildcardPiece_single star))⟩

/-- A cell is the answer for its prefixes when its neighbours are. -/
theorem wildcardCell_eq (ch letter : Char) :
    wildcardCell ch letter (answer pattern (text ++ [letter]))
        (answer (pattern ++ [wildcardPiece ch]) text) (answer pattern text) =
      answer (pattern ++ [wildcardPiece ch]) (text ++ [letter]) := by
  rw [Bool.eq_iff_iff, answer_iff]
  by_cases star : ch = '*'
  · simp only [wildcardCell, wildcardPiece, if_pos star, Bool.or_eq_true, answer_iff,
      accepts_any_concat]
  · rw [accepts_single_concat (wildcardPiece_single star)]
    by_cases question : ch = '?'
    · simp only [wildcardCell, wildcardPiece, if_neg star, if_pos question, answer_iff,
        Piece.Accepts, List.length_singleton, true_and]
    · simp only [wildcardCell, wildcardPiece, if_neg star, if_neg question, Bool.and_eq_true,
        beq_iff_eq, answer_iff, Piece.Accepts, List.cons.injEq, and_true, eq_comm (a := letter)]

/-- The cells of a row after the first, from the row above. -/
theorem wildcardCells_eq (ch : Char) (text letters : List Char) :
    answer (pattern ++ [wildcardPiece ch]) text ::
        wildcardCells ch (answer (pattern ++ [wildcardPiece ch]) text) (row pattern text letters)
          letters =
      row (pattern ++ [wildcardPiece ch]) text letters := by
  induction letters generalizing text with
  | nil => rfl
  | cons letter letters ih =>
    obtain ⟨rest, begins⟩ := row_eq_cons pattern (text ++ [letter]) letters
    rw [row, row, begins, wildcardCells, wildcardCell_eq, ← begins, ih]

/-- A row of the table, from the row above. -/
theorem wildcardRow_eq (ch : Char) (letters : List Char) :
    wildcardRow ch (row pattern [] letters) letters =
      row (pattern ++ [wildcardPiece ch]) [] letters := by
  obtain ⟨rest, begins⟩ := row_eq_cons pattern [] letters
  rw [wildcardRow, ← wildcardCells_eq, begins, List.headD_cons, wildcard_first]

/-- The last row of the table. -/
theorem wildcardRows_eq (characters letters : List Char) :
    characters.foldl (fun above ch => wildcardRow ch above letters) (row pattern [] letters) =
      row (pattern ++ characters.map wildcardPiece) [] letters := by
  induction characters generalizing pattern with
  | nil => rw [List.foldl_nil, List.map_nil, List.append_nil]
  | cons ch characters ih =>
    rw [List.foldl_cons, wildcardRow_eq, ih, List.map_cons, List.append_assoc,
      List.singleton_append]

end Rows

/-- A wildcard pattern matches exactly the values that split into parts which its characters stand
for, in order. -/
theorem wildcardMatches_iff (pattern value : String) : wildcardMatches pattern value = true ↔
    Accepts (pattern.toList.map wildcardPiece) value.toList := by
  rw [wildcardMatches, ← row_nil, wildcardRows_eq, row_getLastD, answer_iff, List.nil_append,
    List.nil_append]

end Evix
