import Mathlib.Data.List.Forall2

/-!
# Results that may fail

What is known of the parts of a computation that succeeds.
-/

namespace Fallible

universe u v

variable {ε : Type u} {α β : Type v}

/-- Both parts of a sequence that succeeds succeed. -/
theorem bind_eq_ok {first : Except ε α} {next : α → Except ε β} {result : β}
    (succeeds : (first >>= next) = .ok result) :
    ∃ value, first = .ok value ∧ next value = .ok result := by
  cases first with
  | error => cases succeeds
  | ok value => exact ⟨value, rfl, succeeds⟩

/-- What is mapped over a result that succeeds. -/
theorem map_eq_ok {first : Except ε α} {change : α → β} {result : β}
    (succeeds : change <$> first = .ok result) :
    ∃ value, first = .ok value ∧ change value = result := by
  cases first with
  | error => cases succeeds
  | ok value => exact ⟨value, rfl, Except.ok.inj succeeds⟩

/-- A traversal that succeeds has one result for each element. -/
theorem mapM_length {visit : α → Except ε β} {elements : List α} {results : List β}
    (succeeds : elements.mapM visit = .ok results) : results.length = elements.length := by
  induction elements generalizing results with
  | nil =>
    obtain rfl : [] = results := Except.ok.inj succeeds
    rfl
  | cons element elements ih =>
    rw [List.mapM_cons] at succeeds
    obtain ⟨first, _, rest⟩ := bind_eq_ok succeeds
    obtain ⟨others, visited, built⟩ := bind_eq_ok rest
    obtain rfl : first :: others = results := Except.ok.inj built
    rw [List.length_cons, List.length_cons, ih visited]

/-- The results of a partial map match the elements one by one exactly when every element has a
result that matches it. -/
theorem forall₂_filterMap {relation : α → β → Prop} {read : α → Option β} {elements : List α} :
    List.Forall₂ relation elements (elements.filterMap read) ↔
      ∀ element ∈ elements, ∃ result, read element = some result ∧ relation element result := by
  induction elements with
  | nil => simp
  | cons element elements ih =>
    rw [List.forall_mem_cons, ← ih]
    cases found : read element with
    | none =>
      rw [List.filterMap_cons_none found]
      refine ⟨fun matched => ?_, fun matched => by simp at matched⟩
      have long := matched.length_eq
      have short := List.length_filterMap_le read elements
      rw [List.length_cons] at long
      omega
    | some result =>
      rw [List.filterMap_cons_some found, List.forall₂_cons]
      simp

end Fallible
