import Mathlib.Logic.Function.Basic
import Mathlib.Data.List.Basic

/-!
# Patches of maps

A patch from one finite map to another erases the keys whose value is gone or changed and then
writes the values that are new or changed. Applying it to the first map gives the second.
-/

namespace Patch

universe u v w

variable {κ : Type u} {ν : Type v} {removed : List κ} {added : List (κ × ν)}

/-- The keys of the writes that erase. -/
theorem mem_erasing {entry : κ × Option ν} (member : entry ∈ removed.map fun key => (key, none)) :
    entry.1 ∈ removed ∧ entry.2 = none := by
  obtain ⟨key, listed, rfl⟩ := List.mem_map.mp member
  exact ⟨listed, rfl⟩

/-- The entries of the writes that add. -/
theorem mem_adding {entry : κ × Option ν}
    (member : entry ∈ added.map fun entry => (entry.1, some entry.2)) :
    ∃ value, entry.2 = some value ∧ (entry.1, value) ∈ added := by
  obtain ⟨⟨key, value⟩, listed, rfl⟩ := List.mem_map.mp member
  exact ⟨value, rfl, listed⟩

variable [DecidableEq κ]

/-- Write values in order; writing `none` erases. -/
def write (writes : List (κ × Option ν)) (map : κ → Option ν) : κ → Option ν :=
  writes.foldl (fun map entry => Function.update map entry.1 entry.2) map

/-- Erase keys, then write values. -/
def apply (removed : List κ) (added : List (κ × ν)) (map : κ → Option ν) : κ → Option ν :=
  write (removed.map (·, none) ++ added.map fun entry => (entry.1, some entry.2)) map

/-- A key that is not written keeps its value. -/
theorem write_other {writes : List (κ × Option ν)} {key : κ} (map : κ → Option ν)
    (absent : ∀ entry ∈ writes, entry.1 ≠ key) : write writes map key = map key := by
  induction writes generalizing map with
  | nil => rfl
  | cons entry writes ih =>
    show write writes (Function.update map entry.1 entry.2) key = map key
    rw [ih _ fun other member => absent other (List.mem_cons_of_mem _ member)]
    exact Function.update_of_ne (absent entry List.mem_cons_self).symm _ _

/-- The last value written to a key is the one it has. -/
theorem write_append (earlier later : List (κ × Option ν)) (map : κ → Option ν) :
    write (earlier ++ later) map = write later (write earlier map) := List.foldl_append

/-- A key that is only written one value has it. -/
theorem write_same {writes : List (κ × Option ν)} {key : κ} {value : Option ν}
    (map : κ → Option ν) (present : (key, value) ∈ writes)
    (same : ∀ entry ∈ writes, entry.1 = key → entry.2 = value) :
    write writes map key = value := by
  induction writes generalizing map with
  | nil => cases present
  | cons entry writes ih =>
    show write writes (Function.update map entry.1 entry.2) key = value
    have rest : ∀ other ∈ writes, other.1 = key → other.2 = value := fun other member =>
      same other (List.mem_cons_of_mem _ member)
    by_cases again : (key, value) ∈ writes
    · exact ih _ again rest
    · have here : (key, value) = entry := (List.mem_cons.mp present).resolve_right again
      subst here
      rw [write_other _ fun other member equal => again ?_]
      · exact Function.update_self _ _ _
      · rw [← equal, ← rest other member equal]
        exact member

/-- What a patch from one map to another erases and writes. -/
structure IsPatch (before after : κ → Option ν) (removed : List κ) (added : List (κ × ν)) :
    Prop where
  /-- A key is erased when its value is gone or changed. -/
  removed : ∀ key, key ∈ removed ↔ before key ≠ none ∧ before key ≠ after key
  /-- A value is written when it is new or changed. -/
  added : ∀ key value, (key, value) ∈ added ↔ after key = some value ∧ before key ≠ some value

/-- Applying a patch to the first map gives the second. -/
theorem IsPatch.apply_eq {before after : κ → Option ν}
    (patch : IsPatch before after removed added) : apply removed added before = after := by
  funext key
  rw [apply, write_append]
  cases present : after key with
  | some value =>
    by_cases kept : before key = some value
    -- an unchanged value is neither erased nor written
    · rw [write_other, write_other, kept]
      · rintro entry member rfl
        exact ((patch.removed _).mp (mem_erasing member).1).2 (kept.trans present.symm)
      · rintro entry member rfl
        obtain ⟨other, _, listed⟩ := mem_adding member
        obtain ⟨new, changed⟩ := (patch.added _ other).mp listed
        obtain rfl := Option.some.inj (present.symm.trans new)
        exact changed kept
    · have listed : (key, value) ∈ added := (patch.added key value).mpr ⟨present, kept⟩
      refine write_same _ (List.mem_map.mpr ⟨_, listed, rfl⟩) ?_
      rintro entry member rfl
      obtain ⟨other, same, listed⟩ := mem_adding member
      rw [same, ← ((patch.added _ other).mp listed).1, present]
  | none =>
    rw [write_other]
    · cases old : before key with
      | none =>
        refine (write_other _ ?_).trans old
        rintro entry member rfl
        exact ((patch.removed _).mp (mem_erasing member).1).1 old
      | some value =>
        have erased : key ∈ removed := by
          refine (patch.removed key).mpr ⟨?_, ?_⟩
          · rw [old]
            nofun
          · rw [old, present]
            nofun
        exact write_same _ (List.mem_map.mpr ⟨key, erased, rfl⟩) fun _ member _ =>
          (mem_erasing member).2
    · rintro entry member rfl
      obtain ⟨other, _, listed⟩ := mem_adding member
      rw [((patch.added _ other).mp listed).1] at present
      cases present

/-- A patch is empty exactly between equal maps. -/
theorem IsPatch.empty_iff {before after : κ → Option ν}
    (patch : IsPatch before after removed added) : removed = [] ∧ added = [] ↔ before = after := by
  constructor
  · rintro ⟨rfl, rfl⟩
    exact patch.apply_eq
  · rintro rfl
    constructor
    · apply List.eq_nil_iff_forall_not_mem.mpr
      intro key listed
      exact ((patch.removed key).mp listed).2 rfl
    · apply List.eq_nil_iff_forall_not_mem.mpr
      rintro ⟨key, value⟩ listed
      obtain ⟨present, changed⟩ := (patch.added key value).mp listed
      exact changed present

end Patch
