import Mathlib.Data.List.Basic
import Mathlib.Data.List.Induction
import Mathlib.Order.Lattice

/-!
# Maps kept in key order

A sorted map is the list of its entries in strictly increasing key order, the order in which
an ordered map iterates. The order is part of the value, so equal maps are equal lists. Entries
are inserted in any order, so a map that is taken apart and collected again is the same map.
-/

universe u v

/-- The entries of an ordered map, in key order. -/
structure SortedMap (κ : Type u) (α : Type v) [LT κ] where
  /-- Keys with their values, in iteration order. -/
  entries : List (κ × α)
  /-- Keys strictly increase, so no key occurs twice. -/
  sorted : entries.Pairwise fun first second => first.1 < second.1

namespace SortedMap

variable {κ : Type u} {α : Type v} [LT κ]

/-- Maps with the same entries are the same map. -/
@[ext]
theorem ext {first second : SortedMap κ α} (same : first.entries = second.entries) :
    first = second := by
  cases first
  cases second
  congr

instance [DecidableEq κ] [DecidableEq α] : DecidableEq (SortedMap κ α) := fun first second =>
  decidable_of_iff (first.entries = second.entries) ⟨ext, fun same => same ▸ rfl⟩

instance : EmptyCollection (SortedMap κ α) := ⟨⟨[], List.Pairwise.nil⟩⟩

instance : Inhabited (SortedMap κ α) := ⟨∅⟩

end SortedMap

/-! ## Insertion into a list of entries -/

section Entries

variable {κ : Type u} {α : Type v} {β : Type*} [LinearOrder κ]

/-- Insert an entry at its place, replacing the value of a key that is there. -/
def insertEntry (key : κ) (value : α) : List (κ × α) → List (κ × α)
  | [] => [(key, value)]
  | entry :: entries =>
    if key < entry.1 then (key, value) :: entry :: entries
    else if key = entry.1 then (key, value) :: entries
    else entry :: insertEntry key value entries

/-- Insert entries in order. -/
def insertEntries (entries : List (κ × α)) : List (κ × α) :=
  entries.foldl (fun inserted entry => insertEntry entry.1 entry.2 inserted) []

variable {key other : κ} {value : α} {entries : List (κ × α)}

/-- What is in a list after an insertion. -/
theorem mem_insertEntry {entry : κ × α} (member : entry ∈ insertEntry key value entries) :
    entry = (key, value) ∨ entry ∈ entries := by
  induction entries with
  | nil => exact .inl (List.mem_singleton.mp member)
  | cons first entries ih =>
    unfold insertEntry at member
    split at member
    · exact List.mem_cons.mp member
    · split at member
      · obtain new | old := List.mem_cons.mp member
        · exact .inl new
        · exact .inr (List.mem_cons_of_mem _ old)
      · obtain here | later := List.mem_cons.mp member
        · exact .inr (here ▸ List.mem_cons_self)
        · obtain new | old := ih later
          · exact .inl new
          · exact .inr (List.mem_cons_of_mem _ old)

/-- What is in a list of inserted entries. -/
theorem mem_insertEntries {entry : κ × α} (member : entry ∈ insertEntries entries) :
    entry ∈ entries := by
  induction entries using List.reverseRecOn with
  | nil => exact member
  | append_singleton entries last ih =>
    rw [insertEntries, List.foldl_concat] at member
    obtain new | old := mem_insertEntry member
    · exact new ▸ List.mem_append_right _ (List.mem_singleton_self _)
    · exact List.mem_append_left _ (ih old)

/-- An insertion keeps the keys in order. -/
theorem insertEntry_sorted (sorted : entries.Pairwise fun first second => first.1 < second.1) :
    (insertEntry key value entries).Pairwise fun first second => first.1 < second.1 := by
  induction entries with
  | nil => exact List.pairwise_singleton _ _
  | cons first entries ih =>
    obtain ⟨least, rest⟩ := List.pairwise_cons.mp sorted
    unfold insertEntry
    split
    · rename_i before
      refine List.pairwise_cons.mpr ⟨fun entry member => ?_, sorted⟩
      obtain rfl | later := List.mem_cons.mp member
      · exact before
      · exact before.trans (least entry later)
    · split
      · rename_i same
        refine List.pairwise_cons.mpr ⟨fun entry member => ?_, rest⟩
        rw [same]
        exact least entry member
      · rename_i after apart
        refine List.pairwise_cons.mpr ⟨fun entry member => ?_, ih rest⟩
        obtain rfl | old := mem_insertEntry member
        · exact lt_of_le_of_ne (not_lt.mp after) (Ne.symm apart)
        · exact least entry old

/-- The inserted key has the inserted value. -/
@[simp]
theorem lookup_insertEntry_self : (insertEntry key value entries).lookup key = some value := by
  induction entries with
  | nil => simp [insertEntry]
  | cons first entries ih =>
    unfold insertEntry
    split
    · simp
    · split
      · simp
      · rename_i apart
        rw [List.lookup_cons, beq_eq_false_iff_ne.mpr apart]
        exact ih

/-- The other keys keep their values. -/
theorem lookup_insertEntry_other (apart : other ≠ key) :
    (insertEntry key value entries).lookup other = entries.lookup other := by
  induction entries with
  | nil => rw [insertEntry, List.lookup_cons, beq_eq_false_iff_ne.mpr apart]
  | cons first entries ih =>
    unfold insertEntry
    split
    · rw [List.lookup_cons, beq_eq_false_iff_ne.mpr apart]
    · split
      · rename_i same
        rw [List.lookup_cons, List.lookup_cons, beq_eq_false_iff_ne.mpr apart,
          beq_eq_false_iff_ne.mpr (same ▸ apart)]
      · rw [List.lookup_cons, List.lookup_cons, ih]

/-- The last value inserted under a key stays. -/
theorem lookup_insertEntries (entries : List (κ × α)) (key : κ) :
    (insertEntries entries).lookup key = entries.reverse.lookup key := by
  have onto : ∀ before : List (κ × α),
      (entries.foldl (fun inserted entry => insertEntry entry.1 entry.2 inserted) before).lookup key
        = (entries.reverse.lookup key).or (before.lookup key) := by
    induction entries with
    | nil => intro before; rfl
    | cons entry entries ih =>
      intro before
      rw [List.foldl_cons, ih, List.reverse_cons, List.lookup_append, Option.or_assoc]
      congr 1
      by_cases same : key = entry.1
      · subst same
        rw [lookup_insertEntry_self, List.lookup_cons, beq_self_eq_true]
        rfl
      · rw [lookup_insertEntry_other same, List.lookup_cons, beq_eq_false_iff_ne.mpr same]
        rfl
  exact (onto []).trans (Option.or_none)

/-- The value of a key all of whose entries agree. -/
theorem lookup_insertEntries_of {key : κ} {value : Option α}
    (agree : ∀ other, (key, other) ∈ entries ↔ value = some other) :
    (insertEntries entries).lookup key = value := by
  rw [lookup_insertEntries]
  cases found : entries.reverse.lookup key with
  | none =>
    cases value with
    | none => rfl
    | some value =>
      have member := List.mem_reverse.mpr ((agree value).mpr rfl)
      exact absurd (List.lookup_eq_none_iff.mp found _ member) (by simp)
  | some other =>
    obtain ⟨before, after, split, _⟩ := List.lookup_eq_some_iff.mp found
    have member : (key, other) ∈ entries.reverse := by
      rw [split]
      exact List.mem_append_right _ List.mem_cons_self
    exact ((agree other).mp (List.mem_reverse.mp member)).symm

/-- An entry whose key comes after all others goes to the end. -/
theorem insertEntry_last (last : ∀ entry ∈ entries, entry.1 < key) :
    insertEntry key value entries = entries ++ [(key, value)] := by
  induction entries with
  | nil => rfl
  | cons first entries ih =>
    have before := last first List.mem_cons_self
    rw [insertEntry, if_neg (not_lt.mpr before.le), if_neg before.ne']
    rw [ih fun entry member => last entry (List.mem_cons_of_mem _ member)]
    rfl

/-- Entries that are in order are inserted as they are. -/
theorem insertEntries_sorted (sorted : entries.Pairwise fun first second => first.1 < second.1) :
    insertEntries entries = entries := by
  have onto : ∀ before, (before ++ entries).Pairwise (fun first second => first.1 < second.1) →
      entries.foldl (fun inserted entry => insertEntry entry.1 entry.2 inserted) before =
        before ++ entries := by
    clear sorted
    induction entries with
    | nil => intro before _; exact (List.append_nil before).symm
    | cons entry entries ih =>
      intro before sorted
      have last : ∀ old ∈ before, old.1 < entry.1 := fun old member =>
        (List.pairwise_append.mp sorted).2.2 old member entry List.mem_cons_self
      rw [List.foldl_cons, insertEntry_last last, ih _ (by rwa [List.append_assoc]),
        List.append_assoc]
      rfl
  exact onto [] sorted

/-- Changing the values keeps the keys in order. -/
theorem mapValues_sorted (sorted : entries.Pairwise fun first second => first.1 < second.1)
    (change : α → β) : (entries.map fun entry => (entry.1, change entry.2)).Pairwise
      fun first second => first.1 < second.1 :=
  List.pairwise_map.mpr sorted

end Entries

namespace SortedMap

variable {κ : Type u} {α : Type v} [LinearOrder κ]

/-- Insert an entry. -/
def insert (map : SortedMap κ α) (key : κ) (value : α) : SortedMap κ α :=
  ⟨insertEntry key value map.entries, insertEntry_sorted map.sorted⟩

/-- Collect entries, in order. -/
def collect (entries : List (κ × α)) : SortedMap κ α :=
  entries.foldl (fun map entry => map.insert entry.1 entry.2) ∅

/-- The entries that are collected. -/
theorem collect_entries (entries : List (κ × α)) :
    (collect entries).entries = insertEntries entries := by
  have onto : ∀ map : SortedMap κ α,
      (entries.foldl (fun map entry => map.insert entry.1 entry.2) map).entries =
        entries.foldl (fun inserted entry => insertEntry entry.1 entry.2 inserted) map.entries := by
    induction entries with
    | nil => intro map; rfl
    | cons entry entries ih => intro map; exact ih _
  exact onto ∅

/-- A map taken apart and collected again. -/
@[simp]
theorem collect_self (map : SortedMap κ α) : collect map.entries = map :=
  ext ((collect_entries map.entries).trans (insertEntries_sorted map.sorted))

end SortedMap
