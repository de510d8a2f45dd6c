import Mathlib.Data.List.Nodup
import Mathlib.Data.List.Perm.Basic

/-!
# Least recently used caches

The reference for a cache that keeps the most recently used keys: one list of entries, least
recently used first. A key that is written or hit moves to the back, and only a new key in a
full cache drops an entry, the one at the front.
-/

universe u v

/-- The entries of a cache, least recently used first. -/
structure LruCache (κ : Type u) (α : Type v) where
  /-- Number of entries to keep. -/
  capacity : Nat
  /-- Keys with their values. -/
  entries : List (κ × α)
  /-- No key occurs twice. -/
  distinct : (entries.map Prod.fst).Nodup
  /-- There is room for an entry. -/
  positive : 0 < capacity
  /-- No more entries than there is room for. -/
  bounded : entries.length ≤ capacity

namespace LruCache

variable {κ : Type u} {α : Type v}

/-- The cache with nothing in it. -/
def empty (capacity : Nat) (positive : 0 < capacity) : LruCache κ α where
  capacity := capacity
  entries := []
  distinct := List.nodup_nil
  positive := positive
  bounded := Nat.zero_le _

/-- The keys, least recently used first. -/
def keys (cache : LruCache κ α) : List κ := cache.entries.map Prod.fst

/-- The keys when a new one comes to the back. -/
theorem distinct_concat {key : κ} {value : α} {entries : List (κ × α)}
    (distinct : (entries.map Prod.fst).Nodup) (absent : key ∉ entries.map Prod.fst) :
    ((entries ++ [(key, value)]).map Prod.fst).Nodup := by
  rw [List.map_append]
  refine List.nodup_append.mpr ⟨distinct, List.nodup_singleton key, ?_⟩
  rintro other member _ single rfl
  obtain rfl := List.mem_singleton.mp single
  exact absent member

variable [DecidableEq κ]

/-- The value of a key. -/
def lookup (cache : LruCache κ α) (key : κ) : Option α := cache.entries.lookup key

/-- The entries of the other keys. -/
def without (key : κ) (entries : List (κ × α)) : List (κ × α) :=
  entries.filter fun entry => entry.1 ≠ key

/-- The keys of the other entries. -/
theorem without_keys (key : κ) (entries : List (κ × α)) :
    (without key entries).map Prod.fst = (entries.map Prod.fst).filter (· ≠ key) := by
  rw [List.filter_map]
  rfl

/-- Taking a key out of distinct keys. -/
theorem without_keys_erase (key : κ) {entries : List (κ × α)}
    (distinct : (entries.map Prod.fst).Nodup) :
    (without key entries).map Prod.fst = (entries.map Prod.fst).erase key := by
  rw [without_keys, distinct.erase_eq_filter]
  refine List.filter_congr fun other _ => ?_
  exact decide_not

/-- The other keys keep their values. -/
theorem lookup_without {key other : κ} (apart : other ≠ key) (entries : List (κ × α)) :
    (without key entries).lookup other = entries.lookup other := by
  induction entries with
  | nil => rfl
  | cons entry entries ih =>
    obtain ⟨first, value⟩ := entry
    by_cases same : first = key
    · subst same
      have differs : (other == first) = false := beq_false_of_ne apart
      simp only [without, ne_eq, not_true_eq_false, decide_false, Bool.false_eq_true,
        not_false_eq_true, List.filter_cons_of_neg, List.lookup_cons, differs]
      exact ih
    · have kept : without key ((first, value) :: entries) = (first, value) :: without key entries :=
        List.filter_cons_of_pos (by simpa using same)
      rw [kept, List.lookup_cons, List.lookup_cons, ih]

/-- A key that is taken out is not there. -/
theorem without_absent (key : κ) (entries : List (κ × α)) :
    key ∉ (without key entries).map Prod.fst := by
  rw [without_keys]
  intro member
  simpa using (List.mem_filter.mp member).2

/-- A key that is not there has no value. -/
theorem lookup_eq_none {key : κ} {entries : List (κ × α)}
    (absent : key ∉ entries.map Prod.fst) : entries.lookup key = none := by
  induction entries with
  | nil => rfl
  | cons entry entries ih =>
    obtain ⟨first, value⟩ := entry
    rw [List.map_cons, List.mem_cons, not_or] at absent
    rw [List.lookup_cons, beq_false_of_ne absent.1]
    exact ih absent.2

/-- A key put at the back of entries without it has the value put there. -/
theorem lookup_concat_self {key : κ} {value : α} {entries : List (κ × α)}
    (absent : key ∉ entries.map Prod.fst) :
    (entries ++ [(key, value)]).lookup key = some value := by
  rw [List.lookup_append, lookup_eq_none absent, Option.none_or, List.lookup_cons,
    beq_self_eq_true]

/-- Another key has the value it had. -/
theorem lookup_concat_other {key other : κ} {value : α} (apart : other ≠ key)
    (entries : List (κ × α)) : (entries ++ [(key, value)]).lookup other = entries.lookup other := by
  rw [List.lookup_append, List.lookup_cons, beq_false_of_ne apart]
  exact Option.or_none

/-- The keys when one moves to the back. -/
theorem distinct_moved {key : κ} {value : α} {entries : List (κ × α)}
    (distinct : (entries.map Prod.fst).Nodup) :
    ((without key entries ++ [(key, value)]).map Prod.fst).Nodup := by
  rw [List.map_append]
  refine List.nodup_append.mpr ⟨?_, List.nodup_singleton key, ?_⟩
  · rw [without_keys]
    exact distinct.filter _
  · rintro other member _ single rfl
    obtain rfl := List.mem_singleton.mp single
    exact without_absent _ entries member

/-- The length when a key that is there moves to the back. -/
theorem length_moved {key : κ} {value : α} {entries : List (κ × α)}
    (distinct : (entries.map Prod.fst).Nodup) (present : key ∈ entries.map Prod.fst) :
    (without key entries ++ [(key, value)]).length = entries.length := by
  have fewer := congrArg List.length (without_keys_erase key distinct)
  rw [List.length_map, List.length_erase_of_mem present, List.length_map] at fewer
  have some := List.length_pos_of_mem present
  rw [List.length_map] at some
  rw [List.length_append, fewer, List.length_singleton]
  omega

/-- A key gets a value and becomes the most recently used one. A key that is there drops no
entry; a new one drops the least recently used entry of a full cache. -/
def insert (cache : LruCache κ α) (key : κ) (value : α) : LruCache κ α :=
  if present : key ∈ cache.keys then
    { cache with
      entries := without key cache.entries ++ [(key, value)]
      distinct := distinct_moved cache.distinct
      bounded := by
        rw [length_moved cache.distinct present]
        exact cache.bounded }
  else if room : cache.entries.length < cache.capacity then
    { cache with
      entries := cache.entries ++ [(key, value)]
      distinct := distinct_concat cache.distinct present
      bounded := by
        rw [List.length_append, List.length_singleton]
        exact room }
  else
    { cache with
      entries := cache.entries.tail ++ [(key, value)]
      distinct := by
        have fewer := (List.tail_sublist cache.entries).map Prod.fst
        exact distinct_concat (fewer.nodup cache.distinct) fun member =>
          present (fewer.subset member)
      bounded := by
        have positive := cache.positive
        have bounded := cache.bounded
        rw [List.length_append, List.length_tail, List.length_singleton]
        omega }

section Insert

variable {cache : LruCache κ α} {key : κ} (value : α)

/-- Inserting a key that is there drops nothing. -/
theorem insert_present (present : key ∈ cache.keys) :
    (cache.insert key value).entries = without key cache.entries ++ [(key, value)] := by
  rw [insert, dif_pos present]

/-- Inserting a new key drops nothing while there is room. -/
theorem insert_room (absent : key ∉ cache.keys) (room : cache.entries.length < cache.capacity) :
    (cache.insert key value).entries = cache.entries ++ [(key, value)] := by
  rw [insert, dif_neg absent, dif_pos room]

/-- Inserting a new key into a full cache drops the least recently used one. -/
theorem insert_full (absent : key ∉ cache.keys)
    (full : ¬ cache.entries.length < cache.capacity) :
    (cache.insert key value).entries = cache.entries.tail ++ [(key, value)] := by
  rw [insert, dif_neg absent, dif_neg full]

/-- Insertions keep the capacity. -/
theorem insert_capacity (cache : LruCache κ α) (key : κ) :
    (cache.insert key value).capacity = cache.capacity := by
  unfold insert
  split
  · rfl
  · split <;> rfl

end Insert

/-- The entries after a hit: the key has a new value and is at the back. -/
def updated (key : κ) (change : α → α) (entries : List (κ × α)) : List (κ × α) :=
  match entries.lookup key with
  | none => entries
  | some value => without key entries ++ [(key, change value)]

/-- The keys after a hit. -/
theorem distinct_updated {key : κ} {change : α → α} {entries : List (κ × α)}
    (distinct : (entries.map Prod.fst).Nodup) :
    ((updated key change entries).map Prod.fst).Nodup := by
  unfold updated
  split
  · exact distinct
  · exact distinct_moved distinct

/-- A hit keeps the number of entries. -/
theorem length_updated {key : κ} {change : α → α} {entries : List (κ × α)}
    (distinct : (entries.map Prod.fst).Nodup) :
    (updated key change entries).length = entries.length := by
  unfold updated
  split
  · rfl
  · rename_i found
    refine length_moved distinct ?_
    by_contra absent
    rw [lookup_eq_none absent] at found
    cases found

/-- A hit: the value of a key is updated and the key becomes the most recently used one. A key
that is not there changes nothing. -/
def update (cache : LruCache κ α) (key : κ) (change : α → α) : LruCache κ α :=
  { cache with
    entries := updated key change cache.entries
    distinct := distinct_updated cache.distinct
    bounded := by
      rw [length_updated cache.distinct]
      exact cache.bounded }

/-- A hit that leaves the value alone. -/
def touch (cache : LruCache κ α) (key : κ) : LruCache κ α := cache.update key id

end LruCache
