import Evix.Daemon.SessionCache
import Evix.Library.Lru
import Mathlib.Data.List.Induction

/-!
# The registry as a cache of the most recently used keys

The map and the recency queue of a registry hold the same keys after every sequence of calls,
and no more than there is room for. Compared with the reference cache, the registry differs in
one step only: inserting a key that is already there into a full registry drops another key.
-/

namespace Evix

universe u

namespace SessionRegistry

variable {τ : Type u} {registry : SessionRegistry τ} {key : String} {value : τ}

/-- The keys of the queue are those of the map, each once, and there are not too many. -/
structure Sound (registry : SessionRegistry τ) : Prop where
  /-- No key is queued twice. -/
  distinct : registry.order.Nodup
  /-- A key is queued exactly when it is cached. -/
  listed : ∀ key, key ∈ registry.order ↔ key ∈ registry.sessions
  /-- There is room for the cached values. -/
  bounded : registry.sessions.entries.length ≤ registry.max

/-- The queue is a permutation of the keys of the map, of which there are not too many. -/
structure Aligned (registry : SessionRegistry τ) : Prop where
  /-- The queue lists the keys. -/
  perm : registry.order.Perm registry.sessions.keys
  /-- There is room for the cached values. -/
  bounded : registry.sessions.entries.length ≤ registry.max

/-- An aligned registry keeps the representation invariant. -/
theorem Aligned.sound (aligned : registry.Aligned) : registry.Sound where
  distinct := aligned.perm.nodup_iff.mpr registry.sessions.keys_nodup
  listed _ := aligned.perm.mem_iff.trans AList.mem_keys.symm
  bounded := aligned.bounded

/-- A map has as many keys as entries. -/
theorem keys_length (sessions : AList fun _ : String => τ) :
    sessions.keys.length = sessions.entries.length := List.length_map _

/-- As many keys are queued as values are cached. -/
theorem Aligned.length (aligned : registry.Aligned) :
    registry.order.length = registry.sessions.entries.length := by
  rw [aligned.perm.length_eq, keys_length]

/-- A new registry is aligned. -/
theorem aligned_new (max : Nat) : (new max : SessionRegistry τ).Aligned :=
  ⟨List.Perm.nil, Nat.zero_le max⟩

/-- The eviction loop keeps the queue in step with the other keys of the map, and leaves room
unless the queue runs out. -/
theorem evict_spec (max : Nat) {order : List String} {sessions : AList fun _ : String => τ}
    (perm : order.Perm (sessions.keys.erase key)) :
    (evict max order sessions).1.Perm ((evict max order sessions).2.keys.erase key) ∧
      ((evict max order sessions).1 = [] ∨ (evict max order sessions).2.entries.length < max) := by
  induction order generalizing sessions with
  | nil => exact ⟨perm, .inl rfl⟩
  | cons oldest order ih =>
    unfold evict
    split
    · refine ih ?_
      have rest := perm.erase oldest
      rw [List.erase_cons_head, List.erase_comm] at rest
      rw [AList.keys_erase]
      exact rest
    · rename_i room
      exact ⟨perm, .inr (Nat.lt_of_not_le room)⟩

/-- The loop stops at once when there is room or nothing to drop. -/
theorem evict_stop {max : Nat} {order : List String} {sessions : AList fun _ : String => τ}
    (stop : order = [] ∨ sessions.entries.length < max) :
    evict max order sessions = (order, sessions) := by
  cases order with
  | nil => rfl
  | cons oldest order =>
    obtain none | room := stop
    · cases none
    · exact if_neg (Nat.not_le_of_lt room)

/-- An insertion keeps a registry with room for one value aligned. -/
theorem Aligned.insert (aligned : registry.Aligned) (positive : 0 < registry.max) (key : String)
    (value : τ) : (registry.insert key value).Aligned := by
  have others : (registry.removeOrderEntry key).order.Perm (registry.sessions.keys.erase key) :=
    aligned.perm.erase key
  obtain ⟨kept, room⟩ := evict_spec registry.max others
  have perm : (registry.insert key value).order.Perm (registry.insert key value).sessions.keys := by
    rw [SessionRegistry.insert, AList.keys_insert]
    exact (List.perm_append_singleton key _).trans (kept.cons key)
  refine ⟨perm, ?_⟩
  have length := perm.length_eq
  rw [keys_length] at length
  rw [← length, SessionRegistry.insert, List.length_append, List.length_singleton]
  obtain none | fewer := room
  · rw [none]
    exact positive
  · have less := kept.length_eq.trans_le List.length_erase_le
    rw [keys_length] at less
    exact Nat.succ_le_of_lt (less.trans_lt fewer)

/-- Moving a cached key to the back keeps the queue. -/
theorem Aligned.touch (aligned : registry.Aligned) (present : key ∈ registry.sessions) :
    (registry.touch key).order.Perm registry.sessions.keys := by
  have queued : key ∈ registry.order := aligned.perm.mem_iff.mpr (AList.mem_keys.mp present)
  exact ((List.perm_append_singleton key _).trans (List.perm_cons_erase queued).symm).trans
    aligned.perm

/-- A key with a value is cached. -/
theorem mem_of_lookup (found : registry.sessions.lookup key = some value) :
    key ∈ registry.sessions := by
  rw [← AList.lookup_isSome, found]
  rfl

/-- Reading keeps a registry aligned. -/
theorem Aligned.get (aligned : registry.Aligned) (key : String) :
    (registry.get key).2.Aligned := by
  unfold SessionRegistry.get
  split
  · exact aligned
  · rename_i found
    exact ⟨aligned.touch (mem_of_lookup found), aligned.bounded⟩

/-- Updating keeps a registry aligned. -/
theorem Aligned.getMut (aligned : registry.Aligned) (key : String) (update : τ → τ) :
    (registry.getMut key update).Aligned := by
  unfold SessionRegistry.getMut
  split
  · exact aligned
  · rename_i value found
    have queued := AList.mem_keys.mp (mem_of_lookup found)
    have perm : (registry.sessions.insert key (update value)).keys.Perm registry.sessions.keys := by
      rw [AList.keys_insert]
      exact (List.perm_cons_erase queued).symm
    refine ⟨(aligned.touch (mem_of_lookup found)).trans perm.symm, ?_⟩
    have same := perm.length_eq
    rw [keys_length, keys_length] at same
    exact same.trans_le aligned.bounded

/-- The capacity does not change. -/
@[simp]
theorem call_max (registry : SessionRegistry τ) (call : RegistryCall τ) :
    (registry.call call).max = registry.max := by
  cases call with
  | insert => rfl
  | get key =>
    simp only [SessionRegistry.call, SessionRegistry.get]
    split <;> rfl
  | getMut key update =>
    simp only [SessionRegistry.call, SessionRegistry.getMut]
    split <;> rfl

/-- Every call keeps a registry aligned. -/
theorem Aligned.call (aligned : registry.Aligned) (positive : 0 < registry.max)
    (call : RegistryCall τ) : (registry.call call).Aligned := by
  cases call with
  | insert key value => exact aligned.insert positive key value
  | get key => exact aligned.get key
  | getMut key update => exact aligned.getMut key update

/-- One more call. -/
theorem after_concat (max : Nat) (calls : List (RegistryCall τ)) (call : RegistryCall τ) :
    after max (calls ++ [call]) = (after max calls).call call := List.foldl_concat ..

/-- The capacity after calls. -/
@[simp]
theorem after_max (max : Nat) (calls : List (RegistryCall τ)) :
    (after max calls).max = max := by
  induction calls using List.reverseRecOn with
  | nil => rfl
  | append_singleton calls call ih => rw [after_concat, call_max, ih]

/-- A registry is aligned after any calls. -/
theorem aligned_after {max : Nat} (positive : 0 < max) (calls : List (RegistryCall τ)) :
    (after max calls).Aligned := by
  induction calls using List.reverseRecOn with
  | nil => exact aligned_new max
  | append_singleton calls call ih =>
    rw [after_concat]
    exact ih.call (by rw [after_max]; exact positive) call

/-- After any calls on a registry with room for a value, the queue and the map hold the same
keys, no more than there is room for, and a key that is inserted is there. -/
theorem registry_sound {max : Nat} (positive : 0 < max) (calls : List (RegistryCall τ)) :
    (after max calls).Sound ∧ ∀ key value,
      ((after max calls).insert key value).sessions.lookup key = some value ∧
        key ∈ ((after max calls).insert key value).order := by
  refine ⟨(aligned_after positive calls).sound, fun key value => ⟨AList.lookup_insert _, ?_⟩⟩
  exact List.mem_append_right _ (List.mem_singleton_self key)

/-- A registry with room for two values in which a key is inserted again. -/
theorem registry_sound_two :
    (after 2 [.insert "a" 1, .insert "b" 2, .insert "b" 3] : SessionRegistry Nat).Sound :=
  (registry_sound (by decide) _).1

/-! ## The reference -/

/-- The reference cache after a call. -/
def reference (cache : LruCache String τ) : RegistryCall τ → LruCache String τ
  | .insert key value => cache.insert key value
  | .get key => cache.touch key
  | .getMut key update => cache.update key update

/-- The reference cache after calls on an empty one, in order. -/
def referenceAfter (max : Nat) (positive : 0 < max) (calls : List (RegistryCall τ)) :
    LruCache String τ :=
  calls.foldl reference (.empty max positive)

/-- The same keys are cached, with the same values. -/
def Agrees (registry : SessionRegistry τ) (cache : LruCache String τ) : Prop :=
  ∀ key, registry.sessions.lookup key = cache.lookup key

/-- The registry and the reference cache have the same keys in the same order, and the same
values. -/
structure Follows (registry : SessionRegistry τ) (cache : LruCache String τ) : Prop where
  /-- The queue is the reference order. -/
  order : registry.order = cache.keys
  /-- The values are those of the reference. -/
  agrees : registry.Agrees cache
  /-- There is room for as many. -/
  capacity : registry.max = cache.capacity

/-- A call does not insert a key that is already there into a full registry that holds another
key. -/
def Fits (registry : SessionRegistry τ) : RegistryCall τ → Prop
  | .insert key _ => key ∈ registry.sessions →
      registry.sessions.entries.length < registry.max ∨ registry.max = 1
  | .get _ | .getMut .. => True

section Simulation

variable {cache : LruCache String τ}

/-- The queue lists the cached keys. -/
theorem Follows.mem_keys (follows : registry.Follows cache) (aligned : registry.Aligned) :
    key ∈ cache.keys ↔ key ∈ registry.sessions := by
  rw [← follows.order]
  exact aligned.sound.listed key

/-- Both hold as many entries. -/
theorem Follows.length (follows : registry.Follows cache) (aligned : registry.Aligned) :
    registry.sessions.entries.length = cache.entries.length := by
  rw [← aligned.length, follows.order, LruCache.keys, List.length_map]

/-- Inserting a key that is there follows the reference when nothing is dropped. -/
theorem Follows.insert_present (follows : registry.Follows cache) (aligned : registry.Aligned)
    (present : key ∈ registry.sessions)
    (fits : registry.sessions.entries.length < registry.max ∨ registry.max = 1) (value : τ) :
    (registry.insert key value).Follows (cache.insert key value) := by
  have there : key ∈ cache.keys := (follows.mem_keys aligned).mpr present
  have stop : (registry.removeOrderEntry key).order = [] ∨
      registry.sessions.entries.length < registry.max := by
    refine fits.symm.imp_left fun one => ?_
    have queued : key ∈ registry.order := aligned.perm.mem_iff.mpr (AList.mem_keys.mp present)
    have few := aligned.bounded
    rw [← aligned.length, one] at few
    refine List.length_eq_zero_iff.mp ?_
    rw [removeOrderEntry, List.length_erase_of_mem queued]
    omega
  have entries := LruCache.insert_present value there
  refine ⟨?_, fun other => ?_, follows.capacity.trans (LruCache.insert_capacity ..).symm⟩
  · rw [SessionRegistry.insert, evict_stop stop, LruCache.keys, entries, List.map_append,
      LruCache.without_keys_erase _ cache.distinct]
    show registry.order.erase key ++ [key] = _
    rw [follows.order]
    rfl
  · rw [SessionRegistry.insert, evict_stop stop, LruCache.lookup, entries]
    by_cases same : other = key
    · subst same
      rw [AList.lookup_insert, LruCache.lookup_concat_self (LruCache.without_absent _ _)]
    · rw [AList.lookup_insert_ne same, LruCache.lookup_concat_other same,
        LruCache.lookup_without same]
      exact follows.agrees other

/-- Inserting a new key follows the reference: a full registry drops the same key. -/
theorem Follows.insert_absent (follows : registry.Follows cache) (aligned : registry.Aligned)
    (absent : key ∉ registry.sessions) (value : τ) :
    (registry.insert key value).Follows (cache.insert key value) := by
  have missing : key ∉ cache.keys := fun there => absent ((follows.mem_keys aligned).mp there)
  have unqueued : key ∉ registry.order := by
    rw [follows.order]
    exact missing
  have same : (registry.removeOrderEntry key).order = registry.order :=
    List.erase_of_not_mem unqueued
  have length := follows.length aligned
  by_cases room : cache.entries.length < cache.capacity
  · have stop : registry.order = [] ∨ registry.sessions.entries.length < registry.max := by
      rw [length, follows.capacity]
      exact .inr room
    have entries := LruCache.insert_room value missing room
    refine ⟨?_, fun other => ?_, follows.capacity.trans (LruCache.insert_capacity ..).symm⟩
    · rw [SessionRegistry.insert, same, evict_stop stop, LruCache.keys, entries, List.map_append,
        follows.order]
      rfl
    · rw [SessionRegistry.insert, same, evict_stop stop, LruCache.lookup, entries]
      by_cases equal : other = key
      · subst equal
        rw [AList.lookup_insert, LruCache.lookup_concat_self missing]
      · rw [AList.lookup_insert_ne equal, LruCache.lookup_concat_other equal]
        exact follows.agrees other
  -- the oldest key of the queue is the first entry of the reference
  · have full : cache.entries.length = cache.capacity :=
      Nat.le_antisymm cache.bounded (Nat.le_of_not_lt room)
    have positive := cache.positive
    have distinct := cache.distinct
    have insertion := LruCache.insert_full value missing room
    cases listed : cache.entries with
    | nil =>
      rw [listed] at full
      exact absurd full.symm (Nat.ne_of_gt positive)
    | cons entry entries =>
      obtain ⟨oldest, old⟩ := entry
      rw [listed, List.map_cons, List.nodup_cons] at distinct
      have order : registry.order = oldest :: entries.map Prod.fst := by
        rw [follows.order, LruCache.keys, listed]
        rfl
      have dropped : evict registry.max registry.order registry.sessions =
          (entries.map Prod.fst, registry.sessions.erase oldest) := by
        have queued : oldest ∈ registry.sessions.keys := by
          rw [← aligned.perm.mem_iff, order]
          exact List.mem_cons_self
        have fewer : (registry.sessions.erase oldest).entries.length < registry.max := by
          rw [← keys_length, AList.keys_erase, List.length_erase_of_mem queued, keys_length,
            length, full, follows.capacity]
          omega
        rw [order, evict, if_pos (by rw [length, full, follows.capacity])]
        exact evict_stop (.inr fewer)
      rw [listed] at insertion
      refine ⟨?_, fun other => ?_, follows.capacity.trans (LruCache.insert_capacity ..).symm⟩
      · rw [SessionRegistry.insert, same, dropped, LruCache.keys, insertion, List.map_append]
        rfl
      · have agrees := follows.agrees other
        rw [LruCache.lookup, listed, List.lookup_cons] at agrees
        rw [SessionRegistry.insert, same, dropped, LruCache.lookup, insertion]
        by_cases equal : other = key
        · subst equal
          rw [AList.lookup_insert, List.tail_cons, LruCache.lookup_concat_self]
          intro member
          refine missing ?_
          rw [LruCache.keys, listed]
          exact List.mem_cons_of_mem _ member
        · rw [AList.lookup_insert_ne equal, List.tail_cons, LruCache.lookup_concat_other equal]
          by_cases first : other = oldest
          · subst first
            rw [AList.lookup_erase, LruCache.lookup_eq_none distinct.1]
          · rw [AList.lookup_erase_ne first, agrees, beq_false_of_ne first]

/-- A hit follows the reference. -/
theorem Follows.update (follows : registry.Follows cache) (key : String) (change : τ → τ) :
    (registry.getMut key change).Follows (cache.update key change) := by
  have agrees := follows.agrees key
  unfold SessionRegistry.getMut
  cases found : cache.entries.lookup key with
  | none =>
    rw [LruCache.lookup, found] at agrees
    rw [agrees]
    have still : (cache.update key change).entries = cache.entries := by
      simp only [LruCache.update, LruCache.updated, found]
    refine ⟨?_, fun other => ?_, follows.capacity⟩
    · rw [LruCache.keys, still]
      exact follows.order
    · rw [LruCache.lookup, still]
      exact follows.agrees other
  | some value =>
    rw [LruCache.lookup, found] at agrees
    rw [agrees]
    have moved : (cache.update key change).entries =
        LruCache.without key cache.entries ++ [(key, change value)] := by
      simp only [LruCache.update, LruCache.updated, found]
    refine ⟨?_, fun other => ?_, follows.capacity⟩
    · rw [LruCache.keys, moved, List.map_append, LruCache.without_keys_erase _ cache.distinct]
      show registry.order.erase key ++ [key] = _
      rw [follows.order]
      rfl
    · rw [LruCache.lookup, moved]
      by_cases same : other = key
      · subst same
        rw [LruCache.lookup_concat_self (LruCache.without_absent _ _)]
        exact AList.lookup_insert _
      · rw [LruCache.lookup_concat_other same, LruCache.lookup_without same]
        exact (AList.lookup_insert_ne same).trans (follows.agrees other)

/-- Reading a value does to the registry what updating it to itself does. -/
theorem Follows.get (follows : registry.Follows cache) (key : String) :
    (registry.get key).2.Follows (cache.touch key) := by
  have updated := follows.update key id
  unfold SessionRegistry.getMut at updated
  unfold SessionRegistry.get
  cases found : registry.sessions.lookup key with
  | none =>
    rw [found] at updated
    exact updated
  | some value =>
    rw [found] at updated
    refine ⟨updated.order, fun other => ?_, updated.capacity⟩
    rw [LruCache.touch, ← updated.agrees other]
    show registry.sessions.lookup other = (registry.sessions.insert key value).lookup other
    by_cases same : other = key
    · subst same
      rw [found, AList.lookup_insert]
    · rw [AList.lookup_insert_ne same]

/-- A call that fits follows the reference. -/
theorem Follows.call (follows : registry.Follows cache) (aligned : registry.Aligned)
    {call : RegistryCall τ} (fits : registry.Fits call) :
    (registry.call call).Follows (reference cache call) := by
  cases call with
  | insert key value =>
    by_cases present : key ∈ registry.sessions
    · exact follows.insert_present aligned present (fits present) value
    · exact follows.insert_absent aligned present value
  | get key => exact follows.get key
  | getMut key update => exact follows.update key update

/-- A call that does not fit drops a key the reference keeps. -/
theorem Follows.unfit (follows : registry.Follows cache) (aligned : registry.Aligned)
    {call : RegistryCall τ} (unfit : ¬ registry.Fits call) :
    ¬ (registry.call call).Agrees (reference cache call) := by
  cases call with
  | get | getMut => exact absurd trivial unfit
  | insert key value =>
    simp only [Fits, not_forall, not_or, Nat.not_lt] at unfit
    obtain ⟨present, full, many⟩ := unfit
    have queued : key ∈ registry.order := aligned.perm.mem_iff.mpr (AList.mem_keys.mp present)
    have length : (registry.order.erase key).length + 1 = registry.max := by
      have some := List.length_pos_of_mem queued
      have bounded := aligned.bounded
      rw [← aligned.length] at bounded full
      rw [List.length_erase_of_mem queued]
      omega
    cases others : registry.order.erase key with
    | nil =>
      rw [others] at length
      exact absurd length.symm many
    | cons oldest order =>
      have distinct := aligned.sound.distinct
      have other : oldest ∈ registry.order.erase key := by
        rw [others]
        exact List.mem_cons_self
      obtain ⟨apart, member⟩ := distinct.mem_erase_iff.mp other
      intro agrees
      have gone : (registry.insert key value).sessions.lookup oldest = none := by
        have dropped : (evict registry.max (oldest :: order) registry.sessions).2.lookup oldest =
            none := by
          rw [evict, if_pos full]
          cases found : (evict registry.max order (registry.sessions.erase oldest)).2.lookup
            oldest with
          | none => rfl
          | some value =>
            have still := lookup_evict found
            rw [AList.lookup_erase] at still
            cases still
        rw [SessionRegistry.insert, AList.lookup_insert_ne apart]
        show (evict registry.max (registry.order.erase key) registry.sessions).2.lookup oldest = _
        rw [others]
        exact dropped
      have kept : (cache.insert key value).lookup oldest ≠ none := by
        rw [LruCache.lookup, LruCache.insert_present value ((follows.mem_keys aligned).mpr present),
          LruCache.lookup_concat_other apart, LruCache.lookup_without apart]
        show cache.lookup oldest ≠ none
        rw [← follows.agrees oldest, ne_eq, AList.lookup_eq_none, not_not]
        exact (aligned.sound.listed oldest).mp member
      exact kept ((agrees oldest).symm.trans gone)

end Simulation

/-- One more call on the reference. -/
theorem referenceAfter_concat {max : Nat} (positive : 0 < max) (calls : List (RegistryCall τ))
    (call : RegistryCall τ) : referenceAfter max positive (calls ++ [call]) =
      reference (referenceAfter max positive calls) call := List.foldl_concat ..

/-- Every call of a sequence fits where it is made. -/
def AllFit (max : Nat) (calls : List (RegistryCall τ)) : Prop :=
  ∀ earlier call, earlier ++ [call] <+: calls → (after max earlier).Fits call

/-- The registry is the reference cache after every call of a sequence. -/
def IsLru (max : Nat) (positive : 0 < max) (calls : List (RegistryCall τ)) : Prop :=
  ∀ earlier, earlier <+: calls →
    (after max earlier).Agrees (referenceAfter max positive earlier)

/-- The prefixes of a sequence with one more call. -/
theorem allFit_concat {max : Nat} {calls : List (RegistryCall τ)} {call : RegistryCall τ} :
    AllFit max (calls ++ [call]) ↔ AllFit max calls ∧ (after max calls).Fits call := by
  constructor
  · intro fit
    refine ⟨fun earlier next within => ?_, fit calls call List.prefix_rfl⟩
    exact fit earlier next (within.trans (List.prefix_append _ _))
  · rintro ⟨fit, last⟩ earlier next within
    obtain whole | part := List.prefix_concat_iff.mp within
    · obtain ⟨rfl, same⟩ := List.append_inj' whole rfl
      obtain rfl := (List.cons.inj same).1
      exact last
    · exact fit earlier next part

/-- Calls that all fit are followed. -/
theorem follows_after {max : Nat} (positive : 0 < max) {calls : List (RegistryCall τ)}
    (fit : AllFit max calls) : (after max calls).Follows (referenceAfter max positive calls) := by
  induction calls using List.reverseRecOn with
  | nil => exact ⟨rfl, fun _ => rfl, rfl⟩
  | append_singleton calls call ih =>
    obtain ⟨earlier, last⟩ := allFit_concat.mp fit
    rw [after_concat, referenceAfter_concat]
    exact (ih earlier).call (aligned_after positive calls) last

/-- A sequence along which the registry is the reference cache has only calls that fit. -/
theorem allFit_of_isLru {max : Nat} {positive : 0 < max} {calls : List (RegistryCall τ)}
    (same : IsLru max positive calls) : AllFit max calls := by
  induction calls using List.reverseRecOn with
  | nil =>
    intro earlier call within
    have empty := List.prefix_nil.mp within
    exact absurd empty (by simp)
  | append_singleton calls call ih =>
    have fit : AllFit max calls :=
      ih fun earlier within => same earlier (within.trans (List.prefix_append _ _))
    refine allFit_concat.mpr ⟨fit, ?_⟩
    by_contra unfit
    refine (follows_after positive fit).unfit (aligned_after positive calls) unfit ?_
    rw [← after_concat, ← referenceAfter_concat]
    exact same _ List.prefix_rfl

/-- The registry is a cache of the most recently used keys along a sequence of calls exactly when
no call inserts a key that is already there into a full registry that holds another key. -/
theorem registry_lru {max : Nat} (positive : 0 < max) (calls : List (RegistryCall τ)) :
    IsLru max positive calls ↔ AllFit max calls := by
  refine ⟨allFit_of_isLru, fun fit earlier within => ?_⟩
  have part : AllFit max earlier := fun before next inside => fit before next (inside.trans within)
  exact (follows_after positive part).agrees

/-- A key is inserted again while there is room. -/
theorem registry_lru_room : IsLru 3 (by decide)
    ([.insert "a" 1, .insert "b" 2] ++ [.insert "b" 3] : List (RegistryCall Nat)) := by
  have none : AllFit 3 ([] : List (RegistryCall Nat)) := fun earlier call within =>
    absurd (List.prefix_nil.mp within) (by simp)
  have one : AllFit 3 ([] ++ [.insert "a" 1] : List (RegistryCall Nat)) :=
    allFit_concat.mpr ⟨none, fun _ => .inl (by decide)⟩
  have two : AllFit 3 ([.insert "a" 1] ++ [.insert "b" 2] : List (RegistryCall Nat)) :=
    allFit_concat.mpr ⟨one, fun _ => .inl (by decide)⟩
  exact (registry_lru (by decide) _).mpr (allFit_concat.mpr ⟨two, fun _ => .inl (by decide)⟩)

/-- Inserting a key again into a full registry drops another key. -/
theorem registry_lru_reinserted : ¬ ∀ (max : Nat) (positive : 0 < max)
    (calls : List (RegistryCall Nat)), IsLru max positive calls := by
  intro claimed
  have same := claimed 2 (by decide) [.insert "a" 1, .insert "b" 2, .insert "b" 3] _
    List.prefix_rfl "a"
  revert same
  decide

end SessionRegistry

end Evix
