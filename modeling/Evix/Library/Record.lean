import Mathlib.Data.List.Basic

/-!
# Records with named fields

A record is written as a list of fields. A reader looks every field up by its names and refuses a
record in which it finds a field twice, so it reads a record the same in whatever order its fields
are written.
-/

namespace Records

universe u v w

variable {κ : Type u} {ν : Type v} {α : Type w} [DecidableEq κ]

/-- The values of the fields with one of these names. -/
def values (names : List κ) (fields : List (κ × ν)) : List ν :=
  (fields.filter fun field => decide (field.1 ∈ names)).map (·.2)

/-- The value of the field with one of these names, unless there are several. -/
def one (names : List κ) (fields : List (κ × ν)) : Option (Option ν) :=
  match values names fields with
  | [] => some none
  | [value] => some (some value)
  | _ => none

/-- A field that must be there. -/
def required (decode : ν → Option α) (names : List κ) (fields : List (κ × ν)) : Option α :=
  (one names fields).bind fun value => value.bind decode

/-- A field that has a default. -/
def defaulted (decode : ν → Option α) (default : α) (names : List κ) (fields : List (κ × ν)) :
    Option α :=
  (one names fields).bind fun value =>
    match value with
    | some value => decode value
    | none => some default

/-- The fields with other names. -/
def without (names : List κ) (fields : List (κ × ν)) : List (κ × ν) :=
  fields.filter fun field => decide (field.1 ∉ names)

/-- The fields of a record that is written without its names: at least so many, in order. -/
def placed (least : Nat) (names : List κ) (values : List ν) : Option (List (κ × ν)) :=
  if least ≤ values.length ∧ values.length ≤ names.length then some (names.zip values) else none

/-- Whether every field has one of these names. -/
def known (names : List κ) (fields : List (κ × ν)) : Bool :=
  fields.all fun field => decide (field.1 ∈ names)

variable {names : List κ} {fields other : List (κ × ν)} {decode : ν → Option α} {default : α}

/-! ## The order of the fields -/

/-- A field is found wherever it is. -/
theorem one_perm (same : fields.Perm other) : one names fields = one names other := by
  have found : (values names fields).Perm (values names other) := (same.filter _).map _
  simp only [one]
  cases here : values names fields with
  | nil =>
    rw [here] at found
    rw [List.nil_perm.mp found]
  | cons value rest =>
    rw [here] at found
    cases rest with
    | nil => rw [List.singleton_perm.mp found]
    | cons next rest =>
      have long := found.length_eq
      cases there : values names other with
      | nil => simp [there] at long
      | cons first later =>
        cases later with
        | nil => simp [there] at long
        | cons second later => rfl

/-- The names are known in any order. -/
theorem known_perm (same : fields.Perm other) : known names fields = known names other := by
  have subset := same.subset
  have superset := same.symm.subset
  rw [Bool.eq_iff_iff]
  simp only [known, List.all_eq_true]
  exact ⟨fun all field member => all field (superset member),
    fun all field member => all field (subset member)⟩

/-! ## Reading what was written -/

/-- A field with another name is passed over. -/
theorem one_cons_other {name : κ} {value : ν} (apart : name ∉ names) :
    one names ((name, value) :: fields) = one names fields := by
  simp [one, values, apart]

/-- Fields with other names are passed over. -/
theorem one_append_other {extra : List (κ × ν)} (apart : ∀ field ∈ extra, field.1 ∉ names) :
    one names (extra ++ fields) = one names fields := by
  induction extra with
  | nil => rfl
  | cons field extra ih =>
    rw [List.forall_mem_cons] at apart
    rw [List.cons_append, one_cons_other apart.1, ih apart.2]

/-- A field is read when it is not there again. -/
theorem one_cons_self {name : κ} {value : ν} (found : name ∈ names)
    (once : one names fields = some none) :
    one names ((name, value) :: fields) = some (some value) := by
  simp only [one] at once
  split at once
  · rename_i none
    have first : values names ((name, value) :: fields) = value :: values names fields := by
      simp [values, found]
    simp only [one, first, none]
  · simp at once
  · contradiction

/-- Among distinct fields, a field is found by its name. -/
theorem one_eq_lookup {name : κ} (distinct : (fields.map (·.1)).Nodup) :
    one [name] fields = some (fields.lookup name) := by
  induction fields with
  | nil => rfl
  | cons field fields ih =>
    obtain ⟨first, value⟩ := field
    rw [List.map_cons, List.nodup_cons] at distinct
    have rest := ih distinct.2
    by_cases same : name = first
    · subst same
      have absent : fields.lookup name = none := by
        rw [List.lookup_eq_none_iff]
        intro other member
        have apart : name ≠ other.1 := fun same =>
          distinct.1 (same ▸ List.mem_map_of_mem (f := (·.1)) member)
        simpa using apart
      rw [absent] at rest
      rw [one_cons_self List.mem_cons_self rest, List.lookup_cons_self]
    · rw [one_cons_other (by simpa using Ne.symm same), rest]
      simp [List.lookup_cons, beq_eq_false_iff_ne.mpr same]

/-- Among distinct fields, a field that must be there is decoded from its value. -/
theorem required_of_lookup {name : κ} {value : ν} (distinct : (fields.map (·.1)).Nodup)
    (found : fields.lookup name = some value) : required decode [name] fields = decode value := by
  rw [required, one_eq_lookup distinct, found]
  rfl

/-- Among distinct fields, a field that is there is decoded from its value. -/
theorem defaulted_of_lookup {name : κ} {value : ν} (distinct : (fields.map (·.1)).Nodup)
    (found : fields.lookup name = some value) :
    defaulted decode default [name] fields = decode value := by
  rw [defaulted, one_eq_lookup distinct, found]
  rfl

/-- A field that must be there was decoded from something. -/
theorem required_eq_some {value : α} (read : required decode names fields = some value) :
    ∃ written, decode written = some value := by
  obtain ⟨found, _, rest⟩ := Option.bind_eq_some_iff.mp read
  obtain ⟨written, _, decoded⟩ := Option.bind_eq_some_iff.mp rest
  exact ⟨written, decoded⟩

/-- A field that has a default was decoded from something, or has its default. -/
theorem defaulted_eq_some {value : α} (read : defaulted decode default names fields = some value) :
    value = default ∨ ∃ written, decode written = some value := by
  obtain ⟨found, _, rest⟩ := Option.bind_eq_some_iff.mp read
  cases found with
  | none => exact .inl (Option.some.inj rest).symm
  | some written => exact .inr ⟨written, rest⟩

/-- A field is found among the others when it is not left out. -/
theorem one_without {dropped : List κ} (apart : ∀ name ∈ names, name ∉ dropped) :
    one names (without dropped fields) = one names fields := by
  have same : values names (without dropped fields) = values names fields := by
    rw [values, values, without, List.filter_filter]
    refine congrArg _ (List.filter_congr fun field _ => ?_)
    by_cases named : field.1 ∈ names
    · simp [named, apart field.1 named]
    · simp [named]
  rw [one, one, same]

/-- The names of a record without some fields are known when those of the record are, or left
out. -/
theorem known_without {dropped : List κ} :
    known names (without dropped fields) = known (dropped ++ names) fields := by
  rw [Bool.eq_iff_iff]
  simp only [known, without, List.all_eq_true, List.mem_filter, decide_eq_true_eq,
    List.mem_append]
  constructor
  · intro all field member
    by_cases left : field.1 ∈ dropped
    · exact .inl left
    · exact .inr (all field ⟨member, left⟩)
  · intro all field kept
    exact (all field kept.1).resolve_left kept.2

/-- A field that is found once is there once. -/
theorem count_le_one {name : κ} {value : Option ν} (found : one [name] fields = some value) :
    (fields.map (·.1)).count name ≤ 1 := by
  have counted : (fields.map (·.1)).count name = (values [name] fields).length := by
    rw [values, List.length_map, List.count, List.countP_map, List.countP_eq_length_filter]
    refine congrArg List.length (List.filter_congr fun field _ => ?_)
    simp [Function.comp_apply, beq_eq_decide]
  rw [counted]
  unfold one at found
  split at found
  · rename_i none
    rw [none]
    exact Nat.zero_le 1
  · rename_i single
    rw [single]
    exact Nat.le_refl 1
  · contradiction

/-- A record whose names are known, and each found once, has no name twice. -/
theorem nodup_of_known (all : known names fields = true)
    (once : ∀ name ∈ names, (one [name] fields).isSome = true) : (fields.map (·.1)).Nodup := by
  rw [List.nodup_iff_count]
  intro name
  by_cases named : name ∈ names
  · obtain ⟨value, found⟩ := Option.isSome_iff_exists.mp (once name named)
    exact count_le_one found
  · refine Nat.le_trans (Nat.le_of_eq (List.count_eq_zero.mpr fun member => ?_)) (Nat.zero_le 1)
    obtain ⟨field, here, rfl⟩ := List.mem_map.mp member
    exact named (of_decide_eq_true (List.all_eq_true.mp all field here))

/-- A field that must be there was found. -/
theorem found_of_required {value : α} (read : required decode names fields = some value) :
    (one names fields).isSome = true := by
  obtain ⟨found, here, _⟩ := Option.bind_eq_some_iff.mp read
  rw [here]
  rfl

/-- A field that has a default was found, or looked for. -/
theorem found_of_defaulted {value : α} (read : defaulted decode default names fields = some value) :
    (one names fields).isSome = true := by
  obtain ⟨found, here, _⟩ := Option.bind_eq_some_iff.mp read
  rw [here]
  rfl

end Records
