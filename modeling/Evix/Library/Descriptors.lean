import Mathlib.Data.List.Nodup

/-!
# Descriptor tables

The open descriptors of a process, each naming an endpoint under a number. Closing, duplicating
and executing a program have their usual meanings; a fork copies the table. An expectation says
which endpoint each number may name, and the operations keep a table within one.
-/

namespace Descriptors

universe u v

/-- An open descriptor. -/
structure Descriptor (ν : Type u) (ε : Type v) where
  /-- Its number. -/
  number : ν
  /-- What it refers to. -/
  endpoint : ε
  /-- Whether `exec` closes it. -/
  closeOnExec : Bool
  deriving DecidableEq

/-- The open descriptors of one process. -/
abbrev Table (ν : Type u) (ε : Type v) := List (Descriptor ν ε)

namespace Table

variable {ν : Type u} {ε : Type v} (table : Table ν ε)

/-- Some descriptor refers to the endpoint. -/
def Holds (endpoint : ε) : Prop := ∃ descriptor ∈ table, descriptor.endpoint = endpoint

instance decidableHolds [DecidableEq ε] (endpoint : ε) : Decidable (Holds table endpoint) :=
  inferInstanceAs (Decidable (∃ descriptor ∈ table, descriptor.endpoint = endpoint))

/-- The table of a process that executes another program. -/
def exec : Table ν ε := table.filter fun descriptor => !descriptor.closeOnExec

section Numbers

variable [DecidableEq ν]

/-- `close` of each of the numbers. -/
def close (numbers : List ν) : Table ν ε :=
  table.filter fun descriptor => descriptor.number ∉ numbers

/-- Put an endpoint under a number, in place of what the number named. -/
def install (number : ν) (endpoint : ε) (closeOnExec : Bool) : Table ν ε :=
  ⟨number, endpoint, closeOnExec⟩ :: close table [number]

/-- `dup2`, which fails when the source is not open. -/
def duplicate (source target : ν) (closeOnExec : Bool) : Option (Table ν ε) :=
  (table.find? fun descriptor => descriptor.number = source).map fun descriptor =>
    install table target descriptor.endpoint closeOnExec

/-- Set or clear close-on-exec on the numbers. -/
def setCloseOnExec (numbers : List ν) (flag : Bool) : Table ν ε :=
  table.map fun descriptor =>
    if descriptor.number ∈ numbers then { descriptor with closeOnExec := flag } else descriptor

end Numbers

/-! ## Membership -/

variable {table} {descriptor : Descriptor ν ε}

/-- `exec` leaves the descriptors not marked to be closed by it. -/
@[simp]
theorem mem_exec :
    descriptor ∈ exec table ↔ descriptor ∈ table ∧ descriptor.closeOnExec = false := by
  simp [exec]

section Numbers

variable [DecidableEq ν]

/-- `close` leaves the other numbers. -/
@[simp]
theorem mem_close {numbers : List ν} :
    descriptor ∈ close table numbers ↔ descriptor ∈ table ∧ descriptor.number ∉ numbers := by
  simp [close]

/-- An installed number names the new endpoint, and the other numbers are left. -/
@[simp]
theorem mem_install {number : ν} {endpoint : ε} {flag : Bool} :
    descriptor ∈ install table number endpoint flag ↔
      descriptor = ⟨number, endpoint, flag⟩ ∨
        (descriptor ∈ table ∧ descriptor.number ≠ number) := by
  simp [install]

/-- Setting the flag changes the numbers it is set on. -/
theorem mem_setCloseOnExec {numbers : List ν} {flag : Bool}
    (member : descriptor ∈ setCloseOnExec table numbers flag) :
    (descriptor.number ∈ numbers ∨ descriptor ∈ table) ∧
      ∃ old ∈ table, old.number = descriptor.number ∧ old.endpoint = descriptor.endpoint := by
  obtain ⟨old, opened, rfl⟩ := List.mem_map.mp member
  by_cases listed : old.number ∈ numbers
  · simp only [if_pos listed]
    exact ⟨.inl listed, old, opened, rfl, rfl⟩
  · simp only [if_neg listed]
    exact ⟨.inr opened, old, opened, rfl, rfl⟩

/-- The number of a descriptor names it when numbers are distinct. -/
theorem duplicate_eq (distinct : (table.map (·.number)).Nodup) (opened : descriptor ∈ table)
    (target : ν) (flag : Bool) :
    duplicate table descriptor.number target flag =
      some (install table target descriptor.endpoint flag) := by
  unfold duplicate
  cases found : table.find? fun other => other.number = descriptor.number with
  | none =>
    have absent := List.find?_eq_none.mp found descriptor opened
    simp at absent
  | some other =>
    have same : other.number = descriptor.number := by simpa using List.find?_some found
    have listed := List.mem_of_find?_eq_some found
    rw [List.inj_on_of_nodup_map distinct listed opened same]
    rfl

/-- Numbers stay distinct. -/
theorem nodup_install (distinct : (table.map (·.number)).Nodup) (number : ν) (endpoint : ε)
    (flag : Bool) : ((install table number endpoint flag).map (·.number)).Nodup := by
  rw [install, List.map_cons, List.nodup_cons]
  constructor
  · intro listed
    obtain ⟨descriptor, left, same⟩ := List.mem_map.mp listed
    simp [same] at left
  · exact distinct.sublist (List.filter_sublist.map _)

/-- Numbers stay distinct in a table with a duplicate. -/
theorem nodup_duplicate {source target : ν} {flag : Bool} {copied : Table ν ε}
    (distinct : (table.map (·.number)).Nodup)
    (done : duplicate table source target flag = some copied) :
    (copied.map (·.number)).Nodup := by
  obtain ⟨descriptor, _, rfl⟩ := Option.map_eq_some_iff.mp done
  exact nodup_install distinct target descriptor.endpoint flag

end Numbers

/-! ## Expectations -/

/-- Every open number names what is expected of it. -/
def Within (table : Table ν ε) (expected : ν → Option ε) : Prop :=
  ∀ descriptor ∈ table, expected descriptor.number = some descriptor.endpoint

variable {expected after : ν → Option ε}

/-- A closed table is within every expectation. -/
theorem within_nil : Within ([] : Table ν ε) expected := by
  simp [Within]

/-- Only an expected endpoint is held. -/
theorem Within.of_holds (within : Within table expected) {endpoint : ε}
    (holds : Holds table endpoint) : ∃ number, expected number = some endpoint := by
  obtain ⟨descriptor, member, rfl⟩ := holds
  exact ⟨descriptor.number, within descriptor member⟩

section Numbers

variable [DecidableEq ν]

/-- Closed numbers are no longer expected. -/
theorem Within.close {numbers : List ν} (within : Within table expected)
    (others : ∀ number endpoint, number ∉ numbers → expected number = some endpoint →
      after number = some endpoint) : Within (close table numbers) after := by
  intro descriptor member
  rw [mem_close] at member
  exact others _ _ member.2 (within descriptor member.1)

/-- An installed number is expected to name its endpoint. -/
theorem Within.install {number : ν} {endpoint : ε} {flag : Bool} (within : Within table expected)
    (installed : after number = some endpoint)
    (others : ∀ other endpoint, other ≠ number → expected other = some endpoint →
      after other = some endpoint) : Within (install table number endpoint flag) after := by
  intro descriptor member
  obtain rfl | ⟨opened, other⟩ := mem_install.mp member
  · exact installed
  · exact others _ _ other (within descriptor opened)

/-- An endpoint may be opened under a number it is expected under. -/
theorem Within.opened {number : ν} {endpoint : ε} (within : Within table expected)
    (installed : expected number = some endpoint) (flag : Bool) :
    Within (Table.install table number endpoint flag) expected :=
  within.install installed fun _ _ _ found => found

/-- The flag does not matter to what a number names. -/
theorem Within.setCloseOnExec (within : Within table expected) (numbers : List ν) (flag : Bool) :
    Within (setCloseOnExec table numbers flag) expected := by
  intro descriptor member
  obtain ⟨old, opened, number, endpoint⟩ := (mem_setCloseOnExec member).2
  rw [← number, ← endpoint]
  exact within old opened

/-- A duplicate is expected to name what its source does. -/
theorem Within.duplicate {source target : ν} {flag : Bool} {copied : Table ν ε}
    (within : Within table expected) (done : duplicate table source target flag = some copied)
    (same : ∀ endpoint, expected source = some endpoint → after target = some endpoint)
    (others : ∀ other endpoint, other ≠ target → expected other = some endpoint →
      after other = some endpoint) : Within copied after := by
  obtain ⟨descriptor, found, rfl⟩ := Option.map_eq_some_iff.mp done
  have named : descriptor.number = source := by simpa using List.find?_some found
  refine within.install (same _ ?_) others
  rw [← named]
  exact within descriptor (List.mem_of_find?_eq_some found)

end Numbers

end Table

end Descriptors
