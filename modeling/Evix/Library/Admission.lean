import Evix.Library.Machine
import Mathlib.Data.List.Perm.Basic

/-!
# Admission under a limit

A server decides on its clients one after the other: it admits a client while fewer than a limit
are served, and refuses it otherwise. A client that is served may leave at any time. Servers that
count their clients, or their free places, refine this machine.
-/

namespace Admission

open Machines

universe u

/-- The clients of a server. -/
structure Door (ι : Type u) where
  /-- The clients that are served. -/
  serving : List ι
  /-- The clients that have left. -/
  gone : List ι
  /-- Every client that was decided on, in order, and whether it was admitted. -/
  decided : List (ι × Bool)

/-- What may happen at the door. -/
inductive Move (ι : Type u) where
  /-- A client is decided on. -/
  | decide (client : ι)
  /-- A client leaves. -/
  | leave (index : Nat)

variable {ι : Type u} (limit : Nat)

/-- The clients that were admitted. -/
def admitted (decided : List (ι × Bool)) : List ι :=
  (decided.filter fun decision => decision.2).map (·.1)

/-- The clients that were refused. -/
def refused (decided : List (ι × Bool)) : List ι :=
  (decided.filter fun decision => !decision.2).map (·.1)

@[simp]
theorem admitted_concat (decided : List (ι × Bool)) (client : ι) (verdict : Bool) :
    admitted (decided ++ [(client, verdict)]) =
      admitted decided ++ if verdict then [client] else [] := by
  cases verdict <;> simp [admitted]

@[simp]
theorem refused_concat (decided : List (ι × Bool)) (client : ι) (verdict : Bool) :
    refused (decided ++ [(client, verdict)]) =
      refused decided ++ if verdict then [] else [client] := by
  cases verdict <;> simp [refused]

/-- The step of the door. -/
def step (door : Door ι) : Move ι → Option (Door ι)
  | .decide client =>
    if door.serving.length < limit then
      some { door with
        serving := door.serving ++ [client]
        decided := door.decided ++ [(client, true)] }
    else some { door with decided := door.decided ++ [(client, false)] }
  | .leave index =>
    match door.serving[index]? with
    | some client => some { door with
        serving := door.serving.eraseIdx index
        gone := door.gone ++ [client] }
    | none => none

/-- The machine of the door. -/
def machine : Machine (Door ι) (Move ι) where
  start door := door = ⟨[], [], []⟩
  step := step limit

/-- What holds at every door. -/
structure Door.Kept (door : Door ι) : Prop where
  /-- No more clients are served than the limit allows. -/
  within : door.serving.length ≤ limit
  /-- Every admitted client is served or has left. -/
  ledger : (admitted door.decided).Perm (door.serving ++ door.gone)

variable {limit}

/-- A decision keeps what holds at the door. -/
theorem Door.Kept.decide {door after : Door ι} {client : ι} (kept : door.Kept limit)
    (taken : step limit door (.decide client) = some after) : after.Kept limit := by
  simp only [step] at taken
  split at taken
  case isTrue room =>
    obtain rfl := Option.some.inj taken
    refine ⟨?_, ?_⟩
    · simpa using Nat.succ_le_of_lt room
    · have middle : (door.serving ++ door.gone ++ [client]).Perm
          (door.serving ++ [client] ++ door.gone) := by
        rw [List.append_assoc, List.append_assoc]
        exact List.perm_append_comm.append_left _
      simp only [admitted_concat, ↓reduceIte]
      exact (kept.ledger.append_right [client]).trans middle
  case isFalse full =>
    obtain rfl := Option.some.inj taken
    refine ⟨kept.within, ?_⟩
    simp only [admitted_concat, Bool.false_eq_true, ↓reduceIte, List.append_nil]
    exact kept.ledger

/-- A client that leaves keeps what holds at the door. -/
theorem Door.Kept.leave {door after : Door ι} {index : Nat} (kept : door.Kept limit)
    (taken : step limit door (.leave index) = some after) : after.Kept limit := by
  simp only [step] at taken
  split at taken
  case h_1 client found =>
    obtain rfl := Option.some.inj taken
    obtain ⟨inside, here⟩ := List.getElem?_eq_some_iff.mp found
    have shorter : (door.serving.eraseIdx index).length ≤ door.serving.length :=
      List.length_eraseIdx_le ..
    have moved : door.serving.Perm (client :: door.serving.eraseIdx index) := by
      rw [← here]
      exact (List.getElem_cons_eraseIdx_perm inside).symm
    refine ⟨Nat.le_trans shorter kept.within, kept.ledger.trans ?_⟩
    have last : (door.serving.eraseIdx index ++ (door.gone ++ [client])).Perm
        (client :: (door.serving.eraseIdx index ++ door.gone)) := by
      rw [← List.append_assoc]
      exact List.perm_append_singleton client _
    exact (moved.append_right door.gone).trans last.symm
  case h_2 => contradiction

/-- What holds at the door holds in every run. -/
theorem Door.kept {door : Door ι} (reached : (machine limit).Reachable (fun _ _ => True) door) :
    door.Kept limit := by
  refine reached.invariant ?_ ?_
  · rintro door rfl
    exact ⟨Nat.zero_le _, List.Perm.refl _⟩
  · intro door move after _ kept _ taken
    cases move with
    | decide client => exact kept.decide taken
    | leave index => exact kept.leave taken

end Admission
