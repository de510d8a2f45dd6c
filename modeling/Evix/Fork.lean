import Mathlib.Algebra.GroupWithZero.Nat
import Mathlib.Data.List.Basic

/-!
# Forking local workers

The `Forker` of the first local worker: when a fork is due, and what becomes of the slots. A slot
holds the socket of one worker of the pool and is named by that worker. A moment is the time since
the run started, in nanoseconds.
-/

namespace Evix

/-- `Duration::from_secs`, in nanoseconds. -/
def Duration.ofSecs (seconds : Nat) : Nat := seconds * 1000000000

/-- `Duration::from_millis`, in nanoseconds. -/
def Duration.ofMillis (millis : Nat) : Nat := millis * 1000000

/-- `ITEMS_PER_FORK`. -/
def itemsPerFork : Nat := 5

/-- `TIME_PER_FORK`. -/
def timePerFork : Nat := Duration.ofMillis 200

/-- `Forker`. -/
structure Forker where
  /-- Slots left to fork. -/
  slots : List Nat
  /-- Forks tried. -/
  forked : Nat
  /-- When its clock was started. -/
  started : Nat
  /-- Workers forked. -/
  children : List Nat

/-- What happens when a fork is due. -/
inductive ForkOutcome where
  /-- `fork_hazard` finds one. -/
  | hazard
  /-- `fork` fails. -/
  | failed
  /-- `fork` returns the child. -/
  | child
  deriving DecidableEq

/-- What a turn of the loop of `fork_due` comes to in the process that goes on as it was. -/
inductive ForkTurn where
  /-- The loop ends, with the slots dropped. -/
  | done (forker : Forker) (dropped : List Nat)
  /-- A child was forked for the slot, and the loop goes on. -/
  | forked (forker : Forker) (slot : Nat)

namespace Forker

variable (forker : Forker) (now : Nat) (completed : Nat) (outcome : Nat → ForkOutcome)

/-- `is_due`. -/
def isDue : Bool :=
  min (itemsPerFork * (forker.forked + 1)) (2 ^ 64 - 1) ≤ completed ||
    timePerFork * min (forker.forked + 1) (2 ^ 32 - 1) ≤ now - forker.started

/-- One turn of the loop of `fork_due`. -/
def forkTurn (forker : Forker) (outcome : ForkOutcome) : ForkTurn :=
  match forker.slots with
  | [] => .done forker []
  | slot :: slots =>
    if forker.isDue now completed then
      match outcome with
      | .hazard => .done { forker with slots := [] } (slot :: slots)
      | .failed => .done { forker with slots, forked := forker.forked + 1 } [slot]
      | .child => .forked { forker with
          slots
          forked := forker.forked + 1
          children := forker.children ++ [slot] } slot
    else .done forker []

/-- The loop of `fork_due`: turns until one ends it, no more than there are slots. -/
def forkLoop (forker : Forker) : List Nat → Forker
  | [] => forker
  | slot :: slots =>
    match forker.forkTurn now completed (outcome slot) with
    | .done after _ => after
    | .forked after _ => forkLoop after slots

/-- `fork_due` in the process that goes on as it was. -/
def forkDue : Forker := forker.forkLoop now completed outcome forker.slots

/-- `reap`, with the children `waitpid` finds to have exited. -/
def reap (exited : List Nat) : Forker :=
  { forker with children := forker.children.filter (· ∉ exited) }

/-- `start_clock`. -/
def startClock : Forker := { forker with started := now }

/-- The slots are closed. -/
def close : Forker := { forker with slots := [] }

/-- When the loop ends, the slots it dropped stood before those that remain. -/
theorem forkTurn_done {outcome : ForkOutcome} {after : Forker} {dropped : List Nat}
    (turn : forker.forkTurn now completed outcome = .done after dropped) :
    forker.slots = dropped ++ after.slots := by
  unfold forkTurn at turn
  cases slots : forker.slots with
  | nil =>
    simp only [slots, ForkTurn.done.injEq] at turn
    obtain ⟨rfl, rfl⟩ := turn
    rw [slots]
    rfl
  | cons slot rest =>
    simp only [slots] at turn
    by_cases due : forker.isDue now completed = true
    · simp only [if_pos due] at turn
      cases outcome <;> cases turn <;> simp
    · simp only [if_neg due, ForkTurn.done.injEq] at turn
      obtain ⟨rfl, rfl⟩ := turn
      rw [slots]
      rfl

/-- A child is forked for the first slot. -/
theorem forkTurn_forked {outcome : ForkOutcome} {after : Forker} {slot : Nat}
    (turn : forker.forkTurn now completed outcome = .forked after slot) :
    forker.slots = slot :: after.slots := by
  unfold forkTurn at turn
  cases slots : forker.slots with
  | nil => simp [slots] at turn
  | cons first rest =>
    simp only [slots] at turn
    by_cases due : forker.isDue now completed = true
    · simp only [if_pos due] at turn
      cases outcome <;> cases turn
      rfl
    · simp [if_neg due] at turn

end Forker

end Evix
