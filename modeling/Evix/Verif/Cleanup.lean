import Evix.AsyncMaster.Cleanup

/-!
# Workers that outlive their run

A clean-up returns at the first task that did not end well. The tasks behind it may still be
running then, and a cancelled run returns their error.
-/

namespace Evix

open Machines

namespace Cleanup

/-! ## The property and its condition -/

/-- When `run` has returned, every task has ended, and a cancelled run returns that it was
cancelled. -/
def IsSafe (state : Cleanup) : Prop :=
  ∀ result, state.phase = .returned result →
    (∀ slot ∈ state.slots, slot.task.isEnded = true) ∧
      (state.coordinated = .ok .cancelled → result = .ok .cancelled)

/-- Whether `shutdown_workers` gives up at a task that has ended so. -/
def stopsShutdown : PooledTask → Bool
  | .ended .ok => false
  | .ended _ => true
  | _ => false

/-- Whether `abort_workers` gives up at a task that has ended so. -/
def stopsAbort : PooledTask → Bool
  | .ended (.failed _) | .ended .panicked => true
  | _ => false

/-- A shutdown meets a task that did not end well only when every task has ended, and the abortion
of the workers meets none that has failed or panicked. -/
def JoinsCleanly (state : Cleanup) (action : CleanupAction) : Prop :=
  match action, state.phase with
  | .main, .joining worker => ∀ slot, state.slots[worker]? = some slot →
    stopsShutdown slot.task = true → ∀ other ∈ state.slots, other.task.isEnded = true
  | .main, .awaiting worker => ∀ slot, state.slots[worker]? = some slot →
    stopsAbort slot.task = false
  | _, _ => True

instance (state : Cleanup) (action : CleanupAction) : Decidable (state.JoinsCleanly action) :=
  match action, state with
  | .main, ⟨_, slots, .joining worker⟩ =>
    inferInstanceAs (Decidable (∀ slot ∈ slots[worker]?, stopsShutdown slot.task = true →
      ∀ other ∈ slots, other.task.isEnded = true))
  | .main, ⟨_, slots, .awaiting worker⟩ =>
    inferInstanceAs (Decidable (∀ slot ∈ slots[worker]?, stopsAbort slot.task = false))
  | .main, ⟨_, _, .stopping _⟩ | .main, ⟨_, _, .aborting _⟩ | .main, ⟨_, _, .returned _⟩ =>
    inferInstanceAs (Decidable True)
  | .connected _, _ | .receive _, _ | .finish _ _, _ => inferInstanceAs (Decidable True)

/-! ## Steps -/

variable {state after : Cleanup} {action : CleanupAction}

/-- The workers below a bound have ended. -/
def EndedBelow (state : Cleanup) (bound : Nat) : Prop :=
  ∀ worker slot, worker < bound → state.slots[worker]? = some slot → slot.task.isEnded = true

/-- What is known between two steps: where the clean-up is in its loop, the tasks before it have
ended, and only a cancelled run aborts its workers. -/
def Invariant (state : Cleanup) : Prop :=
  match state.phase with
  | .stopping _ => state.coordinated ≠ .ok .cancelled
  | .joining worker => state.coordinated ≠ .ok .cancelled ∧ state.EndedBelow worker
  | .aborting worker | .awaiting worker =>
    state.coordinated = .ok .cancelled ∧ state.EndedBelow worker
  | .returned _ => True

/-- Tasks that have ended stay so. -/
def KeepsEnded (state after : Cleanup) : Prop :=
  ∀ (worker : Nat) (slot : WorkerSlot), after.slots[worker]? = some slot →
    ∃ before : WorkerSlot, state.slots[worker]? = some before ∧
      (before.task.isEnded = true → slot.task.isEnded = true)

/-- What has ended below a bound has ended later. -/
theorem EndedBelow.keep {bound : Nat} (ended : state.EndedBelow bound)
    (keeps : KeepsEnded state after) : after.EndedBelow bound := by
  intro worker slot below there
  obtain ⟨before, was, stays⟩ := keeps worker slot there
  exact stays (ended worker before below was)

/-- A change of a slot keeps what has ended when the task of the slot does. -/
theorem keepsEnded_setSlot {worker : Nat} {slot changed : WorkerSlot}
    (there : state.slots[worker]? = some slot)
    (stays : slot.task.isEnded = true → changed.task.isEnded = true) :
    KeepsEnded state (state.setSlot worker changed) := by
  intro other found at_other
  rw [setSlot, List.getElem?_set] at at_other
  split at at_other
  case isTrue same =>
    split at at_other
    case isTrue => exact ⟨slot, same ▸ there, Option.some.inj at_other ▸ stays⟩
    case isFalse => cases at_other
  case isFalse => exact ⟨found, at_other, fun ended => ended⟩

/-- An action is that of a task that had not ended. -/
theorem taskStep_running {slot changed : WorkerSlot}
    (stepped : state.taskStep slot action = some changed) : slot.task.isEnded = false := by
  cases task : slot.task with
  | ended outcome =>
    unfold taskStep at stepped
    rw [task] at stepped
    split at stepped
    all_goals simp [PooledTask.isEnded] at stepped
  | connecting | idle | working | stopping => rfl

/-- An action of a task leaves the clean-up where it is. -/
theorem step_task {worker : Nat} (acts : actor action = some worker)
    (taken : state.step action = some after) :
    after.phase = state.phase ∧ after.coordinated = state.coordinated ∧
      KeepsEnded state after := by
  unfold step at taken
  rw [acts] at taken
  obtain ⟨slot, there, moved⟩ := Option.bind_eq_some_iff.mp taken
  obtain ⟨changed, stepped, same⟩ := Option.bind_eq_some_iff.mp moved
  obtain rfl := Option.some.inj same
  have running := taskStep_running stepped
  refine ⟨rfl, rfl, keepsEnded_setSlot there fun ended => ?_⟩
  rw [running] at ended
  cases ended

/-- Sending `Stop` to a worker, or to none any more. -/
theorem mainStep_stopping {worker : Nat} (phase : state.phase = .stopping worker)
    (taken : state.mainStep = some after) :
    (after.phase = .stopping (worker + 1) ∨ after.phase = .joining 0) ∧
      after.coordinated = state.coordinated := by
  unfold mainStep at taken
  simp only [phase] at taken
  split at taken
  case h_1 =>
    obtain rfl := Option.some.inj taken
    exact ⟨.inr rfl, rfl⟩
  case h_2 slot there =>
    split at taken
    case isTrue =>
      obtain rfl := Option.some.inj taken
      exact ⟨.inl rfl, rfl⟩
    case isFalse =>
      split at taken
      case isTrue =>
        obtain rfl := Option.some.inj taken
        exact ⟨.inl rfl, rfl⟩
      case isFalse => cases taken

/-- Waiting for a worker, or for none any more: the next one comes after one that ended well, and
`run` returns after one that did not. -/
theorem mainStep_joining {worker : Nat} (phase : state.phase = .joining worker)
    (taken : state.mainStep = some after) :
    (state.slots[worker]? = none ∧ after = { state with phase := .returned state.result }) ∨
    ∃ slot, state.slots[worker]? = some slot ∧ slot.task.isEnded = true ∧
      ((stopsShutdown slot.task = false ∧ after = { state with phase := .joining (worker + 1) }) ∨
      (stopsShutdown slot.task = true ∧
        ∃ error, after = { state with phase := .returned (.error error) })) := by
  unfold mainStep at taken
  simp only [phase] at taken
  cases there : state.slots[worker]? with
  | none =>
    rw [there] at taken
    exact .inl ⟨rfl, (Option.some.inj taken).symm⟩
  | some slot =>
    rw [there] at taken
    refine .inr ⟨slot, rfl, ?_⟩
    dsimp only at taken
    cases task : slot.task with
    | connecting | idle | working | stopping =>
      rw [task] at taken
      cases taken
    | ended outcome =>
      rw [task] at taken
      refine ⟨rfl, ?_⟩
      cases outcome with
      | ok => exact .inl ⟨rfl, (Option.some.inj taken).symm⟩
      | failed error => exact .inr ⟨rfl, _, (Option.some.inj taken).symm⟩
      | panicked | cancelled => exact .inr ⟨rfl, _, (Option.some.inj taken).symm⟩

/-- Aborting a worker, or none any more. -/
theorem mainStep_aborting {worker : Nat} (phase : state.phase = .aborting worker)
    (taken : state.mainStep = some after) :
    (state.slots[worker]? = none ∧ after = { state with phase := .returned state.result }) ∨
    (after.phase = .awaiting worker ∧ after.coordinated = state.coordinated ∧
      KeepsEnded state after) := by
  unfold mainStep at taken
  simp only [phase] at taken
  cases there : state.slots[worker]? with
  | none =>
    rw [there] at taken
    exact .inl ⟨rfl, (Option.some.inj taken).symm⟩
  | some slot =>
    rw [there] at taken
    obtain rfl := Option.some.inj taken
    exact .inr ⟨rfl, rfl, keepsEnded_setSlot there fun ended => ended⟩

/-- Waiting for a worker that was aborted: the next one comes after one that returned or was
cancelled, and `run` returns after one that failed or panicked. -/
theorem mainStep_awaiting {worker : Nat} (phase : state.phase = .awaiting worker)
    (taken : state.mainStep = some after) :
    ∃ slot, state.slots[worker]? = some slot ∧ slot.task.isEnded = true ∧
      ((stopsAbort slot.task = false ∧ after = { state with phase := .aborting (worker + 1) }) ∨
      (stopsAbort slot.task = true ∧
        ∃ error, after = { state with phase := .returned (.error error) })) := by
  unfold mainStep at taken
  simp only [phase] at taken
  cases there : state.slots[worker]? with
  | none =>
    rw [there] at taken
    cases taken
  | some slot =>
    rw [there] at taken
    refine ⟨slot, rfl, ?_⟩
    dsimp only at taken
    cases task : slot.task with
    | connecting | idle | working | stopping =>
      rw [task] at taken
      cases taken
    | ended outcome =>
      rw [task] at taken
      refine ⟨rfl, ?_⟩
      cases outcome with
      | ok | cancelled => exact .inl ⟨rfl, (Option.some.inj taken).symm⟩
      | failed error => exact .inr ⟨rfl, _, (Option.some.inj taken).symm⟩
      | panicked => exact .inr ⟨rfl, _, (Option.some.inj taken).symm⟩

/-! ## Runs -/

/-- A bound grows by a worker that has ended. -/
theorem EndedBelow.succ {worker : Nat} {slot : WorkerSlot} (ended : state.EndedBelow worker)
    (there : state.slots[worker]? = some slot) (last : slot.task.isEnded = true) :
    state.EndedBelow (worker + 1) := by
  intro other found below at_other
  rcases Nat.lt_succ_iff_lt_or_eq.mp below with earlier | rfl
  · exact ended other found earlier at_other
  · exact Option.some.inj (there.symm.trans at_other) ▸ last

/-- Every task has ended when those below the length of the pool have. -/
theorem EndedBelow.all {worker : Nat} (ended : state.EndedBelow worker)
    (behind : state.slots[worker]? = none) : ∀ slot ∈ state.slots, slot.task.isEnded = true := by
  intro slot listed
  obtain ⟨other, there⟩ := List.mem_iff_getElem?.mp listed
  have bound := List.getElem?_eq_none_iff.mp behind
  have inside := (List.getElem?_eq_some_iff.mp there).1
  exact ended other slot (by omega) there

/-- The clean-up begins with the invariant. -/
theorem invariant_start (coordinated : Except CoordinateError RunOutcome)
    (slots : List WorkerSlot) : (start coordinated slots).Invariant := by
  unfold Invariant start
  by_cases aborts : coordinated = .ok .cancelled
  · simp only [aborts, if_true]
    exact ⟨trivial, fun worker slot below => absurd below (Nat.not_lt_zero worker)⟩
  · simp only [aborts, if_false]
    exact aborts

/-- An action of a task keeps the invariant. -/
theorem invariant_task {worker : Nat} (holds : state.Invariant) (acts : actor action = some worker)
    (taken : state.step action = some after) : after.Invariant := by
  obtain ⟨phase, coordinated, keeps⟩ := step_task acts taken
  unfold Invariant at holds ⊢
  rw [phase, coordinated]
  split
  all_goals simp only [*] at holds
  · exact holds
  · exact ⟨holds.1, holds.2.keep keeps⟩
  · exact ⟨holds.1, holds.2.keep keeps⟩
  · exact ⟨holds.1, holds.2.keep keeps⟩
  · trivial

/-- A step of the clean-up keeps the invariant. -/
theorem invariant_main (holds : state.Invariant) (taken : state.mainStep = some after) :
    after.Invariant := by
  cases phase : state.phase with
  | stopping worker =>
    obtain ⟨next | next, coordinated⟩ := mainStep_stopping phase taken
    · simp only [Invariant, phase] at holds
      simp only [Invariant, next, coordinated]
      exact holds
    · simp only [Invariant, phase] at holds
      simp only [Invariant, next, coordinated]
      exact ⟨holds, fun worker slot below => absurd below (Nat.not_lt_zero worker)⟩
  | joining worker =>
    simp only [Invariant, phase] at holds
    have joined := mainStep_joining phase taken
    obtain ⟨_, rfl⟩ | ⟨slot, there, ended, ⟨_, rfl⟩ | ⟨_, error, rfl⟩⟩ := joined
    · trivial
    · exact ⟨holds.1, holds.2.succ there ended⟩
    · trivial
  | aborting worker =>
    simp only [Invariant, phase] at holds
    obtain ⟨_, rfl⟩ | ⟨next, coordinated, keeps⟩ := mainStep_aborting phase taken
    · trivial
    · simp only [Invariant, next, coordinated]
      exact ⟨holds.1, holds.2.keep keeps⟩
  | awaiting worker =>
    simp only [Invariant, phase] at holds
    obtain ⟨slot, there, ended, ⟨_, rfl⟩ | ⟨_, error, rfl⟩⟩ := mainStep_awaiting phase taken
    · exact ⟨holds.1, holds.2.succ there ended⟩
    · trivial
  | returned result =>
    simp only [mainStep, phase] at taken
    cases taken

/-- The invariant holds in every state of every run. -/
theorem invariant_reachable {legal : Cleanup → CleanupAction → Prop}
    (reached : cleanupMachine.Reachable legal state) : state.Invariant := by
  refine Machine.Reachable.invariant ?_ ?_ reached
  · rintro _ ⟨coordinated, slots, rfl, _⟩
    exact invariant_start coordinated slots
  · intro state action after _ holds _ taken
    cases acts : actor action with
    | some worker => exact invariant_task holds acts taken
    | none =>
      cases action with
      | main => exact invariant_main holds taken
      | connected | receive | finish => cases acts

/-- A task that goes on does not make a state unsafe. -/
theorem isSafe_task {worker : Nat} (safe : state.IsSafe) (acts : actor action = some worker)
    (taken : state.step action = some after) : after.IsSafe := by
  obtain ⟨phase, coordinated, keeps⟩ := step_task acts taken
  intro result returned
  obtain ⟨ended, cancelled⟩ := safe result (phase.symm.trans returned)
  refine ⟨fun slot listed => ?_, coordinated ▸ cancelled⟩
  obtain ⟨other, there⟩ := List.mem_iff_getElem?.mp listed
  obtain ⟨before, was, stays⟩ := keeps other slot there
  exact stays (ended before (List.mem_of_getElem? was))

/-- A step of the clean-up that meets the condition leads to a safe state, and one that does not
meet it to an unsafe one. -/
theorem isSafe_main (holds : state.Invariant) (taken : state.mainStep = some after) :
    after.IsSafe ↔ state.JoinsCleanly .main := by
  unfold JoinsCleanly
  cases phase : state.phase with
  | stopping worker =>
    obtain ⟨next | next, _⟩ := mainStep_stopping phase taken
    · exact iff_of_true (fun result returned => nomatch next.symm.trans returned) trivial
    · exact iff_of_true (fun result returned => nomatch next.symm.trans returned) trivial
  | joining worker =>
    simp only [Invariant, phase] at holds
    dsimp only
    obtain ⟨behind, rfl⟩ | ⟨slot, there, ended, ⟨well, rfl⟩ | ⟨badly, error, rfl⟩⟩ :=
      mainStep_joining phase taken
    · refine iff_of_true (fun result _ => ?_) fun slot there => ?_
      · exact ⟨holds.2.all behind, fun cancelled => absurd cancelled holds.1⟩
      · cases behind.symm.trans there
    · refine iff_of_true nofun fun found at_worker badly => ?_
      rw [Option.some.inj (there.symm.trans at_worker), badly] at well
      cases well
    · constructor
      · intro safe _ _ _
        exact (safe _ rfl).1
      · intro all result _
        exact ⟨all slot there badly, fun cancelled => absurd cancelled holds.1⟩
  | aborting worker =>
    simp only [Invariant, phase] at holds
    obtain ⟨behind, rfl⟩ | ⟨next, _⟩ := mainStep_aborting phase taken
    · refine iff_of_true (fun result returned => ?_) trivial
      refine ⟨holds.2.all behind, fun _ => ?_⟩
      rw [← CleanupPhase.returned.inj returned, Cleanup.result, holds.1]
      rfl
    · exact iff_of_true (fun result returned => nomatch next.symm.trans returned) trivial
  | awaiting worker =>
    simp only [Invariant, phase] at holds
    dsimp only
    obtain ⟨slot, there, ended, ⟨well, rfl⟩ | ⟨badly, error, rfl⟩⟩ := mainStep_awaiting phase taken
    · refine iff_of_true nofun fun found at_worker => ?_
      exact Option.some.inj (there.symm.trans at_worker) ▸ well
    · refine iff_of_false (fun safe => ?_) fun well => ?_
      · cases (safe _ rfl).2 holds.1
      · cases badly.symm.trans (well slot there)
  | returned result =>
    simp only [mainStep, phase] at taken
    cases taken

/-- In every run whose steps all meet the condition what is returned is safe. -/
theorem isSafe_reachable (reached : cleanupMachine.Reachable JoinsCleanly state) :
    state.IsSafe := by
  refine Machine.Reachable.invariant ?_ ?_ reached
  · rintro _ ⟨coordinated, slots, rfl, _⟩ result returned
    unfold start at returned
    dsimp only at returned
    split at returned
    · cases returned
    · cases returned
  · intro state action after earlier safe clean taken
    cases acts : actor action with
    | some worker => exact isSafe_task safe acts taken
    | none =>
      cases action with
      | main => exact (isSafe_main (invariant_reachable earlier) taken).mpr clean
      | connected | receive | finish => cases acts

end Cleanup

/-- **In every run whose steps all meet the condition no worker outlives its run, and the first step
that does not meet it breaks that.** -/
theorem cleanup_safe {state : Cleanup}
    (reached : cleanupMachine.Reachable Cleanup.JoinsCleanly state) :
    state.IsSafe ∧ ∀ action after, cleanupMachine.step state action = some after →
      (after.IsSafe ↔ state.JoinsCleanly action) := by
  have safe := Cleanup.isSafe_reachable reached
  refine ⟨safe, fun action after taken => ⟨fun kept => ?_, fun clean => ?_⟩⟩
  · cases action with
    | main => exact (Cleanup.isSafe_main (Cleanup.invariant_reachable reached) taken).mp kept
    | connected | receive | finish => exact trivial
  · exact Cleanup.isSafe_reachable (reached.next clean taken)

/-- A pool whose first worker still works and whose second one has failed. -/
def lastFailedPool : List WorkerSlot :=
  [⟨.working, [], false⟩, ⟨.ended (.failed "exited"), [], false⟩]

/-- A shutdown that waits for the first worker before it meets the failed one. -/
theorem cleanup_safe_joined : ∃ state : Cleanup,
    state.phase = .returned (.error (.worker "exited")) ∧ state.IsSafe := by
  obtain ⟨state, reached, checked⟩ := Machine.reachable_of_execute cleanupMachine
    Cleanup.JoinsCleanly (.start (.error (.workerExited "exited")) lastFailedPool)
    [.main, .main, .main, .finish 0 .ok, .main, .main]
    (fun state => state.phase == .returned (.error (.worker "exited")))
    ⟨_, lastFailedPool, rfl, by decide⟩ (by decide)
  exact ⟨state, beq_iff_eq.mp checked, (cleanup_safe reached).1⟩

/-- A pool whose first worker has failed and whose second one still works. -/
def failedPool : List WorkerSlot :=
  [⟨.ended (.failed "exited"), [], false⟩, ⟨.working, [], false⟩]

/-- A run of this pool returns the error of the first worker while the second one still works,
also when it was cancelled. -/
theorem cleanup_safe_broken :
    (∃ state, cleanupMachine.Reachable (fun _ _ => True) state ∧ ¬ state.IsSafe) ∧
      ∃ state, cleanupMachine.Reachable (fun _ _ => True) state ∧
        state.coordinated = .ok .cancelled ∧ ¬ state.IsSafe := by
  constructor
  · obtain ⟨state, reached, checked⟩ := Machine.reachable_of_execute cleanupMachine
      (fun _ _ => True) (.start (.error (.workerExited "exited")) failedPool)
      [.main, .main, .main, .main]
      (fun state => state.phase == .returned (.error (.worker "exited")) &&
        state.slots.any (!·.task.isEnded)) ⟨_, failedPool, rfl, by decide⟩ (by decide)
    refine ⟨state, reached, fun safe => ?_⟩
    rw [Bool.and_eq_true, beq_iff_eq, List.any_eq_true] at checked
    obtain ⟨returned, slot, listed, running⟩ := checked
    rw [(safe _ returned).1 slot listed] at running
    cases running
  · obtain ⟨state, reached, checked⟩ := Machine.reachable_of_execute cleanupMachine
      (fun _ _ => True) (.start (.ok .cancelled) failedPool) [.main, .main]
      (fun state => state.phase == .returned (.error (.worker "exited")) &&
        decide (state.coordinated = .ok .cancelled)) ⟨_, failedPool, rfl, by decide⟩ (by decide)
    rw [Bool.and_eq_true, beq_iff_eq, decide_eq_true_eq] at checked
    refine ⟨state, reached, checked.2, fun safe => ?_⟩
    cases (safe _ checked.1).2 checked.2

end Evix
