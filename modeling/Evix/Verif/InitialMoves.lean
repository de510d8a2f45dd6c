import Evix.Verif.WarmGraph

/-!
# The initial evaluation, step by step

The flags of a session are the claim of the initial evaluation, whether the warm state is
complete and the stored error. What a step does to them depends on the role of the task that
takes it, so the invariants of the flags are proved from the roles.
-/

namespace Evix

open Machines

/-- What a task at a place has to do with the initial evaluation. -/
inductive Role where
  /-- Its run is about to start or going on. -/
  | going
  /-- Its run has completed and is not stored. -/
  | storing
  /-- Its run was cancelled or has failed, and the error is not stored for good. -/
  | failing
  /-- Its error is stored. -/
  | failed
  /-- Its result is stored. -/
  | finishing
  /-- The call did not claim it and has not looked for a runtime. -/
  | joining
  /-- The call has no runtime. -/
  | unspawned
  /-- The call has no runtime and has tried to store the error. -/
  | closing
  /-- A watch waits for it. -/
  | waiting
  /-- Nothing. -/
  | other
  deriving DecidableEq, Repr

/-- The role of a task at a place. -/
def Place.role : Place → Role
  | .spawning true | .starting | .evaluatingInitial _ => .going
  | .storingInitial .. => .storing
  | .notifyingCancelled | .storingFailure _ | .notifyingFailure _ | .recordingError .. => .failing
  | .notifyingError _ | .finishingError _ => .failed
  | .finishing => .finishing
  | .spawning false => .joining
  | .unspawned => .unspawned
  | .finishingUnspawned | .notifyingUnspawned => .closing
  | .checkingCancel | .subscribing | .inspecting _ | .parked _ => .waiting
  | .registering | .looping | .receiving | .debouncing | .reading | .launching _ | .evaluating ..
  | .storing .. | .sending _ | .over _ => .other

/-- Whether only the task that claimed the initial evaluation has the role. -/
def Role.isClaimed : Role → Bool
  | .going | .storing | .failing | .failed | .finishing => true
  | .joining | .unspawned | .closing | .waiting | .other => false

namespace Session

/-- The claim, whether the warm state is complete, and the stored error. -/
def flags (session : Session) :
    InitialEvaluation × Bool × Option String × Option Nat × List Nat :=
  (session.initial, session.warm.completed, session.warm.error, session.owner, session.initials)

/-- An evaluation has ended. -/
def Ended (session : Session) (id : Nat) : Prop :=
  ∃ evaluation, session.evaluations[id]? = some evaluation ∧ evaluation.ended ≠ none

/-- What has ended stays ended. -/
def KeepsEnded (session after : Session) : Prop := ∀ id, session.Ended id → after.Ended id

variable {session after : Session}

/-- Starting an evaluation revives none. -/
theorem keepsEnded_launch (session : Session) : session.KeepsEnded session.launch := by
  rintro id ⟨evaluation, found, ended⟩
  refine ⟨evaluation, ?_, ended⟩
  rw [launch, List.getElem?_append_left (List.getElem?_eq_some_iff.mp found).1]
  exact found

/-- Starting an evaluation ends none, and the new one has not ended. -/
theorem ended_launch {id : Nat} (ended : session.launch.Ended id) : session.Ended id := by
  obtain ⟨evaluation, found, done⟩ := ended
  refine ⟨evaluation, ?_, done⟩
  obtain inside | outside := Nat.lt_or_ge id session.evaluations.length
  · rw [launch, List.getElem?_append_left inside] at found
    exact found
  · rw [launch, List.getElem?_append_right outside] at found
    obtain rfl := List.mem_singleton.mp (List.mem_of_getElem? found)
    exact absurd rfl done

/-- An evaluation that has not begun has not ended. -/
theorem Ended.inside {id : Nat} (ended : session.Ended id) : id < session.evaluations.length := by
  obtain ⟨_, found, _⟩ := ended
  exact (List.getElem?_eq_some_iff.mp found).1

/-- An evaluation that takes a step is running, and only a return ends it. -/
theorem evaluationStep_running {before next : Evaluation} {action : EvaluationAction}
    (stepped : evaluationStep before action = some next) :
    before.ended = none ∧ ∀ event, action = .event event → next.ended = none := by
  unfold evaluationStep at stepped
  split at stepped
  · rename_i running
    refine ⟨running, ?_⟩
    rintro event rfl
    obtain rfl := Option.some.inj stepped
    exact running
  · cases stepped

/-- An evaluation that goes on has not ended. -/
theorem keepsEnded_evaluate {id : Nat} {action : EvaluationAction}
    (taken : session.evaluate id action = some after) : session.KeepsEnded after := by
  obtain ⟨before, next, found, stepped, rfl⟩ := evaluate_some taken
  rintro other ⟨evaluation, there, ended⟩
  refine ⟨evaluation, ?_, ended⟩
  have apart : id ≠ other := by
    rintro rfl
    obtain rfl := Option.some.inj (found.symm.trans there)
    exact ended (evaluationStep_running stepped).1
  show (session.evaluations.set id next)[other]? = _
  rw [List.getElem?_set_ne apart]
  exact there

/-- An evaluation that goes on ends no other, and an event does not end it. -/
theorem ended_evaluate {id other : Nat} {action : EvaluationAction}
    (taken : session.evaluate id action = some after) (ended : after.Ended other) :
    session.Ended other ∨ other = id ∧ ∀ event, action ≠ .event event := by
  obtain ⟨before, next, found, stepped, rfl⟩ := evaluate_some taken
  obtain ⟨evaluation, there, done⟩ := ended
  by_cases same : other = id
  · subst same
    have inside := (List.getElem?_eq_some_iff.mp found).1
    obtain rfl := Option.some.inj ((List.getElem?_set_self inside).symm.trans there)
    exact .inr ⟨rfl, fun event is => done ((evaluationStep_running stepped).2 event is)⟩
  · refine .inl ⟨evaluation, ?_, done⟩
    exact (List.getElem?_set_ne (Ne.symm same)).symm.trans there

/-- An evaluation that returns has ended. -/
theorem ended_of_returned {id : Nat} {result : Except String RunOutcome}
    (taken : session.evaluate id (.returned result) = some after) : after.Ended id := by
  obtain ⟨before, next, found, stepped, rfl⟩ := evaluate_some taken
  refine ⟨next, List.getElem?_set_self (List.getElem?_eq_some_iff.mp found).1, ?_⟩
  unfold evaluationStep at stepped
  split at stepped
  · obtain rfl := Option.some.inj stepped
    nofun
  · cases stepped

/-- Going on with an evaluation leaves the flags and the tasks alone. -/
theorem flags_evaluate {id : Nat} {action : EvaluationAction}
    (taken : session.evaluate id action = some after) :
    after.flags = session.flags ∧ after.tasks = session.tasks := by
  obtain ⟨_, _, _, _, rfl⟩ := evaluate_some taken
  exact ⟨rfl, rfl⟩

end Session

/-- How a task moves, as far as the initial evaluation is concerned. -/
inductive InitialMove (session : Session) : Place → TaskAction → Session → Place → Prop where
  /-- The task does something else. -/
  | pass {place target : Place} {action : TaskAction} {after : Session}
      (flags : after.flags = session.flags) (tasks : after.tasks = session.tasks)
      (keeps : session.KeepsEnded after)
      (ended : ∀ id, after.Ended id → session.Ended id ∨
        ∃ previous, place = .evaluating previous id)
      (role : target.role = .other ∧ (place.role = .other ∨ place.role = .waiting) ∨
        target.role = .waiting ∧ (place.role = .waiting ∨ place.role = .joining))
      (moving : target ≠ .parked false) :
      InitialMove session place action after target
  /-- A watch parks. -/
  | park (completed : session.warm.completed = false) (error : session.warm.error = none) :
      InitialMove session (.inspecting false) .proceed session (.parked false)
  /-- A call finds no runtime. -/
  | leave (starts : Bool) :
      InitialMove session (.spawning starts) (.spawned false) session .unspawned
  /-- The call that claimed the initial evaluation finds a runtime. -/
  | enter : InitialMove session (.spawning true) (.spawned true) session .starting
  /-- A call without a runtime tries to store its error. -/
  | try_ (contended : Bool) :
      InitialMove session .unspawned (.tried contended)
        (if contended then session else session.setError noRuntimeMessage) .finishingUnspawned
  /-- It finishes the initial evaluation. -/
  | close : InitialMove session .finishingUnspawned .proceed session.finishInitial
      .notifyingUnspawned
  /-- It wakes the waiters. -/
  | closed (result : Except Error (Option Diff)) :
      InitialMove session .notifyingUnspawned .proceed session.notifyWaiters (.over result)
  /-- The run starts. -/
  | start : InitialMove session .starting .proceed
      { session.launch with initials := session.initials ++ [session.evaluations.length] }
      (.evaluatingInitial session.evaluations.length)
  /-- The run goes on. -/
  | go {id : Nat} {event : Event} {after : Session}
      (taken : session.evaluate id (.event event) = some after) :
      InitialMove session (.evaluatingInitial id) (.evaluation (.event event)) after
        (.evaluatingInitial id)
  /-- The run ends. -/
  | stop {id : Nat} {result : Except String RunOutcome} {after : Session} {target : Place}
      (taken : session.evaluate id (.returned result) = some after)
      (role : target.role = .storing ∨ target.role = .failing) :
      InitialMove session (.evaluatingInitial id) (.evaluation (.returned result)) after target
  /-- The result is stored. -/
  | store (id : Nat) (accumulator : EvalAccumulator) :
      InitialMove session (.storingInitial id accumulator) .proceed
        (session.storeInitial id accumulator) .finishing
  /-- The initial evaluation is finished. -/
  | finish {target : Place} (role : target.role = .waiting ∨ target.role = .other)
      (moving : target ≠ .parked false) :
      InitialMove session .finishing .proceed session.finishInitial target
  /-- The waiters are woken on the way to the final error. -/
  | wake {place target : Place} (failing : place.role = .failing) (role : target.role = .failing) :
      InitialMove session place .proceed session.notifyWaiters target
  /-- The failure is stored. -/
  | fail (message : String) :
      InitialMove session (.storingFailure message) .proceed (session.setError message)
        (.notifyingFailure message)
  /-- The final error is stored. -/
  | record (message : String) (error : Error) :
      InitialMove session (.recordingError message error) .proceed (session.setError message)
        (.notifyingError error)
  /-- The waiters are woken. -/
  | notify (error : Error) :
      InitialMove session (.notifyingError error) .proceed session.notifyWaiters
        (.finishingError error)
  /-- The failed initial evaluation is finished. -/
  | conclude (error : Error) (result : Except Error (Option Diff)) :
      InitialMove session (.finishingError error) .proceed session.finishInitial (.over result)
  /-- A re-evaluation is stored. -/
  | round {previous : EvalGraph} {id : Nat} {accumulator : EvalAccumulator} {diff : Diff}
      {target : Place} (role : target.role = .other) :
      InitialMove session (.storing previous id accumulator diff) .proceed
        (session.storeRound id accumulator diff) target

section Moves

variable {session after : Session} {task : Task} {place : Place}

/-- A task that leaves the session alone. -/
theorem InitialMove.still {place target : Place} {action : TaskAction}
    (role : target.role = .other ∧ (place.role = .other ∨ place.role = .waiting) ∨
      target.role = .waiting ∧ (place.role = .waiting ∨ place.role = .joining))
    (moving : target ≠ .parked false) : InitialMove session place action session target :=
  .pass rfl rfl (fun _ => id) (fun _ => .inl) role moving

/-- A task that goes on by itself. -/
theorem proceedTask_moves
    (taken : proceedTask session task.call task.place = some (after, place)) :
    InitialMove session task.place .proceed after place := by
  cases here : task.place <;> rw [here] at taken <;> simp only [proceedTask] at taken
  case finishingUnspawned =>
    obtain ⟨rfl, rfl⟩ := Prod.mk.inj (Option.some.inj taken)
    exact .close
  case notifyingUnspawned =>
    obtain ⟨rfl, rfl⟩ := Prod.mk.inj (Option.some.inj taken)
    exact .closed _
  case starting =>
    obtain ⟨rfl, rfl⟩ := Prod.mk.inj (Option.some.inj taken)
    exact .start
  case storingInitial id accumulator =>
    obtain ⟨rfl, rfl⟩ := Prod.mk.inj (Option.some.inj taken)
    exact .store id accumulator
  case finishing =>
    obtain ⟨rfl, rfl⟩ := Prod.mk.inj (Option.some.inj taken)
    split
    · exact .finish (.inl rfl) (by simp)
    · exact .finish (.inr rfl) (by simp)
  case notifyingCancelled | notifyingFailure =>
    obtain ⟨rfl, rfl⟩ := Prod.mk.inj (Option.some.inj taken)
    exact .wake rfl rfl
  case storingFailure message =>
    obtain ⟨rfl, rfl⟩ := Prod.mk.inj (Option.some.inj taken)
    exact .fail message
  case recordingError message error =>
    obtain ⟨rfl, rfl⟩ := Prod.mk.inj (Option.some.inj taken)
    exact .record message error
  case notifyingError error =>
    obtain ⟨rfl, rfl⟩ := Prod.mk.inj (Option.some.inj taken)
    exact .notify error
  case finishingError error =>
    obtain ⟨rfl, rfl⟩ := Prod.mk.inj (Option.some.inj taken)
    exact .conclude error _
  case checkingCancel =>
    split at taken
    all_goals obtain ⟨rfl, rfl⟩ := Prod.mk.inj (Option.some.inj taken)
    · exact .still (.inl ⟨rfl, .inr rfl⟩) (by simp)
    · exact .still (.inr ⟨rfl, .inl rfl⟩) (by simp)
  case subscribing =>
    obtain ⟨rfl, rfl⟩ := Prod.mk.inj (Option.some.inj taken)
    exact .still (.inr ⟨rfl, .inl rfl⟩) (by simp)
  case inspecting woken =>
    split at taken
    · obtain ⟨rfl, rfl⟩ := Prod.mk.inj (Option.some.inj taken)
      exact .still (.inl ⟨rfl, .inr rfl⟩) (by simp)
    · rename_i incomplete
      split at taken
      · obtain ⟨rfl, rfl⟩ := Prod.mk.inj (Option.some.inj taken)
        exact .still (.inl ⟨rfl, .inr rfl⟩) (by simp)
      · rename_i clear
        obtain ⟨rfl, rfl⟩ := Prod.mk.inj (Option.some.inj taken)
        cases woken with
        | false => exact .park (Bool.eq_false_of_not_eq_true incomplete) clear
        | true => exact .still (.inr ⟨rfl, .inl rfl⟩) (by simp)
  case parked woken =>
    cases woken with
    | false => cases taken
    | true =>
      obtain ⟨rfl, rfl⟩ := Prod.mk.inj (Option.some.inj taken)
      exact .still (.inr ⟨rfl, .inl rfl⟩) (by simp)
  case looping =>
    obtain ⟨rfl, rfl⟩ := Prod.mk.inj (Option.some.inj taken)
    split <;> exact .still (.inl ⟨rfl, .inl rfl⟩) (by simp)
  case debouncing =>
    obtain ⟨rfl, rfl⟩ := Prod.mk.inj (Option.some.inj taken)
    exact .still (.inl ⟨rfl, .inl rfl⟩) (by simp)
  case reading =>
    split at taken
    all_goals
      obtain ⟨rfl, rfl⟩ := Prod.mk.inj (Option.some.inj taken)
      exact .still (.inl ⟨rfl, .inl rfl⟩) (by simp)
  case launching previous =>
    obtain ⟨rfl, rfl⟩ := Prod.mk.inj (Option.some.inj taken)
    exact .pass rfl rfl session.keepsEnded_launch (fun _ ended => .inl (Session.ended_launch ended))
      (.inl ⟨rfl, .inl rfl⟩) (by simp)
  case storing previous id accumulator diff =>
    obtain ⟨rfl, rfl⟩ := Prod.mk.inj (Option.some.inj taken)
    split <;> exact .round rfl
  all_goals cases taken

/-- Every step of a task is one of its moves. -/
theorem taskStep_moves {action : TaskAction}
    (taken : taskStep session task action = some (after, place)) :
    InitialMove session task.place action after place := by
  unfold taskStep at taken
  split at taken
  case h_1 runtime starts here =>
    obtain ⟨rfl, rfl⟩ := Prod.mk.inj (Option.some.inj taken)
    rw [here]
    cases runtime with
    | false => exact .leave starts
    | true =>
      cases starts with
      | false => exact .still (.inr ⟨rfl, .inr rfl⟩) nofun
      | true => exact .enter
  case h_2 contended here =>
    obtain ⟨rfl, rfl⟩ := Prod.mk.inj (Option.some.inj taken)
    rw [here]
    exact .try_ contended
  case h_3 action id here =>
    rw [here]
    unfold initialStep at taken
    obtain ⟨next, stepped, moved⟩ := Option.map_eq_some_iff.mp taken
    split at moved
    all_goals obtain ⟨rfl, rfl⟩ := Prod.mk.inj moved
    · exact .go stepped
    · exact .stop stepped (.inl rfl)
    · exact .stop stepped (.inr rfl)
    · exact .stop stepped (.inr rfl)
  case h_4 action previous id here =>
    rw [here]
    unfold roundStep at taken
    obtain ⟨next, stepped, moved⟩ := Option.map_eq_some_iff.mp taken
    obtain ⟨flags, tasks⟩ := Session.flags_evaluate stepped
    have keeps := Session.keepsEnded_evaluate stepped
    have ended : ∀ other, next.Ended other → session.Ended other ∨
        ∃ graph, Place.evaluating previous id = .evaluating graph other := fun other done => by
      obtain before | ⟨rfl, _⟩ := Session.ended_evaluate stepped done
      · exact .inl before
      · exact .inr ⟨previous, rfl⟩
    split at moved
    all_goals obtain ⟨rfl, rfl⟩ := Prod.mk.inj moved
    · exact .pass flags tasks keeps ended (.inl ⟨rfl, .inl rfl⟩) nofun
    · exact .pass flags tasks keeps ended (.inl ⟨rfl, .inl rfl⟩) nofun
    all_goals
      unfold unfinished
      cases task.call <;> exact .pass flags tasks keeps ended (.inl ⟨rfl, .inl rfl⟩) nofun
  case h_13 => exact proceedTask_moves taken
  case h_14 => cases taken
  all_goals
    obtain ⟨rfl, rfl⟩ := Prod.mk.inj (Option.some.inj taken)
    rename_i here
    rw [here]
    exact .still (.inl ⟨rfl, .inl rfl⟩) nofun

/-! ## What a move does to the flags -/

/-- Settled: the initial evaluation has left a graph or an error. -/
def WarmState.Settled (warm : WarmState) : Prop := warm.completed = true ∨ warm.error ≠ none

namespace InitialMove

variable {target : Place} {action : TaskAction}

/-- The flag and the error stay, or a result is stored, or an error is. -/
theorem warm (move : InitialMove session place action after target) :
    (after.warm.completed = session.warm.completed ∧ after.warm.error = session.warm.error) ∨
      ((after.warm.completed = true ∧ after.warm.error = none) ∧ (place.role = .storing ∨
        ∃ previous id accumulator diff, place = .storing previous id accumulator diff)) ∨
      ((after.warm.completed = session.warm.completed ∧ after.warm.error ≠ none) ∧
        (place.role = .failing ∨ place = .unspawned ∧ action = .tried false)) := by
  cases move with
  | pass flags =>
    simp only [Session.flags, Prod.mk.injEq] at flags
    exact .inl ⟨flags.2.1, flags.2.2.1⟩
  | try_ contended =>
    cases contended with
    | true => exact .inl ⟨rfl, rfl⟩
    | false => exact .inr (.inr ⟨⟨rfl, nofun⟩, .inr ⟨rfl, rfl⟩⟩)
  | go taken | stop taken =>
    have flags := (Session.flags_evaluate taken).1
    simp only [Session.flags, Prod.mk.injEq] at flags
    exact .inl ⟨flags.2.1, flags.2.2.1⟩
  | store id accumulator => exact .inr (.inl ⟨⟨rfl, rfl⟩, .inl rfl⟩)
  | fail | record => exact .inr (.inr ⟨⟨rfl, nofun⟩, .inl rfl⟩)
  | @round previous id accumulator diff =>
    exact .inr (.inl ⟨⟨rfl, rfl⟩, .inr ⟨previous, id, accumulator, diff, rfl⟩⟩)
  | park | leave | enter | close | closed | start | finish | wake | notify | conclude =>
    exact .inl ⟨rfl, rfl⟩

/-- What is settled stays settled. -/
theorem settled (move : InitialMove session place action after target)
    (settled : session.warm.Settled) : after.warm.Settled := by
  obtain ⟨completed, error⟩ | ⟨stored, _⟩ | ⟨failed, _⟩ := move.warm
  · rw [WarmState.Settled, completed, error]
    exact settled
  · exact .inl stored.1
  · exact .inr failed.2

/-- The claim stays, or the initial evaluation is finished. -/
theorem initial (move : InitialMove session place action after target) :
    after.initial = session.initial ∨ place.role = .finishing ∨
      (∃ error, place = .finishingError error) ∨
      place = .finishingUnspawned ∧ action = .proceed := by
  cases move with
  | pass flags =>
    simp only [Session.flags, Prod.mk.injEq] at flags
    exact .inl flags.1
  | try_ contended => cases contended <;> exact .inl rfl
  | go taken | stop taken =>
    have flags := (Session.flags_evaluate taken).1
    simp only [Session.flags, Prod.mk.injEq] at flags
    exact .inl flags.1
  | close => exact .inr (.inr (.inr ⟨rfl, rfl⟩))
  | finish => exact .inr (.inl rfl)
  | conclude error => exact .inr (.inr (.inl ⟨error, rfl⟩))
  | park | leave | enter | closed | start | store | fail | record | wake | notify | round =>
    exact .inl rfl

/-- The owner stays. -/
theorem owner (move : InitialMove session place action after target) :
    after.owner = session.owner := by
  cases move with
  | pass flags =>
    simp only [Session.flags, Prod.mk.injEq] at flags
    exact flags.2.2.2.1
  | try_ contended => cases contended <;> rfl
  | go taken | stop taken =>
    have flags := (Session.flags_evaluate taken).1
    simp only [Session.flags, Prod.mk.injEq] at flags
    exact flags.2.2.2.1
  | park | leave | enter | close | closed | start | store | finish | fail | record | wake | notify
  | conclude | round => rfl

/-- The initial evaluations stay, or the run starts. -/
theorem initials (move : InitialMove session place action after target) :
    after.initials = session.initials ∨ (place = .starting ∧ action = .proceed) ∧
      target = .evaluatingInitial session.evaluations.length ∧
      after.initials = session.initials ++ [session.evaluations.length] := by
  cases move with
  | pass flags =>
    simp only [Session.flags, Prod.mk.injEq] at flags
    exact .inl flags.2.2.2.2
  | try_ contended => cases contended <;> exact .inl rfl
  | go taken | stop taken =>
    have flags := (Session.flags_evaluate taken).1
    simp only [Session.flags, Prod.mk.injEq] at flags
    exact .inl flags.2.2.2.2
  | start => exact .inr ⟨⟨rfl, rfl⟩, rfl, rfl⟩
  | park | leave | enter | close | closed | store | finish | fail | record | wake | notify
  | conclude | round => exact .inl rfl

/-- What has ended stays ended. -/
theorem keepsEnded (move : InitialMove session place action after target) :
    session.KeepsEnded after := by
  cases move with
  | pass _ _ keeps => exact keeps
  | try_ contended => cases contended <;> exact fun _ => id
  | go taken | stop taken => exact Session.keepsEnded_evaluate taken
  | start => exact session.keepsEnded_launch
  | park | leave | enter | close | closed | store | finish | fail | record | wake | notify
  | conclude | round => exact fun _ => id

/-- An evaluation is ended by the task that waits for it. -/
theorem ended (move : InitialMove session place action after target) {id : Nat}
    (ended : after.Ended id) : session.Ended id ∨ (∃ previous, place = .evaluating previous id) ∨
      place.role = .going ∧ target.role ≠ .going := by
  cases move with
  | pass _ _ _ only =>
    obtain before | round := only id ended
    · exact .inl before
    · exact .inr (.inl round)
  | try_ contended => cases contended <;> exact .inl ended
  | go taken =>
    obtain before | ⟨_, quiet⟩ := Session.ended_evaluate taken ended
    · exact .inl before
    · exact absurd rfl (quiet _)
  | stop taken role =>
    refine .inr (.inr ⟨rfl, ?_⟩)
    obtain storing | failing := role
    · rw [storing]
      nofun
    · rw [failing]
      nofun
  | start => exact .inl (Session.ended_launch ended)
  | park | leave | enter | close | closed | store | finish | fail | record | wake | notify
  | conclude | round => exact .inl ended

/-- A role of the task that claimed the initial evaluation is not taken up by another. -/
theorem claimed (move : InitialMove session place action after target)
    (claimed : target.role.isClaimed = true) : place.role.isClaimed = true := by
  cases move with
  | pass _ _ _ _ role =>
    obtain ⟨other, _⟩ | ⟨waiting, _⟩ := role
    · rw [other] at claimed
      cases claimed
    · rw [waiting] at claimed
      cases claimed
  | finish role =>
    obtain waiting | other := role
    · rw [waiting] at claimed
      cases claimed
    · rw [other] at claimed
      cases claimed
  | wake failing => rw [failing]; rfl
  | round role =>
    rw [role] at claimed
    cases claimed
  | enter | start | go | stop | store | fail | record | notify => rfl
  | park | leave | try_ | close | closed | conclude => cases claimed

end InitialMove

end Moves

end Evix
