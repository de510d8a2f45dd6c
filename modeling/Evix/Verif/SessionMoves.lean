import Evix.Session

/-!
# What a step of a session can do

Every step of a task changes the session in one of a few ways and moves the task. The
invariants of a session are proved from this, not from the steps themselves.
-/

namespace Evix

open Machines

/-- Whether the task has claimed the initial evaluation and not stored it. -/
def Place.isInitial : Place → Bool
  | .spawning true | .starting | .evaluatingInitial _ | .storingInitial .. => true
  | _ => false

/-- Whether the task has claimed the initial evaluation and not started it. -/
def Place.isUnstarted : Place → Bool
  | .spawning true | .starting => true
  | _ => false

/-- Whether a task of a call is past the point where the initial evaluation must be complete. -/
def Place.isRound (call : Call) : Place → Bool
  | .registering | .looping | .receiving | .debouncing | .launching _ | .evaluating .. |
    .storing .. | .sending _ => true
  | .reading => call ≠ .diff
  | _ => false

/-- A completed evaluation has accumulated this. -/
def Session.Backs (session : Session) (id : Nat) (accumulator : EvalAccumulator) : Prop :=
  ∃ evaluation, session.evaluations[id]? = some evaluation ∧ evaluation.Completed ∧
    evaluation.accumulator = accumulator

/-- What a task is about to store is what a completed evaluation has accumulated, and the
difference is with the graph it has read. -/
def Place.Backed (session : Session) : Place → Prop
  | .storingInitial id accumulator => session.Backs id accumulator
  | .storing previous id accumulator diff => session.Backs id accumulator ∧
      diff = diffGraphs previous accumulator.graph accumulator.errors
  | _ => True

/-- What a task may do to the session, apart from moving. -/
inductive Change (session : Session) (place : Place) : Session → Prop where
  /-- Nothing. -/
  | nothing : Change session place session
  /-- Wake the waiters. -/
  | notified : Change session place session.notifyWaiters
  /-- Finish the initial evaluation. -/
  | finished : Change session place session.finishInitial
  /-- Store an error. -/
  | failed (message : String) : Change session place (session.setError message)
  /-- Start the initial evaluation. -/
  | started : place = .starting → Change session place
      { session.launch with initials := session.initials ++ [session.evaluations.length] }
  /-- Start a re-evaluation. -/
  | relaunched : Change session place session.launch
  /-- Go on with an evaluation. -/
  | evaluated {before next : Evaluation} (id : Nat) (action : EvaluationAction) :
      session.evaluations[id]? = some before → evaluationStep before action = some next →
      Change session place { session with evaluations := session.evaluations.set id next }
  /-- Store the initial evaluation. -/
  | storedInitial (id : Nat) (accumulator : EvalAccumulator) :
      place = .storingInitial id accumulator →
      Change session place (session.storeInitial id accumulator)
  /-- Store a re-evaluation. -/
  | storedRound (previous : EvalGraph) (id : Nat) (accumulator : EvalAccumulator) (diff : Diff) :
      place = .storing previous id accumulator diff →
      Change session place (session.storeRound id accumulator diff)

/-- Where a task may move. -/
structure Lands (session : Session) (task : Task) (after : Session) (place : Place) : Prop where
  /-- The initial evaluation is claimed by a call only, and given up by storing it. -/
  initial : place.isInitial = true → task.place.isInitial = true ∧
    ∀ id accumulator, task.place ≠ .storingInitial id accumulator
  /-- An evaluation that was started stays so. -/
  unstarted : place.isUnstarted = true → task.place = .spawning true
  /-- The graph must be complete before a task re-evaluates. -/
  round : place.isRound task.call = true →
    task.place.isRound task.call = true ∨ session.warm.completed = true
  /-- What the task is about to store is backed. -/
  backed : place.Backed after

section Steps

variable {session after : Session} {task : Task} {place : Place}

/-- A move to a place that is neither of the initial evaluation nor of a round. -/
theorem lands_plain (initial : place.isInitial = false) (unstarted : place.isUnstarted = false)
    (round : place.isRound task.call = false) (backed : place.Backed after) :
    Lands session task after place where
  initial := by rw [initial]; nofun
  unstarted := by rw [unstarted]; nofun
  round := by rw [round]; nofun
  backed := backed

/-- A move within a round. -/
theorem lands_round (initial : place.isInitial = false) (unstarted : place.isUnstarted = false)
    (round : task.place.isRound task.call = true ∨ session.warm.completed = true)
    (backed : place.Backed after) : Lands session task after place where
  initial := by rw [initial]; nofun
  unstarted := by rw [unstarted]; nofun
  round := fun _ => round
  backed := backed

/-- An evaluation that goes on takes one of its steps. -/
theorem evaluate_some {id : Nat} {action : EvaluationAction}
    (taken : session.evaluate id action = some after) :
    ∃ before next, session.evaluations[id]? = some before ∧
      evaluationStep before action = some next ∧
      after = { session with evaluations := session.evaluations.set id next } := by
  unfold Session.evaluate at taken
  split at taken
  · rename_i before found
    obtain ⟨next, stepped, rfl⟩ := Option.map_eq_some_iff.mp taken
    exact ⟨before, next, found, stepped, rfl⟩
  · cases taken

/-- Going on with an evaluation is a change. -/
theorem change_of_evaluate {id : Nat} {action : EvaluationAction}
    (taken : session.evaluate id action = some after) : Change session place after := by
  obtain ⟨before, next, found, stepped, rfl⟩ := evaluate_some taken
  exact .evaluated id action found stepped

/-- What an evaluation that has just returned `Completed` has accumulated. -/
theorem backs_of_returned {id : Nat}
    (taken : session.evaluate id (.returned (.ok .completed)) = some after) :
    after.Backs id (after.accumulated id) := by
  obtain ⟨before, next, found, stepped, rfl⟩ := evaluate_some taken
  have inside := (List.getElem?_eq_some_iff.mp found).1
  have there : (session.evaluations.set id next)[id]? = some next :=
    List.getElem?_set_self inside
  refine ⟨next, there, ?_, ?_⟩
  · unfold evaluationStep at stepped
    split at stepped
    · obtain rfl := Option.some.inj stepped
      rfl
    · cases stepped
  · simp only [Session.accumulated, there]

/-- The initial evaluation goes on. -/
theorem initialStep_change {id : Nat} {action : EvaluationAction}
    (here : task.place = .evaluatingInitial id)
    (taken : initialStep session id action = some (after, place)) :
    Change session task.place after ∧ Lands session task after place := by
  unfold initialStep at taken
  obtain ⟨next, stepped, moved⟩ := Option.map_eq_some_iff.mp taken
  have within : place.isUnstarted = false → place.Backed after →
      Lands session task after place := fun unstarted backed =>
    { initial := fun _ => by rw [here]; exact ⟨rfl, nofun⟩
      unstarted := by rw [unstarted]; nofun
      round := by
        split at moved
        all_goals
          obtain ⟨rfl, rfl⟩ := Prod.mk.inj moved
          nofun
      backed := backed }
  split at moved
  all_goals
    obtain ⟨rfl, rfl⟩ := Prod.mk.inj moved
    refine ⟨change_of_evaluate stepped, ?_⟩
  · exact within rfl trivial
  · exact within rfl (backs_of_returned stepped)
  · exact within rfl trivial
  · exact within rfl trivial

/-- A re-evaluation goes on. -/
theorem roundStep_change {previous : EvalGraph} {id : Nat} {action : EvaluationAction}
    (here : task.place = .evaluating previous id)
    (taken : roundStep session task.call previous id action = some (after, place)) :
    Change session task.place after ∧ Lands session task after place := by
  unfold roundStep at taken
  obtain ⟨next, stepped, moved⟩ := Option.map_eq_some_iff.mp taken
  have round : task.place.isRound task.call = true ∨ session.warm.completed = true := by
    rw [here]
    exact .inl rfl
  split at moved
  all_goals
    obtain ⟨rfl, rfl⟩ := Prod.mk.inj moved
    refine ⟨change_of_evaluate stepped, ?_⟩
  · exact lands_round rfl rfl round trivial
  · exact lands_round rfl rfl round ⟨backs_of_returned stepped, rfl⟩
  all_goals
    unfold unfinished
    cases task.call <;> exact lands_round rfl rfl round trivial

/-- A warm graph that is not refused is complete. -/
theorem completed_of_refusal {warm : WarmState} {otherwise : Error}
    (granted : warm.refusal otherwise = none) : warm.completed = true := by
  unfold WarmState.refusal at granted
  split at granted
  · assumption
  · split at granted <;> cases granted

/-- A task goes on by itself. -/
theorem proceedTask_change
    (taken : proceedTask session task.call task.place = some (after, place)) :
    Change session task.place after ∧ Lands session task after place := by
  cases here : task.place <;> rw [here] at taken <;> simp only [proceedTask] at taken
  case finishingUnspawned | finishingError =>
    obtain ⟨rfl, rfl⟩ := Prod.mk.inj (Option.some.inj taken)
    exact ⟨.finished, lands_plain rfl rfl rfl trivial⟩
  case notifyingUnspawned | notifyingCancelled | notifyingFailure | notifyingError =>
    obtain ⟨rfl, rfl⟩ := Prod.mk.inj (Option.some.inj taken)
    exact ⟨.notified, lands_plain rfl rfl rfl trivial⟩
  case storingFailure | recordingError =>
    obtain ⟨rfl, rfl⟩ := Prod.mk.inj (Option.some.inj taken)
    exact ⟨.failed _, lands_plain rfl rfl rfl trivial⟩
  case subscribing =>
    obtain ⟨rfl, rfl⟩ := Prod.mk.inj (Option.some.inj taken)
    exact ⟨.nothing, lands_plain rfl rfl rfl trivial⟩
  case starting =>
    obtain ⟨rfl, rfl⟩ := Prod.mk.inj (Option.some.inj taken)
    exact ⟨.started rfl,
      { initial := fun _ => by rw [here]; exact ⟨rfl, nofun⟩
        unstarted := nofun
        round := nofun
        backed := trivial }⟩
  case storingInitial id accumulator =>
    obtain ⟨rfl, rfl⟩ := Prod.mk.inj (Option.some.inj taken)
    exact ⟨.storedInitial id accumulator rfl, lands_plain rfl rfl rfl trivial⟩
  case finishing =>
    obtain ⟨rfl, rfl⟩ := Prod.mk.inj (Option.some.inj taken)
    refine ⟨.finished, ?_⟩
    split <;> exact lands_plain rfl rfl rfl trivial
  case checkingCancel =>
    split at taken
    all_goals
      obtain ⟨rfl, rfl⟩ := Prod.mk.inj (Option.some.inj taken)
      exact ⟨.nothing, lands_plain rfl rfl rfl trivial⟩
  case inspecting woken =>
    split at taken
    · rename_i completed
      obtain ⟨rfl, rfl⟩ := Prod.mk.inj (Option.some.inj taken)
      exact ⟨.nothing, lands_round rfl rfl (.inr completed) trivial⟩
    · split at taken
      all_goals
        obtain ⟨rfl, rfl⟩ := Prod.mk.inj (Option.some.inj taken)
        exact ⟨.nothing, lands_plain rfl rfl rfl trivial⟩
  case parked woken =>
    cases woken with
    | false => cases taken
    | true =>
      obtain ⟨rfl, rfl⟩ := Prod.mk.inj (Option.some.inj taken)
      exact ⟨.nothing, lands_plain rfl rfl rfl trivial⟩
  case looping =>
    obtain ⟨rfl, rfl⟩ := Prod.mk.inj (Option.some.inj taken)
    refine ⟨.nothing, ?_⟩
    split
    · exact lands_plain rfl rfl rfl trivial
    · exact lands_round rfl rfl (.inl (by rw [here]; rfl)) trivial
  case debouncing =>
    obtain ⟨rfl, rfl⟩ := Prod.mk.inj (Option.some.inj taken)
    exact ⟨.nothing, lands_round rfl rfl (.inl (by rw [here]; rfl)) trivial⟩
  case reading =>
    split at taken
    · obtain ⟨rfl, rfl⟩ := Prod.mk.inj (Option.some.inj taken)
      exact ⟨.nothing, lands_plain rfl rfl rfl trivial⟩
    · rename_i granted
      obtain ⟨rfl, rfl⟩ := Prod.mk.inj (Option.some.inj taken)
      refine ⟨.nothing, lands_round rfl rfl ?_ trivial⟩
      split at granted
      · exact .inr (completed_of_refusal granted)
      · rename_i other
        rw [here]
        exact .inl (decide_eq_true other)
  case launching previous =>
    obtain ⟨rfl, rfl⟩ := Prod.mk.inj (Option.some.inj taken)
    exact ⟨.relaunched, lands_round rfl rfl (.inl (by rw [here]; rfl)) trivial⟩
  case storing previous id accumulator diff =>
    obtain ⟨rfl, rfl⟩ := Prod.mk.inj (Option.some.inj taken)
    refine ⟨.storedRound previous id accumulator diff rfl, ?_⟩
    split
    · exact lands_round rfl rfl (.inl (by rw [here]; rfl)) trivial
    · exact lands_plain rfl rfl rfl trivial
  all_goals cases taken

/-- What a step of a task can do. -/
theorem taskStep_change {action : TaskAction}
    (taken : taskStep session task action = some (after, place)) :
    Change session task.place after ∧ Lands session task after place := by
  unfold taskStep at taken
  split at taken
  case h_1 runtime starts here =>
    obtain ⟨rfl, rfl⟩ := Prod.mk.inj (Option.some.inj taken)
    refine ⟨.nothing, ?_⟩
    split
    · exact lands_plain rfl rfl rfl trivial
    · split
      · rename_i claimed
        subst claimed
        exact {
          initial := fun _ => by rw [here]; exact ⟨rfl, nofun⟩
          unstarted := fun _ => here
          round := nofun
          backed := trivial }
      · exact lands_plain rfl rfl rfl trivial
  case h_2 contended here =>
    obtain ⟨rfl, rfl⟩ := Prod.mk.inj (Option.some.inj taken)
    refine ⟨?_, lands_plain rfl rfl rfl trivial⟩
    split
    · exact .nothing
    · exact .failed _
  case h_3 action id here => exact initialStep_change here taken
  case h_4 action previous id here => exact roundStep_change here taken
  case h_13 => exact proceedTask_change taken
  case h_14 => cases taken
  all_goals
    obtain ⟨rfl, rfl⟩ := Prod.mk.inj (Option.some.inj taken)
    rename_i here
    refine ⟨.nothing, ?_⟩
    first
      | exact lands_plain rfl rfl rfl trivial
      | exact lands_round rfl rfl (.inl (by rw [here]; rfl)) trivial

end Steps

/-! ## The session -/

/-- A session whose initial evaluation is not claimed gives it to the next task. -/
theorem Session.startInitial_idle {session : Session} (idle : session.initial = .idle) :
    session.startInitial =
      { session with initial := .running, owner := some session.tasks.length } := by
  have claims : session.claims = true := by
    rw [Session.claims, idle]
    rfl
  rw [Session.startInitial, if_pos claims]

/-- What one step of a session can do. -/
inductive SessionMove (session : Session) : SessionAction → Session → Prop where
  /-- A call claims the initial evaluation. -/
  | claim {call : Call} {contended : Bool} (idle : session.initial = .idle) :
      SessionMove session (.call call contended)
        (session.startInitial.spawn ⟨call, .spawning true⟩)
  /-- A watch finds the initial evaluation claimed. -/
  | join {contended : Bool} (claimed : session.initial ≠ .idle) :
      SessionMove session (.call .watch contended) (session.spawn ⟨.watch, .spawning false⟩)
  /-- A stream finds the initial evaluation claimed. -/
  | refuse {contended : Bool} (claimed : session.initial ≠ .idle) :
      SessionMove session (.call .stream contended) (session.spawn
        ⟨.stream, .over (.error (initialUnavailableError session.warm contended))⟩)
  /-- A difference is asked for. -/
  | read {contended : Bool} :
      SessionMove session (.call .diff contended) (session.spawn ⟨.diff, .reading⟩)
  /-- Cancellation is requested. -/
  | cancel : SessionMove session .cancel { session with cancel := true }
  /-- The request wakes the waiters. -/
  | wake : SessionMove session .cancelNotify session.notifyWaiters
  /-- A task moves. -/
  | task {index : Nat} {action : TaskAction} {task : Task} {next : Session} {place : Place}
      (found : session.tasks[index]? = some task)
      (stepped : taskStep session task action = some (next, place)) :
      SessionMove session (.task index action) (next.setPlace index task place)

/-- The step of a call. -/
theorem callStep_moves {session after : Session} {call : Call} {contended : Bool}
    (taken : sessionStep session (.call call contended) = some after) :
    SessionMove session (.call call contended) after := by
  cases claims : session.claims with
  | true =>
    have idle : session.initial = .idle := of_decide_eq_true claims
    cases call with
    | diff =>
      obtain rfl := Option.some.inj taken
      exact .read
    | stream | watch =>
      simp only [sessionStep, callTask, claims, if_pos] at taken
      obtain rfl := Option.some.inj taken
      exact .claim idle
  | false =>
    have claimed : session.initial ≠ .idle := of_decide_eq_false claims
    have kept : session.startInitial = session := by
      rw [Session.startInitial, if_neg (by rw [claims]; nofun)]
    cases call with
    | diff =>
      obtain rfl := Option.some.inj taken
      exact .read
    | stream =>
      simp only [sessionStep, callTask, claims, kept] at taken
      obtain rfl := Option.some.inj taken
      exact .refuse claimed
    | watch =>
      simp only [sessionStep, callTask, claims, kept] at taken
      obtain rfl := Option.some.inj taken
      exact .join claimed

/-- Every step of a session. -/
theorem sessionStep_moves {session after : Session} {action : SessionAction}
    (taken : sessionStep session action = some after) : SessionMove session action after := by
  cases action with
  | call call contended => exact callStep_moves taken
  | cancel =>
    obtain rfl := Option.some.inj taken
    exact .cancel
  | cancelNotify =>
    simp only [sessionStep, Option.ite_none_right_eq_some, Option.some.injEq] at taken
    obtain ⟨_, rfl⟩ := taken
    exact .wake
  | task index action =>
    simp only [sessionStep] at taken
    split at taken
    · rename_i task found
      obtain ⟨⟨next, place⟩, stepped, rfl⟩ := Option.map_eq_some_iff.mp taken
      exact .task found stepped
    · cases taken

end Evix
