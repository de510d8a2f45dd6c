import Evix.AsyncMaster.Coordinate
import Evix.State

/-!
# One evaluation

`run::evaluate` and `run::evaluate_async`: an accumulator records the events of a run as the
coordinator hands them on, and comes back with the outcome of the run.
-/

namespace Evix

open Machines

/-- An evaluation, under way or ended. -/
@[ext]
structure Evaluation where
  /-- Events recorded so far. -/
  events : List Event
  /-- The accumulator. -/
  accumulator : EvalAccumulator
  /-- How the run ended. -/
  ended : Option (Except String RunOutcome)
  /-- The accumulator holds the events. -/
  recorded : accumulator = .recordAll events

namespace Evaluation

/-- An evaluation before its first event. -/
def fresh : Evaluation := ⟨[], {}, none, rfl⟩

/-- One more event. -/
def record (evaluation : Evaluation) (event : Event) : Evaluation where
  events := evaluation.events ++ [event]
  accumulator := evaluation.accumulator.record event
  ended := evaluation.ended
  recorded := by rw [EvalAccumulator.recordAll_concat, evaluation.recorded]

/-- The run returns. -/
def finish (evaluation : Evaluation) (result : Except String RunOutcome) : Evaluation :=
  { evaluation with ended := some result }

/-- Whether the run returned `Completed`. -/
def Completed (evaluation : Evaluation) : Prop := evaluation.ended = some (.ok .completed)

instance (evaluation : Evaluation) : Decidable evaluation.Completed :=
  match ended : evaluation.ended with
  | some (.ok .completed) => isTrue ended
  | some (.ok .cancelled) => isFalse (by rw [Completed, ended]; nofun)
  | some (.error _) => isFalse (by rw [Completed, ended]; nofun)
  | none => isFalse (by rw [Completed, ended]; nofun)

end Evaluation

/-- What may happen to an evaluation. -/
inductive EvaluationAction where
  /-- An event is handed on. -/
  | event (event : Event)
  /-- The run returns. -/
  | returned (result : Except String RunOutcome)

/-- The step of an evaluation. -/
def evaluationStep (evaluation : Evaluation) (action : EvaluationAction) : Option Evaluation :=
  match evaluation.ended with
  | none =>
    match action with
    | .event event => some (evaluation.record event)
    | .returned result => some (evaluation.finish result)
  | some _ => none

end Evix
