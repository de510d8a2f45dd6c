import Evix.Verif.Moves

/-!
# What a run has handled and emitted

The record of handled results is the spine of a run. Every answer in it was given by a worker
for its path, the calls of the event sink are the handled results the pool lets pass, and only
the last handled result can be refused or fatal, because such a result ends the run.
-/

namespace Evix

open Machines

/-- The event a worker's answer for a path becomes. -/
def answerEvent (spec : WorkerSpec) (path : List String) : Answer → Event
  | .ok event => event
  | .error report => workerFailureEvent spec ⟨path⟩ report

/-- Whether the pool lets the event of a handled result pass. -/
def Handled.isEmitted (specs : List WorkerSpec) (entry : Handled) : Bool :=
  specs[entry.worker]?.any fun spec => decide (eventDisposition spec specs entry.event = .emit)

/-- A handled result after which the run goes on. -/
def Handled.isSmooth (specs : List WorkerSpec) (entry : Handled) : Bool :=
  entry.isEmitted specs && !entry.event.isFatal

/-- What a handled result hands to the event sink. -/
def Handled.call (entry : Handled) : List String × Event := (entry.path, entry.event)

/-- Whether the coordinator has met no refused or fatal result. -/
def Coordinator.isClean : Coordinator → Bool
  | .emitting (some _) => false
  | .returned (.ok .completed) => true
  | .returned _ => false
  | _ => true

/-- Whether the run ends, or is about to, with an error of the scheduler. -/
def Coordinator.isFatal : Coordinator → Bool
  | .emitting (some _) | .returned (.error (.fatalItem _))
  | .returned (.error (.fatalScheduler _)) => true
  | _ => false

/-- The coordinator goes on after a completed item exactly when the item reports no error. -/
theorem afterCompletion_isClean (completed : CompletedWork) :
    (afterCompletion completed).isClean = true ↔ completed.fatalError = none := by
  obtain ⟨emit, fatal⟩ := completed
  cases emit <;> cases fatal <;> simp [afterCompletion, Coordinator.isClean]

/-- The coordinator fails after a completed item only when the item reports an error. -/
theorem afterCompletion_isFatal {completed : CompletedWork}
    (fatal : (afterCompletion completed).isFatal = true) : completed.fatalError ≠ none := by
  obtain ⟨emit, error⟩ := completed
  cases emit <;> cases error <;> simp_all [afterCompletion, Coordinator.isFatal]

/-- A result becomes the event of its answer. -/
theorem resultEvent_eq (spec : WorkerSpec) (result : WorkerResult) :
    resultEvent spec result = answerEvent spec result.item.path result.event := by
  obtain ⟨worker, item, event⟩ := result
  cases event <;> rfl

/-- Every answer in a run was given by a worker for its path. -/
structure Provenance (specs : List WorkerSpec) (permitted : List String → Answer → Prop)
    (state : RunState) : Prop where
  /-- Tasks hold permitted answers. -/
  tasks : ∀ worker item event status,
    state.tasks worker = .sendingResult item event status → permitted item.path event
  /-- The result channel holds permitted answers. -/
  results : ∀ result, .result result ∈ state.results → permitted result.item.path result.event
  /-- Handled results are permitted answers, as the events made of them. -/
  handled : ∀ entry ∈ state.handled, permitted entry.path entry.answer ∧
    ∃ spec, specs[entry.worker]? = some spec ∧
      entry.event = answerEvent spec entry.path entry.answer

/-- The record of a run: what was handled, what was emitted and whether the run goes on. -/
structure Chronicle (specs : List WorkerSpec) (state : RunState) : Prop where
  /-- The event sink is called for the handled results the pool lets pass. -/
  calls : state.calls = (state.handled.filter (·.isEmitted specs)).map Handled.call
  /-- Every handled result but the last one let the run go on. -/
  earlier : ∀ entry ∈ state.handled.dropLast, entry.isSmooth specs = true
  /-- A run that has not failed let every result pass. -/
  clean : state.coordinator.isClean = true → ∀ entry ∈ state.handled, entry.isSmooth specs = true
  /-- A run that has not failed has no scheduler error. -/
  quiet : state.coordinator.isClean = true → state.scheduler.error = none
  /-- A run that failed with an error of the scheduler had a refused or fatal result. -/
  failed : state.coordinator.isFatal = true → ∃ entry ∈ state.handled, entry.isSmooth specs = false
  /-- A completed run has nothing left. -/
  finished : state.coordinator = .returned (.ok .completed) →
    state.scheduler.todo = [] ∧ state.scheduler.active = 0

section Steps

variable {specs : List WorkerSpec} {allows : List String → Answer → Prop}
  {state after : RunState} {action : RunAction}

/-- A completed item is smooth exactly when it reports no error. -/
theorem isSmooth_iff {entry : Handled} {spec : WorkerSpec} (scheduler : Scheduler)
    (item : WorkItem) (found : specs[entry.worker]? = some spec) :
    entry.isSmooth specs = true ↔
      (scheduler.complete spec specs item entry.event).1.fatalError = none := by
  rw [Scheduler.complete_fatalError]
  simp [Handled.isSmooth, Handled.isEmitted, found]

/-- A worker task takes permitted answers and passes them on. -/
theorem LocalMove.answers {spec : WorkerSpec} {worker : Nat} {move : WorkerAction}
    {task moved : WorkerTask} {commands left : List WorkerCommand} {messages : List WorkerMessage}
    (moves : LocalMove spec worker move task commands moved left messages)
    (allowed : ∀ path result, move = .answer path result → allows path (result.map Prod.fst))
    (held : ∀ item event status, task = .sendingResult item event status →
      allows item.path event) :
    (∀ item event status, moved = .sendingResult item event status → allows item.path event) ∧
      ∀ result, .result result ∈ messages → allows result.item.path result.event := by
  cases moves with
  | start =>
    refine ⟨fun item event status same => ?_, fun result listed => absurd listed List.not_mem_nil⟩
    split at same <;> cases same
  | announce => simp
  | accept => simp
  | answer item commands result given =>
    refine ⟨fun item event status same => ?_, fun result listed => absurd listed List.not_mem_nil⟩
    have answered := allowed _ result given
    cases result <;> cases same <;> exact answered
  | report item event status =>
    refine ⟨nofun, fun result listed => ?_⟩
    obtain rfl := WorkerMessage.result.inj (List.mem_singleton.mp listed)
    exact held item event status rfl
  | notify task after commands message notice plain =>
    refine ⟨?_, fun result listed => ?_⟩
    · rintro item event status rfl
      cases plain
    · rw [← List.mem_singleton.mp listed] at notice
      cases notice
  | drop task after commands left plain =>
    refine ⟨?_, fun result listed => absurd listed List.not_mem_nil⟩
    rintro item event status rfl
    cases plain

/-- A step keeps every answer a permitted one. -/
theorem Provenance.step (provenance : Provenance specs allows state)
    (allowed : Answers allows state action) (move : RunMove specs state action after) :
    Provenance specs allows after := by
  obtain ⟨tasks, results, handled⟩ := provenance
  cases move with
  | finish reason =>
    exact ⟨tasks, fun result listed => results result (reason.results_sublist.subset listed),
      handled⟩
  | join waiting first =>
    refine ⟨tasks, fun result listed => results result ?_, handled⟩
    rw [first]
    exact List.mem_cons_of_mem _ listed
  | @complete result rest spec waiting first found =>
    refine ⟨tasks, fun later listed => results later ?_, fun entry member => ?_⟩
    · rw [first]
      exact List.mem_cons_of_mem _ listed
    · obtain old | new := List.mem_append.mp member
      · exact handled entry old
      · obtain rfl := List.mem_singleton.mp new
        refine ⟨results result ?_, spec, found, resultEvent_eq spec result⟩
        rw [first]
        exact List.mem_cons_self
  | clean returned left ended stopped =>
    refine ⟨fun worker item event status same => ?_, results, handled⟩
    obtain still | aborted := ended worker
    · exact tasks worker item event status (still.symm.trans same)
    · cases aborted.symm.trans same
  | @worker id spec act task commands messages taken found moves =>
    subst taken
    have passed := moves.answers (fun path result given => by
      subst given
      exact allowed) (tasks id)
    refine ⟨fun worker item event status same => ?_, fun result listed => ?_, handled⟩
    · simp only [RunState.moved] at same
      by_cases here : worker = id
      · subst here
        rw [Function.update_self] at same
        exact passed.1 item event status same
      · rw [Function.update_of_ne here] at same
        exact tasks worker item event status same
    · obtain old | new := List.mem_append.mp listed
      · exact results result old
      · exact passed.2 result new
  | _ => exact ⟨tasks, results, handled⟩

/-- In a run whose workers give permitted answers every answer is a permitted one. -/
theorem provenance_reachable (reached : (runMachine specs).Reachable (Answers allows) state) :
    Provenance specs allows state := by
  refine Machine.Reachable.invariant (fun start initial => ?_) ?_ reached
  · cases initial
    exact ⟨nofun, fun _ member => absurd member List.not_mem_nil,
      fun _ member => absurd member List.not_mem_nil⟩
  · intro before action after _ provenance allowed taken
    exact provenance.step allowed (runStep_moves taken)

/-- A coordinator that returns without an error had not failed before and has nothing left. -/
theorem Returning.clean {results : List WorkerMessage}
    {result : Except CoordinateError RunOutcome} (reason : Returning specs state results result)
    (clean : (Coordinator.returned result).isClean = true) :
    state.coordinator.isClean = true ∧ state.scheduler.todo = [] ∧ state.scheduler.active = 0 := by
  cases reason with
  | done scanning empty none => exact ⟨by rw [scanning]; rfl, empty, none⟩
  | _ => cases clean

/-- A coordinator that returns an error of the scheduler was about to. -/
theorem Returning.isFatal {results : List WorkerMessage}
    {result : Except CoordinateError RunOutcome} (reason : Returning specs state results result)
    (quiet : state.coordinator.isClean = true → state.scheduler.error = none)
    (fatal : (Coordinator.returned result).isFatal = true) :
    state.coordinator.isFatal = true := by
  cases reason with
  | fatal scanning failed =>
    have none := quiet (by rw [scanning]; rfl)
    rw [none] at failed
    cases failed
  | fatalItem emitting =>
    rw [emitting]
    rfl
  | _ => cases fatal

/-- A step that handles nothing and does not clear a failure keeps the record. -/
theorem Chronicle.frame (chronicle : Chronicle specs state)
    (handled : after.handled = state.handled) (calls : after.calls = state.calls)
    (error : after.scheduler.error = state.scheduler.error)
    (clean : after.coordinator.isClean = true → state.coordinator.isClean = true)
    (failed : after.coordinator.isFatal = true → state.coordinator.isFatal = true)
    (finished : after.coordinator = .returned (.ok .completed) →
      after.scheduler.todo = [] ∧ after.scheduler.active = 0) : Chronicle specs after where
  calls := by rw [handled, calls, chronicle.calls]
  earlier := by
    rw [handled]
    exact chronicle.earlier
  clean still := by
    rw [handled]
    exact chronicle.clean (clean still)
  quiet still := by
    rw [error]
    exact chronicle.quiet (clean still)
  failed fatal := by
    rw [handled]
    exact chronicle.failed (failed fatal)
  finished := finished

/-- Handling a result keeps the record. -/
theorem Chronicle.complete (chronicle : Chronicle specs state) {result : WorkerResult}
    {rest : List WorkerMessage} {spec : WorkerSpec} (waiting : state.coordinator = .waiting)
    (found : specs[result.workerId]? = some spec) :
    Chronicle specs (handleResult specs { state with results := rest } spec result) := by
  have before := chronicle.clean (by rw [waiting]; rfl)
  have quiet := chronicle.quiet (by rw [waiting]; rfl)
  let entry : Handled := {
    worker := result.workerId, path := result.item.path, answer := result.event,
    event := resultEvent spec result }
  have smooth : entry.isSmooth specs = true ↔
      (state.scheduler.complete spec specs result.item entry.event).1.fatalError = none :=
    isSmooth_iff state.scheduler result.item found
  have passes : entry.isEmitted specs =
      (state.scheduler.complete spec specs result.item entry.event).1.emit := by
    rw [Scheduler.complete_emit]
    simp [Handled.isEmitted, entry, found]
  constructor
  · show (if _ then _ else _) = ((state.handled ++ [entry]).filter _).map Handled.call
    rw [List.filter_append, List.map_append, ← chronicle.calls]
    by_cases emitted : entry.isEmitted specs = true
    · rw [if_pos (passes ▸ emitted), List.filter_cons_of_pos emitted]
      rfl
    · rw [if_neg (passes ▸ emitted), List.filter_cons_of_neg emitted]
      simp
  · show ∀ old ∈ (state.handled ++ [entry]).dropLast, _
    rw [List.dropLast_concat]
    exact before
  · intro clean old member
    obtain earlier | new := List.mem_append.mp member
    · exact before old earlier
    · obtain rfl := List.mem_singleton.mp new
      exact smooth.mpr ((afterCompletion_isClean _).mp clean)
  · intro clean
    show (state.scheduler.complete spec specs result.item entry.event).2.error = none
    rw [Scheduler.complete_error _ _ _ _ _ quiet]
    exact (afterCompletion_isClean _).mp clean
  · intro fatal
    refine ⟨entry, List.mem_append_right _ (List.mem_singleton_self _), ?_⟩
    apply Bool.eq_false_iff.mpr
    intro passed
    exact afterCompletion_isFatal fatal (smooth.mp passed)
  · intro returned
    have stopped : ∀ completed, afterCompletion completed ≠ .returned (.ok .completed) := by
      rintro ⟨emit, fatal⟩
      cases emit <;> cases fatal <;> simp [afterCompletion]
    exact absurd returned (stopped _)

/-- A step keeps the record of a run. -/
theorem Chronicle.step (chronicle : Chronicle specs state)
    (move : RunMove specs state action after) : Chronicle specs after := by
  cases move with
  | cancel => exact chronicle.frame rfl rfl rfl id id chronicle.finished
  | @finish results result reason =>
    refine chronicle.frame rfl rfl rfl (fun clean => (reason.clean clean).1)
      (reason.isFatal chronicle.quiet) fun ended => ?_
    cases ended
    exact (reason.clean rfl).2
  | scan top => exact chronicle.frame rfl rfl rfl (fun _ => by rw [top]; rfl) nofun nofun
  | dispatch scanning =>
    exact chronicle.frame rfl rfl rfl (fun _ => by rw [scanning]; rfl) nofun nofun
  | skip scanning => exact chronicle.frame rfl rfl rfl (fun _ => by rw [scanning]; rfl) nofun nofun
  | deliver sending => exact chronicle.frame rfl rfl rfl (fun _ => by rw [sending]; rfl) nofun nofun
  | listen scanned => exact chronicle.frame rfl rfl rfl (fun _ => by rw [scanned]; rfl) nofun nofun
  | join waiting => exact chronicle.frame rfl rfl rfl (fun _ => by rw [waiting]; rfl) nofun nofun
  | complete waiting first found => exact chronicle.complete waiting found
  | emitted emitting =>
    exact chronicle.frame rfl rfl rfl (fun _ => by rw [emitting]; rfl) nofun nofun
  | clean => exact chronicle.frame rfl rfl rfl id id chronicle.finished
  | worker => exact chronicle.frame rfl rfl rfl id id chronicle.finished

/-- Every run keeps its record. -/
theorem chronicle_reachable {legal : RunState → RunAction → Prop}
    (reached : (runMachine specs).Reachable legal state) : Chronicle specs state := by
  refine Machine.Reachable.invariant (fun start initial => ?_) ?_ reached
  · cases initial
    have empty : ∀ entry, entry ∉ (RunState.initial specs).handled := fun _ => List.not_mem_nil
    exact ⟨rfl, fun entry member => absurd member (empty entry),
      fun _ entry member => absurd member (empty entry), fun _ => rfl, nofun, nofun⟩
  · intro before action after _ chronicle _ taken
    exact chronicle.step (runStep_moves taken)

/-! ## Consequences -/

/-- The calls of the event sink are the handled results in order, up to a last one the pool
refused. -/
theorem Chronicle.calls_within (chronicle : Chronicle specs state) :
    state.calls <+: state.handled.map Handled.call := by
  have earlier := chronicle.earlier
  rw [chronicle.calls]
  apply List.IsPrefix.map
  obtain empty | ⟨front, last, split⟩ := List.eq_nil_or_concat state.handled
  · rw [empty]
    exact List.prefix_rfl
  · rw [List.concat_eq_append] at split
    rw [split, List.dropLast_concat] at earlier
    have all : front.filter (·.isEmitted specs) = front := by
      apply List.filter_eq_self.mpr
      intro entry member
      have smooth := earlier entry member
      simp only [Handled.isSmooth, Bool.and_eq_true] at smooth
      exact smooth.1
    rw [split, List.filter_append, all]
    apply (List.prefix_append_right_inj front).mpr
    by_cases emitted : last.isEmitted specs = true
    · rw [List.filter_cons_of_pos emitted]
      exact List.prefix_rfl
    · rw [List.filter_cons_of_neg emitted]
      exact List.nil_prefix

end Steps

end Evix
