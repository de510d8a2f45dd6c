import Evix.Verif.Moves
import Mathlib.Data.List.Nodup

/-!
# The coordinator's bookkeeping

Every dispatched item whose result is not handled is in at most one place: about to enter a
work channel, in it, held by a worker task, or in the result channel. Every forked worker is
announced at most once. From these two counts the coordinator's three records of its workers
(the idle queue, the active count, the forked workers still to join) always agree, and the
branches that report a disagreement are never taken.
-/

namespace Evix

open Machines

/-! ## Counting items and announcements -/

/-- Whether a position of the pool is a forked worker. -/
def isForkedId (specs : List WorkerSpec) (worker : Nat) : Bool :=
  specs[worker]?.any WorkerSpec.isForked

/-- Whether a message is the result of a worker for an item. -/
def WorkerMessage.isResultOf (worker : Nat) (item : WorkItem) : WorkerMessage → Bool
  | .result report => report.workerId == worker && report.item == item
  | .ready _ | .cancelled | .exited _ => false

/-- Whether a message announces a worker. -/
def WorkerMessage.isReadyOf (worker : Nat) : WorkerMessage → Bool
  | .ready id => id == worker
  | .result _ | .cancelled | .exited _ => false

/-- How often a task holds an item. -/
def WorkerTask.holds (task : WorkerTask) (item : WorkItem) : Nat :=
  if task.held = some item then 1 else 0

/-- How often a task still has to announce its worker. -/
def WorkerTask.owes (task : WorkerTask) (forked : Bool) : Nat :=
  if task.isStarting forked then 1 else 0

/-- How often the coordinator is sending an item to a worker. -/
def Coordinator.sends (coordinator : Coordinator) (worker : Nat) (item : WorkItem) : Nat :=
  match coordinator with
  | .sending _ chosen sent => if chosen = worker ∧ sent = item then 1 else 0
  | _ => 0

namespace RunState

/-- The places an item dispatched to a worker is in. -/
def inFlight (state : RunState) (worker : Nat) (item : WorkItem) : Nat :=
  state.coordinator.sends worker item + (state.commands worker).count (.work item) +
    (state.tasks worker).holds item + state.results.countP (·.isResultOf worker item)

/-- The announcements of a worker: owed, sent and handled. -/
def announced (specs : List WorkerSpec) (state : RunState) (worker : Nat) : Nat :=
  (state.tasks worker).owes (isForkedId specs worker) +
    state.results.countP (·.isReadyOf worker) + state.joined.count worker

/-- How many items a worker owns. -/
def owned (state : RunState) (worker : Nat) : Nat :=
  state.pending.countP fun entry => entry.1 == worker

/-- How many times a worker takes part in the coordinator's records: once from the start, or
once it joined. -/
def membership (specs : List WorkerSpec) (state : RunState) (worker : Nat) : Nat :=
  if isForkedId specs worker then state.joined.count worker
  else if worker < specs.length then 1 else 0

end RunState

/-- Whether an error reports a disagreement between the coordinator's records. -/
def CoordinateError.isBookkeeping : CoordinateError → Bool
  | .idleQueueChanged | .stalled | .outOfBounds => true
  | .sendingWork _ | .fatalScheduler _ | .allWorkersExited | .workerExited _ | .eventSink
  | .fatalItem _ => false

/-- What the coordinator knows about the scheduler where it is. -/
def Coordinator.Knows (scheduler : Scheduler) (idle : List Nat) : Coordinator → Prop
  | .dispatching remaining =>
    remaining ≤ idle.length ∧ (scheduler.active = 0 → scheduler.todo = [] ∨ 0 < remaining)
  | .sending remaining _ _ => remaining ≤ idle.length ∧ 0 < scheduler.active
  | .waiting => 0 < scheduler.active
  | .returned result => ∀ error, result = .error error → error.isBookkeeping = false
  | .top | .emitting _ => True

/-- The agreement of the coordinator's records with the tasks and channels. -/
structure Ledger (specs : List WorkerSpec) (state : RunState) : Prop where
  /-- An item is in no more places than it is owned. -/
  flight : ∀ worker item, state.inFlight worker item ≤ state.pending.count (worker, item)
  /-- A forked worker is announced at most once, any other never. -/
  announcements : ∀ worker,
    state.announced specs worker ≤ if isForkedId specs worker then 1 else 0
  /-- A worker is idle or owns an item as often as it is a member. -/
  members : ∀ worker,
    state.idle.count worker + state.owned worker = state.membership specs worker
  /-- The active count is the number of items owned. -/
  active : state.scheduler.active = state.pending.length
  /-- The items dispatched are those owned and those handled. -/
  settled : state.dispatched.Perm
    (state.pending ++ state.handled.map fun entry => (entry.worker, ⟨entry.path⟩))
  /-- Nothing is stopped while the coordinator runs. -/
  running : state.isReturned = false → ∀ worker, WorkerCommand.stop ∉ state.commands worker
  /-- The coordinator's position agrees with the scheduler. -/
  known : state.coordinator.Knows state.scheduler state.idle

/-! ## Worker tasks -/

variable {specs : List WorkerSpec} {spec : WorkerSpec} {worker : Nat} {state after : RunState}
  {action : RunAction}

/-- A plain task holds nothing. -/
theorem WorkerTask.holds_of_isPlain {task : WorkerTask} (plain : task.isPlain = true)
    (item : WorkItem) : task.holds item = 0 := by
  simp [holds, held_of_isPlain plain]

/-- A plain task owes nothing. -/
theorem WorkerTask.owes_of_isPlain {task : WorkerTask} (plain : task.isPlain = true)
    (forked : Bool) : task.owes forked = 0 := by
  simp [owes, isStarting_of_isPlain plain]

/-- A notice is not a result. -/
theorem isResultOf_of_isNotice {message : WorkerMessage} (notice : message.isNotice = true)
    (item : WorkItem) : message.isResultOf worker item = false := by
  cases message <;> simp_all [WorkerMessage.isNotice, WorkerMessage.isResultOf]

/-- A notice is not an announcement. -/
theorem isReadyOf_of_isNotice {message : WorkerMessage} (notice : message.isNotice = true) :
    message.isReadyOf worker = false := by
  cases message <;> simp_all [WorkerMessage.isNotice, WorkerMessage.isReadyOf]

namespace LocalMove

variable {move : WorkerAction} {task moved : WorkerTask} {commands left : List WorkerCommand}
  {messages : List WorkerMessage}

/-- A worker task never multiplies an item. -/
theorem holds_le (moves : LocalMove spec worker move task commands moved left messages)
    (item : WorkItem) :
    left.count (.work item) + moved.holds item + messages.countP (·.isResultOf worker item) ≤
      commands.count (.work item) + task.holds item := by
  cases moves with
  | start =>
    have none : (if spec.isForked then WorkerTask.sendingReady else .receiving).holds item = 0 := by
      split <;> rfl
    simp [none]
  | announce => simp [WorkerTask.holds, WorkerTask.held, WorkerMessage.isResultOf]
  | accept accepted =>
    by_cases same : accepted = item <;> simp [WorkerTask.holds, WorkerTask.held, same]
  | answer =>
    simp only [WorkerTask.holds, answered_held]
    simp [WorkerTask.held]
  | report reported =>
    by_cases same : reported = item <;>
      simp [WorkerTask.holds, WorkerTask.held, WorkerMessage.isResultOf, same]
  | notify _ _ _ message notice plain =>
    simp [WorkerTask.holds_of_isPlain plain, isResultOf_of_isNotice notice]
  | drop _ _ _ _ plain fewer =>
    have shorter := fewer.count_le (.work item)
    simp [WorkerTask.holds_of_isPlain plain]
    omega

/-- A worker task reports its own items only. -/
theorem results_own (moves : LocalMove spec worker move task commands moved left messages)
    {other : Nat} (apart : other ≠ worker) (item : WorkItem) :
    messages.countP (·.isResultOf other item) = 0 := by
  cases moves with
  | start | accept | answer | drop => rfl
  | announce => rfl
  | report => simp [WorkerMessage.isResultOf, apart.symm]
  | notify _ _ _ message notice => simp [isResultOf_of_isNotice notice]

/-- A worker task announces its worker at most once. -/
theorem owes_le (moves : LocalMove spec worker move task commands moved left messages) :
    moved.owes spec.isForked + messages.countP (·.isReadyOf worker) ≤ task.owes spec.isForked := by
  cases moves with
  | start => cases forked : spec.isForked <;> simp [WorkerTask.owes, WorkerTask.isStarting]
  | announce => simp [WorkerTask.owes, WorkerTask.isStarting, WorkerMessage.isReadyOf]
  | accept => simp [WorkerTask.owes, WorkerTask.isStarting]
  | answer => simp [WorkerTask.owes]
  | report => simp [WorkerTask.owes, WorkerTask.isStarting, WorkerMessage.isReadyOf]
  | notify _ _ _ message notice plain =>
    simp [WorkerTask.owes_of_isPlain plain, isReadyOf_of_isNotice notice]
  | drop _ _ _ _ plain => simp [WorkerTask.owes_of_isPlain plain]

/-- A worker task announces its own worker only. -/
theorem announces_own (moves : LocalMove spec worker move task commands moved left messages)
    {other : Nat} (apart : other ≠ worker) : messages.countP (·.isReadyOf other) = 0 := by
  cases moves with
  | start | accept | answer | drop => rfl
  | announce => simp [WorkerMessage.isReadyOf, apart.symm]
  | report => rfl
  | notify _ _ _ message notice => simp [isReadyOf_of_isNotice notice]

/-- A worker task puts nothing into its own work channel. -/
theorem commands_sublist (moves : LocalMove spec worker move task commands moved left messages) :
    left.Sublist commands := by
  cases moves with
  | start | announce | answer | report | notify => exact List.Sublist.refl _
  | accept => exact List.sublist_cons_self _ _
  | drop _ _ _ _ _ fewer => exact fewer

end LocalMove

/-! ## The counts after a step -/

/-- The places of an item after a worker task moved. -/
theorem inFlight_moved {move : WorkerAction} {task : WorkerTask} {commands : List WorkerCommand}
    {messages : List WorkerMessage}
    (moves : LocalMove spec worker move (state.tasks worker) (state.commands worker)
      task commands messages) (other : Nat) (item : WorkItem) :
    (state.moved worker task commands messages).inFlight other item ≤
      state.inFlight other item := by
  simp only [RunState.inFlight, RunState.moved, List.countP_append]
  by_cases same : other = worker
  · subst same
    have fewer := moves.holds_le item
    simp only [Function.update_self]
    omega
  · have none := moves.results_own same item
    simp only [Function.update_of_ne same]
    omega

/-- The announcements after a worker task moved. -/
theorem announced_moved {move : WorkerAction} {task : WorkerTask} {commands : List WorkerCommand}
    {messages : List WorkerMessage} (found : specs[worker]? = some spec)
    (moves : LocalMove spec worker move (state.tasks worker) (state.commands worker)
      task commands messages) (other : Nat) :
    (state.moved worker task commands messages).announced specs other ≤
      state.announced specs other := by
  simp only [RunState.announced, RunState.moved, List.countP_append]
  by_cases same : other = worker
  · subst same
    have forked : isForkedId specs other = spec.isForked := by simp [isForkedId, found]
    have fewer := moves.owes_le
    simp only [Function.update_self, forked]
    omega
  · have none := moves.announces_own same
    simp only [Function.update_of_ne same]
    omega

/-- After a completed item nothing is being sent. -/
@[simp]
theorem afterCompletion_sends (completed : CompletedWork) (item : WorkItem) :
    (afterCompletion completed).sends worker item = 0 := by
  obtain ⟨emit, fatal⟩ := completed
  cases emit <;> cases fatal <;> rfl

/-- The result at the head of the result channel belongs to an owned item. -/
theorem Ledger.owns (ledger : Ledger specs state) {result : WorkerResult}
    {results : List WorkerMessage} (first : state.results = .result result :: results) :
    (result.workerId, result.item) ∈ state.pending := by
  have flight := ledger.flight result.workerId result.item
  have here : 0 < state.results.countP (·.isResultOf result.workerId result.item) := by
    rw [first]
    simp [WorkerMessage.isResultOf]
  apply List.count_pos_iff.mp
  unfold RunState.inFlight at flight
  omega

/-- A step keeps an item in no more places than it is owned. -/
theorem Ledger.flight_step (ledger : Ledger specs state) (move : RunMove specs state action after)
    (worker : Nat) (item : WorkItem) :
    after.inFlight worker item ≤ after.pending.count (worker, item) := by
  have flight := ledger.flight worker item
  cases move with
  | cancel => exact flight
  | finish reason =>
    have fewer := reason.results_sublist.countP_le (p := (·.isResultOf worker item))
    simp only [RunState.inFlight, Coordinator.sends] at flight ⊢
    omega
  | scan top =>
    simp only [RunState.inFlight, top, Coordinator.sends] at flight ⊢
    exact flight
  | @dispatch remaining chosen idle sent todo scanning =>
    simp only [RunState.inFlight, scanning, Coordinator.sends, List.count_append] at flight ⊢
    by_cases same : chosen = worker ∧ sent = item
    · obtain ⟨rfl, rfl⟩ := same
      simp only [and_self, if_true, List.count_singleton_self]
      omega
    · rw [if_neg same]
      omega
  | skip scanning =>
    simp only [RunState.inFlight, scanning, Coordinator.sends] at flight ⊢
    exact flight
  | @deliver remaining chosen sent sending room =>
    simp only [RunState.inFlight, RunState.setCommands, sending, Coordinator.sends] at flight ⊢
    by_cases same : chosen = worker
    · subst same
      rw [Function.update_self]
      by_cases equal : sent = item <;> simp_all
    · rw [Function.update_of_ne (Ne.symm same)]
      omega
  | listen scanned =>
    simp only [RunState.inFlight, scanned, Coordinator.sends] at flight ⊢
    exact flight
  | join waiting first =>
    simp only [RunState.inFlight, waiting, first, Coordinator.sends, List.countP_cons] at flight ⊢
    omega
  | @complete result results spec waiting first found =>
    simp only [RunState.inFlight, waiting, first, Coordinator.sends, List.countP_cons] at flight
    simp only [RunState.inFlight, handleResult, afterCompletion_sends, List.count_erase]
    by_cases same : result.workerId = worker ∧ result.item = item
    · obtain ⟨rfl, rfl⟩ := same
      simp only [WorkerMessage.isResultOf, beq_self_eq_true, Bool.and_self, if_true] at flight ⊢
      omega
    · have other : ((result.workerId, result.item) == (worker, item)) = false := by
        simpa using same
      simp only [other, Bool.false_eq_true, if_false]
      omega
  | emitted emitting =>
    simp only [RunState.inFlight, emitting, Coordinator.sends] at flight ⊢
    exact flight
  | @clean result tasks commands returned left ended stopped =>
    have commandsLe := (stopped worker).count_le (.work item)
    have tasksLe : (tasks worker).holds item ≤ (state.tasks worker).holds item := by
      obtain same | aborted := ended worker
      · rw [same]
      · rw [aborted]
        exact Nat.zero_le _
    have stop : ([WorkerCommand.stop]).count (.work item) = 0 := rfl
    rw [List.count_append, stop] at commandsLe
    simp only [RunState.inFlight] at flight ⊢
    omega
  | worker taken found moves => exact (inFlight_moved moves worker item).trans flight

/-- A step announces no worker too often. -/
theorem Ledger.announcements_step (ledger : Ledger specs state)
    (move : RunMove specs state action after) (worker : Nat) :
    after.announced specs worker ≤ if isForkedId specs worker then 1 else 0 := by
  have announced := ledger.announcements worker
  cases move with
  | finish reason =>
    have fewer := reason.results_sublist.countP_le (p := (·.isReadyOf worker))
    simp only [RunState.announced] at announced ⊢
    omega
  | @join joining results waiting first =>
    simp only [RunState.announced, first, List.countP_cons, List.count_append] at announced ⊢
    by_cases same : joining = worker
    · subst same
      simp only [WorkerMessage.isReadyOf, beq_self_eq_true, if_true, List.count_singleton_self]
        at announced ⊢
      omega
    · have other : ((joining == worker) = true) = False := by simp [same]
      simp only [List.count_singleton, other, if_false]
      omega
  | complete waiting first =>
    simp only [RunState.announced, first, List.countP_cons, handleResult] at announced ⊢
    omega
  | @clean result tasks commands returned left ended stopped =>
    have tasksLe : (tasks worker).owes (isForkedId specs worker) ≤
        (state.tasks worker).owes (isForkedId specs worker) := by
      obtain same | aborted := ended worker
      · rw [same]
      · rw [aborted]
        exact Nat.zero_le _
    simp only [RunState.announced] at announced ⊢
    omega
  | worker taken found moves => exact (announced_moved found moves worker).trans announced
  | _ => exact announced

/-- A step keeps every member idle or owning an item, once. -/
theorem Ledger.members_step (ledger : Ledger specs state)
    (move : RunMove specs state action after) (worker : Nat) :
    after.idle.count worker + after.owned worker = after.membership specs worker := by
  have members := ledger.members worker
  cases move with
  | @dispatch remaining chosen idle sent todo scanning first =>
    simp only [RunState.owned, RunState.membership, first, List.count_cons, List.countP_append,
      List.countP_singleton] at members ⊢
    omega
  | skip scanning first =>
    simp only [RunState.owned, RunState.membership, first, List.count_cons, List.count_append,
      List.count_nil] at members ⊢
    omega
  | @join joining results waiting first =>
    have announced := ledger.announcements joining
    simp only [RunState.announced, first, List.countP_cons] at announced
    have forked : isForkedId specs joining = true := by
      by_contra other
      simp [other, WorkerMessage.isReadyOf] at announced
    simp only [RunState.owned, RunState.membership, List.count_append,
      List.count_singleton] at members ⊢
    by_cases same : joining = worker
    · subst same
      simp only [forked, if_true, beq_self_eq_true] at members ⊢
      omega
    · have other : ((joining == worker) = true) = False := by simp [same]
      simp only [other, if_false]
      exact members
  | @complete result results spec waiting first found =>
    have owns := ledger.owns first
    have split := (List.perm_cons_erase owns).countP_eq fun entry => entry.1 == worker
    simp only [List.countP_cons] at split
    simp only [RunState.owned, RunState.membership, handleResult, List.count_append,
      List.count_singleton] at members ⊢
    omega
  | _ => exact members

/-- A step keeps the active count equal to the number of owned items. -/
theorem Ledger.active_step (ledger : Ledger specs state) (move : RunMove specs state action after) :
    after.scheduler.active = after.pending.length := by
  have active := ledger.active
  cases move with
  | dispatch => simp [active]
  | complete waiting first =>
    have owns := ledger.owns first
    simp [handleResult, active, List.length_erase_of_mem owns]
  | _ => exact active

/-- A step keeps the items dispatched divided into those owned and those handled. -/
theorem Ledger.settled_step (ledger : Ledger specs state)
    (move : RunMove specs state action after) :
    after.dispatched.Perm
      (after.pending ++ after.handled.map fun entry => (entry.worker, ⟨entry.path⟩)) := by
  have settled := ledger.settled
  cases move with
  | @dispatch remaining worker idle item todo =>
    calc state.dispatched ++ [(worker, item)]
        _ |>.Perm ((worker, item) :: state.dispatched) := List.perm_append_singleton _ _
        _ |>.Perm ((worker, item) :: (state.pending ++ _)) := settled.cons _
        _ |>.Perm (state.pending ++ [(worker, item)] ++ _) := by
          rw [List.append_assoc]
          exact List.perm_middle.symm
  | @complete result results spec waiting first found =>
    have owns := List.perm_cons_erase (ledger.owns first)
    refine settled.trans ((owns.append_right _).trans ?_)
    simp only [handleResult, List.map_append, List.map_cons, List.map_nil, List.cons_append]
    rw [← List.append_assoc]
    exact (List.perm_append_singleton _ _).symm
  | _ => exact settled

/-- A step of a coordinator that goes on stops no worker. -/
theorem Ledger.running_step (ledger : Ledger specs state)
    (move : RunMove specs state action after) (still : after.isReturned = false) (worker : Nat) :
    WorkerCommand.stop ∉ after.commands worker := by
  have running := ledger.running
  cases move with
  | finish => cases still
  | cancel => exact running still worker
  | scan top => exact running (by simp [RunState.isReturned, top]) worker
  | dispatch scanning => exact running (by simp [RunState.isReturned, scanning]) worker
  | skip scanning => exact running (by simp [RunState.isReturned, scanning]) worker
  | @deliver remaining chosen item sending room =>
    have before := running (by simp [RunState.isReturned, sending]) worker
    simp only [RunState.setCommands]
    by_cases same : worker = chosen
    · subst same
      simp
    · rw [Function.update_of_ne same]
      exact before
  | listen scanned => exact running (by simp [RunState.isReturned, scanned]) worker
  | join waiting => exact running (by simp [RunState.isReturned, waiting]) worker
  | complete waiting => exact running (by simp [RunState.isReturned, waiting]) worker
  | emitted emitting => exact running (by simp [RunState.isReturned, emitting]) worker
  | clean returned => simp [RunState.isReturned, returned] at still
  | @worker id spec move task commands messages taken found moves =>
    have before := running still
    simp only [RunState.moved]
    by_cases same : worker = id
    · subst same
      rw [Function.update_self]
      exact fun listed => before worker (moves.commands_sublist.subset listed)
    · rw [Function.update_of_ne same]
      exact before worker

/-- A member that is not forked is idle or owns an item. -/
theorem Ledger.first_present (ledger : Ledger specs state) (first : 0 < specs.length)
    (plain : isForkedId specs 0 = false) (none : state.scheduler.active = 0) :
    0 < state.idle.length := by
  have members := ledger.members 0
  have empty : state.pending = [] := List.length_eq_zero_iff.mp (ledger.active.symm.trans none)
  simp only [RunState.owned, RunState.membership, empty, plain, first] at members
  apply List.length_pos_of_mem (a := 0)
  apply List.count_pos_iff.mp
  simp only [List.countP_nil, Nat.add_zero, Bool.false_eq_true, if_false, if_true] at members
  omega

/-- Only positions of the pool are members. -/
theorem lt_of_membership (member : 0 < state.membership specs worker) : worker < specs.length := by
  unfold RunState.membership at member
  split at member
  · rename_i forked
    by_contra outside
    rw [isForkedId, List.getElem?_eq_none (by omega)] at forked
    cases forked
  · split at member
    · assumption
    · omega

/-- An owner of an item owns something. -/
theorem owned_pos {item : WorkItem} (owns : (worker, item) ∈ state.pending) :
    0 < state.owned worker :=
  List.countP_pos_iff.mpr ⟨_, owns, beq_self_eq_true worker⟩

/-- Idle workers are positions of the pool. -/
theorem Ledger.lt_of_idle (ledger : Ledger specs state) (idle : worker ∈ state.idle) :
    worker < specs.length := by
  have members := ledger.members worker
  have present : 0 < state.idle.count worker := List.count_pos_iff.mpr idle
  have member : 0 < state.membership specs worker := by omega
  exact lt_of_membership member

/-- Owners of items are positions of the pool. -/
theorem Ledger.lt_of_owned (ledger : Ledger specs state) {item : WorkItem}
    (owns : (worker, item) ∈ state.pending) : worker < specs.length := by
  have members := ledger.members worker
  have positive := owned_pos owns
  have member : 0 < state.membership specs worker := by omega
  exact lt_of_membership member

/-- A coordinator in agreement with the scheduler does not report a disagreement. -/
theorem Ledger.not_bookkeeping (ledger : Ledger specs state) {results : List WorkerMessage}
    {error : CoordinateError} (reason : Returning specs state results (.error error)) :
    error.isBookkeeping = false := by
  have known := ledger.known
  cases reason with
  | queueChanged scanning empty =>
    simp only [scanning, Coordinator.Knows, empty, List.length_nil] at known
    omega
  | idleOutOfBounds first absent =>
    have inside : _ < specs.length := ledger.lt_of_idle (by rw [first]; exact List.mem_cons_self)
    rw [List.getElem?_eq_none_iff] at absent
    omega
  | stalled scanned unfinished none =>
    simp only [scanned, Coordinator.Knows] at known
    obtain empty | positive := known.2 none
    · simp [Scheduler.isDone, empty, none] at unfinished
    · omega
  | resultOutOfBounds first absent =>
    have inside := ledger.lt_of_owned (ledger.owns first)
    rw [List.getElem?_eq_none_iff] at absent
    omega
  | _ => rfl

/-- A step keeps the coordinator's position in agreement with the scheduler. -/
theorem Ledger.known_step (ledger : Ledger specs state) (first : 0 < specs.length)
    (plain : isForkedId specs 0 = false) (move : RunMove specs state action after) :
    after.coordinator.Knows after.scheduler after.idle := by
  have known := ledger.known
  cases move with
  | cancel => exact known
  | finish reason =>
    rintro error rfl
    exact ledger.not_bookkeeping reason
  | scan top =>
    refine ⟨Nat.le_refl _, fun none => .inr ?_⟩
    exact ledger.first_present first plain none
  | dispatch scanning listed =>
    simp only [scanning, Coordinator.Knows, listed, List.length_cons] at known
    exact ⟨Nat.le_of_succ_le_succ known.1, Nat.succ_pos _⟩
  | skip scanning listed busy =>
    simp only [scanning, Coordinator.Knows, listed, List.length_cons] at known
    refine ⟨by simp; omega, fun none => ?_⟩
    have positive : 0 < state.scheduler.active := busy
    have zero : state.scheduler.active = 0 := none
    omega
  | deliver sending =>
    simp only [sending, Coordinator.Knows] at known
    refine ⟨known.1, fun none => ?_⟩
    have positive := known.2
    have zero : state.scheduler.active = 0 := none
    omega
  | listen scanned unfinished =>
    simp only [scanned, Coordinator.Knows] at known
    show 0 < state.scheduler.active
    by_contra none
    have zero : state.scheduler.active = 0 := by omega
    obtain empty | positive := known.2 zero
    · simp [Scheduler.isDone, empty, zero] at unfinished
    · omega
  | join => trivial
  | complete =>
    simp only [handleResult]
    unfold afterCompletion
    split
    · trivial
    · rintro error ⟨⟩
      rfl
    · trivial
  | emitted => trivial
  | clean => exact known
  | worker => exact known

/-- The records agree when the run starts. -/
theorem ledger_initial : Ledger specs (.initial specs) := by
  constructor
  · intro worker item
    exact Nat.zero_le _
  · intro worker
    simp only [RunState.announced, RunState.initial, WorkerTask.owes, WorkerTask.isStarting,
      List.countP_nil, List.count_nil]
    cases isForkedId specs worker <;> simp
  · intro worker
    simp only [RunState.initial, RunState.owned, RunState.membership, List.countP_nil,
      List.count_nil]
    by_cases forked : isForkedId specs worker = true
    · simp only [forked, if_true]
      apply List.count_eq_zero.mpr
      simp_all [isForkedId]
    · by_cases member : worker < specs.length
      · simp only [forked, member, if_true, Bool.false_eq_true, if_false, Nat.add_zero]
        apply List.count_eq_one_of_mem (List.nodup_range.filter _)
        simp_all [isForkedId]
      · simp only [forked, member, Bool.false_eq_true, if_false]
        apply List.count_eq_zero.mpr
        simp_all
  · rfl
  · exact List.Perm.refl _
  · intro _ worker
    exact List.not_mem_nil
  · trivial

/-- The records agree in every reachable state of a run whose first worker is not forked. -/
theorem ledger_reachable {legal : RunState → RunAction → Prop} (first : 0 < specs.length)
    (plain : isForkedId specs 0 = false) (reached : (runMachine specs).Reachable legal state) :
    Ledger specs state := by
  refine Machine.Reachable.invariant (fun start initial => ?_) ?_ reached
  · cases initial
    exact ledger_initial
  · intro before action after _ ledger _ taken
    have move : RunMove specs before action after := runStep_moves taken
    exact {
      flight := ledger.flight_step move
      announcements := ledger.announcements_step move
      members := ledger.members_step move
      active := ledger.active_step move
      settled := ledger.settled_step move
      running := ledger.running_step move
      known := ledger.known_step first plain move }

/-! ## The bookkeeping of a run -/

/-- The classes a worker can be in. -/
inductive WorkerClass where
  /-- Forked, and its `Ready` is not handled. -/
  | starting
  /-- In the idle queue. -/
  | idle
  /-- The owner of a dispatched item whose result is not handled. -/
  | busy (item : WorkItem)

/-- Which class a worker is in. -/
def RunState.InClass (specs : List WorkerSpec) (state : RunState) (worker : Nat) :
    WorkerClass → Prop
  | .starting => isForkedId specs worker = true ∧ worker ∉ state.joined
  | .idle => worker ∈ state.idle
  | .busy item => (worker, item) ∈ state.pending

/-- An item is on its way to a worker or with it. -/
def RunState.IsSent (state : RunState) (worker : Nat) (item : WorkItem) : Prop :=
  (∃ remaining, state.coordinator = .sending remaining worker item) ∨
    .work item ∈ state.commands worker ∨ (state.tasks worker).held = some item

/-- What holds of the coordinator and its worker tasks at every moment of a run. -/
structure Bookkeeping (specs : List WorkerSpec) (state : RunState) : Prop where
  /-- `active` is the number of items dispatched whose result is not handled. -/
  active : state.scheduler.active = state.pending.length
  /-- Every dispatched item is handled or still owned by the worker it was sent to. -/
  settled : state.dispatched.Perm
    (state.pending ++ state.handled.map fun entry => (entry.worker, ⟨entry.path⟩))
  /-- While the coordinator waits an item is in flight, so `active -= 1` never underflows. -/
  waiting : state.coordinator = .waiting → 0 < state.scheduler.active
  /-- Every worker is in exactly one class and owns at most one item. -/
  classes : ∀ worker < specs.length, ∃! role, state.InClass specs worker role
  /-- No worker is in the idle queue twice. -/
  idleOnce : state.idle.Nodup
  /-- No worker owns two items. -/
  ownerOnce : (state.pending.map Prod.fst).Nodup
  /-- The work channel of an idle worker is empty. -/
  idleChannel : state.isReturned = false → ∀ worker ∈ state.idle, state.commands worker = []
  /-- A send finds the work channel empty, so it does not block. -/
  sendChannel : ∀ remaining worker item,
    state.coordinator = .sending remaining worker item → state.commands worker = []
  /-- A forked worker is not sent work before its `Ready` is handled. -/
  joinedFirst : ∀ worker item, isForkedId specs worker = true → state.IsSent worker item →
    worker ∈ state.joined
  /-- No work reaches a forked worker that has not started. -/
  noEarlyWork : ∀ worker item rest, isForkedId specs worker = true →
    state.tasks worker = .connecting → state.commands worker ≠ .work item :: rest
  /-- The branches that report a disagreement are never taken. -/
  agreed : ∀ error, state.coordinator = .returned (.error error) → error.isBookkeeping = false

namespace Ledger

/-- A worker is a member at most once. -/
theorem membership_le (ledger : Ledger specs state) (worker : Nat) :
    state.membership specs worker ≤ 1 := by
  have announced := ledger.announcements worker
  unfold RunState.announced at announced
  unfold RunState.membership
  split
  · simp_all only [if_true]
    omega
  · split <;> omega

/-- An item in flight is owned by its worker. -/
theorem owned_of_inFlight (ledger : Ledger specs state) {item : WorkItem}
    (present : 0 < state.inFlight worker item) : (worker, item) ∈ state.pending := by
  have flight := ledger.flight worker item
  exact List.count_pos_iff.mp (by omega)

/-- An item on its way to a worker is in flight. -/
theorem inFlight_of_isSent {item : WorkItem} (sent : state.IsSent worker item) :
    0 < state.inFlight worker item := by
  unfold RunState.inFlight
  obtain ⟨remaining, sending⟩ | queued | held := sent
  · simp only [sending, Coordinator.sends, and_self, if_true]
    omega
  · have present : 0 < (state.commands worker).count (.work item) := List.count_pos_iff.mpr queued
    omega
  · simp only [WorkerTask.holds, held, if_true]
    omega

/-- The owner of an item that is forked has joined. -/
theorem joined_of_owned (ledger : Ledger specs state) {item : WorkItem}
    (owns : (worker, item) ∈ state.pending) (forked : isForkedId specs worker = true) :
    worker ∈ state.joined := by
  have members := ledger.members worker
  have positive := owned_pos owns
  simp only [RunState.membership, forked, if_true] at members
  exact List.count_pos_iff.mp (by omega)

/-- An idle worker owns nothing. -/
theorem not_owned_of_idle (ledger : Ledger specs state) (idle : worker ∈ state.idle)
    (item : WorkItem) : (worker, item) ∉ state.pending := by
  intro owns
  have members := ledger.members worker
  have once := ledger.membership_le worker
  have present : 0 < state.idle.count worker := List.count_pos_iff.mpr idle
  have positive := owned_pos owns
  omega

/-- A work channel in a running run holds work only. -/
theorem commands_eq_nil (ledger : Ledger specs state) (running : state.isReturned = false)
    (none : ∀ item, WorkerCommand.work item ∉ state.commands worker) :
    state.commands worker = [] := by
  apply List.eq_nil_iff_forall_not_mem.mpr
  intro command listed
  cases command with
  | work item => exact none item listed
  | stop => exact ledger.running running worker listed

/-- No worker owns two items. -/
theorem owner_once (ledger : Ledger specs state) : (state.pending.map Prod.fst).Nodup := by
  apply List.nodup_iff_count_le_one.mpr
  intro worker
  have members := ledger.members worker
  have once := ledger.membership_le worker
  have same : (state.pending.map Prod.fst).count worker = state.owned worker := by
    rw [List.count, List.countP_map]
    rfl
  omega

/-- Every worker is in exactly one class. -/
theorem class_unique (ledger : Ledger specs state) (member : worker < specs.length) :
    ∃! role, state.InClass specs worker role := by
  have members := ledger.members worker
  have once := ledger.membership_le worker
  by_cases starting : isForkedId specs worker = true ∧ worker ∉ state.joined
  · have none : state.joined.count worker = 0 := List.count_eq_zero.mpr starting.2
    simp only [RunState.membership, starting.1, if_true, none] at members
    refine ⟨.starting, starting, fun role inside => ?_⟩
    cases role with
    | starting => rfl
    | idle =>
      have present : 0 < state.idle.count worker := List.count_pos_iff.mpr inside
      omega
    | busy item =>
      have positive := owned_pos inside
      omega
  · have one : state.membership specs worker = 1 := by
      unfold RunState.membership at once ⊢
      by_cases forked : isForkedId specs worker = true
      · rw [if_pos forked] at once ⊢
        have joined : worker ∈ state.joined := by
          by_contra absent
          exact starting ⟨forked, absent⟩
        have present : 0 < state.joined.count worker := List.count_pos_iff.mpr joined
        omega
      · rw [if_neg forked, if_pos member]
    by_cases idle : worker ∈ state.idle
    · refine ⟨.idle, idle, fun role inside => ?_⟩
      cases role with
      | starting => exact absurd inside starting
      | idle => rfl
      | busy item => exact absurd inside (ledger.not_owned_of_idle idle item)
    · have none : state.idle.count worker = 0 := List.count_eq_zero.mpr idle
      have positive : 0 < state.owned worker := by omega
      obtain ⟨⟨owner, item⟩, owns, same⟩ := List.countP_pos_iff.mp positive
      obtain rfl : owner = worker := beq_iff_eq.mp same
      refine ⟨.busy item, owns, fun role inside => ?_⟩
      cases role with
      | starting => exact absurd inside starting
      | idle => exact absurd inside idle
      | busy other =>
        have equal := List.inj_on_of_nodup_map ledger.owner_once inside owns rfl
        rw [(Prod.mk.inj equal).2]

/-- The agreement of the records gives the bookkeeping of the run. -/
theorem bookkeeping (ledger : Ledger specs state) : Bookkeeping specs state where
  active := ledger.active
  settled := ledger.settled
  waiting position := by
    have known := ledger.known
    rwa [position] at known
  classes worker member := ledger.class_unique member
  idleOnce := by
    apply List.nodup_iff_count_le_one.mpr
    intro worker
    have members := ledger.members worker
    have once := ledger.membership_le worker
    omega
  ownerOnce := ledger.owner_once
  idleChannel running worker idle := by
    apply ledger.commands_eq_nil running
    intro item queued
    have owns := ledger.owned_of_inFlight (inFlight_of_isSent (.inr (.inl queued)))
    exact ledger.not_owned_of_idle idle item owns
  sendChannel remaining worker item sending := by
    apply ledger.commands_eq_nil (by simp [RunState.isReturned, sending])
    intro other queued
    have owns := ledger.owned_of_inFlight (inFlight_of_isSent (.inr (.inl queued)))
    have sent := ledger.owned_of_inFlight (inFlight_of_isSent (.inl ⟨remaining, sending⟩))
    -- One item is owned once, but it would be in the channel and about to enter it.
    obtain rfl := (Prod.mk.inj (List.inj_on_of_nodup_map ledger.owner_once owns sent rfl)).2
    have flight := ledger.flight worker other
    have single : state.pending.count (worker, other) ≤ 1 :=
      List.nodup_iff_count_le_one.mp (List.Nodup.of_map _ ledger.owner_once) _
    have present : 0 < (state.commands worker).count (.work other) := List.count_pos_iff.mpr queued
    simp only [RunState.inFlight, Coordinator.sends, sending, and_self, if_true] at flight
    omega
  joinedFirst worker item forked sent :=
    ledger.joined_of_owned (ledger.owned_of_inFlight (inFlight_of_isSent sent)) forked
  noEarlyWork worker item rest forked connecting queued := by
    have sent : state.IsSent worker item := by
      refine .inr (.inl ?_)
      rw [queued]
      exact List.mem_cons_self
    have owned := ledger.owned_of_inFlight (inFlight_of_isSent sent)
    have joined := ledger.joined_of_owned owned forked
    have present : 0 < state.joined.count worker := List.count_pos_iff.mpr joined
    have announced := ledger.announcements worker
    simp [RunState.announced, forked, connecting, WorkerTask.owes, WorkerTask.isStarting]
      at announced
    omega
  agreed error returned := by
    have known := ledger.known
    rw [returned] at known
    exact known error rfl

end Ledger

/-- A run that starts its workers has an accepted configuration and a pool. -/
theorem runPool_ok {debug : PathBuf → String} {prepared : Except String Unit}
    {openSlot : Nat → Except String ForkSlot} {config : Config}
    (started : runPool debug prepared openSlot config = .ok specs) :
    validateConfig config = .ok () ∧ workerSpecs openSlot config = .ok specs := by
  unfold runPool at started
  cases validated : validateConfig config with
  | error refusal => simp [validated, Except.mapError, bind, Except.bind] at started
  | ok done =>
    cases prepared with
    | error message => simp [validated, Except.mapError, bind, Except.bind] at started
    | ok ready =>
      cases built : workerSpecs openSlot config with
      | error message => simp [validated, built, Except.mapError, bind, Except.bind] at started
      | ok pool =>
        by_cases empty : pool.isEmpty = true
        · simp [validated, built, empty, Except.mapError, bind, Except.bind, throw,
            throwThe, MonadExceptOf.throw] at started
        · simp [validated, built, empty, Except.mapError, bind, Except.bind, pure,
            Except.pure] at started
          exact ⟨rfl, by rw [started]⟩

/-- The first worker of a pool `run` starts is not forked. -/
theorem runPool_first {debug : PathBuf → String} {prepared : Except String Unit}
    {openSlot : Nat → Except String ForkSlot} {config : Config}
    (started : runPool debug prepared openSlot config = .ok specs) :
    0 < specs.length ∧ isForkedId specs 0 = false := by
  obtain ⟨spec, found, plain⟩ := workerSpecs_first (runPool_ok started).2
  exact ⟨lt_length_of_getElem? found, by simp [isForkedId, found, plain]⟩

/-- In every run of every accepted configuration the coordinator's records agree with each other
and with the worker tasks. -/
theorem runPool_bookkeeping {debug : PathBuf → String} {prepared : Except String Unit}
    {openSlot : Nat → Except String ForkSlot} {config : Config}
    {legal : RunState → RunAction → Prop}
    (started : runPool debug prepared openSlot config = .ok specs)
    (reached : (runMachine specs).Reachable legal state) : Bookkeeping specs state := by
  have first := runPool_first started
  exact (ledger_reachable first.1 first.2 reached).bookkeeping

/-- A pool of two local workers, the second one forked. -/
def forkedPair : List WorkerSpec :=
  [⟨0, "local", .local none (.parent [⟨0, 1⟩])⟩, ⟨1, "local", .local none (.child ⟨0, 1⟩)⟩]

/-- The forked worker of a pair joins while the first one owns the root. -/
theorem runPool_bookkeeping_forkedPair : ∃ state : RunState, Bookkeeping forkedPair state ∧
    (state.joined = [1] ∧ state.pending = [(0, ⟨[]⟩)] ∧ state.idle = [1]) := by
  have started : runPool (fun _ => "") (.ok ()) (fun index => .ok ⟨2 * index, 2 * index + 1⟩)
      { Config.default with workers := 2 } = .ok forkedPair := rfl
  obtain ⟨state, reached, checked⟩ := Machine.reachable_of_execute (runMachine forkedPair)
    (fun _ _ => True) (.initial forkedPair)
    [.coordinate, .coordinate, .coordinate, .coordinate, .worker 1 (.connected (.ok ())),
      .worker 1 .proceed, .coordinate]
    (fun state => state.joined = [1] ∧ state.pending = [(0, ⟨[]⟩)] ∧ state.idle = [1])
    rfl (by decide)
  exact ⟨state, runPool_bookkeeping started reached, of_decide_eq_true checked⟩

end Evix
