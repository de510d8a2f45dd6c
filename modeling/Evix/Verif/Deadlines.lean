import Evix.Clock
import Evix.Verif.Bookkeeping

/-!
# Whether time limits are met

Processes start and items are evaluated in less than the item timeout. No time limit is then over
in a run, as long as the first process has given up its last slot when the item timeout has passed
since the run started. `attach_forked` counts from there, not from the fork, so a worker that is
forked later ends the run.
-/

namespace Evix

open Machines

/-! ## Runs without failed workers -/

/-- No connection attempt fails and no worker task panics. -/
def Steady (_ : RunState) : RunAction → Prop
  | .worker _ (.connected (.error _)) | .worker _ .panic => False
  | _ => True

/-- No worker task has failed. -/
structure RunState.Unfailed (state : RunState) : Prop where
  /-- No task is about to say so. -/
  tasks : ∀ worker error, state.tasks worker ≠ .sendingExited error
  /-- No message says so. -/
  results : ∀ error, .exited error ∉ state.results
  /-- The run has not ended so. -/
  returned : ∀ error, state.coordinator ≠ .returned (.error (.workerExited error))

section Steady

variable {specs : List WorkerSpec} {spec : WorkerSpec} {worker : Nat} {state after : RunState}
  {action : RunAction} {move : WorkerAction} {task next : WorkerTask}
  {commands left : List WorkerCommand} {messages : List WorkerMessage}

/-- A task that has no reason to fail does not. -/
theorem LocalMove.unfailed (moves : LocalMove spec worker move task commands next left messages)
    (sound : ∀ error, task ≠ .sendingExited error)
    (calm : ∀ error, ¬ Failing spec move task commands error) :
    (∀ error, next ≠ .sendingExited error) ∧ ∀ error, .exited error ∉ messages := by
  cases moves with
  | start =>
    refine ⟨fun error => ?_, fun error => List.not_mem_nil⟩
    split <;> exact nofun
  | answer item commands result =>
    refine ⟨fun error => ?_, fun error => List.not_mem_nil⟩
    cases result <;> exact nofun
  | announce | report =>
    refine ⟨fun error => nofun, fun error listed => ?_⟩
    cases List.mem_singleton.mp listed
  | accept => exact ⟨fun error => nofun, fun error => List.not_mem_nil⟩
  | notify _ _ _ message notice plain owed quiet =>
    refine ⟨quiet, fun error listed => ?_⟩
    exact sound error (owed error (List.mem_singleton.mp listed).symm)
  | drop _ _ _ _ plain fewer failing =>
    exact ⟨fun error same => calm error (failing error same), fun error => List.not_mem_nil⟩

/-- In a steady run whose coordinator sends no early work nothing fails. -/
theorem RunState.Unfailed.step (unfailed : state.Unfailed) (books : Bookkeeping specs state)
    (steady : Steady state action) (move : RunMove specs state action after) : after.Unfailed := by
  obtain ⟨tasks, results, returned⟩ := unfailed
  cases move with
  | cancel => exact ⟨tasks, results, returned⟩
  | scan | skip | deliver | listen | emitted | dispatch =>
    exact ⟨tasks, results, fun error => nofun⟩
  | finish reason =>
    refine ⟨tasks, fun error listed => ?_, fun error same => ?_⟩
    · exact results error (reason.results_sublist.subset listed)
    · obtain rfl := Coordinator.returned.inj same
      cases reason with
      | workerExited first =>
        refine results error ?_
        rw [first]
        exact List.mem_cons_self
  | join _ first =>
    refine ⟨tasks, fun error listed => results error ?_, fun error => nofun⟩
    rw [first]
    exact List.mem_cons_of_mem _ listed
  | complete _ first =>
    refine ⟨tasks, fun error listed => results error ?_, fun error same => ?_⟩
    · rw [first]
      exact List.mem_cons_of_mem _ listed
    · unfold handleResult afterCompletion at same
      simp only at same
      split at same <;> cases same
  | clean _ _ ended =>
    refine ⟨fun worker error same => ?_, results, returned⟩
    obtain kept | aborted := ended worker
    · exact tasks worker error (kept.symm.trans same)
    · cases aborted.symm.trans same
  | @worker id spec move task commands messages taken found moves =>
    subst taken
    obtain ⟨sound, quiet⟩ := moves.unfailed (tasks id) fun error failing => by
      cases failing with
      | connection given =>
        rw [given] at steady
        exact steady
      | early item rest forked connecting queued =>
        refine books.noEarlyWork id item rest ?_ connecting queued
        rw [isForkedId, found]
        exact forked
      | panic given =>
        rw [given] at steady
        exact steady
    refine ⟨fun worker error => ?_, fun error listed => ?_, returned⟩
    · show Function.update state.tasks id task worker ≠ _
      by_cases same : worker = id
      · rw [same, Function.update_self]
        exact sound error
      · rw [Function.update_of_ne same]
        exact tasks worker error
    · obtain old | new := List.mem_append.mp listed
      · exact results error old
      · exact quiet error new

/-- No worker task fails in a steady run. -/
theorem unfailed_reachable {debug : PathBuf → String} {prepared : Except String Unit}
    {openSlot : Nat → Except String ForkSlot} {config : Config}
    (started : runPool debug prepared openSlot config = .ok specs)
    (reached : (runMachine specs).Reachable Steady state) : state.Unfailed := by
  refine reached.invariant ?_ ?_
  · rintro _ rfl
    exact ⟨fun worker error => nofun, fun error => List.not_mem_nil, fun error => nofun⟩
  · intro before action after earlier unfailed steady taken
    exact unfailed.step (runPool_bookkeeping started earlier) steady (runStep_moves taken)

/-- A worker that goes on is not connecting any more, and the others stay where they are. -/
theorem runStep_worker
    (taken : runStep specs state (.worker worker move) = some after) :
    after.tasks worker ≠ .connecting ∧
      ∀ other, other ≠ worker → after.tasks other = state.tasks other := by
  simp only [runStep] at taken
  split at taken
  · obtain ⟨task, commands, messages, rfl, moves⟩ := workerStep_moves taken
    refine ⟨?_, fun other differ => Function.update_of_ne differ _ _⟩
    show Function.update state.tasks worker task worker ≠ _
    rw [Function.update_self]
    generalize state.tasks worker = before at moves
    generalize state.commands worker = queue at moves
    cases moves with
    | start => split <;> simp
    | answer item commands result => cases result <;> simp [answered]
    | announce | accept | report => simp
    | notify _ _ _ _ _ plain | drop _ _ _ _ plain =>
      rintro rfl
      cases plain
  · cases taken

/-- Only workers of the pool go on. -/
theorem runStep_member (taken : runStep specs state (.worker worker move) = some after) :
    worker < specs.length := by
  simp only [runStep] at taken
  split at taken
  · exact lt_length_of_getElem? ‹_›
  · cases taken

/-- The coordinator leaves the tasks where they are, or aborts them. -/
theorem runStep_tasks (other : ∀ worker move, action ≠ .worker worker move)
    (taken : runStep specs state action = some after) (worker : Nat) :
    after.tasks worker = state.tasks worker ∨ after.tasks worker = .aborted := by
  cases runStep_moves taken with
  | clean _ _ ended => exact ended worker
  | @worker id spec move task commands messages given => exact absurd given (other id move)
  | _ => exact .inl rfl

end Steady

/-! ## Open time limits -/

section Clock

variable {pool : LocalPool} {durations : Durations pool.itemTimeout} {state after : ClockedRun}
  {worker : Nat} {limit : TimeLimit}

/-- The item timeout is not zero. -/
theorem LocalPool.itemTimeout_pos (pool : LocalPool) : 0 < pool.itemTimeout := by
  obtain ⟨_, _, _, started⟩ := pool.started
  have valid := (runPool_ok started).1
  have positive : pool.config.itemTimeoutSeconds ≠ 0 := by
    intro zero
    unfold validateConfig at valid
    rw [zero] at valid
    cases valid
  unfold LocalPool.itemTimeout Duration.ofSecs
  omega

/-- What a time limit limits is due before it is over; a fork is due before the run is as old as
the item timeout. -/
def TimeLimit.Open (pool : LocalPool) (state : ClockedRun) (worker : Nat) : TimeLimit → Prop
  | .fork => pool.isForked worker = true ∧ (state.clients worker).since = 0 ∧
    state.now < pool.itemTimeout
  | .startup | .item _ => state.now ≤ (state.clients worker).due ∧
    (state.clients worker).due < (state.clients worker).since + pool.itemTimeout

/-- The time limit of a worker, if there is one, is open. -/
def ClockedRun.Waits (pool : LocalPool) (state : ClockedRun) (worker : Nat) : Prop :=
  ∀ limit, state.limit? worker = some limit → limit.Open pool state worker

/-- An open time limit is not over. -/
theorem TimeLimit.Open.lt (waits : limit.Open pool state worker) :
    state.now < (state.clients worker).since + pool.itemTimeout := by
  cases limit with
  | fork =>
    obtain ⟨_, since, early⟩ := waits
    omega
  | startup | item =>
    obtain ⟨early, due⟩ := waits
    omega

namespace ClockedRun

/-- Only the time, the task and the client of a worker matter. -/
theorem Waits.frame (waits : state.Waits pool worker) (now : after.now = state.now)
    (task : after.run.tasks worker = state.run.tasks worker)
    (client : after.clients worker = state.clients worker) : after.Waits pool worker := by
  unfold Waits limit? at waits ⊢
  rw [task, client]
  intro limit given
  have waits := waits limit given
  unfold TimeLimit.Open at waits ⊢
  rw [client, now]
  exact waits

/-- A worker without a time limit waits for nothing. -/
theorem waits_of_none (none : state.limit? worker = none) : state.Waits pool worker := by
  intro limit given
  rw [none] at given
  cases given

/-- Closing slots changes nothing else. -/
theorem closeSlots_frame (state : ClockedRun) (gone : Bool) :
    (state.closeSlots gone).run = state.run ∧ (state.closeSlots gone).now = state.now ∧
      (state.closeSlots gone).clients = state.clients ∧
      (state.closeSlots gone).timeouts = state.timeouts := by
  unfold closeSlots
  split <;> exact ⟨rfl, rfl, rfl, rfl⟩

/-- A worker that is not to attach waits for its process. -/
theorem waits_of_due (attached : (state.clients worker).attaching = false)
    (early : state.now ≤ (state.clients worker).due)
    (due : (state.clients worker).due < (state.clients worker).since + pool.itemTimeout) :
    state.Waits pool worker := by
  intro limit given
  unfold limit? at given
  rw [attached] at given
  split at given
  · obtain rfl := Option.some.inj given
    exact ⟨early, due⟩
  · obtain rfl := Option.some.inj given
    exact ⟨early, due⟩
  · obtain rfl := Option.some.inj given
    exact ⟨early, due⟩
  · obtain rfl := Option.some.inj given
    exact ⟨early, due⟩
  · cases given

/-- A new process starts in time. -/
theorem waits_spawn (durations : Durations pool.itemTimeout) (state : ClockedRun) (worker : Nat) :
    (state.setClient worker
      ((state.clients worker).spawn durations worker state.now)).Waits pool worker := by
  have startup := durations.startup_lt worker (state.clients worker).processes
  apply waits_of_due
  all_goals simp only [setClient, Function.update_self, Client.spawn]
  · omega
  · omega

/-- An item is evaluated in time. -/
theorem waits_evaluate (durations : Durations pool.itemTimeout) (state : ClockedRun)
    (worker : Nat) :
    (state.setClient worker
      ((state.clients worker).evaluate durations worker state.now)).Waits pool worker := by
  have evaluation := durations.evaluation_lt worker (state.clients worker).items
  apply waits_of_due
  all_goals simp only [setClient, Function.update_self, Client.evaluate]
  · omega
  · omega

/-- A worker that has turned to its client waits for its process. -/
theorem waits_follow (connected : state.run.tasks worker ≠ .connecting) :
    (state.follow durations worker).Waits pool worker := by
  unfold follow
  split
  · exact waits_evaluate durations state worker
  · exact waits_spawn durations state worker
  · exact waits_spawn durations state worker
  · rename_i busy reconnecting restarting
    apply waits_of_none
    unfold limit?
    cases here : state.run.tasks worker with
    | connecting => exact absurd here connected
    | reconnecting => exact absurd here reconnecting
    | restarting => exact absurd here restarting
    | working item => exact absurd here (busy item)
    | _ => rfl

/-- Turning to a client concerns one worker. -/
theorem follow_frame (state : ClockedRun) (durations : Durations pool.itemTimeout) (worker : Nat) :
    (state.follow durations worker).run = state.run ∧
      (state.follow durations worker).now = state.now ∧
      (state.follow durations worker).timeouts = state.timeouts ∧
      ∀ other, other ≠ worker →
        (state.follow durations worker).clients other = state.clients other := by
  unfold follow
  split
  all_goals refine ⟨rfl, rfl, rfl, fun other differ => ?_⟩
  all_goals first
    | exact Function.update_of_ne differ _ _
    | rfl

/-- A step of the run is one of the run, and every worker waits as before or anew. -/
theorem advance_spec {action : RunAction}
    (taken : state.advance durations pool action = some after) :
    runStep pool.specs state.run action = some after.run ∧ after.now = state.now ∧
      after.timeouts = state.timeouts ∧
      ∀ worker, state.Waits pool worker → after.Waits pool worker := by
  obtain ⟨run, moved, rfl⟩ := Option.map_eq_some_iff.mp taken
  cases action with
  | worker id move =>
    obtain ⟨connected, others⟩ := runStep_worker moved
    obtain ⟨same, time, kept, clients⟩ := follow_frame { state with run } durations id
    obtain ⟨same', time', clients', kept'⟩ :=
      closeSlots_frame (ClockedRun.follow durations { state with run } id) false
    refine ⟨?_, time'.trans time, kept'.trans kept, fun worker waits => ?_⟩
    · show _ = some (closeSlots _ false).run
      rw [same', same]
      exact moved
    · show (closeSlots _ false).Waits pool worker
      by_cases here : worker = id
      · subst here
        refine (waits_follow connected).frame time' ?_ ?_
        · rw [same']
        · rw [clients']
      · refine waits.frame (time'.trans time) ?_ ?_
        · rw [same', same]
          exact others worker here
        · rw [clients', clients worker here]
  | cancel | coordinate | sink | cleanup =>
    obtain ⟨same, time, clients, kept⟩ := closeSlots_frame { state with run } false
    refine ⟨?_, time, kept, fun worker waits => ?_⟩
    · show _ = some (closeSlots _ false).run
      rw [same]
      exact moved
    · show (closeSlots _ false).Waits pool worker
      obtain stays | aborted := runStep_tasks (fun _ _ same => by cases same) moved worker
      · refine waits.frame time ?_ ?_
        · rw [same]
          exact stays
        · rw [clients]
      · apply waits_of_none
        unfold limit?
        rw [same, aborted]

end ClockedRun

/-! ## What a step can do -/

/-- What one step of a run with a clock can do. -/
inductive ClockMove (pool : LocalPool) (durations : Durations pool.itemTimeout)
    (state : ClockedRun) (action : ClockAction) : ClockedRun → Prop where
  /-- A steady step of the run; the forker of the first process may change with it. -/
  | run (move : RunAction) (next : ClockedRun) (forker : Forker) (completed : Nat) :
    Steady state.run move → state.advance durations pool move = some next →
    ClockMove pool durations state action { next with forker, completed }
  /-- A worker that is not forked spawns its process. -/
  | detached (worker : Nat) : ClockMove pool durations state action
    (state.setClient worker ((state.clients worker).spawn durations worker state.now))
  /-- The first process gives up its slots. -/
  | unforkable (forker : Forker) : ClockMove pool durations state action { state with forker }
  /-- A time limit is over. -/
  | expired (worker : Nat) (exit : String) (after : ClockedRun) :
    state.expire durations worker pool exit = some after →
    ClockMove pool durations state action after
  /-- Time passes. -/
  | elapse (duration : Nat) : action = .elapse duration → state.isQuiet pool = true →
    (∀ worker < pool.specs.length, state.mayWait worker pool (state.now + duration) = true) →
    ClockMove pool durations state action { state with now := state.now + duration }

/-- Every step is a move. -/
theorem clockStep_moves {action : ClockAction}
    (taken : clockStep durations pool state action = some after) :
    ClockMove pool durations state action after := by
  cases action with
  | run action =>
    simp only [clockStep, Option.ite_none_right_eq_some] at taken
    refine .run action after after.forker after.completed ?_ taken.2
    cases action with
    | worker id move =>
      cases move with
      | connected | panic => cases taken.1
      | _ => trivial
    | _ => trivial
  | attached id =>
    simp only [clockStep] at taken
    split at taken
    · simp only [Option.ite_none_right_eq_some] at taken
      exact .run (.worker id (.connected (.ok ()))) after after.forker after.completed trivial
        taken.2
    · cases taken
  | detached id =>
    simp only [clockStep] at taken
    split at taken
    · simp only [Option.ite_none_right_eq_some, Option.some.injEq] at taken
      obtain ⟨_, rfl⟩ := taken
      exact .detached id
    · cases taken
  | started id =>
    simp only [clockStep, ClockedRun.begin] at taken
    split at taken
    · simp only [Option.ite_none_right_eq_some] at taken
      obtain ⟨next, moved, rfl⟩ := Option.map_eq_some_iff.mp taken.2
      split
      · exact .run (.worker id (.connected (.ok ()))) next _ next.completed trivial moved
      · exact .run (.worker id (.connected (.ok ()))) next next.forker next.completed trivial moved
    · cases taken
  | unforkable =>
    simp only [clockStep] at taken
    split at taken
    · obtain rfl := Option.some.inj taken
      exact .unforkable _
    · cases taken
  | evaluated id event status outcome =>
    simp only [clockStep, ClockedRun.finish] at taken
    split at taken
    · rename_i path _
      simp only [Option.ite_none_right_eq_some] at taken
      obtain ⟨next, moved, rfl⟩ := Option.map_eq_some_iff.mp taken.2
      split
      · split
        · exact .run (.worker id (.answer path (.ok (event, .restart)))) next next.forker.close
            next.completed trivial moved
        · exact .run (.worker id (.answer path (.ok (event, .ready)))) next _ _ trivial moved
      · exact .run (.worker id (.answer path (.ok (event, status)))) next next.forker
          next.completed trivial moved
    · cases taken
  | expired id exit => exact .expired id exit after taken
  | elapse duration =>
    simp only [clockStep, Option.ite_none_right_eq_some, Option.some.injEq, Bool.and_eq_true]
      at taken
    obtain ⟨⟨quiet, may⟩, rfl⟩ := taken
    exact .elapse duration rfl quiet fun worker member =>
      List.all_eq_true.mp may worker (List.mem_range.mpr member)

/-! ## The invariant -/

/-- No time limit is over, and every worker waits for what is due in time. -/
structure ClockedRun.Punctual (pool : LocalPool) (state : ClockedRun) : Prop where
  /-- No time limit was over. -/
  timeouts : state.timeouts = []
  /-- Every time limit is open. -/
  waits : ∀ worker < pool.specs.length, state.Waits pool worker

/-- When the clock reaches the item timeout the first process has given up its last slot, or the
run has returned. -/
def ForkedInTime (pool : LocalPool) (state : ClockedRun) : ClockAction → Prop
  | .elapse duration => state.now + duration < pool.itemTimeout ∨ state.forker.slots = [] ∨
    state.run.isReturned = true
  | _ => True

instance (pool : LocalPool) (state : ClockedRun) (action : ClockAction) :
    Decidable (ForkedInTime pool state action) := by
  unfold ForkedInTime
  split <;> infer_instance

namespace ClockedRun

/-- Once a run has returned, a worker to be forked does not keep waiting. -/
theorem running_of_quiet (quiet : state.isQuiet pool = true)
    (member : worker < pool.specs.length) (forked : pool.isForked worker = true)
    (connecting : state.run.tasks worker = .connecting) : state.run.isReturned = false := by
  have still : ∀ move, move = .command ∨ move = .closed →
      runStep pool.specs state.run (.worker worker move) = none := by
    intro move kind
    refine Option.isNone_iff_eq_none.mp (List.all_eq_true.mp quiet _ ?_)
    refine List.mem_cons_of_mem _ (List.mem_cons_of_mem _ (List.mem_cons_of_mem _ ?_))
    refine List.mem_flatMap.mpr ⟨worker, List.mem_range.mpr member, ?_⟩
    obtain rfl | rfl := kind <;> simp
  have found := List.getElem?_eq_getElem member
  simp only [LocalPool.isForked, found, Option.any_some] at forked
  have command := still .command (.inl rfl)
  have closed := still .closed (.inr rfl)
  simp only [runStep, found, workerStep, connecting, forked, if_true, takeEarlyCommand] at command
  simp only [runStep, found, workerStep, connecting, forked, if_true] at closed
  cases queued : state.run.commands worker with
  | cons first rest =>
    rw [queued] at command
    cases first <;> cases command
  | nil =>
    rw [queued] at closed
    cases returned : state.run.isReturned with
    | false => rfl
    | true =>
      rw [returned] at closed
      cases closed

variable {action : ClockAction}

/-- Time passes to a moment before anything is over. -/
theorem Waits.elapse (waits : state.Waits pool worker) {duration : Nat}
    (inTime : ForkedInTime pool state (.elapse duration)) (quiet : state.isQuiet pool = true)
    (member : worker < pool.specs.length)
    (may : state.mayWait worker pool (state.now + duration) = true) :
    ClockedRun.Waits pool { state with now := state.now + duration } worker := by
  intro limit given
  have open' := waits limit given
  have given' : state.limit? worker = some limit := given
  unfold mayWait at may
  rw [given'] at may
  cases limit with
  | fork =>
    obtain ⟨forked, since, _⟩ := open'
    refine ⟨forked, since, ?_⟩
    have connecting : state.run.tasks worker = .connecting := by
      unfold limit? at given'
      split at given'
      · assumption
      all_goals cases given'
    have slot : worker ∈ state.forker.slots := by simpa using (Bool.and_eq_true_iff.mp may).2
    obtain early | none | returned := inTime
    · exact early
    · rw [none] at slot
      cases slot
    · rw [running_of_quiet quiet member forked connecting] at returned
      cases returned
  | startup | item =>
    exact ⟨of_decide_eq_true (Bool.and_eq_true_iff.mp may).2, open'.2⟩

/-- A time limit that is open is not over. -/
theorem Punctual.not_expired (punctual : state.Punctual pool) {exit : String} :
    state.expire durations worker pool exit = none := by
  unfold expire
  split
  · rename_i limit given
    split
    · rename_i passed
      refine Option.map_eq_none_iff.mpr (Option.eq_none_iff_forall_ne_some.mpr fun next moved => ?_)
      have member := runStep_member (advance_spec moved).1
      exact absurd (punctual.waits worker member limit given).lt (Nat.not_lt.mpr passed)
    · rfl
  · rfl

/-- Every step in which slots are given up in time keeps the invariant. -/
theorem Punctual.step (punctual : state.Punctual pool) (inTime : ForkedInTime pool state action)
    (move : ClockMove pool durations state action after) : after.Punctual pool := by
  cases move with
  | run move next forker completed steady taken =>
    obtain ⟨_, _, kept, frame⟩ := advance_spec taken
    refine ⟨kept.trans punctual.timeouts, fun worker member => ?_⟩
    exact (frame worker (punctual.waits worker member)).frame rfl rfl rfl
  | detached id =>
    refine ⟨punctual.timeouts, fun worker member => ?_⟩
    by_cases here : worker = id
    · rw [here]
      exact waits_spawn durations state id
    · exact (punctual.waits worker member).frame rfl rfl (Function.update_of_ne here _ _)
  | unforkable forker =>
    exact ⟨punctual.timeouts, fun worker member =>
      (punctual.waits worker member).frame rfl rfl rfl⟩
  | expired id exit after taken =>
    rw [punctual.not_expired] at taken
    cases taken
  | elapse duration given quiet may =>
    subst given
    refine ⟨punctual.timeouts, fun worker member => ?_⟩
    exact (punctual.waits worker member).elapse inTime quiet member (may worker member)

/-- A step of a run in time is a steady one of the run, or leaves it alone. -/
theorem Punctual.run (punctual : state.Punctual pool)
    (move : ClockMove pool durations state action after) :
    after.run = state.run ∨ ∃ move, Steady state.run move ∧
      runStep pool.specs state.run move = some after.run := by
  cases move with
  | run move next forker completed steady taken =>
    exact .inr ⟨move, steady, (advance_spec taken).1⟩
  | expired id exit after taken =>
    rw [punctual.not_expired] at taken
    cases taken
  | detached | unforkable | elapse => exact .inl rfl

end ClockedRun

/-- A run starts in time. -/
theorem punctual_initial (pool : LocalPool) (durations : Durations pool.itemTimeout) :
    (ClockedRun.initial durations pool).Punctual pool := by
  refine ⟨rfl, fun worker member => ?_⟩
  cases forked : pool.isForked worker with
  | false =>
    have startup := durations.startup_lt worker 0
    apply ClockedRun.waits_of_due
    all_goals simp [ClockedRun.initial, Client.initial, forked, Client.spawn]
    omega
  | true =>
    intro limit given
    simp only [ClockedRun.limit?, ClockedRun.initial, RunState.initial, Client.initial, forked,
      if_true] at given
    obtain rfl := Option.some.inj given
    refine ⟨forked, ?_, pool.itemTimeout_pos⟩
    simp [ClockedRun.initial, Client.initial, forked]

/-- What every run in which slots are given up in time keeps. -/
theorem punctual_reachable
    (reached : (clockMachine pool durations).Reachable (ForkedInTime pool) state) :
    state.Punctual pool := by
  refine reached.invariant ?_ ?_
  · rintro _ rfl
    exact punctual_initial pool durations
  · intro before action after _ punctual inTime taken
    exact punctual.step inTime (clockStep_moves taken)

/-- The run of a run with a clock is steady when slots are given up in time. -/
def steadyRun (pool : LocalPool) (durations : Durations pool.itemTimeout) :
    Refinement (clockMachine pool durations) (ForkedInTime pool) (runMachine pool.specs)
      Steady where
  view := ClockedRun.run
  starts := by
    rintro _ rfl
    rfl
  simulates := by
    intro state action after reached inTime taken
    exact (punctual_reachable reached).run (clockStep_moves taken)

/-- No time limit is over, and no worker task has ended the run. -/
def ClockedRun.InTime (state : ClockedRun) : Prop :=
  state.timeouts = [] ∧
    ∀ error, state.run.coordinator ≠ .returned (.error (.workerExited error))

/-- In every run in which the first process gives up its last slot before the item timeout has
passed since the run started, no time limit is ever over. -/
theorem run_in_time
    (reached : (clockMachine pool durations).Reachable (ForkedInTime pool) state) :
    state.InTime := by
  obtain ⟨_, _, _, started⟩ := pool.started
  refine ⟨(punctual_reachable reached).timeouts, ?_⟩
  exact (unfailed_reachable started ((steadyRun pool durations).reachable reached)).returned

end Clock

/-- Two local workers with an item timeout of one second. -/
def secondPair : LocalPool where
  config := { Config.default with workers := 2, itemTimeoutSeconds := 1 }
  specs := forkedPair
  started := ⟨fun _ => "", .ok (), fun index => .ok ⟨2 * index, 2 * index + 1⟩, rfl⟩
  locals := rfl

/-- Every process starts in half a second, and every item takes 300 milliseconds. -/
def quickDurations : Durations secondPair.itemTimeout where
  startup _ _ := Duration.ofMillis 500
  evaluation _ _ := Duration.ofMillis 300
  startup_lt _ _ := by decide
  evaluation_lt _ _ := by decide

/-- Every process takes 900 milliseconds to start, and so does every item. -/
def slowDurations : Durations secondPair.itemTimeout where
  startup _ _ := Duration.ofMillis 900
  evaluation _ _ := Duration.ofMillis 900
  startup_lt _ _ := by decide
  evaluation_lt _ _ := by decide

/-- A step of a worker task by itself. -/
def workerGoes (worker : Nat) (move : WorkerAction) : ClockAction := .run (.worker worker move)

/-- The coordinator goes on some times. -/
def coordinates (steps : Nat) : List ClockAction := .replicate steps (.run .coordinate)

/-- The first worker has started after some time and takes up the root. -/
def rootTaken (startup : Nat) : List ClockAction :=
  coordinates 4 ++ [.elapse startup, .started 0, workerGoes 0 .command]

/-- The second worker is forked after the root, in time, and evaluates an item beyond the item
timeout. -/
theorem run_in_time_forked : ∃ state : ClockedRun, state.InTime ∧
    secondPair.itemTimeout < state.now ∧ state.run.joined = [1] ∧
      state.run.handled.map Handled.worker = [0, 1] := by
  obtain ⟨state, reached, checked⟩ := Machine.reachable_of_execute
    (clockMachine secondPair quickDurations) (ForkedInTime secondPair)
    (.initial quickDurations secondPair)
    (rootTaken (Duration.ofMillis 500) ++
      [.elapse (Duration.ofMillis 300),
        .evaluated 0 (.attrSet "" [] ["a", "b"]) .ready fun _ => .child,
        workerGoes 0 .proceed, workerGoes 0 .proceed, .attached 1, workerGoes 1 .proceed] ++
      coordinates 1 ++ [.run (.sink true)] ++ coordinates 9 ++
      [workerGoes 0 .command, workerGoes 1 .command, .elapse (Duration.ofMillis 300),
        .evaluated 1 (.attrSet "b" ["b"] []) .ready fun _ => .child, workerGoes 1 .proceed] ++
      coordinates 1)
    (fun state => secondPair.itemTimeout < state.now ∧ state.run.joined = [1] ∧
      state.run.handled.map Handled.worker = [0, 1]) rfl (by decide)
  exact ⟨state, run_in_time reached, of_decide_eq_true checked⟩

/-- The second worker is still to be forked when the item timeout has passed since the run
started, and the run ends. -/
theorem run_in_time_late : ¬ ∀ (pool : LocalPool) (durations : Durations pool.itemTimeout)
    (state : ClockedRun), (clockMachine pool durations).Reachable (fun _ _ => True) state →
      state.InTime := by
  intro claimed
  obtain ⟨state, reached, checked⟩ := Machine.reachable_of_execute
    (clockMachine secondPair slowDurations) (fun _ _ => True) (.initial slowDurations secondPair)
    (rootTaken (Duration.ofMillis 900) ++
      [.elapse (Duration.ofMillis 100), .expired 1 "", workerGoes 1 .proceed] ++ coordinates 1)
    (fun state => state.run.coordinator =
      .returned (.error (.workerExited "forked worker local did not start within 1s")))
    rfl (by decide)
  exact (claimed secondPair slowDurations state reached).2 _ (of_decide_eq_true checked)

end Evix
