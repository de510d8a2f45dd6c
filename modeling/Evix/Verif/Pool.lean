import Evix.Verif.LocalTurns
import Evix.Verif.Traversal

/-!
# A pool runs as its coordinator

The coordinator with its local workers and their processes refines the run in which every worker is
one task that answers: each step of a local worker is a step of its task, or one that the run does
not see.
-/

namespace Evix

open Machines LocalWorker

/-! ## The step of a task -/

section Mirrored

variable {permitted : List String → Answer → Prop} {spec : WorkerSpec} {capacity worker : Nat}
  {state run : RunState} {own : Spec} {before after : State} {action : LinkAction}

/-- A task takes a step, or none. -/
def Mirrored (permitted : List String → Answer → Prop) (spec : WorkerSpec) (capacity worker : Nat)
    (state after : RunState) : Prop :=
  after = state ∨ ∃ action, Answers permitted state (.worker worker action) ∧
    workerStep spec capacity state worker action = some after

/-- A task that is where it was. -/
theorem RunState.setTask_same {task : WorkerTask} (here : state.tasks worker = task) :
    state.setTask worker task = state := by
  rw [← here, RunState.setTask, Function.update_eq_self]

/-- A channel that has what it had. -/
theorem RunState.setCommands_same {commands : List WorkerCommand}
    (here : state.commands worker = commands) : state.setCommands worker commands = state := by
  rw [← here, RunState.setCommands, Function.update_eq_self]

/-- What an inner step is for the coordinator is a step of the task, or none. -/
theorem LocalWorker.State.Turn.mirrored (turn : State.Turn own before after)
    (here : state.tasks worker = before.task) (same : own.forked = spec.isForked)
    (allowed : ∀ path answer status, after.serving = .sendingResult path answer status →
      permitted path answer ∧ (Answer.isError answer = true → status = .ready)) :
    Mirrored permitted spec capacity worker state
      ((if after.serving.isOver then state.setCommands worker [] else state).setTask worker
        after.task) := by
  cases turn with
  | still task inside =>
    have running : after.serving.isOver = false := by
      cases serving : after.serving <;> rw [serving] at inside <;> first | rfl | cases inside
    rw [running, if_neg Bool.false_ne_true, task]
    exact .inl (RunState.setTask_same here)
  | ready connecting serving =>
    rw [State.task_of_isConnecting connecting] at here
    refine .inr ⟨.connected (.ok ()), trivial, ?_⟩
    simp only [workerStep, connectedStep]
    cases held : before.held with
    | none =>
      rw [held] at here serving
      rw [here, State.task, serving, same, connectingTask]
      cases spec.isForked <;> rfl
    | some index =>
      rw [held] at here serving
      rw [Option.isNone_some, Bool.and_false, if_neg Bool.false_ne_true] at serving
      rw [State.task, serving, here]
      cases before.reports.getLast?.map (·.status) with
      | none => rfl
      | some status => cases status <;> rfl
  | refused error connecting serving =>
    rw [State.task_of_isConnecting connecting] at here
    refine .inr ⟨.connected (.error error), trivial, ?_⟩
    simp only [workerStep, connectedStep]
    rw [State.task, serving, here]
    cases before.held with
    | none => rfl
    | some index =>
      cases before.reports.getLast?.map (·.status) with
      | none => rfl
      | some status => cases status <;> rfl
  | answered path answer status working serving =>
    obtain ⟨fine, ready⟩ := allowed path answer status serving
    rw [working] at here
    rw [State.task, serving]
    cases answer with
    | ok event =>
      refine .inr ⟨.answer path (.ok (event, status)), fine, ?_⟩
      simp only [workerStep, here]
      rfl
    | error error =>
      obtain rfl := ready rfl
      refine .inr ⟨.answer path (.error error), fine, ?_⟩
      simp only [workerStep, here]
      rfl
  | stopped stopping serving =>
    rw [stopping] at here
    refine .inr ⟨.proceed, trivial, ?_⟩
    simp only [workerStep, proceedStep, here, State.task, serving]
    rfl

/-- A command that is received is the first one. -/
theorem RunState.receive_some {command : WorkerCommand}
    (received : state.receive worker (some command) = some run) :
    ∃ commands, state.commands worker = command :: commands ∧
      run = state.setCommands worker commands := by
  simp only [receive] at received
  split at received
  · rename_i first commands queued
    simp only [Option.ite_none_right_eq_some, Option.some.injEq] at received
    obtain ⟨rfl, rfl⟩ := received
    exact ⟨commands, queued, rfl⟩
  · cases received

/-- A channel that has ended is closed and empty. -/
theorem RunState.receive_none (received : state.receive worker none = some run) :
    state.isReturned = true ∧ state.commands worker = [] ∧ run = state := by
  simp only [receive, Option.ite_none_right_eq_some, Bool.and_eq_true, List.isEmpty_iff,
    Option.some.injEq] at received
  exact ⟨received.1.1, received.1.2, received.2.symm⟩

/-- A command that is received leaves its channel. -/
theorem RunState.receive_fewer {command : Option WorkerCommand}
    (received : state.receive worker command = some run) :
    ∃ commands, commands.Sublist (state.commands worker) ∧
      run = state.setCommands worker commands := by
  cases command with
  | none =>
    obtain ⟨_, _, rfl⟩ := RunState.receive_none received
    exact ⟨_, List.Sublist.refl _, (RunState.setCommands_same rfl).symm⟩
  | some command =>
    obtain ⟨commands, queued, rfl⟩ := RunState.receive_some received
    rw [queued]
    exact ⟨commands, List.sublist_cons_self _ _, rfl⟩

/-- A message that is delivered or refused is sent by the task. -/
theorem RunState.send_of_offer {message : WorkerMessage} {delivered : Bool}
    (offered : state.offer capacity message delivered = some run) (sent refused : WorkerTask) :
    state.send capacity worker message sent refused =
      some (run.setTask worker (if delivered then sent else refused)) := by
  cases delivered with
  | true =>
    simp only [offer, if_true, Option.ite_none_right_eq_some, Bool.and_eq_true, Bool.not_eq_true',
      decide_eq_true_eq, Option.some.injEq] at offered
    obtain ⟨⟨running, room⟩, rfl⟩ := offered
    simp [send, running, room, setTask]
  | false =>
    simp only [offer, Bool.false_eq_true, if_false, Option.ite_none_right_eq_some,
      Option.some.injEq] at offered
    obtain ⟨returned, rfl⟩ := offered
    simp [send, returned]

/-- A message arrives in the result channel, or changes nothing. -/
theorem RunState.offer_cases {message : WorkerMessage} {delivered : Bool}
    (offered : state.offer capacity message delivered = some run) :
    run = state ∨ run = { state with results := state.results ++ [message] } := by
  cases delivered with
  | true =>
    simp only [offer, if_true, Option.ite_none_right_eq_some, Option.some.injEq] at offered
    exact .inr offered.2.symm
  | false =>
    simp only [offer, Bool.false_eq_true, if_false, Option.ite_none_right_eq_some,
      Option.some.injEq] at offered
    exact .inl offered.2.symm

/-- A message changes nothing but the result channel. -/
theorem RunState.offer_frame {message : WorkerMessage} {delivered : Bool}
    (offered : state.offer capacity message delivered = some run) :
    run.tasks = state.tasks ∧ run.cancel = state.cancel := by
  rcases offer_cases offered with rfl | rfl
  · exact ⟨rfl, rfl⟩
  · exact ⟨rfl, rfl⟩

/-- A command that is taken up is taken up by the task. -/
theorem mirrored_command {command : WorkerCommand} (here : state.tasks worker = before.task)
    (cancel : before.cancel = state.cancel)
    (taken : linkStep own before (.command command) = some after)
    (received : state.receive worker (some command) = some run) :
    Mirrored permitted spec capacity worker state (run.setTask worker after.task) := by
  obtain ⟨commands, queued, rfl⟩ := RunState.receive_some received
  simp only [linkStep] at taken
  split at taken
  · rename_i receiving
    rw [State.task, receiving] at here
    refine .inr ⟨.command, trivial, ?_⟩
    simp only [workerStep, here, takeCommand, queued]
    rw [cancel] at taken
    have still : (state.setCommands worker commands).cancel = state.cancel := rfl
    split at taken
    · rename_i cancelled
      obtain rfl := Option.some.inj taken
      rw [still, if_pos cancelled]
      rfl
    · rename_i running
      rw [still, if_neg running]
      split at taken
      all_goals
        obtain rfl := Option.some.inj taken
        rfl
  · cases taken

/-- A command that comes while a forked worker connects ends the task. -/
theorem mirrored_early {command : Option WorkerCommand} (here : state.tasks worker = before.task)
    (same : own.forked = spec.isForked) (label : own.label = spec.label)
    (taken : linkStep own before (.early command) = some after)
    (received : state.receive worker command = some run) :
    Mirrored permitted spec capacity worker state
      ((run.setCommands worker []).setTask worker after.task) := by
  simp only [linkStep] at taken
  split at taken
  · rename_i early
    simp only [Bool.and_eq_true, Option.isNone_iff_eq_none] at early
    obtain ⟨⟨forked, held⟩, connecting⟩ := early
    rw [same] at forked
    rw [State.task_of_isConnecting connecting, held] at here
    cases command with
    | none =>
      obtain ⟨returned, empty, rfl⟩ := RunState.receive_none received
      obtain rfl := Option.some.inj taken
      refine .inr ⟨.closed, trivial, ?_⟩
      rw [RunState.setCommands_same empty]
      simp only [workerStep, here, returned, empty, List.isEmpty_nil, Bool.and_self, if_true,
        connectingTask, forked]
      rfl
    | some command =>
      obtain ⟨commands, queued, rfl⟩ := RunState.receive_some received
      refine .inr ⟨.command, trivial, ?_⟩
      have cleared : (state.setCommands worker commands).setCommands worker [] =
          state.setCommands worker [] := by
        simp [RunState.setCommands]
      rw [cleared]
      simp only [workerStep, here, connectingTask, forked, if_true, takeEarlyCommand, queued]
      cases command with
      | work item =>
        obtain rfl := Option.some.inj taken
        rw [← label]
        rfl
      | stop =>
        obtain rfl := Option.some.inj taken
        rfl
  · cases taken

/-- The end of the work channel stops the task. -/
theorem mirrored_closed (here : state.tasks worker = before.task)
    (taken : linkStep own before .closed = some after)
    (received : state.receive worker none = some run) :
    Mirrored permitted spec capacity worker state (run.setTask worker after.task) := by
  obtain ⟨returned, empty, rfl⟩ := RunState.receive_none received
  simp only [linkStep] at taken
  split at taken
  · rename_i receiving
    rw [State.task, receiving] at here
    obtain rfl := Option.some.inj taken
    refine .inr ⟨.closed, trivial, ?_⟩
    simp only [workerStep, here, returned, empty, List.isEmpty_nil, Bool.and_self, if_true]
    rfl
  · cases taken

/-- A message that is sent is sent by the task. -/
theorem mirrored_send {delivered : Bool} (here : state.tasks worker = before.task)
    (taken : linkStep own before (.send delivered) = some after)
    (offered : (sendsMessage? worker before).bind
      (fun message => state.offer capacity message delivered) = some run) :
    Mirrored permitted spec capacity worker state (run.setTask worker after.task) := by
  obtain ⟨message, sending, offered⟩ := Option.bind_eq_some_iff.mp offered
  refine .inr ⟨.proceed, trivial, ?_⟩
  simp only [linkStep] at taken
  simp only [workerStep, proceedStep, here]
  split at taken
  · rename_i serving
    rw [sendsMessage?, serving] at sending
    obtain rfl := Option.some.inj sending
    obtain rfl := Option.some.inj taken
    simp only [State.task, serving]
    rw [RunState.send_of_offer offered]
    cases delivered <;> rfl
  · rename_i path answer status serving
    rw [sendsMessage?, serving] at sending
    obtain rfl := Option.some.inj sending
    obtain rfl := Option.some.inj taken
    simp only [State.task, serving]
    rw [RunState.send_of_offer offered]
    cases delivered <;> rfl
  · rename_i serving
    rw [sendsMessage?, serving] at sending
    obtain rfl := Option.some.inj sending
    obtain rfl := Option.some.inj taken
    simp only [State.task, serving]
    rw [RunState.send_of_offer offered]
    cases delivered <;> rfl
  · cases taken

/-- The decision after a result is the one of the task. -/
theorem mirrored_settle (here : state.tasks worker = before.task)
    (plain : spec.isRemote = false) (cancel : before.cancel = state.cancel)
    (sound : before.Sound) (recent : before.Recent)
    (taken : linkStep own before .settle = some after) :
    Mirrored permitted spec capacity worker state (state.setTask worker after.task) := by
  have expects := sound.expects
  simp only [linkStep] at taken
  split at taken
  · rename_i failed status serving
    rw [State.task, serving] at here
    rw [State.Recent, serving] at recent
    rw [State.Expects, serving] at expects
    have holds : before.held.isSome = true ∧ (failed = true → status = .ready) := by
      cases failed with
      | true =>
        obtain ⟨ready, index, _, held, _⟩ := expects
        exact ⟨by rw [held]; rfl, fun _ => ready⟩
      | false =>
        obtain ⟨index, _, held, _⟩ := expects
        exact ⟨by rw [held]; rfl, fun wrong => by cases wrong⟩
    obtain ⟨some, ready⟩ := holds
    obtain ⟨index, held⟩ := Option.isSome_iff_exists.mp some
    obtain rfl := Option.some.inj taken
    refine .inr ⟨.proceed, trivial, ?_⟩
    simp only [workerStep, proceedStep, here, settle, plain, Bool.not_false, Bool.and_true]
    rw [← cancel]
    congr 2
    by_cases again : (failed && !before.cancel) = true
    · obtain rfl := ready (by simp only [Bool.and_eq_true] at again; exact again.1)
      rw [if_pos again, if_pos again]
      show _ = connectingTask before.held (before.reports.getLast?.map (·.status))
      rw [held, recent]
      rfl
    · rw [if_neg again, if_neg again]
      by_cases restart : status = .restart
      · rw [if_pos restart, if_pos (by simpa using restart)]
        rfl
      · rw [if_neg restart, if_neg (by simpa using restart)]
        rfl
  · cases taken

/-- A task that is over takes no step; its processes may. -/
theorem running_of_channelStep (taken : linkStep own before action = some after)
    (channel : channelStep capacity worker state before after action = some run) :
    (∃ index move, action = .process index move) ∨ before.serving.isOver = false := by
  cases running : before.serving.isOver with
  | false => exact .inr rfl
  | true =>
    have left : (∃ result, before.serving = .ended result) ∨ before.serving = .aborted := by
      cases serving : before.serving <;> rw [serving] at running <;>
        first | exact .inl ⟨_, rfl⟩ | exact .inr rfl | cases running
    cases action with
    | process index move => exact .inl ⟨index, move, rfl⟩
    | cancel | abort => cases channel
    | early command =>
      have idle : before.serving.isConnecting = false := by
        rcases left with ⟨result, serving⟩ | serving <;> rw [serving] <;> rfl
      simp [linkStep, idle] at taken
    | _ =>
      rcases left with ⟨result, serving⟩ | serving <;>
        simp [linkStep, connectStep, readPid, readEnd, readMessage, failStep, timeoutStep,
          exitedStep, serving] at taken

/-- Every failure is allowed. -/
def Fallible (own : Spec) (permitted : List String → Answer → Prop) : Prop :=
  ∀ path error, Failure own path error → permitted path (.error error)

/-- Whether an answer is an event that a process of the worker has produced, or a failure of the
worker. -/
def LocalWorker.State.Vouches (own : Spec) (link : State) (path : List String) : Answer → Prop
  | .ok event => ∃ process ∈ link.processes, (path, event) ∈ process.produced
  | .error error => Failure own path error

/-- The worker vouches for the answer that it sends. -/
theorem LocalWorker.State.Sound.vouches (sound : after.Sound) (counted : State.Counted own after)
    {path : List String} {answer : Answer} {status : WorkerStatus}
    (serving : after.serving = .sendingResult path answer status) :
    after.Vouches own path answer ∧ (Answer.isError answer = true → status = .ready) := by
  have expects := sound.expects
  rw [State.Expects, serving] at expects
  cases answer with
  | ok event =>
    obtain ⟨place, process, serial, _, found, _, produced⟩ := expects.2
    exact ⟨⟨process, List.mem_of_getElem? found, List.mem_of_getElem? produced⟩,
      fun wrong => by cases wrong⟩
  | error error => exact ⟨counted.failing path error status serving, fun _ => expects.1⟩

/-- The answer of a link is allowed. -/
theorem LocalWorker.State.Allows.answer (allows : after.Allows permitted)
    (failures : Fallible own permitted) {path : List String} {answer : Answer}
    (vouches : after.Vouches own path answer) : permitted path answer := by
  cases answer with
  | ok event =>
    obtain ⟨process, member, produced⟩ := vouches
    exact allows process.trace (List.mem_map_of_mem member) _ produced
  | error error => exact failures path error vouches

/-- Every step of a link is a step of its task, or none. -/
theorem mirrored_link (here : state.tasks worker = before.task) (plain : spec.isRemote = false)
    (same : own.forked = spec.isForked) (label : own.label = spec.label)
    (cancel : before.cancel = state.cancel) (recent : before.Recent) (earlier : before.Sound)
    (sound : after.Sound) (counted : State.Counted own after) (allows : after.Allows permitted)
    (failures : Fallible own permitted) (taken : linkStep own before action = some after)
    (channel : channelStep capacity worker state before after action = some run) :
    Mirrored permitted spec capacity worker state (run.setTask worker after.task) := by
  cases action with
  | cancel | abort => cases channel
  | early command =>
    obtain ⟨received, given, rfl⟩ := Option.map_eq_some_iff.mp channel
    exact mirrored_early here same label taken given
  | command command => exact mirrored_command here cancel taken channel
  | closed => exact mirrored_closed here taken channel
  | send delivered => exact mirrored_send here taken channel
  | process index move =>
    obtain rfl := Option.some.inj channel
    simp only [linkStep] at taken
    split at taken
    · obtain ⟨changed, _, rfl⟩ := Option.map_eq_some_iff.mp taken
      exact .inl (RunState.setTask_same here)
    · cases taken
  | settle =>
    have running : after.serving.isOver = false := by
      simp only [linkStep] at taken
      split at taken
      · obtain rfl := Option.some.inj taken
        show Serving.isOver (if _ then _ else if _ then _ else _) = false
        split
        · rfl
        · split <;> rfl
      · cases taken
    simp only [channelStep, running, Bool.false_eq_true, if_false, Option.some.injEq] at channel
    rw [← channel]
    exact mirrored_settle here plain cancel earlier recent taken
  | _ =>
    obtain rfl := Option.some.inj channel
    refine (State.linkStep_inner rfl recent earlier.retiring taken).turn.mirrored here same ?_
    intro path answer status serving
    obtain ⟨vouches, ready⟩ := sound.vouches counted serving
    exact ⟨allows.answer failures vouches, ready⟩

end Mirrored

/-! ## Local tasks -/

/-- A task that connects listens. -/
theorem connectingTask_listening (held : Option Nat) (last : Option WorkerStatus) :
    (connectingTask held last).listening = true := by
  cases held with
  | none => rfl
  | some index =>
    cases last with
    | none => rfl
    | some status => cases status <;> rfl

/-- A task that is not over listens. -/
theorem LocalWorker.State.listening_of_running (link : State)
    (running : link.serving.isOver = false) : link.task.listening = true := by
  unfold State.task
  cases serving : link.serving <;> rw [serving] at running
  case ended | aborted => cases running
  case connecting | attaching | spawning | settingUp | greeting | startDraining =>
    exact connectingTask_listening _ _
  all_goals rfl

section Tasks

variable {permitted : List String → Answer → Prop} {own : Spec} {cancel : Bool} {task : LocalTask}
  {action : LinkAction} {link : State}

/-- The invariant of a local task. -/
structure LocalTask.Sound (own : Spec) (permitted : List String → Answer → Prop) (cancel : Bool)
    (task : LocalTask) : Prop where
  /-- The link is sound. -/
  link : task.link.Sound
  /-- Its numbers are right. -/
  counted : State.Counted own task.link
  /-- A decision is about the last result. -/
  recent : task.link.Recent
  /-- The cancellation flag is the one of the run. -/
  cancel : task.link.cancel = cancel
  /-- An error is told at the end. -/
  told : task.told = true → task.link.serving.isOver = true
  /-- What the processes produce is allowed. -/
  allows : task.link.Allows permitted

namespace LocalTask

/-- A task that has not told of an error is where its link is. -/
theorem task_of_running (quiet : task.told = false) : task.task = task.link.task := by
  unfold LocalTask.task
  split
  · rename_i error failed
    rw [quiet, failed]
    rfl
  · rfl

/-- A task that runs has told of no error. -/
theorem Sound.quiet (sound : task.Sound own permitted cancel)
    (running : task.link.serving.isOver = false) : task.told = false := by
  by_contra told
  have left := sound.told (by simpa using told)
  rw [running] at left
  cases left

/-- A task that is to tell of an error is over. -/
theorem over_of_exited {error : String} (failed : task.task = .sendingExited error) :
    task.link.serving.isOver = true ∧ task.link.task = .sendingExited error := by
  have there : task.link.task = .sendingExited error := by
    unfold LocalTask.task at failed
    split at failed
    · rename_i other same
      split at failed
      · cases failed
      · exact same.trans failed
    · exact failed
  refine ⟨?_, there⟩
  by_contra running
  have stays := task.link.listening_of_running (by simpa using running)
  rw [there] at stays
  cases stays

/-- A step of the link keeps the task sound. -/
theorem Sound.step (sound : task.Sound own permitted cancel)
    (running : (∃ index move, action = .process index move) ∨ task.link.serving.isOver = false)
    (other : action ≠ .cancel)
    (legal : ∀ index process path event, action = .process index (.evaluated event) →
      task.link.processes[index]? = some process → process.place = .evaluating path →
      permitted path (.ok event))
    (taken : linkStep own task.link action = some link) :
    LocalTask.Sound own permitted cancel { task with link } := by
  have steps := State.linkStep_steps other sound.recent sound.link.retiring taken
  have still := sound.link.step sound.counted.slot taken
  refine ⟨still, sound.counted.step still.calm (State.linkStep_coarse taken), steps.recent,
    steps.cancel.trans sound.cancel, fun told => ?_, sound.allows.step legal steps.traced⟩
  rcases running with ⟨index, move, rfl⟩ | running
  · simp only [linkStep] at taken
    split at taken
    · obtain ⟨changed, _, rfl⟩ := Option.map_eq_some_iff.mp taken
      exact sound.told told
    · cases taken
  · rw [sound.quiet running] at told
    cases told

/-- A task that leaves stays sound. -/
theorem Sound.leave (sound : task.Sound own permitted cancel) {serving : Serving}
    (left : serving.isOver = true) :
    LocalTask.Sound own permitted cancel { task with link := task.link.leave serving } := by
  have frame := task.link.frame_leave serving
  have still : (task.link.leave serving).Sound := sound.link.left_sound left
  refine ⟨still, sound.counted.left_counted left, State.recent_of_isOver left,
    frame.cancel.trans sound.cancel, fun _ => left, ?_⟩
  unfold State.Allows
  rw [frame.traces]
  exact sound.allows

/-- A request for cancellation keeps the task sound. -/
theorem Sound.cancelled (sound : task.Sound own permitted cancel) :
    LocalTask.Sound own permitted true { task with link := { task.link with cancel := true } } := by
  have taken : linkStep own task.link .cancel = some { task.link with cancel := true } := rfl
  have still := sound.link.step sound.counted.slot taken
  exact ⟨still, sound.counted.step still.calm (State.linkStep_coarse taken), sound.recent, rfl,
    sound.told, sound.allows⟩

/-- A task that follows its run stays sound. -/
theorem Sound.follow (sound : task.Sound own permitted cancel) {later : Bool}
    (grows : later = cancel ∨ later = true) (there : WorkerTask) :
    LocalTask.Sound own permitted later (task.follow later there) := by
  have seen : LocalTask.Sound own permitted later
      { task with link := if later then { task.link with cancel := true } else task.link } := by
    cases later with
    | true => exact sound.cancelled
    | false =>
      obtain rfl : cancel = false := by simpa using grows.symm
      exact sound
  cases there with
  | aborted => exact seen.leave rfl
  | _ => exact seen

/-- Where a task is that follows its run. -/
theorem follow_task (later : Bool) {there : WorkerTask}
    (same : there = task.task ∨ there = .aborted) : (task.follow later there).task = there := by
  have seen : LocalTask.task
      { task with link := if later then { task.link with cancel := true } else task.link } =
      task.task := by
    cases later <;> rfl
  cases there with
  | aborted => rfl
  | _ =>
    obtain same | wrong := same
    · exact seen.trans same.symm
    · cases wrong

end LocalTask

end Tasks

/-! ## Pools -/

section Pools

variable {setup : PoolSetup} {permitted : List String → Answer → Prop} {pool after : Pool}
  {worker : Nat}

/-- What the workers of a pool fail with is allowed. -/
def PoolSetup.Fails (setup : PoolSetup) (permitted : List String → Answer → Prop) : Prop :=
  ∀ worker, setup.isLocal worker = true → Fallible (setup.localSpec worker) permitted

/-- A local worker is in the pool. -/
theorem PoolSetup.local_spec (own : setup.isLocal worker = true) :
    ∃ spec, setup.specs[worker]? = some spec ∧ spec.isRemote = false ∧
      (setup.localSpec worker).forked = spec.isForked ∧
      (setup.localSpec worker).label = spec.label := by
  unfold PoolSetup.isLocal at own
  cases found : setup.specs[worker]? with
  | none =>
    rw [found] at own
    cases own
  | some spec =>
    rw [found] at own
    refine ⟨spec, rfl, by simpa using own, ?_, ?_⟩
    · rw [PoolSetup.localSpec, found]
      rfl
    · rw [PoolSetup.localSpec, found]
      rfl

namespace Pool

/-- The invariant of a pool. -/
def Sound (setup : PoolSetup) (permitted : List String → Answer → Prop) (pool : Pool) : Prop :=
  ∀ worker, (pool.locals worker).Sound (setup.localSpec worker) permitted pool.run.cancel

/-- The task of a local worker, as the run has it. -/
theorem view_local (own : setup.isLocal worker = true) :
    (pool.view setup).tasks worker = (pool.locals worker).task :=
  if_pos own

/-- A local task that moves on is one that the run sees move on. -/
theorem view_moved {run : RunState} {task : LocalTask} (own : setup.isLocal worker = true)
    (tasks : run.tasks = (pool.view setup).tasks) :
    (pool.moved run worker task).view setup = run.setTask worker task.task := by
  have same : ((pool.moved run worker task).view setup).tasks =
      Function.update run.tasks worker task.task := by
    funext other
    show (if setup.isLocal other then (Function.update pool.locals worker task other).task
      else run.tasks other) = _
    by_cases here : other = worker
    · subst here
      rw [if_pos own, Function.update_self, Function.update_self]
    · rw [Function.update_of_ne here, Function.update_of_ne here, tasks]
      by_cases mine : setup.isLocal other = true
      · rw [if_pos mine]
        exact (view_local mine).symm
      · rw [if_neg mine]
  calc (pool.moved run worker task).view setup
      = { run with tasks := ((pool.moved run worker task).view setup).tasks } := rfl
    _ = run.setTask worker task.task := by rw [same]; rfl

/-- The task of a local worker is left alone by the steps of others, unless it is aborted. -/
theorem tasks_of_outside {action : RunAction} {run : RunState}
    (outside : setup.isOutside action = true) (own : setup.isLocal worker = true)
    (taken : runStep setup.specs (pool.view setup) action = some run) :
    run.tasks worker = (pool.locals worker).task ∨ run.tasks worker = .aborted := by
  have move : RunMove setup.specs (pool.view setup) action run := runStep_moves taken
  have here : (pool.view setup).tasks worker = (pool.locals worker).task := view_local own
  cases move with
  | clean returned left ended stopped => exact (ended worker).imp_left fun same => same.trans here
  | @worker id spec move task commands messages given found moves =>
    rw [given] at outside
    have other : worker ≠ id := by
      rintro rfl
      rw [PoolSetup.isOutside, own] at outside
      cases outside
    exact .inl ((Function.update_of_ne other _ _).trans here)
  | _ => exact .inl here

/-- The cancellation flag is only set. -/
theorem cancel_of_runStep {specs : List WorkerSpec} {state run : RunState} {action : RunAction}
    (taken : runStep specs state action = some run) :
    run.cancel = state.cancel ∨ run.cancel = true := by
  have move : RunMove specs state action run := runStep_moves taken
  cases move with
  | cancel => exact .inr rfl
  | _ => exact .inl rfl

/-- The run of a pool after a step from outside. -/
theorem view_follow {action : RunAction} {run : RunState}
    (outside : setup.isOutside action = true)
    (taken : runStep setup.specs (pool.view setup) action = some run) :
    Pool.view setup ⟨run, fun worker => (pool.locals worker).follow run.cancel (run.tasks worker)⟩ =
      run := by
  have same : (fun worker => if setup.isLocal worker then
      ((pool.locals worker).follow run.cancel (run.tasks worker)).task else run.tasks worker) =
      run.tasks := by
    funext worker
    by_cases own : setup.isLocal worker = true
    · rw [if_pos own]
      exact LocalTask.follow_task run.cancel (tasks_of_outside outside own taken)
    · rw [if_neg own]
  show { run with tasks := _ } = run
  rw [same]

end Pool

/-- What a local task does to the channels: commands leave its own, and a message of its own
arrives. -/
theorem channelStep_cases {capacity : Nat} {state run : RunState} {before link : State}
    {action : LinkAction}
    (channel : channelStep capacity worker state before link action = some run) :
    (∃ commands, commands.Sublist (state.commands worker) ∧
        run = state.setCommands worker commands) ∨
      ∃ message, sendsMessage? worker before = some message ∧
        run = { state with results := state.results ++ [message] } := by
  have still : ∃ commands, commands.Sublist (state.commands worker) ∧
      state = state.setCommands worker commands :=
    ⟨_, List.Sublist.refl _, (RunState.setCommands_same rfl).symm⟩
  cases action with
  | cancel | abort => cases channel
  | early command =>
    obtain ⟨given, received, rfl⟩ := Option.map_eq_some_iff.mp channel
    obtain ⟨commands, _, rfl⟩ := RunState.receive_fewer received
    refine .inl ⟨[], List.nil_sublist _, ?_⟩
    simp [RunState.setCommands]
  | command command =>
    have received : state.receive worker (some command) = some run := channel
    exact .inl (RunState.receive_fewer received)
  | closed =>
    have received : state.receive worker none = some run := channel
    exact .inl (RunState.receive_fewer received)
  | send delivered =>
    obtain ⟨message, sending, offered⟩ := Option.bind_eq_some_iff.mp channel
    rcases RunState.offer_cases offered with rfl | rfl
    · exact .inl still
    · exact .inr ⟨message, sending, rfl⟩
  | process index move =>
    obtain rfl := Option.some.inj channel
    exact .inl still
  | _ =>
    obtain rfl := Option.some.inj channel
    split
    · exact .inl ⟨[], List.nil_sublist _, rfl⟩
    · exact .inl still

/-- The channels keep the flag and the tasks. -/
theorem channelStep_frame {capacity : Nat} {state run : RunState} {before link : State}
    {action : LinkAction}
    (channel : channelStep capacity worker state before link action = some run) :
    run.tasks = state.tasks ∧ run.cancel = state.cancel := by
  rcases channelStep_cases channel with ⟨commands, _, rfl⟩ | ⟨message, _, rfl⟩
  · exact ⟨rfl, rfl⟩
  · exact ⟨rfl, rfl⟩

/-- Every step of a pool keeps it sound. -/
theorem Pool.Sound.step {action : PoolAction} (sound : pool.Sound setup permitted)
    (legal : PoolAnswers setup permitted pool action)
    (taken : poolStep setup pool action = some after) : after.Sound setup permitted := by
  have others : ∀ {run : RunState} {chosen : Nat} {task : LocalTask},
      run.cancel = pool.run.cancel →
      task.Sound (setup.localSpec chosen) permitted pool.run.cancel →
      (pool.moved run chosen task).Sound setup permitted := by
    intro run chosen task same own worker
    show (Function.update pool.locals chosen task worker).Sound _ _ run.cancel
    rw [same]
    by_cases here : worker = chosen
    · subst here
      rw [Function.update_self]
      exact own
    · rw [Function.update_of_ne here]
      exact sound worker
  cases action with
  | run action =>
    simp only [poolStep] at taken
    split at taken
    · obtain ⟨run, moved, rfl⟩ := Option.map_eq_some_iff.mp taken
      have grows := Pool.cancel_of_runStep moved
      exact fun worker => (sound worker).follow grows _
    · cases taken
  | link worker action =>
    simp only [poolStep] at taken
    split at taken
    · obtain ⟨link, moved, rest⟩ := Option.bind_eq_some_iff.mp taken
      obtain ⟨run, channel, rfl⟩ := Option.map_eq_some_iff.mp rest
      have other : action ≠ .cancel := by
        rintro rfl
        cases channel
      refine others (channelStep_frame channel).2 ((sound worker).step
        (running_of_channelStep moved channel) other ?_ moved)
      rintro index process path event rfl found place
      refine legal (path, event) ?_
      rw [Pool.evaluated?, found, Option.map_some, place]
      rfl
    · cases taken
  | exit worker delivered =>
    simp only [poolStep] at taken
    split at taken
    · split at taken
      · rename_i error failed
        obtain ⟨run, offered, rfl⟩ := Option.map_eq_some_iff.mp taken
        have own := sound worker
        refine others (RunState.offer_frame offered).2 ⟨own.link, own.counted, own.recent,
          own.cancel, fun _ => (LocalTask.over_of_exited failed).1, own.allows⟩
      · cases taken
    · cases taken
  | panic worker =>
    simp only [poolStep, Option.ite_none_right_eq_some, Option.some.injEq] at taken
    obtain ⟨_, rfl⟩ := taken
    exact others rfl ((sound worker).leave rfl)

/-- Every reachable pool is sound. -/
theorem Pool.sound_reachable
    (reached : (poolMachine setup).Reachable (PoolAnswers setup permitted) pool) :
    pool.Sound setup permitted := by
  induction reached with
  | start initial =>
    obtain rfl := initial
    intro worker
    refine ⟨State.sound_initial _, State.counted_initial _, trivial, rfl, ?_, ?_⟩
    · intro told
      cases told
    · intro trace member entry produced
      obtain ⟨process, listed, rfl⟩ := List.mem_map.mp member
      have there : process ∈
          if (setup.localSpec worker).forked then [Process.slot] else [] := listed
      split at there
      · obtain rfl := List.mem_singleton.mp there
        cases produced
      · cases there
  | next _ allowed taken ih => exact ih.step allowed taken

/-- What a step of a pool is for its run. -/
def Pool.Follows (setup : PoolSetup) (permitted : List String → Answer → Prop)
    (pool after : Pool) : Prop :=
  after.view setup = pool.view setup ∨ ∃ action, Answers permitted (pool.view setup) action ∧
    runStep setup.specs (pool.view setup) action = some (after.view setup)

/-- A step of the link of a local worker is one of its task, or none. -/
theorem Pool.follows_link {action : LinkAction} (sound : pool.Sound setup permitted)
    (later : after.Sound setup permitted) (failures : setup.Fails permitted)
    (taken : poolStep setup pool (.link worker action) = some after) :
    pool.Follows setup permitted after := by
  have own := later worker
  simp only [poolStep] at taken
  split at taken
  · rename_i mine
    obtain ⟨link, moved, rest⟩ := Option.bind_eq_some_iff.mp taken
    obtain ⟨run, channel, rfl⟩ := Option.map_eq_some_iff.mp rest
    obtain ⟨spec, found, plain, forked, label⟩ := PoolSetup.local_spec mine
    have before := sound worker
    unfold Follows
    rw [Pool.view_moved mine (channelStep_frame channel).1]
    rcases running_of_channelStep moved channel with ⟨index, move, rfl⟩ | running
    · obtain rfl := Option.some.inj channel
      simp only [linkStep] at moved
      split at moved
      · obtain ⟨changed, _, rfl⟩ := Option.map_eq_some_iff.mp moved
        exact .inl (RunState.setTask_same (Pool.view_local mine))
      · cases moved
    · have quiet := before.quiet running
      have here := (Pool.view_local mine).trans (LocalTask.task_of_running quiet)
      have there : LocalTask.task { pool.locals worker with link } = link.task :=
        LocalTask.task_of_running quiet
      simp only [Pool.moved, Function.update_self] at own
      rw [there]
      obtain same | ⟨step, legal, steps⟩ := mirrored_link here plain forked label before.cancel
        before.recent before.link own.link own.counted own.allows (failures worker mine) moved
        channel
      · exact .inl same
      · refine .inr ⟨.worker worker step, legal, ?_⟩
        simp only [runStep, found]
        exact steps
  · cases taken

/-- Telling of an error is a step of the task. -/
theorem Pool.follows_exit {delivered : Bool}
    (taken : poolStep setup pool (.exit worker delivered) = some after) :
    pool.Follows setup permitted after := by
  simp only [poolStep] at taken
  split at taken
  · rename_i mine
    split at taken
    · rename_i error failed
      obtain ⟨run, offered, rfl⟩ := Option.map_eq_some_iff.mp taken
      obtain ⟨spec, found, _⟩ := PoolSetup.local_spec mine
      have told : LocalTask.task { pool.locals worker with told := true } = .ended := by
        unfold LocalTask.task
        rw [(LocalTask.over_of_exited failed).2]
        rfl
      unfold Follows
      rw [Pool.view_moved mine (RunState.offer_frame offered).1, told]
      refine .inr ⟨.worker worker .proceed, trivial, ?_⟩
      simp only [runStep, found, workerStep, proceedStep, Pool.view_local mine, failed]
      rw [RunState.send_of_offer offered]
      cases delivered <;> rfl
    · cases taken
  · cases taken

/-- A panic is a step of the task. -/
theorem Pool.follows_panic (sound : pool.Sound setup permitted)
    (taken : poolStep setup pool (.panic worker) = some after) :
    pool.Follows setup permitted after := by
  simp only [poolStep, Option.ite_none_right_eq_some, Bool.and_eq_true, Bool.not_eq_true',
    Option.some.injEq] at taken
  obtain ⟨⟨mine, running⟩, rfl⟩ := taken
  obtain ⟨spec, found, _⟩ := PoolSetup.local_spec mine
  have quiet := (sound worker).quiet running
  have listens : ((pool.view setup).tasks worker).listening = true := by
    rw [Pool.view_local mine, LocalTask.task_of_running quiet]
    exact State.listening_of_running _ running
  let panicked : LocalTask := { pool.locals worker with
    link := (pool.locals worker).link.finish (.error "worker task panicked") }
  have there : panicked.task = .sendingExited "worker task panicked" :=
    LocalTask.task_of_running quiet
  have seen : (pool.moved ((pool.view setup).setCommands worker []) worker panicked).view setup =
      ((pool.view setup).setCommands worker []).setTask worker panicked.task :=
    Pool.view_moved mine rfl
  refine .inr ⟨.worker worker .panic, trivial, ?_⟩
  rw [seen, there]
  simp only [runStep, found, workerStep, listens, if_true]
  rfl

/-- A step from outside is the same step of the run. -/
theorem Pool.follows_run {action : RunAction} (legal : Answers permitted (pool.view setup) action)
    (taken : poolStep setup pool (.run action) = some after) :
    pool.Follows setup permitted after := by
  simp only [poolStep] at taken
  split at taken
  · rename_i outside
    obtain ⟨run, moved, rfl⟩ := Option.map_eq_some_iff.mp taken
    refine .inr ⟨action, legal, ?_⟩
    rw [Pool.view_follow outside moved]
    exact moved
  · cases taken

/-- The run of a pool at its start. -/
theorem Pool.view_initial (setup : PoolSetup) :
    (Pool.initial setup).view setup = .initial setup.specs := by
  have same : (fun worker => if setup.isLocal worker then
      ((Pool.initial setup).locals worker).task else WorkerTask.connecting) =
      fun _ => WorkerTask.connecting := by
    funext worker
    split <;> rfl
  exact congrArg (fun tasks => ({ RunState.initial setup.specs with tasks } : RunState)) same

/-- A pool refines the run in which each local worker is one task: what happens in the pool is what
happens in the run, or is not seen there. -/
def poolRefinement (setup : PoolSetup) (permitted : List String → Answer → Prop)
    (failures : setup.Fails permitted) :
    Refinement (poolMachine setup) (PoolAnswers setup permitted) (runMachine setup.specs)
      (Answers permitted) where
  view := Pool.view setup
  starts := by
    rintro pool rfl
    exact Pool.view_initial setup
  simulates := by
    intro pool action after reached allowed taken
    have sound := Pool.sound_reachable reached
    cases action with
    | run action => exact Pool.follows_run allowed taken
    | link worker action =>
      exact Pool.follows_link sound (sound.step allowed taken) failures taken
    | exit worker delivered => exact Pool.follows_exit taken
    | panic worker => exact Pool.follows_panic sound taken

end Pools

end Evix
