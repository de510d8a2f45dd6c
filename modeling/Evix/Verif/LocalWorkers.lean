import Evix.Verif.LocalLink

/-!
# Runs of a local worker

What holds of a local worker in every reachable state: each item is answered once, in order, with
the event that a process produced for it or with one of two failures; one process lives at a time,
none is given work after it announced a restart, and a new one is started only after a failure or a
restart.
-/

namespace Evix.LocalWorker

open Machines

/-! ## Counting -/

namespace Serving

/-- The item in hand. -/
def path? : Serving → Option (List String)
  | .sendingWork path | .awaitingEvent path | .awaitingStatus path _ | .draining path _ _
  | .aborting path | .sendingResult path _ _ => some path
  | _ => none

/-- The number of processes that the task is about to start. -/
def owed : Serving → Nat
  | .connecting | .attaching | .spawning | .retiring => 1
  | .settling failed status => if failed || status = .restart then 1 else 0
  | _ => 0

end Serving

/-- Whether the item in hand has failed. -/
def Serving.isFailing : Serving → Bool
  | .sendingResult _ (.error _) _ => true
  | _ => false

/-- How an item fails: its process is gone, or its time is up. -/
def Failure (spec : Spec) (path : List String) (error : String) : Prop :=
  error = timeoutReport spec path ∨
    ∃ phase source status stderr,
      error = exitError spec.label phase (".".intercalate path) source status stderr

/-- Whether a process is replaced after its answer. -/
def Report.replaces (report : Report) : Bool :=
  Answer.isError report.answer || report.status = .restart

namespace State

/-- The numbers of a state that its step can change. -/
structure Counts (before after : State) : Prop where
  /-- The socket is where it was. -/
  socket : after.socket = before.socket
  /-- No process is started. -/
  processes : after.processes.length = before.processes.length
  /-- No item is taken up. -/
  taken : after.taken = before.taken
  /-- No result is sent. -/
  reports : after.reports = before.reports

/-- What a step does to the numbers of a state. -/
inductive Coarse (spec : Spec) (before after : State) : Prop where
  /-- The task does not move. -/
  | stay (same : Counts before after) (serving : after.serving = before.serving)
  /-- The task goes on with what it has in hand. -/
  | go (same : Counts before after) (other : before.serving ≠ .connecting)
    (running : before.serving.isOver = false) (path : after.serving.path? = before.serving.path?)
    (owed : after.serving.owed ≤ before.serving.owed)
    (failure : ∀ path error status, after.serving = .sendingResult path (.error error) status →
      after.strayed = false → Failure spec path error)
  /-- The task is over. -/
  | leave (same : Counts before after) (running : before.serving.isOver = false)
    (left : after.serving.isOver = true)
  /-- The socket of the slot is taken. -/
  | take (connecting : before.serving = .connecting) (serving : after.serving = .attaching)
    (socket : after.socket = false) (processes : after.processes.length = before.processes.length)
    (taken : after.taken = before.taken) (reports : after.reports = before.reports)
  /-- A process is spawned. -/
  | spawn {index : Nat} (owed : before.serving.owed = 1) (running : before.serving.isOver = false)
    (path : before.serving.path? = none) (free : before.socket = false ∨ before.serving = .spawning)
    (serving : after.serving = .settingUp index) (socket : after.socket = before.socket)
    (processes : after.processes.length = before.processes.length + 1)
    (taken : after.taken = before.taken) (reports : after.reports = before.reports)
  /-- An item is taken up. -/
  | accept {path : List String} (receiving : before.serving = .receiving)
    (serving : after.serving = .sendingWork path) (socket : after.socket = before.socket)
    (processes : after.processes.length = before.processes.length)
    (taken : after.taken = before.taken ++ [path]) (reports : after.reports = before.reports)
  /-- A result is sent. -/
  | report {path : List String} {answer : Answer} {status : WorkerStatus}
    (sending : before.serving = .sendingResult path answer status)
    (serving : after.serving = .settling (Answer.isError answer) status ∨
      after.serving = .stopping) (socket : after.socket = before.socket)
    (processes : after.processes.length = before.processes.length)
    (taken : after.taken = before.taken)
    (reports : after.reports = before.reports ++
      [⟨before.taken.length - 1, path, answer, status, before.held⟩])

variable {spec : Spec} {state after : State}

/-- A frame leaves the numbers alone. -/
theorem Frame.counts (frame : Frame state after) : Counts state after :=
  ⟨frame.socket, frame.processes.length_eq.symm, frame.taken, frame.reports⟩

/-- The task returns. -/
theorem coarse_finish (result : Except String Unit) (running : state.serving.isOver = false) :
    Coarse spec state (state.finish result) :=
  .leave (state.frame_leave _).counts running rfl

/-- A task whose item has not failed has no failure. -/
theorem failure_of_plain {serving : Serving} (plain : serving.isFailing = false)
    {path : List String} {error : String} {status : WorkerStatus}
    (same : serving = .sendingResult path (.error error) status) : Failure spec path error := by
  rw [same] at plain
  cases plain

/-- The task goes on, with an item that has not failed. -/
theorem coarse_go (same : Counts state after) (other : state.serving ≠ .connecting)
    (running : state.serving.isOver = false) (path : after.serving.path? = state.serving.path?)
    (owed : after.serving.owed ≤ state.serving.owed) (plain : after.serving.isFailing = false) :
    Coarse spec state after :=
  .go same other running path owed fun _ _ _ reached _ => failure_of_plain plain reached

/-- The task goes on, with as many processes. -/
theorem coarse_to {serving : Serving} {held : Option Nat} {cancel strayed : Bool}
    {processes : List Process} (length : processes.length = state.processes.length)
    (other : state.serving ≠ .connecting) (running : state.serving.isOver = false)
    (path : serving.path? = state.serving.path?) (owed : serving.owed ≤ state.serving.owed)
    (plain : serving.isFailing = false) :
    Coarse spec state { state with serving, held, cancel, strayed, processes } :=
  coarse_go ⟨rfl, length, rfl, rfl⟩ other running path owed plain

/-- Reading a response changes one process. -/
theorem counts_takeResponse {index : Nat} {read : ServerMessage × State}
    (taken : state.takeResponse index = some read) :
    Counts state read.2 ∧ read.2.serving = state.serving := by
  obtain ⟨process, message, responses, _, _, rfl⟩ := takeResponse_some taken
  exact ⟨⟨rfl, List.length_set, rfl, rfl⟩, rfl⟩

/-- Numbers that do not change twice. -/
theorem Counts.trans {before middle after : State} (first : Counts before middle)
    (second : Counts middle after) : Counts before after :=
  ⟨second.socket.trans first.socket, second.processes.trans first.processes,
    second.taken.trans first.taken, second.reports.trans first.reports⟩

/-- What reading a response does to the numbers. -/
theorem coarse_readMessage (taken : readMessage spec state = some after) :
    Coarse spec state after := by
  unfold readMessage at taken
  split at taken
  · rename_i index serving
    obtain ⟨read, given, rfl⟩ := Option.map_eq_some_iff.mp taken
    obtain ⟨same, place⟩ := counts_takeResponse given
    have running : state.serving.isOver = false := by simp [serving, Serving.isOver]
    unfold readReady
    split
    · have frame := read.2.frame_dropHeld.counts
      have all := same.trans frame
      have target : ∀ first : Bool,
          (if first then Serving.announcing else .receiving).path? = none ∧
          (if first then Serving.announcing else .receiving).owed = 0 ∧
          (if first then Serving.announcing else .receiving).isFailing = false := by decide
      obtain ⟨path, owed, plain⟩ := target (spec.forked && read.2.held.isNone)
      refine coarse_go ⟨all.socket, all.processes, all.taken, all.reports⟩ (by simp [serving])
        running ?_ ?_ plain
      · rw [serving]
        exact path
      · exact Nat.le_trans (Nat.le_of_eq owed) (Nat.zero_le _)
    all_goals
      have all := same.trans (read.2.frame_leave (.ended (.ok ()))).counts
      exact .leave ⟨all.socket, all.processes, all.taken, all.reports⟩ running rfl
  · rename_i path serving
    obtain ⟨read, given, rfl⟩ := Option.map_eq_some_iff.mp taken
    obtain ⟨index, held, chosen⟩ := Option.bind_eq_some_iff.mp given
    obtain ⟨same, place⟩ := counts_takeResponse chosen
    have running : state.serving.isOver = false := by simp [serving, Serving.isOver]
    have path : (Serving.awaitingEvent path).path? = state.serving.path? := by rw [serving]
    have other : state.serving ≠ .connecting := by simp [serving]
    unfold readEvent
    split
    · exact coarse_go ⟨same.socket, same.processes, same.taken, same.reports⟩ other running path
        (Nat.zero_le _) rfl
    all_goals
      exact .go ⟨same.socket, same.processes, same.taken, same.reports⟩ other running path
        (Nat.zero_le _) fun _ _ _ _ calm => absurd calm (by simp)
  · rename_i path event serving
    obtain ⟨read, given, rfl⟩ := Option.map_eq_some_iff.mp taken
    obtain ⟨index, held, chosen⟩ := Option.bind_eq_some_iff.mp given
    obtain ⟨same, place⟩ := counts_takeResponse chosen
    have running : state.serving.isOver = false := by simp [serving, Serving.isOver]
    have path : (Serving.awaitingEvent path).path? = state.serving.path? := by rw [serving]; rfl
    have other : state.serving ≠ .connecting := by simp [serving]
    unfold readStatus
    split
    · exact coarse_go ⟨same.socket, same.processes, same.taken, same.reports⟩ other running path
        (Nat.zero_le _) rfl
    all_goals
      exact .go ⟨same.socket, same.processes, same.taken, same.reports⟩ other running path
        (Nat.zero_le _) fun _ _ _ _ calm => absurd calm (by simp)
  · cases taken

/-- What spawning a process does to the numbers. -/
theorem coarse_spawned (outcome : Except String Unit) (owed : state.serving.owed = 1)
    (running : state.serving.isOver = false) (path : state.serving.path? = none)
    (free : state.socket = false ∨ state.serving = .spawning) :
    Coarse spec state (match outcome with
      | .ok () =>
        { state with
          processes := state.processes ++ [.spawned]
          serving := .settingUp state.processes.length }
      | .error error => state.finish (.error error)) := by
  cases outcome with
  | ok done => exact .spawn owed running path free rfl rfl List.length_append rfl rfl
  | error error => exact coarse_finish _ running

/-- What connecting does to the numbers. -/
theorem coarse_connectStep {outcome : Except String Unit}
    (taken : connectStep state outcome = some after) : Coarse spec state after := by
  simp only [connectStep] at taken
  split at taken
  · rename_i serving
    split at taken
    · obtain rfl := Option.some.inj taken
      exact .take serving rfl rfl rfl rfl rfl
    · rename_i socket
      obtain rfl := Option.some.inj taken
      exact coarse_spawned outcome (by rw [serving]; rfl) (by rw [serving]; rfl)
        (by rw [serving]; rfl) (.inl (Bool.eq_false_of_not_eq_true socket))
  · rename_i serving
    obtain rfl := Option.some.inj taken
    exact coarse_spawned outcome (by rw [serving]; rfl) (by rw [serving]; rfl)
      (by rw [serving]; rfl) (.inr serving)
  · cases taken

/-- What reading a pid does to the numbers. -/
theorem coarse_readPid {opened : Except String Unit} (taken : readPid state opened = some after) :
    Coarse spec state after := by
  unfold readPid at taken
  split at taken
  · rename_i process serving there
    have running : state.serving.isOver = false := by simp [serving, Serving.isOver]
    have same : Counts state (state.setProcess 0 { process with pid := none }) :=
      ⟨rfl, List.length_set, rfl, rfl⟩
    have left : ∀ result, Coarse spec state
        ((state.setProcess 0 { process with pid := none }).finish result) := fun result =>
      .leave (same.trans (frame_leave _ _).counts) running rfl
    obtain ⟨pid, _, rfl⟩ := Option.map_eq_some_iff.mp taken
    split
    · split
      · exact coarse_go ⟨rfl, List.length_set, rfl, rfl⟩ (by simp [serving]) running
          (by rw [serving]; rfl) (Nat.zero_le _) rfl
      · exact left _
    · exact left _
  · cases taken

/-- What a failure of the master does to the numbers. -/
theorem coarse_failStep {source : String} (taken : failStep state source = some after) :
    Coarse spec state after := by
  unfold failStep at taken
  split at taken
  · rename_i serving
    obtain rfl := Option.some.inj taken
    exact coarse_finish _ (by rw [serving]; rfl)
  all_goals first
    | (rename_i serving
       obtain rfl := Option.some.inj taken
       exact coarse_to rfl (by simp [serving]) (by rw [serving]; rfl) (by rw [serving]; rfl)
         (Nat.zero_le _) rfl)
    | cases taken

/-- What a time limit does to the numbers. -/
theorem coarse_timeoutStep (taken : timeoutStep spec state = some after) :
    Coarse spec state after := by
  have late : ∀ {index : Nat} {attached : Except String Unit} {source : String},
      state.serving ≠ .connecting → state.serving.isOver = false → state.serving.path? = none →
      Coarse spec state (if spec.forked && index == 0 then state.finish attached
        else { state.modify index .kill with
          serving := .startDraining index "handshake" source }) := by
    intro index attached source other running none
    split
    · exact coarse_finish _ running
    · exact coarse_to (List.length_modify _ _ _) other running none.symm (Nat.zero_le _) rfl
  simp only [timeoutStep] at taken
  split at taken
  · rename_i serving
    obtain rfl := Option.some.inj taken
    exact coarse_finish _ (by rw [serving]; rfl)
  all_goals first
    | (rename_i serving
       obtain rfl := Option.some.inj taken
       exact late (by simp [serving]) (by rw [serving]; rfl) (by rw [serving]; rfl))
    | (rename_i serving
       obtain ⟨index, _, rfl⟩ := Option.map_eq_some_iff.mp taken
       exact coarse_to (List.length_modify _ _ _) (by simp [serving]) (by rw [serving]; rfl)
         (by rw [serving]; rfl) (Nat.zero_le _) rfl)
    | cases taken

/-- What the end of a process that is awaited does to the numbers. -/
theorem coarse_exitedStep {status : Option String} {stderr : String}
    (taken : exitedStep spec state status stderr = some after) : Coarse spec state after := by
  simp only [exitedStep] at taken
  split at taken
  · rename_i serving
    split at taken
    · obtain rfl := Option.some.inj taken
      exact coarse_finish _ (by rw [serving]; rfl)
    · cases taken
  · rename_i serving
    split at taken
    · obtain rfl := Option.some.inj taken
      refine .go ⟨rfl, rfl, rfl, rfl⟩ (by simp [serving]) (by rw [serving]; rfl)
        (by rw [serving]; rfl) (Nat.zero_le _) fun _ _ _ reached _ => ?_
      cases reached
      exact .inr ⟨_, _, _, _, rfl⟩
    · cases taken
  · rename_i serving
    split at taken
    · obtain rfl := Option.some.inj taken
      refine .go ⟨rfl, rfl, rfl, rfl⟩ (by simp [serving]) (by rw [serving]; rfl)
        (by rw [serving]; rfl) (Nat.zero_le _) fun _ _ _ reached _ => ?_
      cases reached
      exact .inl rfl
    · cases taken
  · rename_i serving
    split at taken
    · obtain rfl := Option.some.inj taken
      exact coarse_to rfl (by simp [serving]) (by rw [serving]; rfl) (by rw [serving]; rfl)
        (by rw [serving]; exact Nat.le_refl 1) rfl
    · cases taken
  · rename_i serving
    split at taken
    · obtain rfl := Option.some.inj taken
      exact coarse_finish _ (by rw [serving]; rfl)
    · cases taken
  · cases taken

/-- What an early command does to the numbers. -/
theorem coarse_early {command : Option WorkerCommand}
    (taken : linkStep spec state (.early command) = some after) : Coarse spec state after := by
  simp only [linkStep] at taken
  split at taken
  · rename_i early
    simp only [Bool.and_eq_true] at early
    have running := isOver_of_isConnecting early.2
    split at taken
    all_goals
      obtain rfl := Option.some.inj taken
      exact coarse_finish _ running
  · cases taken

/-- What reading end-of-file does to the numbers. -/
theorem coarse_readEnd (taken : readEnd state = some after) : Coarse spec state after := by
  unfold readEnd at taken
  split at taken
  · rename_i process serving there
    split at taken
    · obtain rfl := Option.some.inj taken
      exact coarse_to (List.length_modify _ _ _) (by simp [serving]) (by rw [serving]; rfl)
        (by rw [serving]; rfl) (by rw [serving]; exact Nat.le_refl 1) rfl
    · cases taken
  · cases taken

/-- What a command does to the numbers. -/
theorem coarse_command {command : WorkerCommand}
    (taken : linkStep spec state (.command command) = some after) : Coarse spec state after := by
  simp only [linkStep] at taken
  split at taken
  · rename_i receiving
    have other : state.serving ≠ .connecting := by simp [receiving]
    have running : state.serving.isOver = false := by simp [receiving, Serving.isOver]
    split at taken
    · obtain rfl := Option.some.inj taken
      exact coarse_to rfl other running (by rw [receiving]; rfl) (Nat.zero_le _) rfl
    · split at taken
      · obtain rfl := Option.some.inj taken
        exact .accept receiving rfl rfl rfl rfl rfl
      · obtain rfl := Option.some.inj taken
        exact coarse_to rfl other running (by rw [receiving]; rfl) (Nat.zero_le _) rfl
  · cases taken

/-- What the end of the commands does to the numbers. -/
theorem coarse_closed (taken : linkStep spec state .closed = some after) :
    Coarse spec state after := by
  simp only [linkStep] at taken
  split at taken
  · rename_i receiving
    obtain rfl := Option.some.inj taken
    exact coarse_to rfl (by simp [receiving]) (by rw [receiving]; rfl) (by rw [receiving]; rfl)
      (Nat.zero_le _) rfl
  · cases taken

/-- What writing a request does to the numbers. -/
theorem coarse_write (taken : linkStep spec state .write = some after) :
    Coarse spec state after := by
  simp only [linkStep] at taken
  split at taken
  · rename_i index serving
    obtain ⟨process, found, rfl⟩ := Option.map_eq_some_iff.mp taken
    exact coarse_go ⟨rfl, List.length_set, rfl, rfl⟩ (by simp [serving]) (by rw [serving]; rfl)
      (by rw [serving]; rfl) (Nat.zero_le _) rfl
  · rename_i path serving
    obtain ⟨written, given, rfl⟩ := Option.map_eq_some_iff.mp taken
    obtain ⟨index, process, _, _, rfl⟩ := request_some given
    exact coarse_go ⟨rfl, List.length_set, rfl, rfl⟩ (by simp [serving]) (by rw [serving]; rfl)
      (by rw [serving]; rfl) (Nat.zero_le _) rfl
  · cases taken

/-- What sending a message does to the numbers. -/
theorem coarse_send {delivered : Bool}
    (taken : linkStep spec state (.send delivered) = some after) : Coarse spec state after := by
  simp only [linkStep] at taken
  split at taken
  · rename_i serving
    obtain rfl := Option.some.inj taken
    cases delivered with
    | true =>
      exact coarse_to rfl (by simp [serving]) (by rw [serving]; rfl) (by rw [serving]; rfl)
        (Nat.zero_le _) rfl
    | false => exact coarse_finish _ (by rw [serving]; rfl)
  · rename_i path answer status serving
    obtain rfl := Option.some.inj taken
    cases delivered with
    | true => exact .report serving (.inl rfl) rfl rfl rfl rfl
    | false => exact .report serving (.inr rfl) rfl rfl rfl rfl
  · rename_i serving
    obtain rfl := Option.some.inj taken
    exact coarse_to rfl (by simp [serving]) (by rw [serving]; rfl) (by rw [serving]; rfl)
      (Nat.zero_le _) rfl
  · cases taken

/-- What the task decides after a result does to the numbers. -/
theorem coarse_settle (taken : linkStep spec state .settle = some after) :
    Coarse spec state after := by
  simp only [linkStep] at taken
  split at taken
  · rename_i failed status serving
    obtain rfl := Option.some.inj taken
    refine coarse_to rfl (by simp [serving]) (by rw [serving]; rfl) ?_ ?_ ?_
    · rw [serving]
      split
      · rfl
      · split <;> rfl
    · rw [serving]
      cases failed <;> cases status <;> cases state.cancel <;> decide
    · split
      · rfl
      · split <;> rfl
  · cases taken

/-- What stopping a process does to the numbers. -/
theorem coarse_stop {written : Bool} (taken : linkStep spec state (.stop written) = some after) :
    Coarse spec state after := by
  simp only [linkStep] at taken
  split at taken
  · rename_i serving
    obtain rfl := Option.some.inj taken
    have same : Counts state (if written then (state.request .shutdown []).getD state
        else state) := by
      cases written with
      | false => exact ⟨rfl, rfl, rfl, rfl⟩
      | true =>
        cases asked : state.request .shutdown [] with
        | none => exact ⟨rfl, rfl, rfl, rfl⟩
        | some requested =>
          obtain ⟨index, process, _, _, rfl⟩ := request_some asked
          exact ⟨rfl, List.length_set, rfl, rfl⟩
    exact coarse_go ⟨same.socket, same.processes, same.taken, same.reports⟩ (by simp [serving])
      (by rw [serving]; rfl) (by rw [serving]; rfl) (Nat.zero_le _) rfl
  · cases taken

/-- What every step does to the numbers. -/
theorem linkStep_coarse {action : LinkAction} (taken : linkStep spec state action = some after) :
    Coarse spec state after := by
  cases action with
  | cancel =>
    obtain rfl := Option.some.inj taken
    exact .stay ⟨rfl, rfl, rfl, rfl⟩ rfl
  | abort =>
    simp only [linkStep, Option.ite_none_right_eq_some, Option.some.injEq, Bool.and_eq_true,
      Bool.not_eq_true'] at taken
    obtain ⟨⟨_, running⟩, rfl⟩ := taken
    exact .leave (state.frame_leave _).counts running rfl
  | early command => exact coarse_early taken
  | connect outcome => exact coarse_connectStep taken
  | readPid opened => exact coarse_readPid taken
  | readEnd => exact coarse_readEnd taken
  | command command => exact coarse_command taken
  | closed => exact coarse_closed taken
  | write => exact coarse_write taken
  | read => exact coarse_readMessage taken
  | failed source => exact coarse_failStep taken
  | timeout => exact coarse_timeoutStep taken
  | exited status stderr => exact coarse_exitedStep taken
  | send delivered => exact coarse_send taken
  | settle => exact coarse_settle taken
  | stop written => exact coarse_stop taken
  | process index action =>
    simp only [linkStep] at taken
    split at taken
    · obtain ⟨changed, _, rfl⟩ := Option.map_eq_some_iff.mp taken
      exact .stay ⟨rfl, List.length_set, rfl, rfl⟩ rfl
    · cases taken

/-! ## What the numbers say -/

/-- The invariant of the numbers. -/
structure Counted (spec : Spec) (state : State) : Prop where
  /-- The socket of the slot is taken first. -/
  slot : state.socket = true → state.serving = .connecting ∨ state.serving.isOver = true
  /-- The item in hand is the last one taken up. -/
  hand : ∀ path, state.serving.path? = some path →
    state.taken[state.reports.length]? = some path ∧
      state.taken.length = state.reports.length + 1
  /-- A task without an item in hand has reported everything. -/
  idle : state.serving.path? = none → state.serving.isOver = false →
    state.taken.length = state.reports.length
  /-- At most one item is not reported. -/
  most : state.taken.length ≤ state.reports.length + 1
  /-- Results are for the items in order. -/
  numbered : ∀ (index : Nat) (report : Report), state.reports[index]? = some report →
    report.item = index ∧ state.taken[index]? = some report.path
  /-- A process is started for the slot, at the start, and for each one replaced. -/
  started : state.processes.length + state.serving.owed ≤
    (if spec.forked then 1 else 0) + 1 + state.reports.countP Report.replaces
  /-- The item in hand fails in a known way. -/
  failing : ∀ path error status, state.serving = .sendingResult path (.error error) status →
    Failure spec path error
  /-- Items fail in a known way. -/
  failed : ∀ report ∈ state.reports, ∀ error, report.answer = .error error →
    Failure spec report.path error

/-- A task that is over has no item in hand. -/
theorem path?_of_isOver {serving : Serving} (left : serving.isOver = true) :
    serving.path? = none ∧ serving.owed = 0 ∧ serving ≠ .connecting ∧
      serving.isFailing = false := by
  cases serving with
  | ended | aborted => exact ⟨rfl, rfl, by simp, rfl⟩
  | _ => cases left

/-- The socket of the slot is taken once the task goes on. -/
theorem Counted.free (counted : Counted spec state) (other : state.serving ≠ .connecting)
    (running : state.serving.isOver = false) : state.socket = false := by
  rw [Bool.eq_false_iff]
  intro waits
  rcases counted.slot waits with connecting | left
  · exact other connecting
  · rw [running] at left
    cases left

/-- A step that takes up no item and sends no result keeps the numbers right. -/
theorem Counted.carry (counted : Counted spec state) (taken : after.taken = state.taken)
    (reports : after.reports = state.reports)
    (slot : after.socket = true → after.serving = .connecting ∨ after.serving.isOver = true)
    (hand : ∀ path, after.serving.path? = some path → state.serving.path? = some path)
    (idle : after.serving.path? = none → after.serving.isOver = false →
      state.serving.path? = none ∧ state.serving.isOver = false)
    (started : after.processes.length + after.serving.owed ≤
      state.processes.length + state.serving.owed)
    (failing : ∀ path error status, after.serving = .sendingResult path (.error error) status →
      Failure spec path error) : Counted spec after := by
  have limit := counted.started
  refine ⟨slot, fun path some => ?_, fun none running => ?_, ?_, ?_, ?_, failing, ?_⟩
  · rw [taken, reports]
    exact counted.hand path (hand path some)
  · rw [taken, reports]
    obtain ⟨free, ran⟩ := idle none running
    exact counted.idle free ran
  · rw [taken, reports]
    exact counted.most
  · rw [taken, reports]
    exact counted.numbered
  · rw [reports]
    omega
  · rw [reports]
    exact counted.failed

/-- A step in which the task does not move keeps the numbers right. -/
theorem Counted.stay (counted : Counted spec state) (same : Counts state after)
    (serving : after.serving = state.serving) : Counted spec after := by
  refine counted.carry same.taken same.reports ?_ ?_ ?_ ?_ ?_
  · rw [same.socket, serving]
    exact counted.slot
  · rw [serving]
    exact fun _ some => some
  · rw [serving]
    exact fun none running => ⟨none, running⟩
  · rw [same.processes, serving]
  · rw [serving]
    exact counted.failing

/-- A task that goes on keeps the numbers right. -/
theorem Counted.go (counted : Counted spec state) (same : Counts state after)
    (other : state.serving ≠ .connecting) (running : state.serving.isOver = false)
    (path : after.serving.path? = state.serving.path?)
    (owed : after.serving.owed ≤ state.serving.owed)
    (failing : ∀ path error status, after.serving = .sendingResult path (.error error) status →
      Failure spec path error) : Counted spec after := by
  refine counted.carry same.taken same.reports (fun waits => ?_) ?_ ?_ ?_ failing
  · rw [same.socket, counted.free other running] at waits
    cases waits
  · rw [path]
    exact fun _ some => some
  · rw [path]
    exact fun none _ => ⟨none, running⟩
  · rw [same.processes]
    omega

/-- A task that is over keeps the numbers right. -/
theorem Counted.leave (counted : Counted spec state) (same : Counts state after)
    (left : after.serving.isOver = true) : Counted spec after := by
  obtain ⟨path, owed, other, plain⟩ := path?_of_isOver left
  refine counted.carry same.taken same.reports (fun _ => .inr left) (fun hand some => ?_)
    (fun _ running => ?_) ?_ fun path error status reached => failure_of_plain plain reached
  · rw [path] at some
    cases some
  · rw [left] at running
    cases running
  · rw [same.processes, owed]
    omega

/-- A task that takes the socket of its slot keeps the numbers right. -/
theorem Counted.take (counted : Counted spec state) (connecting : state.serving = .connecting)
    (serving : after.serving = .attaching) (socket : after.socket = false)
    (processes : after.processes.length = state.processes.length)
    (taken : after.taken = state.taken) (reports : after.reports = state.reports) :
    Counted spec after := by
  refine counted.carry taken reports (fun waits => ?_) (fun path some => ?_) (fun _ _ => ?_) ?_
    fun path error status reached => ?_
  · rw [socket] at waits
    cases waits
  · rw [serving] at some
    cases some
  · rw [connecting]
    exact ⟨rfl, rfl⟩
  · rw [processes, connecting, serving]
    exact Nat.le_refl _
  · rw [serving] at reached
    cases reached

/-- A task that spawns a process keeps the numbers right. -/
theorem Counted.spawn (counted : Counted spec state) {index : Nat} (owed : state.serving.owed = 1)
    (running : state.serving.isOver = false) (none : state.serving.path? = none)
    (free : state.socket = false ∨ state.serving = .spawning)
    (serving : after.serving = .settingUp index) (socket : after.socket = state.socket)
    (processes : after.processes.length = state.processes.length + 1)
    (taken : after.taken = state.taken) (reports : after.reports = state.reports) :
    Counted spec after := by
  have closed : state.socket = false := by
    rcases free with free | spawning
    · exact free
    · exact counted.free (by rw [spawning]; simp) running
  refine counted.carry taken reports (fun waits => ?_) (fun path some => ?_)
    (fun _ _ => ⟨none, running⟩) ?_ fun path error status reached => ?_
  · rw [socket, closed] at waits
    cases waits
  · rw [serving] at some
    cases some
  · rw [processes, owed, serving]
    exact Nat.le_refl _
  · rw [serving] at reached
    cases reached

/-- Taking up an item keeps the numbers right. -/
theorem Counted.accept (counted : Counted spec state) {path : List String}
    (receiving : state.serving = .receiving) (serving : after.serving = .sendingWork path)
    (socket : after.socket = state.socket)
    (processes : after.processes.length = state.processes.length)
    (taken : after.taken = state.taken ++ [path]) (reports : after.reports = state.reports) :
    Counted spec after := by
  have all := counted.idle (by rw [receiving]; rfl) (by rw [receiving]; rfl)
  have free := counted.free (by rw [receiving]; simp) (by rw [receiving]; rfl)
  have limit := counted.started
  refine ⟨fun waits => ?_, fun hand some => ?_, fun none _ => ?_, ?_, fun index report found => ?_,
    ?_, fun path error status reached => ?_, ?_⟩
  · rw [socket, free] at waits
    cases waits
  · rw [serving] at some
    obtain rfl := Option.some.inj some
    rw [taken, reports, ← all]
    exact ⟨List.getElem?_concat_length, List.length_append⟩
  · rw [serving] at none
    cases none
  · rw [taken, reports, List.length_append, List.length_singleton]
    omega
  · rw [reports] at found
    obtain ⟨item, there⟩ := counted.numbered index report found
    rw [taken]
    exact ⟨item, Transcript.getElem?_within (List.prefix_append _ _) there⟩
  · have nothing : after.serving.owed = 0 := by rw [serving]; rfl
    rw [processes, reports, nothing]
    omega
  · rw [serving] at reached
    cases reached
  · rw [reports]
    exact counted.failed

/-- Sending a result keeps the numbers right. -/
theorem Counted.report (counted : Counted spec state) {path : List String} {answer : Answer}
    {status : WorkerStatus} (sending : state.serving = .sendingResult path answer status)
    (serving : after.serving = .settling (Answer.isError answer) status ∨
      after.serving = .stopping) (socket : after.socket = state.socket)
    (processes : after.processes.length = state.processes.length)
    (taken : after.taken = state.taken)
    (reports : after.reports = state.reports ++
      [⟨state.taken.length - 1, path, answer, status, state.held⟩]) : Counted spec after := by
  obtain ⟨last, length⟩ := counted.hand path (by rw [sending]; rfl)
  have free := counted.free (by rw [sending]; simp) (by rw [sending]; rfl)
  have limit := counted.started
  have none : after.serving.path? = Option.none := by
    rcases serving with serving | serving <;> rw [serving] <;> rfl
  refine ⟨fun waits => ?_, fun hand some => ?_, fun _ _ => ?_, ?_, fun index report found => ?_,
    ?_, fun other error status reached => ?_, fun report member error failed => ?_⟩
  · rw [socket, free] at waits
    cases waits
  · rw [none] at some
    cases some
  · rw [taken, reports, List.length_append, length]
    rfl
  · rw [taken, reports, List.length_append, length]
    exact Nat.le_succ _
  · rw [reports] at found
    rw [taken]
    by_cases inside : index < state.reports.length
    · rw [List.getElem?_append_left inside] at found
      exact counted.numbered index report found
    · rw [List.getElem?_append_right (Nat.le_of_not_lt inside)] at found
      have final := (List.getElem?_eq_some_iff.mp found).1
      rw [List.length_singleton] at final
      obtain rfl := List.mem_singleton.mp (List.mem_of_getElem? found)
      obtain rfl : index = state.reports.length := by omega
      exact ⟨by rw [length]; rfl, last⟩
  · have owes : after.serving.owed ≤
        if Answer.isError answer || status = .restart then 1 else 0 := by
      rcases serving with settling | stopping
      · rw [settling]
        exact Nat.le_refl _
      · rw [stopping]
        exact Nat.zero_le _
    have same : Report.replaces ⟨state.taken.length - 1, path, answer, status, state.held⟩ =
        (Answer.isError answer || status = .restart) := rfl
    rw [processes, reports, List.countP_append, List.countP_singleton, same]
    omega
  · rcases serving with serving | serving <;> rw [serving] at reached <;> cases reached
  · rw [reports] at member
    obtain old | new := List.mem_append.mp member
    · exact counted.failed report old error failed
    · obtain rfl := List.mem_singleton.mp new
      obtain rfl : answer = .error error := failed
      exact counted.failing path error status sending

/-- Every step keeps the numbers right. -/
theorem Counted.step (counted : Counted spec state) (calm : after.strayed = false)
    (coarse : Coarse spec state after) : Counted spec after := by
  cases coarse with
  | stay same serving => exact counted.stay same serving
  | go same other running path owed failure =>
    exact counted.go same other running path owed fun path error status reached =>
      failure path error status reached calm
  | leave same running left => exact counted.leave same left
  | take connecting serving socket processes taken reports =>
    exact counted.take connecting serving socket processes taken reports
  | spawn owed running none free serving socket processes taken reports =>
    exact counted.spawn owed running none free serving socket processes taken reports
  | accept receiving serving socket processes taken reports =>
    exact counted.accept receiving serving socket processes taken reports
  | report sending serving socket processes taken reports =>
    exact counted.report sending serving socket processes taken reports

/-- The numbers are right before the task connects. -/
theorem counted_initial (spec : Spec) : Counted spec (initial spec) where
  slot _ := .inl rfl
  hand path some := by cases some
  idle _ _ := rfl
  most := Nat.zero_le _
  numbered index report found := by cases found
  started := by
    cases forked : spec.forked <;> simp [initial, forked, Serving.owed]
  failing path error status reached := by cases reached
  failed report member := by cases member

/-- Every reachable state is sound, and its numbers are right. -/
theorem sound_reachable {legal : State → LinkAction → Prop}
    (reached : (linkMachine spec).Reachable legal state) : state.Sound ∧ Counted spec state := by
  induction reached with
  | start initial =>
    obtain rfl := initial
    exact ⟨sound_initial spec, counted_initial spec⟩
  | next earlier allowed taken ih =>
    have sound := ih.1.step ih.2.slot taken
    exact ⟨sound, ih.2.step sound.calm (linkStep_coarse taken)⟩

end State

/-! ## A result can always be sent -/

section Reporting

variable {spec : Spec} {state : State}

/-- Whether a state has the result of one more item than another. -/
def State.ReportsOne (state after : State) : Prop :=
  after.taken = state.taken ∧ after.reports.length = state.reports.length + 1

/-- What ends an item: its time, and the end of its process. -/
def LinkAction.Ends : LinkAction → Prop
  | .timeout | .process _ .die | .exited .. | .send true => True
  | _ => False

/-- Whether the end of the item in hand leads to its result. -/
def State.CanReport (spec : Spec) (state : State) : Prop :=
  ∃ actions after, (linkMachine spec).Run (fun _ _ => True) state actions after ∧
    (∀ action ∈ actions, action.Ends) ∧ state.ReportsOne after

/-- A task that has its answer sends the result. -/
theorem State.send_reports {path : List String} {answer : Answer} {status : WorkerStatus}
    (serving : state.serving = .sendingResult path answer status) :
    ∃ after, (linkMachine spec).Step (fun _ _ => True) state (.send true) after ∧
      state.ReportsOne after := by
  let sent : State := { state with
    serving := .settling (Answer.isError answer) status
    reports := state.reports ++ [⟨state.taken.length - 1, path, answer, status, state.held⟩] }
  have step : linkStep spec state (.send true) = some sent := by
    rw [linkStep, serving]
    rfl
  exact ⟨sent, ⟨trivial, step⟩, rfl, List.length_append⟩

/-- A task whose process is dead gives up the item. -/
theorem State.gone_reports {path : List String} (serving : state.serving = .aborting path)
    (gone : state.isHeldGone = true) : state.CanReport spec := by
  have exits : linkStep spec state (.exited none "") =
      some (state.answer path (.error (timeoutReport spec path)) .ready) := by
    rw [linkStep, exitedStep, serving]
    exact if_pos gone
  have answered : (state.answer path (.error (timeoutReport spec path)) .ready).serving =
      .sendingResult path (.error (timeoutReport spec path)) .ready := rfl
  obtain ⟨after, step, reported⟩ : ∃ after, (linkMachine spec).Step (fun _ _ => True) _
    (.send true) after ∧ State.ReportsOne _ after := State.send_reports answered
  refine ⟨[.exited none "", .send true], after, .cons ⟨trivial, exits⟩ (.cons step (.nil _)), ?_,
    reported⟩
  simp [LinkAction.Ends]

/-- A task that aborts its process gives up the item once the process is dead. -/
theorem State.abort_reports {path : List String} (serving : state.serving = .aborting path)
    (holds : state.Holds Process.Any) : state.CanReport spec := by
  obtain ⟨index, process, held, _, found, _⟩ := holds
  by_cases place : process.place = .gone
  · refine State.gone_reports serving ?_
    simp [isHeldGone, held, isGone, found, place]
  · have dies : linkStep spec state (.process index .die) =
        some (state.setProcess index { process with place := .gone }) := by
      have step : runStep spec.config process .die = some { process with place := .gone } := by
        cases there : process.place <;>
          first | exact absurd there place | simp only [runStep, there]
      simp only [linkStep, found, step, Option.map_some]
    have gone : (state.setProcess index { process with place := .gone }).isHeldGone = true := by
      have there : (state.setProcess index { process with place := .gone }).processes[index]? =
          some { process with place := .gone } := State.getElem?_set found
      have same : (state.setProcess index { process with place := .gone }).held = some index := held
      simp [isHeldGone, same, isGone, there]
    have aborting : (state.setProcess index { process with place := .gone }).serving =
        .aborting path := serving
    obtain ⟨actions, after, run, ends, reported⟩ : State.CanReport spec _ :=
      State.gone_reports aborting gone
    refine ⟨.process index .die :: actions, after, .cons ⟨trivial, dies⟩ run, ?_, reported⟩
    intro action member
    obtain rfl | rest := List.mem_cons.mp member
    · trivial
    · exact ends action rest

/-- A task whose time is up gives up the item. -/
theorem State.overdue_reports (path : List String) {property : Process → Prop}
    (holds : state.Holds property)
    (limit : linkStep spec state .timeout =
      state.held.map fun index => { state.modify index .kill with serving := .aborting path }) :
    state.CanReport spec := by
  obtain ⟨index, process, held, last, found, has⟩ := holds
  let killed : State := { state.modify index .kill with serving := .aborting path }
  have step : linkStep spec state .timeout = some killed := by
    rw [limit, held]
    rfl
  have own : state.Holds Process.Any := ⟨index, process, held, last, found, trivial⟩
  have frame := state.frame_modify index Process.kept_kill
  have still : killed.Holds Process.Any := own.kept rfl frame.processes fun _ _ _ _ => trivial
  have aborting : killed.serving = .aborting path := rfl
  obtain ⟨actions, after, run, ends, reported⟩ : killed.CanReport spec :=
    State.abort_reports aborting still
  refine ⟨.timeout :: actions, after, .cons ⟨trivial, step⟩ run, ?_, reported⟩
  intro action member
  obtain rfl | rest := List.mem_cons.mp member
  · trivial
  · exact ends action rest

/-- A task with an item in hand can send a result for it, once its time is up and its process is
dead. -/
theorem State.Sound.busy_reports (sound : state.Sound) (busy : state.serving.path?.isSome = true) :
    state.CanReport spec := by
  have expects := sound.expects
  unfold Expects at expects
  cases serving : state.serving <;> rw [serving] at expects busy
  case sendingWork path =>
    exact State.overdue_reports path expects (by rw [linkStep, LocalWorker.timeoutStep, serving])
  case awaitingEvent path =>
    exact State.overdue_reports path expects (by rw [linkStep, LocalWorker.timeoutStep, serving])
  case awaitingStatus path event =>
    exact State.overdue_reports path expects (by rw [linkStep, LocalWorker.timeoutStep, serving])
  case draining path phase source =>
    exact State.overdue_reports path expects (by rw [linkStep, LocalWorker.timeoutStep, serving])
  case aborting path => exact State.abort_reports serving expects
  case sendingResult path answer status =>
    obtain ⟨after, step, reported⟩ : ∃ after, (linkMachine spec).Step (fun _ _ => True) state
      (.send true) after ∧ state.ReportsOne after := State.send_reports serving
    refine ⟨[.send true], after, .cons step (.nil _), ?_, reported⟩
    simp [LinkAction.Ends]
  all_goals cases busy

end Reporting

/-! ## Results -/

section Runs

variable {spec : Spec} {legal : State → LinkAction → Prop} {state : State}

/-- Whatever a local worker, its processes and the time do: results are sent for the items in order,
one for each but perhaps the last, and one for that too once its time is up and its process is dead;
an event that is reported is the one that the process of that moment produced for the work of the
item; an item fails only because its process is gone or its time is up, and what a process sends is
never an error or unexpected. -/
theorem local_answers (reached : (linkMachine spec).Reachable legal state) :
    state.taken.length ≤ state.reports.length + 1 ∧
      (state.serving.path?.isSome = true → state.CanReport spec) ∧ state.strayed = false ∧
      ∀ (index : Nat) (report : Report), state.reports[index]? = some report →
        report.item = index ∧ state.taken[index]? = some report.path ∧
          match report.answer with
          | .ok event => Produced state.processes report.process index report.path event
          | .error error => Failure spec report.path error := by
  obtain ⟨sound, counted⟩ := State.sound_reachable reached
  refine ⟨counted.most, sound.busy_reports, sound.calm, fun index report found => ?_⟩
  have member := List.mem_of_getElem? found
  obtain ⟨item, there⟩ := counted.numbered index report found
  refine ⟨item, there, ?_⟩
  cases answer : report.answer with
  | ok event =>
    have produced := sound.reports report member event answer
    rw [item] at produced
    exact produced
  | error error => exact counted.failed report member error answer

end Runs

/-- A forked worker for the default configuration. -/
def forkedSpec : Spec where
  label := "local"
  config := .ofConfig .default
  forked := true
  debug := fun _ => "message"
  debugPath := fun _ => "path"

/-- The slot is handed to a process, which announces itself. -/
def attaches : List LinkAction :=
  [.connect (.ok ()), .process 0 .fork, .process 0 (.announce 7), .readPid (.ok ()),
    .process 0 .greet, .read, .send true]

/-- An item is evaluated to an empty attribute set, with a memory use after it. -/
def answersItem (process : Nat) (path : List String) (maxRssKb : Nat) : List LinkAction :=
  [.command (.work ⟨path⟩), .write, .process process .request,
    .process process (.evaluated (.attrSet (displayAttr path) path [])), .process process .write,
    .read, .process process (.measured maxRssKb), .process process .report, .read, .send true,
    .settle]

/-- A process is spawned and ready. -/
def spawns (process : Nat) : List LinkAction :=
  [.connect (.ok ()), .write, .process process .setup, .process process .loaded,
    .process process .greet, .read]

/-- The process of the slot reaches its memory limit, the next one dies over an item, and the third
one is stopped. -/
def restartsAndFails : List LinkAction :=
  attaches ++ answersItem 0 [] (2 ^ 40) ++ [.exited none ""] ++ spawns 1 ++
    [.command (.work ⟨["a"]⟩), .write, .process 1 .die, .failed "end of file",
      .exited (some "signal: 9") "", .send true, .settle] ++
    spawns 2 ++ [.closed, .stop true, .process 2 .request, .exited none ""]

/-- A restart and a failure are answered, each by a new process. -/
theorem local_answers_restart : ∃ state : State,
    (state.taken.length ≤ state.reports.length + 1 ∧
      (state.serving.path?.isSome = true → state.CanReport forkedSpec) ∧ state.strayed = false) ∧
      state.reports.map (fun report => (report.item, report.process)) =
        [(0, some 0), (1, some 1)] := by
  obtain ⟨state, reached, checked⟩ := Machine.reachable_of_execute (linkMachine forkedSpec)
    (fun _ _ => True) (.initial forkedSpec) restartsAndFails
    (fun state => state.reports.map (fun report => (report.item, report.process)) =
      [(0, some 0), (1, some 1)]) rfl (by decide +kernel)
  obtain ⟨most, reports, calm, _⟩ := local_answers reached
  exact ⟨state, ⟨most, reports, calm⟩, of_decide_eq_true checked⟩

end Evix.LocalWorker
