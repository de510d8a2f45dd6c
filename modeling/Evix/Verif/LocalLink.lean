import Evix.Verif.LocalProcess
import Mathlib.Data.List.Forall2

/-!
# The processes and the answers of a local worker

A local worker has at most one live process at a time: `connect` is called again only when the
process before it is awaited, and a failure to read from a process awaits it too. No work is written
to a process that announced a restart, and what the master reads is what it expects, so an event is
attributed to the item it was produced for.
-/

namespace Evix.LocalWorker

open Machines Transcript RemoteWorker

/-! ## What the master expects -/

namespace Process

/-- The master has neither written nor read anything. -/
def Fresh (process : Process) : Prop := process.works = [] ∧ process.received = []

/-- Every answer is read. -/
def Quiet (process : Process) : Prop :=
  process.received.length = 2 * process.works.length + 1

/-- The statuses of the works before the last one are to go on. -/
def Settled (process : Process) : Prop :=
  ∀ index < process.works.length - 1, process.statuses[index]? = some .ready

/-- The process takes more work. -/
def Open (process : Process) : Prop :=
  process.Quiet ∧ ∀ index < process.works.length, process.statuses[index]? = some .ready

/-- The last work written is an item's. -/
def Asked (item : Nat) (path : List String) (process : Process) : Prop :=
  process.works[process.works.length - 1]? = some (item, path) ∧ process.Settled

/-- Both messages for the last work are still to be read. -/
def AsksEvent (item : Nat) (path : List String) (process : Process) : Prop :=
  process.received.length + 1 = 2 * process.works.length ∧ process.Asked item path

/-- The event of the last work is read, its status is not. -/
def AsksStatus (item : Nat) (path : List String) (event : Event) (process : Process) : Prop :=
  process.received.length = 2 * process.works.length ∧ process.Asked item path ∧
    process.produced[process.works.length - 1]? = some (path, event)

/-- Every answer is read, and the last one ends with a status. -/
def Answered (status : WorkerStatus) (process : Process) : Prop :=
  process.Quiet ∧ process.Settled ∧ process.statuses[process.works.length - 1]? = some status

/-- The process is dead. -/
def Gone (process : Process) : Prop := process.place = .gone

/-- Nothing is expected of the process. -/
def Any (_ : Process) : Prop := True

end Process

/-- An event is what a process produced for the work of an item. -/
def Produced (processes : List Process) (held : Option Nat) (item : Nat) (path : List String)
    (event : Event) : Prop :=
  ∃ (place : Nat) (process : Process) (serial : Nat), held = some place ∧
    processes[place]? = some process ∧ process.works[serial]? = some (item, path) ∧
      process.produced[serial]? = some (path, event)

namespace State

/-- The number of the item taken up last. -/
def item (state : State) : Nat := state.taken.length - 1

/-- The worker holds the last process, which has a property. -/
def Holds (state : State) (property : Process → Prop) : Prop :=
  ∃ index process, state.held = some index ∧ index + 1 = state.processes.length ∧
    state.processes[index]? = some process ∧ property process

/-- Every process is dead. -/
def AllGone (state : State) : Prop := ∀ process ∈ state.processes, process.Gone

/-- What the master expects of its processes, by where it is. -/
def Expects (state : State) : Prop :=
  match state.serving with
  | .connecting => state.socket = true ∧ (∃ process, state.processes = [process] ∧ process.Fresh) ∨
      state.socket = false ∧ state.AllGone
  | .attaching => ∃ process, state.processes = [process] ∧ process.Fresh
  | .spawning => state.AllGone
  | .settingUp index | .greeting index => index + 1 = state.processes.length ∧
      ∃ process, state.processes[index]? = some process ∧ process.Fresh
  | .startDraining index _ _ => index + 1 = state.processes.length
  | .announcing | .receiving => state.Holds fun process => state.cancel = true ∨ process.Open
  | .sendingWork _ => state.Holds Process.Open
  | .awaitingEvent path => state.Holds (Process.AsksEvent state.item path)
  | .awaitingStatus path event => state.Holds (Process.AsksStatus state.item path event)
  | .sendingResult path (.ok event) status => state.Holds (Process.Answered status) ∧
      Produced state.processes state.held state.item path event
  | .sendingResult _ (.error _) status => status = .ready ∧ state.Holds Process.Gone
  | .settling false status => state.Holds (Process.Answered status)
  | .settling true status => status = .ready ∧ state.Holds Process.Gone
  | .draining .. | .aborting _ | .retiring | .sendingCancelled | .stopping | .waiting =>
    state.Holds Process.Any
  | .ended _ | .aborted => state.socket = false →
      ∀ process ∈ state.processes, process.Gone ∨ process.hungUp = true

/-- The invariant of the link. -/
structure Sound (state : State) : Prop where
  /-- Every process is sound. -/
  processes : ∀ process ∈ state.processes, process.Sound
  /-- Only the last process can be alive. -/
  lone : ∀ index process, state.processes[index]? = some process →
    index + 1 < state.processes.length → process.Gone
  /-- The master's count is right where it matters. -/
  expects : state.Expects
  /-- Reported events were produced for the reported item. -/
  reports : ∀ report ∈ state.reports, ∀ event, report.answer = .ok event →
    Produced state.processes report.process report.item report.path event
  /-- No message was an error or unexpected. -/
  calm : state.strayed = false

end State

/-! ## How processes change -/

namespace Process

/-- What the master does to a process that it only kills or closes. -/
structure Kept (before after : Process) : Prop where
  /-- It is where it was. -/
  place : after.place = before.place
  /-- Nothing is written to it. -/
  requests : after.requests = before.requests
  /-- It has the work it had. -/
  works : after.works = before.works
  /-- It has begun what it had. -/
  begun : after.begun = before.begun
  /-- Its events are the same. -/
  produced : after.produced = before.produced
  /-- Its statuses are the same. -/
  statuses : after.statuses = before.statuses
  /-- Nothing is read from it. -/
  received : after.received = before.received
  /-- It has written what it had. -/
  responses : after.responses = before.responses
  /-- It stays closed. -/
  hungUp : before.hungUp = true → after.hungUp = true

variable {before middle after : Process}

/-- A process that nothing is done to. -/
theorem Kept.refl (process : Process) : Kept process process :=
  ⟨rfl, rfl, rfl, rfl, rfl, rfl, rfl, rfl, id⟩

/-- A process that is killed. -/
theorem kept_kill (process : Process) : Kept process process.kill :=
  ⟨rfl, rfl, rfl, rfl, rfl, rfl, rfl, rfl, id⟩

/-- A process that is closed. -/
theorem kept_hangUp (process : Process) : Kept process process.hangUp :=
  ⟨rfl, rfl, rfl, rfl, rfl, rfl, rfl, rfl, fun _ => rfl⟩

/-- One after the other. -/
theorem Kept.trans (first : Kept before middle) (second : Kept middle after) :
    Kept before after :=
  ⟨second.place.trans first.place, second.requests.trans first.requests,
    second.works.trans first.works, second.begun.trans first.begun,
    second.produced.trans first.produced, second.statuses.trans first.statuses,
    second.received.trans first.received, second.responses.trans first.responses,
    second.hungUp ∘ first.hungUp⟩

/-- A process that is kept stays sound. -/
theorem Sound.kept (sound : before.Sound) (kept : Kept before after) : after.Sound := by
  refine sound.touch kept.place kept.requests kept.works kept.begun kept.produced kept.statuses ?_
  rw [transcript, kept.received, kept.responses]
  rfl

end Process

section Changes

variable {before middle after : List Process}

/-- The processes of a list are kept in another one. -/
def KeptAll (before after : List Process) : Prop :=
  List.Forall₂ Process.Kept before after

/-- Every list is kept. -/
theorem keptAll_refl (processes : List Process) : KeptAll processes processes :=
  List.forall₂_same.mpr fun process _ => .refl process

/-- Modifying one process keeps all. -/
theorem keptAll_modify (processes : List Process) (index : Nat) {change : Process → Process}
    (kept : ∀ process, Process.Kept process (change process)) :
    KeptAll processes (processes.modify index change) := by
  induction processes generalizing index with
  | nil =>
    rw [List.modify_nil]
    exact .nil
  | cons process processes ih =>
    cases index with
    | zero => exact .cons (kept process) (keptAll_refl processes)
    | succ index => exact .cons (.refl process) (ih index)

/-- One after the other. -/
theorem KeptAll.trans (first : KeptAll before middle) (second : KeptAll middle after) :
    KeptAll before after := by
  induction first generalizing after with
  | nil =>
    cases second
    exact .nil
  | cons kept _ ih =>
    obtain _ | ⟨more, rest⟩ := second
    exact .cons (kept.trans more) (ih rest)

/-- What a process of the new list was. -/
theorem KeptAll.get (kept : KeptAll before after) {index : Nat} {process : Process}
    (found : after[index]? = some process) :
    ∃ earlier, before[index]? = some earlier ∧ Process.Kept earlier process := by
  induction kept generalizing index with
  | nil => cases found
  | cons first _ ih =>
    cases index with
    | zero =>
      obtain rfl := Option.some.inj found
      exact ⟨_, rfl, first⟩
    | succ index => exact ih found

/-- What becomes of a process of the old list. -/
theorem KeptAll.find (kept : KeptAll before after) {index : Nat} {process : Process}
    (found : before[index]? = some process) :
    ∃ later, after[index]? = some later ∧ Process.Kept process later := by
  induction kept generalizing index with
  | nil => cases found
  | cons first _ ih =>
    cases index with
    | zero =>
      obtain rfl := Option.some.inj found
      exact ⟨_, rfl, first⟩
    | succ index => exact ih found

/-- Production is not undone when processes only get works and answers. -/
theorem Produced.grows {held : Option Nat} {item : Nat} {path : List String} {event : Event}
    (grows : ∀ (index : Nat) (process : Process), before[index]? = some process →
      ∃ later, after[index]? = some later ∧ process.works <+: later.works ∧
        process.produced <+: later.produced)
    (earlier : Produced before held item path event) :
    Produced after held item path event := by
  obtain ⟨index, process, serial, rfl, found, work, answer⟩ := earlier
  obtain ⟨later, there, works, produced⟩ := grows index process found
  exact ⟨index, later, serial, rfl, there, getElem?_within works work,
    getElem?_within produced answer⟩

/-- Production in processes that are kept. -/
theorem Produced.kept {held : Option Nat} {item : Nat} {path : List String} {event : Event}
    (kept : KeptAll before after) (earlier : Produced before held item path event) :
    Produced after held item path event := by
  refine earlier.grows fun index process found => ?_
  obtain ⟨later, there, same⟩ := kept.find found
  exact ⟨later, there, within_of_eq same.works.symm, within_of_eq same.produced.symm⟩

end Changes

/-! ## Dropping -/

namespace State

variable (state : State)

/-- What a change of the processes alone leaves as it is. -/
structure Frame (before after : State) : Prop where
  /-- The processes are kept. -/
  processes : KeptAll before.processes after.processes
  /-- The socket is where it was. -/
  socket : after.socket = before.socket
  /-- Cancellation is not requested. -/
  cancel : after.cancel = before.cancel
  /-- No item is taken up. -/
  taken : after.taken = before.taken
  /-- No result is sent. -/
  reports : after.reports = before.reports
  /-- No message is read. -/
  strayed : after.strayed = before.strayed

variable {before middle after : State}

/-- Nothing changes. -/
theorem Frame.refl (state : State) : Frame state state :=
  ⟨keptAll_refl _, rfl, rfl, rfl, rfl, rfl⟩

/-- One after the other. -/
theorem Frame.trans (first : Frame before middle) (second : Frame middle after) :
    Frame before after :=
  ⟨first.processes.trans second.processes, second.socket.trans first.socket,
    second.cancel.trans first.cancel, second.taken.trans first.taken,
    second.reports.trans first.reports, second.strayed.trans first.strayed⟩

/-- Modifying a process. -/
theorem frame_modify (index : Nat) {change : Process → Process}
    (kept : ∀ process, Process.Kept process (change process)) :
    Frame state (state.modify index change) :=
  ⟨keptAll_modify _ index kept, rfl, rfl, rfl, rfl, rfl⟩

/-- Dropping a process. -/
theorem frame_drop (index : Nat) : Frame state (state.drop index) :=
  state.frame_modify index fun process =>
    (Process.kept_kill process).trans (Process.kept_hangUp process.kill)

/-- Dropping what `connect` is busy with. -/
theorem frame_dropPending : Frame state state.dropPending := by
  unfold dropPending
  split
  · exact state.frame_modify 0 Process.kept_hangUp
  · exact state.frame_drop _
  · exact state.frame_drop _
  · exact state.frame_drop _
  · exact .refl state

/-- Dropping what the task holds. -/
theorem frame_dropHeld : Frame state state.dropHeld := by
  unfold dropHeld
  split
  · rename_i index _
    have frame := state.frame_drop index
    exact ⟨frame.processes, rfl, rfl, rfl, rfl, rfl⟩
  · exact .refl state

/-- Leaving. -/
theorem frame_leave (serving : Serving) : Frame state (state.leave serving) := by
  have frame := state.frame_dropPending.trans state.dropPending.frame_dropHeld
  exact ⟨frame.processes, frame.socket, frame.cancel, frame.taken, frame.reports, frame.strayed⟩

/-- The process that `connect` is busy with. -/
def pending? : Option Nat :=
  match state.serving with
  | .attaching => some 0
  | .settingUp index | .greeting index | .startDraining index _ _ => some index
  | _ => none

/-- A process that is dropped is closed. -/
theorem drop_hungUp {index : Nat} {process : Process}
    (found : (state.drop index).processes[index]? = some process) : process.hungUp = true := by
  have same : (state.processes.modify index fun process => process.kill.hangUp)[index]? =
      some process := found
  rw [List.getElem?_modify_eq] at same
  obtain ⟨earlier, _, rfl⟩ := Option.map_eq_some_iff.mp same
  rfl

/-- What the task is busy with, or holds, is closed when it leaves. -/
theorem leave_hungUp {serving : Serving} {index : Nat} {process : Process}
    (own : state.pending? = some index ∨ state.held = some index)
    (found : (state.leave serving).processes[index]? = some process) :
    process.hungUp = true := by
  have later : state.dropPending.dropHeld.processes[index]? = some process := found
  rcases own with pending | held
  · obtain ⟨middle, there, kept⟩ := state.dropPending.frame_dropHeld.processes.get later
    refine kept.hungUp ?_
    unfold dropPending at there
    unfold pending? at pending
    split at pending
    · rename_i serving
      rw [serving] at there
      obtain rfl := Option.some.inj pending
      have same : (state.processes.modify 0 Process.hangUp)[0]? = some middle := there
      rw [List.getElem?_modify_eq] at same
      obtain ⟨earlier, _, rfl⟩ := Option.map_eq_some_iff.mp same
      rfl
    · rename_i serving
      rw [serving] at there
      obtain rfl := Option.some.inj pending
      exact state.drop_hungUp there
    · rename_i serving
      rw [serving] at there
      obtain rfl := Option.some.inj pending
      exact state.drop_hungUp there
    · rename_i serving
      rw [serving] at there
      obtain rfl := Option.some.inj pending
      exact state.drop_hungUp there
    · cases pending
  · have same : state.dropPending.held = some index := by
      unfold dropPending
      split <;> exact held
    unfold dropHeld at later
    rw [same] at later
    exact drop_hungUp _ later

variable {state}

/-- The last process, if there is one. -/
theorem last_or_gone (lone : ∀ index process, state.processes[index]? = some process →
      index + 1 < state.processes.length → process.Gone) {index place : Nat} {process : Process}
    (found : state.processes[index]? = some process) (last : place + 1 = state.processes.length) :
    index = place ∨ process.Gone := by
  have inside := (List.getElem?_eq_some_iff.mp found).1
  by_cases same : index = place
  · exact .inl same
  · exact .inr (lone index process found (by omega))

/-- When the task leaves, every process is dead or its channel is closed, unless the slot was not
taken. -/
theorem Sound.left (sound : state.Sound) (serving : Serving)
    (running : state.serving.isOver = false) (taken : (state.leave serving).socket = false) :
    ∀ process ∈ (state.leave serving).processes, process.Gone ∨ process.hungUp = true := by
  intro process member
  obtain ⟨index, found⟩ := List.mem_iff_getElem?.mp member
  obtain ⟨earlier, there, kept⟩ := (state.frame_leave serving).processes.get found
  have still : earlier.Gone → process.Gone := fun gone => kept.place.trans gone
  have free : state.socket = false := (state.frame_leave serving).socket.symm.trans taken
  have expects := sound.expects
  -- Either every process is dead, or the last one is the task's own.
  have own : earlier.Gone ∨ state.pending? = some index ∨ state.held = some index := by
    have holds : ∀ {property : Process → Prop}, state.Holds property →
        earlier.Gone ∨ state.pending? = some index ∨ state.held = some index := by
      rintro property ⟨place, _, held, last, _⟩
      obtain rfl | gone := last_or_gone sound.lone there last
      · exact .inr (.inr held)
      · exact .inl gone
    unfold Expects at expects
    cases place : state.serving <;> rw [place] at expects running
    case connecting =>
      obtain ⟨waits, _⟩ | ⟨_, gone⟩ := expects
      · rw [free] at waits
        cases waits
      · exact .inl (gone earlier (List.mem_of_getElem? there))
    case attaching =>
      obtain ⟨only, same, _⟩ := expects
      have inside := (List.getElem?_eq_some_iff.mp there).1
      rw [same, List.length_singleton] at inside
      obtain rfl : index = 0 := by omega
      exact .inr (.inl (by rw [pending?, place]))
    case spawning => exact .inl (expects earlier (List.mem_of_getElem? there))
    case settingUp last | greeting last =>
      obtain rfl | gone := last_or_gone sound.lone there expects.1
      · exact .inr (.inl (by rw [pending?, place]))
      · exact .inl gone
    case startDraining last phase source =>
      obtain rfl | gone := last_or_gone sound.lone there expects
      · exact .inr (.inl (by rw [pending?, place]))
      · exact .inl gone
    case sendingResult path answer status =>
      cases answer with
      | error report => exact holds expects.2
      | ok event => exact holds expects.1
    case settling failed status =>
      cases failed with
      | true => exact holds expects.2
      | false => exact holds expects
    case ended | aborted => cases running
    all_goals exact holds expects
  rcases own with gone | own
  · exact .inl (still gone)
  · exact .inr (state.leave_hungUp own found)

/-- A step that only kills or closes processes. -/
theorem Sound.frame (sound : state.Sound) (frame : Frame state after) (expects : after.Expects) :
    after.Sound where
  processes process member := by
    obtain ⟨index, found⟩ := List.mem_iff_getElem?.mp member
    obtain ⟨earlier, there, kept⟩ := frame.processes.get found
    exact (sound.processes earlier (List.mem_of_getElem? there)).kept kept
  lone index process found inside := by
    obtain ⟨earlier, there, kept⟩ := frame.processes.get found
    have same := frame.processes.length_eq
    exact kept.place.trans (sound.lone index earlier there (by omega))
  expects := expects
  reports report member event answer := by
    rw [frame.reports] at member
    exact (sound.reports report member event answer).kept frame.processes
  calm := frame.strayed.trans sound.calm

/-- The task leaves. -/
theorem Sound.leave (sound : state.Sound) {serving : Serving} (leaves : serving.isOver = true)
    (running : state.serving.isOver = false) : (state.leave serving).Sound := by
  refine sound.frame (state.frame_leave serving) ?_
  have closed := sound.left serving running
  unfold Expects
  cases serving with
  | ended result => exact closed
  | aborted => exact closed
  | _ => cases leaves

/-- The connection of the task is over. -/
theorem Sound.finish (sound : state.Sound) (running : state.serving.isOver = false)
    (result : Except String Unit) : (state.finish result).Sound :=
  sound.leave rfl running

end State

/-! ## What a process cannot change -/

namespace Process

/-- A process that the master has written as much to and read as much from, with more answers. -/
structure Follows (before after : Process) : Prop where
  /-- It has the work it had. -/
  works : after.works = before.works
  /-- Nothing is read from it. -/
  received : after.received = before.received
  /-- Events are only added. -/
  produced : before.produced <+: after.produced
  /-- Statuses are only added. -/
  statuses : before.statuses <+: after.statuses

variable {before after : Process}

/-- A process that takes a step. -/
theorem Serves.follows (serves : Serves before after) : Follows before after :=
  ⟨serves.works, serves.received, serves.produced, serves.statuses⟩

/-- A process that is killed or closed. -/
theorem Kept.follows (kept : Kept before after) : Follows before after :=
  ⟨kept.works, kept.received, within_of_eq kept.produced.symm, within_of_eq kept.statuses.symm⟩

namespace Follows

variable (follows : Follows before after)

include follows

/-- The master has written and read nothing. -/
theorem fresh (fresh : before.Fresh) : after.Fresh :=
  ⟨follows.works.trans fresh.1, follows.received.trans fresh.2⟩

/-- Every answer is read. -/
theorem quiet (quiet : before.Quiet) : after.Quiet := by
  unfold Quiet at quiet ⊢
  rw [follows.works, follows.received]
  exact quiet

/-- The statuses before the last one are to go on. -/
theorem settled (settled : before.Settled) : after.Settled := by
  unfold Settled at settled ⊢
  rw [follows.works]
  exact fun index inside => getElem?_within follows.statuses (settled index inside)

/-- The process takes more work. -/
theorem «open» (takes : before.Open) : after.Open := by
  refine ⟨follows.quiet takes.1, ?_⟩
  rw [follows.works]
  exact fun index inside => getElem?_within follows.statuses (takes.2 index inside)

/-- The last work is an item's. -/
theorem asked {item : Nat} {path : List String} (asked : before.Asked item path) :
    after.Asked item path := by
  refine ⟨?_, follows.settled asked.2⟩
  rw [follows.works]
  exact asked.1

/-- Both messages are still to be read. -/
theorem asksEvent {item : Nat} {path : List String} (asks : before.AsksEvent item path) :
    after.AsksEvent item path := by
  refine ⟨?_, follows.asked asks.2⟩
  rw [follows.works, follows.received]
  exact asks.1

/-- The status is still to be read. -/
theorem asksStatus {item : Nat} {path : List String} {event : Event}
    (asks : before.AsksStatus item path event) : after.AsksStatus item path event := by
  obtain ⟨count, ask, entry⟩ := asks
  refine ⟨?_, follows.asked ask, ?_⟩
  · rw [follows.works, follows.received]
    exact count
  · rw [follows.works]
    exact getElem?_within follows.produced entry

/-- The last answer is read. -/
theorem answered {status : WorkerStatus} (answered : before.Answered status) :
    after.Answered status := by
  obtain ⟨quiet, settled, last⟩ := answered
  refine ⟨follows.quiet quiet, follows.settled settled, ?_⟩
  rw [follows.works]
  exact getElem?_within follows.statuses last

end Follows

end Process

namespace State

variable {state after : State} {index : Nat} {process changed : Process}

/-- The process that changed is there. -/
theorem getElem?_set (found : state.processes[index]? = some process) :
    (state.processes.set index changed)[index]? = some changed :=
  List.getElem?_set_self (List.getElem?_eq_some_iff.mp found).1

/-- A step that changes one process, which stays dead if it was. -/
theorem Sound.change (sound : state.Sound) (found : state.processes[index]? = some process)
    (kept : changed.Sound) (works : process.works <+: changed.works)
    (produced : process.produced <+: changed.produced) (gone : process.Gone → changed.Gone)
    (processes : after.processes = state.processes.set index changed)
    (reports : after.reports = state.reports) (calm : after.strayed = false)
    (expects : after.Expects) : after.Sound where
  processes other member := by
    rw [processes] at member
    obtain old | rfl := List.mem_or_eq_of_mem_set member
    · exact sound.processes other old
    · exact kept
  lone place other there inside := by
    rw [processes, List.length_set] at inside
    rw [processes] at there
    by_cases same : index = place
    · subst same
      obtain rfl := Option.some.inj (there.symm.trans (getElem?_set found))
      exact gone (sound.lone index process found inside)
    · rw [List.getElem?_set_ne same] at there
      exact sound.lone place other there inside
  expects := expects
  reports report member event answer := by
    rw [reports] at member
    refine (sound.reports report member event answer).grows fun place other there => ?_
    rw [processes]
    by_cases same : index = place
    · subst same
      obtain rfl := Option.some.inj (found.symm.trans there)
      exact ⟨changed, getElem?_set found, works, produced⟩
    · refine ⟨other, ?_, List.prefix_rfl, List.prefix_rfl⟩
      rw [List.getElem?_set_ne same]
      exact there
  calm := calm

/-- What is held stays so when one process changes. -/
theorem Holds.change {property : Process → Prop} (holds : state.Holds property)
    (found : state.processes[index]? = some process) (kept : property process → property changed)
    (held : after.held = state.held)
    (processes : after.processes = state.processes.set index changed) :
    after.Holds property := by
  obtain ⟨place, holder, own, last, there, has⟩ := holds
  by_cases same : index = place
  · subst same
    obtain rfl := Option.some.inj (found.symm.trans there)
    refine ⟨index, changed, held.trans own, ?_, ?_, kept has⟩
    · rw [processes, List.length_set]
      exact last
    · rw [processes]
      exact getElem?_set found
  · refine ⟨place, holder, held.trans own, ?_, ?_, has⟩
    · rw [processes, List.length_set]
      exact last
    · rw [processes, List.getElem?_set_ne same]
      exact there

/-- What is held has more than one property. -/
theorem Holds.weaken {property other : Process → Prop} (holds : state.Holds property)
    (implies : ∀ process, property process → other process) : state.Holds other := by
  obtain ⟨place, holder, own, last, there, has⟩ := holds
  exact ⟨place, holder, own, last, there, implies holder has⟩

/-- What is held stays so when processes are killed or closed. -/
theorem Holds.kept {property : Process → Prop} (holds : state.Holds property)
    (held : after.held = state.held) (kept : KeptAll state.processes after.processes)
    (same : ∀ before after, Process.Kept before after → property before → property after) :
    after.Holds property := by
  obtain ⟨place, holder, own, last, there, has⟩ := holds
  obtain ⟨later, found, keeps⟩ := kept.find there
  exact ⟨place, later, held.trans own, kept.length_eq ▸ last, found, same _ _ keeps has⟩

/-- When the last process is dead, all are. -/
theorem Sound.allGone (sound : state.Sound) (holds : state.Holds Process.Gone) : state.AllGone := by
  obtain ⟨place, holder, _, last, there, gone⟩ := holds
  intro process member
  obtain ⟨index, found⟩ := List.mem_iff_getElem?.mp member
  obtain rfl | dead := last_or_gone sound.lone found last
  · obtain rfl := Option.some.inj (found.symm.trans there)
    exact gone
  · exact dead

/-- What the master expects, a step of a process leaves true. -/
theorem Expects.serve (expects : state.Expects)
    (found : state.processes[index]? = some process) (serves : Process.Serves process changed) :
    (state.setProcess index changed).Expects := by
  have follows := serves.follows
  have holds : ∀ {property : Process → Prop}, state.Holds property →
      (property process → property changed) →
      (state.setProcess index changed).Holds property :=
    fun own kept => own.change found kept rfl rfl
  have alive : ¬ state.AllGone := fun gone =>
    serves.lived (gone process (List.mem_of_getElem? found))
  have dead : process.Gone → changed.Gone := fun gone => absurd gone serves.lived
  unfold Expects at expects ⊢
  have same : (state.setProcess index changed).serving = state.serving := rfl
  rw [same]
  cases place : state.serving <;> rw [place] at expects
  case connecting =>
    obtain ⟨waits, only, one, fresh⟩ | ⟨_, gone⟩ := expects
    · refine .inl ⟨waits, ?_⟩
      have inside := (List.getElem?_eq_some_iff.mp found).1
      rw [one] at found
      rw [one, List.length_singleton] at inside
      obtain rfl : index = 0 := by omega
      obtain rfl := Option.some.inj found
      exact ⟨changed, by rw [setProcess, one]; rfl, follows.fresh fresh⟩
    · exact absurd gone alive
  case attaching =>
    obtain ⟨only, one, fresh⟩ := expects
    have inside := (List.getElem?_eq_some_iff.mp found).1
    rw [one] at found
    rw [one, List.length_singleton] at inside
    obtain rfl : index = 0 := by omega
    obtain rfl := Option.some.inj found
    exact ⟨changed, by rw [setProcess, one]; rfl, follows.fresh fresh⟩
  case spawning => exact absurd expects alive
  case settingUp last | greeting last =>
    obtain ⟨final, holder, there, fresh⟩ := expects
    refine ⟨by rw [setProcess, List.length_set]; exact final, ?_⟩
    by_cases here : index = last
    · subst here
      obtain rfl := Option.some.inj (found.symm.trans there)
      exact ⟨changed, getElem?_set found, follows.fresh fresh⟩
    · refine ⟨holder, ?_, fresh⟩
      rw [setProcess, List.getElem?_set_ne here]
      exact there
  case startDraining last phase source =>
    rw [setProcess, List.length_set]
    exact expects
  case announcing | receiving => exact holds expects (Or.imp_right follows.open)
  case sendingWork => exact holds expects follows.open
  case awaitingEvent => exact holds expects follows.asksEvent
  case awaitingStatus => exact holds expects follows.asksStatus
  case sendingResult path answer status =>
    cases answer with
    | error report => exact ⟨expects.1, holds expects.2 dead⟩
    | ok event =>
      refine ⟨holds expects.1 follows.answered, expects.2.grows fun place other there => ?_⟩
      by_cases here : index = place
      · subst here
        obtain rfl := Option.some.inj (found.symm.trans there)
        exact ⟨changed, getElem?_set found, within_of_eq follows.works.symm, follows.produced⟩
      · refine ⟨other, ?_, List.prefix_rfl, List.prefix_rfl⟩
        rw [setProcess, List.getElem?_set_ne here]
        exact there
  case settling failed status =>
    cases failed with
    | true => exact ⟨expects.1, holds expects.2 dead⟩
    | false => exact holds expects follows.answered
  case draining | aborting | retiring | sendingCancelled | stopping | waiting =>
    exact holds expects id
  case ended | aborted =>
    intro free other member
    obtain old | rfl := List.mem_or_eq_of_mem_set member
    · exact expects free other old
    · obtain gone | closed := expects free process (List.mem_of_getElem? found)
      · exact absurd gone serves.lived
      · exact .inr (serves.hungUp.trans closed)

/-- A step of a process keeps the link sound. -/
theorem Sound.serve (sound : state.Sound) {config : WorkerConfig} {action : ProcessAction}
    (found : state.processes[index]? = some process)
    (taken : runStep config process action = some changed) :
    (state.setProcess index changed).Sound := by
  obtain ⟨kept, serves⟩ := (sound.processes process (List.mem_of_getElem? found)).serve taken
  exact sound.change found kept (within_of_eq serves.works.symm) serves.produced
    (fun gone => absurd gone serves.lived) rfl rfl sound.calm (sound.expects.serve found serves)

/-! ## Steps of the master -/

/-- A step that leaves the processes alone. -/
theorem Sound.still (sound : state.Sound) (processes : after.processes = state.processes)
    (reports : after.reports = state.reports) (calm : after.strayed = false)
    (expects : after.Expects) : after.Sound where
  processes := by
    rw [processes]
    exact sound.processes
  lone := by
    rw [processes]
    exact sound.lone
  expects := expects
  reports := by
    rw [reports, processes]
    exact sound.reports
  calm := calm

/-- What taking a response does. -/
theorem takeResponse_some {read : ServerMessage × State}
    (taken : state.takeResponse index = some read) :
    ∃ process message responses, state.processes[index]? = some process ∧
      process.responses = message :: responses ∧
      read = (message, state.setProcess index (process.receive message responses)) := by
  unfold takeResponse at taken
  split at taken
  · rename_i process found
    split at taken
    · rename_i message responses first
      obtain rfl := Option.some.inj taken
      exact ⟨process, message, responses, found, first, rfl⟩
    · cases taken
  · cases taken

/-- A master that is ready for work expects a process that takes it, unless it is cancelled. -/
theorem expects_taking (takes : state.serving = .announcing ∨ state.serving = .receiving)
    (holds : state.Holds fun process => state.cancel = true ∨ process.Open) : state.Expects := by
  unfold Expects
  rcases takes with serving | serving <;> rw [serving] <;> exact holds

/-- Reading the handshake. -/
theorem Sound.readReady (sound : state.Sound) {spec : Spec} {read : ServerMessage × State}
    (serving : state.serving = .greeting index) (taken : state.takeResponse index = some read) :
    (readReady spec index read.1 read.2).Sound := by
  have expects := sound.expects
  unfold Expects at expects
  rw [serving] at expects
  obtain ⟨last, holder, there, works, received⟩ := expects
  obtain ⟨process, message, responses, found, first, rfl⟩ := takeResponse_some taken
  obtain rfl := Option.some.inj (there.symm.trans found)
  have own := sound.processes holder (List.mem_of_getElem? found)
  have next := Process.next_message first
  rw [received] at next
  obtain rfl := own.handshake_message next
  -- The new process takes work; the one before it is dropped.
  let target : Serving := if spec.forked && state.held.isNone then .announcing else .receiving
  let told := state.setProcess index (holder.receive .ready responses)
  let taking : State := { told with held := some index, serving := target }
  have takes : target = .announcing ∨ target = .receiving := by
    by_cases first : (spec.forked && state.held.isNone) = true
    · exact .inl (if_pos first)
    · exact .inr (if_neg first)
  have ready : (holder.receive .ready responses).Open := by
    refine ⟨?_, ?_⟩
    · show (holder.received ++ [_]).length = 2 * holder.works.length + 1
      rw [received, works]
      rfl
    · show ∀ place < holder.works.length, _
      rw [works]
      exact fun place inside => absurd inside (Nat.not_lt_zero place)
  have holds : taking.Holds fun process => taking.cancel = true ∨ process.Open := by
    refine ⟨index, _, rfl, ?_, getElem?_set found, .inr ready⟩
    show index + 1 = (state.processes.set index _).length
    rw [List.length_set]
    exact last
  have middle : taking.Sound :=
    sound.change found (own.read first) List.prefix_rfl List.prefix_rfl id rfl rfl sound.calm
      (expects_taking takes holds)
  have frame := told.frame_dropHeld
  refine middle.frame ⟨frame.processes, frame.socket, frame.cancel, frame.taken, frame.reports,
    frame.strayed⟩ (expects_taking takes ?_)
  show State.Holds _ fun process => told.dropHeld.cancel = true ∨ process.Open
  rw [frame.cancel]
  exact holds.kept rfl frame.processes fun _ _ same has => has.imp_right same.follows.open

/-- Reading the event. -/
theorem Sound.readEvent (sound : state.Sound) {spec : Spec} {path : List String}
    {read : ServerMessage × State} (serving : state.serving = .awaitingEvent path)
    (taken : state.held.bind state.takeResponse = some read) :
    (readEvent spec path read.1 read.2).Sound := by
  have expects := sound.expects
  unfold Expects at expects
  rw [serving] at expects
  obtain ⟨place, holder, held, last, there, count, asked⟩ := expects
  rw [held] at taken
  obtain ⟨process, message, responses, found, first, rfl⟩ := takeResponse_some taken
  obtain rfl := Option.some.inj (there.symm.trans found)
  have own := sound.processes holder (List.mem_of_getElem? found)
  have next := Process.next_message first
  have position : holder.received.length = 2 * (holder.works.length - 1) + 1 := by omega
  rw [position] at next
  obtain ⟨other, event, produced, rfl⟩ := own.event_message next
  obtain rfl := own.produced_path asked.1 produced
  refine sound.change found (own.read first) List.prefix_rfl List.prefix_rfl id rfl rfl sound.calm
    ⟨place, _, held, ?_, getElem?_set found, ?_, asked, produced⟩
  · show place + 1 = (state.processes.set place _).length
    rw [List.length_set]
    exact last
  · show (holder.received ++ [_]).length = 2 * holder.works.length
    rw [List.length_append, List.length_singleton]
    omega

/-- Reading the status. -/
theorem Sound.readStatus (sound : state.Sound) {spec : Spec} {path : List String} {event : Event}
    {read : ServerMessage × State} (serving : state.serving = .awaitingStatus path event)
    (taken : state.held.bind state.takeResponse = some read) :
    (readStatus spec path event read.1 read.2).Sound := by
  have expects := sound.expects
  unfold Expects at expects
  rw [serving] at expects
  obtain ⟨place, holder, held, last, there, count, asked, produced⟩ := expects
  rw [held] at taken
  obtain ⟨process, message, responses, found, first, rfl⟩ := takeResponse_some taken
  obtain rfl := Option.some.inj (there.symm.trans found)
  have own := sound.processes holder (List.mem_of_getElem? found)
  have next := Process.next_message first
  have some_work := (List.getElem?_eq_some_iff.mp asked.1).1
  have position : holder.received.length = 2 * (holder.works.length - 1) + 2 := by omega
  rw [position] at next
  obtain ⟨status, reported, rfl⟩ := own.status_message next
  have length : place + 1 = (state.processes.set place (holder.receive (.status status)
      responses)).length := by
    rw [List.length_set]
    exact last
  refine sound.change found (own.read first) List.prefix_rfl List.prefix_rfl id rfl rfl sound.calm
    ⟨⟨place, _, held, length, getElem?_set found, ?_, asked.2, reported⟩,
      place, _, holder.works.length - 1, held, getElem?_set found, asked.1, produced⟩
  show (holder.received ++ [_]).length = 2 * holder.works.length + 1
  rw [List.length_append, List.length_singleton, count]

/-- Reading a response keeps the link sound. -/
theorem Sound.readMessage (sound : state.Sound) {spec : Spec}
    (taken : readMessage spec state = some after) : after.Sound := by
  unfold LocalWorker.readMessage at taken
  split at taken
  · rename_i index serving
    obtain ⟨read, given, rfl⟩ := Option.map_eq_some_iff.mp taken
    exact sound.readReady serving given
  · rename_i path serving
    obtain ⟨read, given, rfl⟩ := Option.map_eq_some_iff.mp taken
    exact sound.readEvent serving given
  · rename_i path event serving
    obtain ⟨read, given, rfl⟩ := Option.map_eq_some_iff.mp taken
    exact sound.readStatus serving given
  · cases taken

/-- Spawning a process, when all the others are dead. -/
theorem Sound.spawn (sound : state.Sound) (gone : state.AllGone) :
    ({ state with
      processes := state.processes ++ [.spawned]
      serving := .settingUp state.processes.length } : State).Sound where
  processes process member := by
    obtain old | new := List.mem_append.mp member
    · exact sound.processes process old
    · obtain rfl := List.mem_singleton.mp new
      exact Process.sound_start (.inr rfl)
  lone index process found inside := by
    rw [List.length_append, List.length_singleton] at inside
    rw [List.getElem?_append_left (by omega)] at found
    exact gone process (List.mem_of_getElem? found)
  expects := by
    refine ⟨?_, .spawned, ?_, rfl, rfl⟩
    · rw [List.length_append, List.length_singleton]
    · simp
  reports report member event answer :=
    (sound.reports report member event answer).grows fun index process found =>
      ⟨process, getElem?_within (List.prefix_append _ _) found, List.prefix_rfl, List.prefix_rfl⟩
  calm := sound.calm

/-- Spawning a process or failing to keeps the link sound. -/
theorem Sound.spawned (sound : state.Sound) (outcome : Except String Unit)
    (gone : state.AllGone) (running : state.serving.isOver = false) :
    (match outcome with
      | .ok () =>
        { state with
          processes := state.processes ++ [.spawned]
          serving := .settingUp state.processes.length }
      | .error error => state.finish (.error error) : State).Sound := by
  cases outcome with
  | ok done => exact sound.spawn gone
  | error error => exact sound.finish running _

/-- Connecting keeps the link sound. -/
theorem Sound.connectStep (sound : state.Sound) {outcome : Except String Unit}
    (taken : connectStep state outcome = some after) : after.Sound := by
  have expects := sound.expects
  unfold Expects at expects
  simp only [LocalWorker.connectStep] at taken
  split at taken
  · rename_i serving
    rw [serving] at expects
    split at taken
    · rename_i socket
      obtain rfl := Option.some.inj taken
      obtain ⟨_, only⟩ | ⟨free, _⟩ := expects
      · exact sound.still rfl rfl sound.calm only
      · rw [free] at socket
        cases socket
    · rename_i socket
      obtain rfl := Option.some.inj taken
      obtain ⟨waits, _⟩ | ⟨_, gone⟩ := expects
      · exact absurd waits socket
      · exact sound.spawned outcome gone (by rw [serving]; rfl)
  · rename_i serving
    rw [serving] at expects
    obtain rfl := Option.some.inj taken
    exact sound.spawned outcome expects (by rw [serving]; rfl)
  · cases taken

/-- Reading a pid keeps the link sound. -/
theorem Sound.readPid (sound : state.Sound) {opened : Except String Unit}
    (taken : readPid state opened = some after) : after.Sound := by
  have expects := sound.expects
  unfold Expects at expects
  unfold LocalWorker.readPid at taken
  split at taken
  · rename_i process serving there
    rw [serving] at expects
    obtain ⟨only, one, fresh⟩ := expects
    have found := there
    rw [one] at there
    obtain rfl := Option.some.inj there
    have own := sound.processes only (List.mem_of_getElem? found)
    have kept : ({ only with pid := none } : Process).Sound :=
      own.touch rfl rfl rfl rfl rfl rfl rfl
    have alone : (state.setProcess 0 { only with pid := none }).processes =
        [{ only with pid := none }] := by
      rw [setProcess, one]
      rfl
    have reading : (state.setProcess 0 { only with pid := none }).Sound := by
      refine sound.change found kept List.prefix_rfl List.prefix_rfl id rfl rfl sound.calm ?_
      have same : (state.setProcess 0 { only with pid := none }).serving = .attaching := serving
      unfold Expects
      rw [same]
      exact ⟨_, alone, fresh⟩
    have running : (state.setProcess 0 { only with pid := none }).serving.isOver = false := by
      show state.serving.isOver = false
      rw [serving]
      rfl
    obtain ⟨pid, _, rfl⟩ := Option.map_eq_some_iff.mp taken
    split
    · split
      · refine sound.change found kept List.prefix_rfl List.prefix_rfl id rfl rfl sound.calm
          ⟨?_, { only with pid := none }, ?_, fresh⟩
        · rw [alone]
          rfl
        · rw [alone]
          rfl
      · exact reading.finish running _
    · exact reading.finish running _
  · cases taken

/-- Reading the end of the slot keeps the link sound. -/
theorem Sound.readEnd (sound : state.Sound) (taken : readEnd state = some after) :
    after.Sound := by
  have expects := sound.expects
  unfold Expects at expects
  unfold LocalWorker.readEnd at taken
  split at taken
  · rename_i process serving there
    rw [serving] at expects
    obtain ⟨only, one, fresh⟩ := expects
    split at taken
    · rename_i ended
      obtain rfl := Option.some.inj taken
      rw [one] at there
      obtain rfl := Option.some.inj there
      have frame := state.frame_modify 0 Process.kept_hangUp
      refine sound.frame ⟨frame.processes, rfl, rfl, rfl, rfl, rfl⟩ ?_
      intro process member
      have same : (state.modify 0 Process.hangUp).processes = [only.hangUp] := by
        rw [modify, one]
        rfl
      rw [show _ = _ from same] at member
      obtain rfl := List.mem_singleton.mp member
      exact ended.1
    · cases taken
  · cases taken

/-- A process that is held, whatever it is expected to do. -/
theorem Holds.any {property : Process → Prop} (holds : state.Holds property) :
    state.Holds Process.Any := holds.weaken fun _ _ => trivial

/-- A failure of the master keeps the link sound. -/
theorem Sound.failStep (sound : state.Sound) {source : String}
    (taken : failStep state source = some after) : after.Sound := by
  have expects := sound.expects
  unfold Expects at expects
  unfold LocalWorker.failStep at taken
  split at taken
  · rename_i serving
    obtain rfl := Option.some.inj taken
    exact sound.finish (by rw [serving]; rfl) _
  · rename_i serving
    rw [serving] at expects
    obtain rfl := Option.some.inj taken
    exact sound.still rfl rfl sound.calm expects.1
  · rename_i serving
    rw [serving] at expects
    obtain rfl := Option.some.inj taken
    exact sound.still rfl rfl sound.calm expects.1
  · rename_i serving
    rw [serving] at expects
    obtain rfl := Option.some.inj taken
    exact sound.still rfl rfl sound.calm expects.any
  · rename_i serving
    rw [serving] at expects
    obtain rfl := Option.some.inj taken
    exact sound.still rfl rfl sound.calm expects.any
  · rename_i serving
    rw [serving] at expects
    obtain rfl := Option.some.inj taken
    exact sound.still rfl rfl sound.calm expects.any
  · cases taken

/-- Killing a process that is awaited then. -/
theorem Sound.kill (sound : state.Sound) (index : Nat) {serving : Serving}
    (expects : ({ state.modify index Process.kill with serving } : State).Expects) :
    ({ state.modify index Process.kill with serving } : State).Sound := by
  have frame := state.frame_modify index Process.kept_kill
  exact sound.frame ⟨frame.processes, rfl, rfl, rfl, rfl, rfl⟩ expects

/-- The time limit of the start passes. -/
theorem Sound.late (sound : state.Sound) {spec : Spec} {attached : Except String Unit}
    {source : String} (running : state.serving.isOver = false)
    (last : index + 1 = state.processes.length) :
    (if spec.forked && index == 0 then state.finish attached
      else { state.modify index .kill with
        serving := .startDraining index "handshake" source } : State).Sound := by
  split
  · exact sound.finish running _
  · refine sound.kill index ?_
    show index + 1 = (state.processes.modify index _).length
    rw [List.length_modify]
    exact last

/-- The time limit of an item passes. -/
theorem Sound.overdue (sound : state.Sound) {path : List String}
    {property : Process → Prop} (holds : state.Holds property)
    (taken : (state.held.map fun index =>
      { state.modify index .kill with serving := .aborting path }) = some after) :
    after.Sound := by
  obtain ⟨index, held, rfl⟩ := Option.map_eq_some_iff.mp taken
  refine sound.kill index ?_
  have frame := state.frame_modify index Process.kept_kill
  show State.Holds _ _
  exact holds.any.kept rfl frame.processes fun _ _ _ _ => trivial

/-- A time limit that passes keeps the link sound. -/
theorem Sound.timeoutStep (sound : state.Sound) {spec : Spec}
    (taken : timeoutStep spec state = some after) : after.Sound := by
  have expects := sound.expects
  unfold Expects at expects
  simp only [LocalWorker.timeoutStep] at taken
  split at taken
  · rename_i serving
    obtain rfl := Option.some.inj taken
    exact sound.finish (by rw [serving]; rfl) _
  · rename_i process serving
    rw [serving] at expects
    obtain rfl := Option.some.inj taken
    exact sound.late (by rw [serving]; rfl) expects.1
  · rename_i process serving
    rw [serving] at expects
    obtain rfl := Option.some.inj taken
    exact sound.late (by rw [serving]; rfl) expects.1
  · rename_i process phase source serving
    rw [serving] at expects
    obtain rfl := Option.some.inj taken
    exact sound.late (by rw [serving]; rfl) expects
  all_goals first
    | (rename_i serving
       rw [serving] at expects
       exact sound.overdue expects taken)
    | cases taken

/-- The process that the task holds is dead when it is seen to be. -/
theorem Holds.gone {property : Process → Prop} (holds : state.Holds property)
    (dead : state.isHeldGone = true) : state.Holds Process.Gone := by
  obtain ⟨place, holder, held, last, there, _⟩ := holds
  refine ⟨place, holder, held, last, there, ?_⟩
  simp only [isHeldGone, held, Option.any_some, isGone, there, decide_eq_true_eq] at dead
  exact dead

/-- A process that was awaited is dead, and the link stays sound. -/
theorem Sound.exitedStep (sound : state.Sound) {spec : Spec} {status : Option String}
    {stderr : String} (free : state.serving = .retiring → state.socket = false)
    (taken : exitedStep spec state status stderr = some after) : after.Sound := by
  have expects := sound.expects
  unfold Expects at expects
  simp only [LocalWorker.exitedStep] at taken
  split at taken
  · rename_i serving
    split at taken
    · obtain rfl := Option.some.inj taken
      exact sound.finish (by rw [serving]; rfl) _
    · cases taken
  · rename_i serving
    rw [serving] at expects
    split at taken
    · rename_i dead
      obtain rfl := Option.some.inj taken
      exact sound.still rfl rfl sound.calm ⟨rfl, expects.gone dead⟩
    · cases taken
  · rename_i serving
    rw [serving] at expects
    split at taken
    · rename_i dead
      obtain rfl := Option.some.inj taken
      exact sound.still rfl rfl sound.calm ⟨rfl, expects.gone dead⟩
    · cases taken
  · rename_i serving
    rw [serving] at expects
    split at taken
    · rename_i dead
      obtain rfl := Option.some.inj taken
      have gone := sound.allGone (expects.gone dead)
      exact sound.still rfl rfl sound.calm (.inr ⟨free serving, gone⟩)
    · cases taken
  · rename_i serving
    split at taken
    · obtain rfl := Option.some.inj taken
      exact sound.finish (by rw [serving]; rfl) _
    · cases taken
  · cases taken

/-- What writing a request does. -/
theorem request_some {message : ClientMessage} {works : List (Nat × List String)}
    (taken : state.request message works = some after) :
    ∃ index process, state.held = some index ∧ state.processes[index]? = some process ∧
      after = state.setProcess index (process.send message works) := by
  unfold request at taken
  split at taken
  · rename_i index held
    obtain ⟨process, found, rfl⟩ := Option.map_eq_some_iff.mp taken
    exact ⟨index, process, held, found, rfl⟩
  · cases taken

/-- Writing a request keeps the link sound, once the master's new place expects the right thing. -/
theorem Sound.write (sound : state.Sound) {message : ClientMessage}
    {works : List (Nat × List String)} (found : state.processes[index]? = some process)
    (same : works.map Prod.snd = [message].filterMap workPath?)
    (room : process.works.length + works.length ≤ process.statuses.length + 1)
    (ready : works = [] ∨ ∀ place : Nat, process.statuses[place]? ≠ some .restart)
    (processes : after.processes = state.processes.set index (process.send message works))
    (reports : after.reports = state.reports) (calm : after.strayed = state.strayed)
    (expects : after.Expects) : after.Sound :=
  sound.change found
    ((sound.processes process (List.mem_of_getElem? found)).write same room ready)
    (List.prefix_append _ _) List.prefix_rfl id processes reports (calm.trans sound.calm) expects

/-- Writing the request of an item keeps the link sound. -/
theorem Sound.writeWork (sound : state.Sound) {path : List String}
    (serving : state.serving = .sendingWork path)
    (written : state.request (.work path) [(state.taken.length - 1, path)] = some after) :
    ({ after with serving := .awaitingEvent path } : State).Sound := by
  have expects := sound.expects
  unfold Expects at expects
  rw [serving] at expects
  obtain ⟨place, holder, own, last, there, quiet, takes⟩ := expects
  obtain ⟨index, process, held, found, rfl⟩ := request_some written
  obtain rfl := Option.some.inj (held.symm.trans own)
  obtain rfl := Option.some.inj (found.symm.trans there)
  have answered := (sound.processes process (List.mem_of_getElem? found)).answered quiet
  have ready : ∀ place : Nat, process.statuses[place]? ≠ some .restart := by
    intro place restart
    have inside := (List.getElem?_eq_some_iff.mp restart).1
    have goes := takes place (by omega)
    rw [goes] at restart
    cases restart
  refine sound.write found rfl ?_ (.inr ready) rfl rfl rfl
    ⟨index, _, own, ?_, getElem?_set found, ?_, ?_, ?_⟩
  · rw [List.length_singleton]
    omega
  · show index + 1 = (state.processes.set index _).length
    rw [List.length_set]
    exact last
  · show process.received.length + 1 = 2 * (process.works ++ [_]).length
    unfold Process.Quiet at quiet
    rw [List.length_append, List.length_singleton]
    omega
  · show (process.works ++ [_])[(process.works ++ [_]).length - 1]? = _
    rw [List.length_append, List.length_singleton, Nat.add_sub_cancel]
    exact List.getElem?_concat_length
  · intro place inside
    rw [Process.send, List.length_append, List.length_singleton, Nat.add_sub_cancel] at inside
    exact takes place inside

/-- Writing the setup keeps the link sound. -/
theorem Sound.writeSetup (sound : state.Sound) {config : WorkerConfig}
    (serving : state.serving = .settingUp index) (found : state.processes[index]? = some process) :
    ({ state.setProcess index (process.send (.setup config none none) []) with
      serving := .greeting index } : State).Sound := by
  have expects := sound.expects
  unfold Expects at expects
  rw [serving] at expects
  obtain ⟨last, holder, there, fresh⟩ := expects
  obtain rfl := Option.some.inj (found.symm.trans there)
  have own := sound.processes process (List.mem_of_getElem? found)
  have sent : (process.send (.setup config none none) []).Fresh := by
    obtain ⟨none, unread⟩ := fresh
    exact ⟨by rw [Process.send, none]; rfl, unread⟩
  have room : process.works.length + ([] : List (Nat × List String)).length ≤
      process.statuses.length + 1 := by
    rw [List.length_nil]
    exact own.outstanding
  refine sound.write found rfl room (.inl rfl) rfl rfl rfl ⟨?_, _, getElem?_set found, sent⟩
  show index + 1 = (state.processes.set index _).length
  rw [List.length_set]
  exact last

/-- Sending the result of an item keeps the link sound. -/
theorem Sound.sendResult (sound : state.Sound) {path : List String} {answer : Answer}
    {status : WorkerStatus} (delivered : Bool)
    (serving : state.serving = .sendingResult path answer status) :
    ({ state with
      serving := if delivered then .settling (Answer.isError answer) status else .stopping
      reports := state.reports ++
        [⟨state.taken.length - 1, path, answer, status, state.held⟩] } : State).Sound := by
  have expects := sound.expects
  unfold Expects at expects
  rw [serving] at expects
  refine ⟨sound.processes, sound.lone, ?_, ?_, sound.calm⟩
  · cases delivered with
    | false =>
      cases answer with
      | error report => exact expects.2.any
      | ok event => exact expects.1.any
    | true =>
      cases answer with
      | error report => exact expects
      | ok event => exact expects.1
  · intro report member event answered
    obtain old | new := List.mem_append.mp member
    · exact sound.reports report old event answered
    · obtain rfl := List.mem_singleton.mp new
      obtain rfl : answer = .ok event := answered
      exact expects.2

/-- A process whose last status is to go on takes more work. -/
theorem open_of_answered (answered : process.Answered .ready) : process.Open := by
  obtain ⟨quiet, settled, last⟩ := answered
  refine ⟨quiet, fun place inside => ?_⟩
  by_cases final : place = process.works.length - 1
  · rw [final]
    exact last
  · exact settled place (by omega)

/-- Deciding how to go on keeps the link sound. -/
theorem Sound.settle (sound : state.Sound) {failed : Bool} {status : WorkerStatus}
    (serving : state.serving = .settling failed status) (free : state.socket = false) :
    ({ state with
      serving :=
        if failed && !state.cancel then .connecting
        else if status = .restart then .retiring
        else .receiving } : State).Sound := by
  have expects := sound.expects
  unfold Expects at expects
  rw [serving] at expects
  cases failed with
  | true =>
    obtain ⟨rfl, holds⟩ := expects
    have gone := sound.allGone holds
    cases cancel : state.cancel with
    | false => exact sound.still rfl rfl sound.calm (.inr ⟨free, gone⟩)
    | true =>
      exact sound.still rfl rfl sound.calm (holds.weaken fun process _ => Or.inl rfl)
  | false =>
    cases status with
    | restart => exact sound.still rfl rfl sound.calm expects.any
    | ready =>
      exact sound.still rfl rfl sound.calm
        (expects.weaken fun process answered => Or.inr (open_of_answered answered))

/-- Writing the shutdown keeps the link sound. -/
theorem Sound.stop (sound : state.Sound) (written : Bool) (serving : state.serving = .stopping) :
    ({ if written then (state.request .shutdown []).getD state else state with
      serving := .waiting } : State).Sound := by
  have expects := sound.expects
  unfold Expects at expects
  rw [serving] at expects
  have unwritten : ({ state with serving := .waiting } : State).Sound :=
    sound.still rfl rfl sound.calm expects
  cases written with
  | false => exact unwritten
  | true =>
    cases asked : state.request .shutdown [] with
    | none => exact unwritten
    | some requested =>
      obtain ⟨index, process, held, found, rfl⟩ := request_some asked
      have room := (sound.processes process (List.mem_of_getElem? found)).outstanding
      refine sound.write found rfl ?_ (.inl rfl) rfl rfl rfl
        (expects.change found (fun _ => trivial) rfl rfl)
      exact room

/-- A request for cancellation asks less of the master. -/
theorem Expects.cancel (expects : state.Expects) :
    ({ state with cancel := true } : State).Expects := by
  unfold Expects at expects ⊢
  cases serving : state.serving <;> rw [serving] at expects
  case announcing | receiving => exact expects.weaken fun _ _ => Or.inl rfl
  case sendingResult path answer status =>
    cases answer with
    | error report => exact expects
    | ok event => exact expects
  case settling failed status =>
    cases failed with
    | true => exact expects
    | false => exact expects
  all_goals exact expects

/-- A task that connects is not over. -/
theorem isOver_of_isConnecting {serving : Serving} (connecting : serving.isConnecting = true) :
    serving.isOver = false := by
  cases serving with
  | ended | aborted => cases connecting
  | _ => rfl

/-- A command that comes while the worker connects keeps the link sound. -/
theorem Sound.early (sound : state.Sound) {spec : Spec} {command : Option WorkerCommand}
    (taken : linkStep spec state (.early command) = some after) : after.Sound := by
  unfold linkStep at taken
  dsimp only at taken
  split at taken
  · rename_i early
    simp only [Bool.and_eq_true] at early
    have running := isOver_of_isConnecting early.2
    split at taken
    all_goals
      obtain rfl := Option.some.inj taken
      exact sound.finish running _
  · cases taken

/-- Taking a command keeps the link sound. -/
theorem Sound.command (sound : state.Sound) {spec : Spec} {command : WorkerCommand}
    (taken : linkStep spec state (.command command) = some after) : after.Sound := by
  have expects := sound.expects
  unfold Expects at expects
  unfold linkStep at taken
  dsimp only at taken
  split at taken
  · rename_i receiving
    rw [receiving] at expects
    split at taken
    · obtain rfl := Option.some.inj taken
      exact sound.still rfl rfl sound.calm expects.any
    · rename_i running
      split at taken
      · obtain rfl := Option.some.inj taken
        exact sound.still rfl rfl sound.calm
          (expects.weaken fun process takes => takes.resolve_left running)
      · obtain rfl := Option.some.inj taken
        exact sound.still rfl rfl sound.calm expects.any
  · cases taken

/-- Writing a request or the setup keeps the link sound. -/
theorem Sound.writes (sound : state.Sound) {spec : Spec}
    (taken : linkStep spec state .write = some after) : after.Sound := by
  unfold linkStep at taken
  dsimp only at taken
  split at taken
  · rename_i index serving
    obtain ⟨process, found, rfl⟩ := Option.map_eq_some_iff.mp taken
    exact sound.writeSetup serving found
  · rename_i path serving
    obtain ⟨written, given, rfl⟩ := Option.map_eq_some_iff.mp taken
    exact sound.writeWork serving given
  · cases taken

/-- Sending a message keeps the link sound. -/
theorem Sound.send (sound : state.Sound) {spec : Spec} {delivered : Bool}
    (taken : linkStep spec state (.send delivered) = some after) : after.Sound := by
  have expects := sound.expects
  unfold Expects at expects
  unfold linkStep at taken
  dsimp only at taken
  split at taken
  · rename_i serving
    rw [serving] at expects
    obtain rfl := Option.some.inj taken
    cases delivered with
    | true => exact sound.still rfl rfl sound.calm expects
    | false => exact sound.finish (by rw [serving]; rfl) _
  · rename_i path answer status serving
    obtain rfl := Option.some.inj taken
    exact sound.sendResult delivered serving
  · rename_i serving
    rw [serving] at expects
    obtain rfl := Option.some.inj taken
    exact sound.still rfl rfl sound.calm expects
  · cases taken

/-- Every step keeps the link sound. -/
theorem Sound.step (sound : state.Sound) {spec : Spec} {action : LinkAction}
    (slot : state.socket = true → state.serving = .connecting ∨ state.serving.isOver = true)
    (taken : linkStep spec state action = some after) : after.Sound := by
  have expects := sound.expects
  unfold Expects at expects
  have free : ∀ {serving : Serving}, state.serving = serving → serving ≠ .connecting →
      serving.isOver = false → state.socket = false := by
    rintro _ rfl other running
    rw [Bool.eq_false_iff]
    intro waits
    rcases slot waits with connecting | left
    · exact other connecting
    · rw [left] at running
      cases running
  cases action with
  | cancel =>
    obtain rfl := Option.some.inj taken
    exact sound.still rfl rfl sound.calm sound.expects.cancel
  | abort =>
    simp only [linkStep, Option.ite_none_right_eq_some, Option.some.injEq, Bool.and_eq_true,
      Bool.not_eq_true'] at taken
    obtain ⟨⟨_, running⟩, rfl⟩ := taken
    exact sound.leave rfl running
  | early command => exact sound.early taken
  | connect outcome => exact sound.connectStep taken
  | readPid opened => exact sound.readPid taken
  | readEnd => exact sound.readEnd taken
  | command command => exact sound.command taken
  | closed =>
    simp only [linkStep] at taken
    split at taken
    · rename_i receiving
      rw [receiving] at expects
      obtain rfl := Option.some.inj taken
      exact sound.still rfl rfl sound.calm expects.any
    · cases taken
  | write => exact sound.writes taken
  | read => exact sound.readMessage taken
  | failed source => exact sound.failStep taken
  | timeout => exact sound.timeoutStep taken
  | exited status stderr =>
    exact sound.exitedStep (fun retiring => free retiring (by simp) rfl) taken
  | send delivered => exact sound.send taken
  | settle =>
    simp only [linkStep] at taken
    split at taken
    · rename_i failed status serving
      obtain rfl := Option.some.inj taken
      exact sound.settle serving (free serving (by simp) rfl)
    · cases taken
  | stop written =>
    simp only [linkStep] at taken
    split at taken
    · rename_i serving
      obtain rfl := Option.some.inj taken
      exact sound.stop written serving
    · cases taken
  | process index action =>
    simp only [linkStep] at taken
    split at taken
    · rename_i process found
      obtain ⟨changed, served, rfl⟩ := Option.map_eq_some_iff.mp taken
      exact sound.serve found served
    · cases taken

/-- The link is sound before the task connects. -/
theorem sound_initial (spec : Spec) : (initial spec).Sound := by
  cases forked : spec.forked with
  | true =>
    have one : (initial spec).processes = [.slot] := by simp [initial, forked]
    have waits : (initial spec).socket = true := forked
    refine ⟨?_, ?_, .inl ⟨waits, .slot, one, rfl, rfl⟩, nofun, rfl⟩
    · intro process member
      rw [one] at member
      obtain rfl := List.mem_singleton.mp member
      exact Process.sound_start (.inl rfl)
    · intro index process found inside
      rw [one, List.length_singleton] at inside
      omega
  | false =>
    have none : (initial spec).processes = [] := by simp [initial, forked]
    have free : (initial spec).socket = false := forked
    refine ⟨?_, ?_, .inr ⟨free, ?_⟩, nofun, rfl⟩
    · rw [none]
      exact nofun
    · rw [none]
      exact nofun
    · intro process member
      rw [none] at member
      cases member

end State

end Evix.LocalWorker
