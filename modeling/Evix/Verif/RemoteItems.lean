import Mathlib.Data.List.Range
import Evix.Verif.RemoteLink

/-!
# Results of a remote worker

Every item a remote worker takes up is answered by exactly one result, unless the task is
aborted by a cancelled run while it holds the item. With the attribution of the events this is
what the master and the service owe to each other.
-/

namespace Evix.RemoteWorker

open Machines

namespace State

/-- The results are those of the items taken up, in order. -/
structure Tallied (state : State) : Prop where
  /-- Results are numbered like their items. -/
  items : state.reports.map Report.item = List.range state.reports.length
  /-- The items taken up are those reported, and the one whose result is not sent. -/
  paths : ∃ pending : Option (List String),
    state.taken = state.reports.map Report.path ++ pending.toList ∧
      (state.serving.path? = pending ∨ state.serving = .aborted ∧ state.cancel = true)

variable {spec : Spec} {state after : State}

/-- A step that neither takes an item up nor reports one. -/
theorem Tallied.frame (tallied : state.Tallied) (reports : after.reports = state.reports)
    (taken : after.taken = state.taken) (serving : after.serving.path? = state.serving.path?)
    (running : state.serving ≠ .aborted) : after.Tallied := by
  obtain ⟨items, pending, paths, open_ | ⟨aborted, _⟩⟩ := tallied
  · exact ⟨by rw [reports]; exact items, pending, by rw [reports, taken]; exact paths,
      .inl (serving.trans open_)⟩
  · exact absurd aborted running

/-- A step that leaves the master where it is. -/
theorem Tallied.keep (tallied : state.Tallied) (reports : after.reports = state.reports)
    (taken : after.taken = state.taken) (serving : after.serving = state.serving)
    (cancel : state.cancel = true → after.cancel = true) : after.Tallied := by
  obtain ⟨items, pending, paths, held⟩ := tallied
  refine ⟨by rw [reports]; exact items, pending, by rw [reports, taken]; exact paths, ?_⟩
  rw [serving]
  exact held.imp_right fun aborted => ⟨aborted.1, cancel aborted.2⟩

/-- Taking a response leaves the master where it is. -/
theorem takeResponse_frame {link : Nat} {read : ServerMessage × State}
    (taken : state.takeResponse link = some read) :
    read.2.reports = state.reports ∧ read.2.taken = state.taken := by
  obtain ⟨connection, message, responses, _, _, rfl⟩ := takeResponse_some taken
  exact ⟨rfl, rfl⟩

end State

section Steps

variable {spec : Spec} {state after : State}

/-- Reading a response does not lose the item. -/
theorem State.Tallied.readResponse (tallied : state.Tallied)
    (taken : readResponse spec state = some after) : after.Tallied := by
  unfold RemoteWorker.readResponse at taken
  split at taken
  · rename_i link serving
    obtain ⟨read, given, rfl⟩ := Option.map_eq_some_iff.mp taken
    obtain ⟨reports, items⟩ := State.takeResponse_frame given
    unfold handshakeResponse
    split <;> exact tallied.frame reports items (by rw [serving]; rfl) (by rw [serving]; nofun)
  · rename_i path serving
    obtain ⟨read, given, rfl⟩ := Option.map_eq_some_iff.mp taken
    obtain ⟨link, _, given⟩ := Option.bind_eq_some_iff.mp given
    obtain ⟨reports, items⟩ := State.takeResponse_frame given
    unfold eventResponse
    split <;> exact tallied.frame reports items (by rw [serving]; rfl) (by rw [serving]; nofun)
  · rename_i path event serving
    obtain ⟨read, given, rfl⟩ := Option.map_eq_some_iff.mp taken
    obtain ⟨link, _, given⟩ := Option.bind_eq_some_iff.mp given
    obtain ⟨reports, items⟩ := State.takeResponse_frame given
    unfold statusResponse
    split <;> exact tallied.frame reports items (by rw [serving]; rfl) (by rw [serving]; nofun)
  · cases taken

/-- Writing a request does not lose the item. -/
theorem State.Tallied.writeWork (tallied : state.Tallied)
    (taken : writeWork spec state = some after) : after.Tallied := by
  unfold RemoteWorker.writeWork at taken
  split at taken
  · rename_i path serving
    split at taken
    · obtain ⟨written, given, rfl⟩ := Option.map_eq_some_iff.mp taken
      obtain ⟨link, connection, _, _, rfl⟩ := request_some given
      exact tallied.frame rfl rfl (by rw [serving]; rfl) (by rw [serving]; nofun)
    · obtain rfl := Option.some.inj taken
      exact tallied.frame rfl rfl (by rw [serving]; rfl) (by rw [serving]; nofun)
  · cases taken

/-- Stopping takes nothing up. -/
theorem State.Tallied.stop (tallied : state.Tallied) {written : Bool}
    (taken : stopStep state written = some after) : after.Tallied := by
  unfold stopStep at taken
  split at taken
  · rename_i serving
    obtain rfl := Option.some.inj taken
    have same : ∀ requested : State, requested.reports = state.reports →
        requested.taken = state.taken → (requested.finish (.ok ())).Tallied :=
      fun _ reports items =>
        tallied.frame reports items (by rw [serving]; rfl) (by rw [serving]; nofun)
    split
    · cases asked : state.request .shutdown [] with
      | none => exact same state rfl rfl
      | some requested =>
        obtain ⟨link, connection, _, _, rfl⟩ := request_some asked
        exact same _ rfl rfl
    · exact same state rfl rfl
  · cases taken

/-- Sending a result settles the item in hand. -/
theorem State.Tallied.sendResult (tallied : state.Tallied) {path : List String} {answer : Answer}
    {delivered : Bool} (serving : state.serving = .sendingResult path answer) :
    ({ state with
      serving := if delivered then .settling (Answer.isError answer) else .stopping
      reports := state.reports ++ [⟨state.taken.length - 1, path, answer, state.stream⟩] } :
        State).Tallied := by
  obtain ⟨items, pending, paths, held | ⟨aborted, _⟩⟩ := tallied
  · rw [serving] at held
    subst held
    have count : state.taken.length = state.reports.length + 1 := by
      rw [paths]
      simp [Serving.path?]
    refine ⟨?_, none, ?_, .inl ?_⟩
    · rw [List.map_append, items, List.length_append, List.length_singleton, List.range_succ]
      simp [count]
    · simp [paths, Serving.path?]
    · cases delivered <;> rfl
  · rw [serving] at aborted
    cases aborted

/-- Taking an item up puts it in hand. -/
theorem State.Tallied.accept (tallied : state.Tallied) (item : WorkItem)
    (receiving : state.serving = .receiving) :
    ({ state with serving := .sendingWork item.path, taken := state.taken ++ [item.path] } :
      State).Tallied := by
  obtain ⟨items, pending, paths, held | ⟨aborted, _⟩⟩ := tallied
  · rw [receiving] at held
    subst held
    exact ⟨items, some item.path, by simp [paths, Serving.path?], .inl rfl⟩
  · rw [receiving] at aborted
    cases aborted

/-- Every step keeps the tally. -/
theorem State.Tallied.step (tallied : state.Tallied) {action : LinkAction}
    (taken : linkStep spec state action = some after) : after.Tallied := by
  cases linkStep_moves taken with
  | cancel => exact tallied.keep rfl rfl rfl fun _ => rfl
  | abort cancelled =>
    obtain ⟨items, pending, paths, _⟩ := tallied
    exact ⟨items, pending, paths, .inr ⟨rfl, cancelled⟩⟩
  | opened opening =>
    exact tallied.frame rfl rfl (by rw [opening]; rfl) (by rw [opening]; nofun)
  | leave serving stream free path running => exact tallied.frame rfl rfl path running
  | accept item receiving => exact tallied.accept item receiving
  | write written => exact tallied.writeWork written
  | read given => exact tallied.readResponse given
  | report delivered sending => exact tallied.sendResult sending
  | resume settling =>
    exact tallied.frame rfl rfl (by rw [settling]; rfl) (by rw [settling]; nofun)
  | stop stopped => exact tallied.stop stopped
  | service => exact tallied.keep rfl rfl rfl id

/-- Every reachable state is tallied. -/
theorem State.tallied_reachable {legal : State → LinkAction → Prop}
    (reached : (linkMachine spec).Reachable legal state) : state.Tallied := by
  refine reached.invariant ?_ fun _ _ _ _ tallied _ taken => tallied.step taken
  rintro _ rfl
  exact ⟨rfl, none, rfl, .inl rfl⟩

end Steps

/-! ## What the two parties owe to each other -/

/-- The number of results sent for an item. -/
def State.resultsFor (state : State) (item : Nat) : Nat :=
  (state.reports.map Report.item).count item

/-- Whether the item's result is still to be sent by the task. -/
def State.Pending (state : State) (item : Nat) : Prop :=
  state.serving.isBusy = true ∧ item + 1 = state.taken.length

/-- Whether the task was aborted by a cancelled run while it held the item. -/
def State.Dropped (state : State) (item : Nat) : Prop :=
  state.serving = .aborted ∧ state.cancel = true ∧ item + 1 = state.taken.length

/-- Events are attributed rightly, items are answered once, and no message is out of place. -/
structure State.Paired (state : State) : Prop where
  /-- An event reported for an item is what the evaluator produced for the work of that item on
  the connection the worker held. -/
  attributed : ∀ report ∈ state.reports, ∀ event, report.answer = .ok event →
    Produced state.connections report.link report.item report.path event
  /-- A result is for the item taken up under its number. -/
  forItem : ∀ report ∈ state.reports, state.taken[report.item]? = some report.path
  /-- Every item taken up has one result, unless its result is to come or the task is aborted. -/
  answered : ∀ item < state.taken.length,
    state.resultsFor item = 1 ∨
      state.resultsFor item = 0 ∧ (state.Pending item ∨ state.Dropped item)
  /-- No event response was unexpected. -/
  expectedEvent : state.unexpectedEvent = false
  /-- No status response was unexpected. -/
  expectedStatus : state.unexpectedStatus = false
  /-- No service received work while an attribute was in flight. -/
  calm : ∀ connection ∈ state.connections, connection.intruded = false

section Results

variable {spec : Spec} {state : State}

theorem Serving.isBusy_of_path? {serving : Serving} {path : List String}
    (held : serving.path? = some path) : serving.isBusy = true := by
  cases serving <;> first | rfl | cases held

/-- A reported item is one taken up, with its path. -/
theorem State.Tallied.forItem (tallied : state.Tallied) {report : Report}
    (member : report ∈ state.reports) : state.taken[report.item]? = some report.path := by
  obtain ⟨items, pending, paths, _⟩ := tallied
  obtain ⟨index, found⟩ := List.getElem?_of_mem member
  have inside := (List.getElem?_eq_some_iff.mp found).1
  have numbered : (state.reports.map Report.item)[index]? = some report.item := by
    rw [List.getElem?_map, found]
    rfl
  rw [items, List.getElem?_range inside] at numbered
  obtain rfl := Option.some.inj numbered
  rw [paths, List.getElem?_append_left (by rw [List.length_map]; exact inside),
    List.getElem?_map, found]
  rfl

/-- An item taken up is reported once or is the one in hand. -/
theorem State.Tallied.answered (tallied : state.Tallied) {item : Nat}
    (taken : item < state.taken.length) :
    state.resultsFor item = 1 ∨
      state.resultsFor item = 0 ∧ (state.Pending item ∨ state.Dropped item) := by
  obtain ⟨items, pending, paths, held⟩ := tallied
  have results : state.resultsFor item = if item < state.reports.length then 1 else 0 := by
    rw [State.resultsFor, items, List.count_range]
  have length : state.taken.length = state.reports.length + pending.toList.length := by
    rw [paths, List.length_append, List.length_map]
  by_cases reported : item < state.reports.length
  · rw [if_pos reported] at results
    exact .inl results
  · rw [if_neg reported] at results
    cases pending with
    | none =>
      rw [Option.toList_none, List.length_nil] at length
      omega
    | some path =>
      rw [Option.toList_some, List.length_singleton] at length
      have last : item + 1 = state.taken.length := by omega
      refine .inr ⟨results, ?_⟩
      obtain busy | ⟨aborted, cancelled⟩ := held
      · exact .inl ⟨Serving.isBusy_of_path? busy, last⟩
      · exact .inr ⟨aborted, cancelled, last⟩

/-- Whether a state has the result of one more item than another. -/
def State.ReportsOne (state after : State) : Prop :=
  after.taken = state.taken ∧ after.reports.length = state.reports.length + 1

/-- A task that has its answer sends the result. -/
theorem State.send_reports (spec : Spec) {path : List String} {answer : Answer}
    (serving : state.serving = .sendingResult path answer) :
    ∃ after, (linkMachine spec).Step (fun _ _ => True) state (.send true) after ∧
      state.ReportsOne after := by
  refine ⟨{ state with
    serving := .settling (Answer.isError answer)
    reports := state.reports ++ [⟨state.taken.length - 1, path, answer, state.stream⟩] },
    ⟨trivial, ?_⟩, rfl, ?_⟩
  · show linkStep spec state (.send true) = _
    rw [linkStep, serving]
    rfl
  · exact List.length_append

/-- Once the time limit has passed, a busy task sends the result of its item, whatever the
service does. -/
theorem State.busy_reports (busy : state.serving.isBusy = true) :
    ∃ actions after, (linkMachine spec).Run (fun _ _ => True) state actions after ∧
      (∀ action ∈ actions, action = .itemTimeout ∨ action = .send true) ∧
        state.ReportsOne after := by
  have timing : ∀ path, linkStep spec state .itemTimeout =
      some { state.answer path (.error (timeoutReport spec path)) with stream := none } →
      ∃ actions after, (linkMachine spec).Run (fun _ _ => True) state actions after ∧
        (∀ action ∈ actions, action = .itemTimeout ∨ action = .send true) ∧
          state.ReportsOne after := by
    intro path limit
    let answered : State :=
      { state.answer path (.error (timeoutReport spec path)) with stream := none }
    have serving : answered.serving = .sendingResult path (.error (timeoutReport spec path)) := rfl
    obtain ⟨after, step, reported⟩ := State.send_reports spec serving
    exact ⟨[.itemTimeout, .send true], after, .cons ⟨trivial, limit⟩ (.cons step (.nil _)),
      by simp, reported⟩
  cases serving : state.serving <;> rw [serving] at busy
  case sendingWork path => exact timing path (by rw [linkStep, serving])
  case awaitingEvent path => exact timing path (by rw [linkStep, serving])
  case awaitingStatus path event => exact timing path (by rw [linkStep, serving])
  case sendingResult path answer =>
    obtain ⟨after, step, reported⟩ := State.send_reports spec serving
    exact ⟨[.send true], after, .cons step (.nil _), by simp, reported⟩
  all_goals cases busy

/-- In every run of a remote worker against its service events are attributed to the work they
were produced for, every item has exactly one result unless a cancelled run aborts the task that
holds it, and a busy task can always send the result of its item. -/
theorem remote_answers (reached : (linkMachine spec).Reachable (fun _ _ => True) state) :
    state.Paired ∧
      (state.serving.isBusy = true →
        ∃ actions after, (linkMachine spec).Run (fun _ _ => True) state actions after ∧
          (∀ action ∈ actions, action = .itemTimeout ∨ action = .send true) ∧
            state.ReportsOne after) := by
  have sound := State.sound_reachable reached
  have tallied := State.tallied_reachable reached
  refine ⟨?_, State.busy_reports⟩
  exact {
    attributed := sound.reports
    forItem := fun report member => tallied.forItem member
    answered := fun item taken => tallied.answered taken
    expectedEvent := sound.expected.1
    expectedStatus := sound.expected.2
    calm := fun connection member => (sound.connections connection member).calm
  }

end Results

/-- A remote worker for the default configuration. -/
def smallSpec : Spec where
  label := "remote:tcp://a#0"
  config := .ofConfig .default
  token := none
  storeDir := "/nix/store"
  debug := fun _ => "message"

/-- A new connection up to its handshake. -/
def connects (link : Nat) : List LinkAction :=
  [.opened (.ok ()), .service link (.setup (.ok ())), .service link .spawned, .read]

/-- An item is taken up, and its work reaches the service. -/
def asks (link : Nat) (path : List String) : List LinkAction :=
  [.command (.work ⟨path⟩), .write, .service link .request]

/-- The service evaluates an item to an empty attribute set. -/
def evaluates (link : Nat) (path : List String) : LinkAction :=
  .service link (.evaluated (.ok (.attrSet (displayAttr path) path [], .ready)))

/-- The answer to the first item is written after its time limit. The second item is answered on
a new connection, by its own event. -/
theorem remote_answers_late : ∃ state : State, state.Paired ∧
    state.taken = [[], ["a"]] ∧
      state.reports.map (fun report => (report.item, report.link)) = [(0, none), (1, some 1)] := by
  obtain ⟨state, reached, checked⟩ := Machine.reachable_of_execute (linkMachine smallSpec)
    (fun _ _ => True) .initial
    (connects 0 ++ asks 0 [] ++ [.itemTimeout, evaluates 0 [], .service 0 .write,
      .service 0 .write, .send true, .settle] ++
      connects 1 ++ asks 1 ["a"] ++ [evaluates 1 ["a"], .service 1 .write, .read,
      .service 1 .write, .read, .send true, .settle])
    (fun state => state.taken = [[], ["a"]] ∧
      state.reports.map (fun report => (report.item, report.link)) = [(0, none), (1, some 1)])
    rfl (by decide)
  exact ⟨state, (remote_answers reached).1, of_decide_eq_true checked⟩

/-- A cancelled run may abort a task that holds an item: that item has no result. -/
theorem remote_answers_aborted : ¬ ∀ (spec : Spec) (state : State),
    (linkMachine spec).Reachable (fun _ _ => True) state → state.serving.isBusy = false →
      ∀ item < state.taken.length, state.resultsFor item = 1 := by
  intro claimed
  obtain ⟨state, reached, checked⟩ := Machine.reachable_of_execute (linkMachine smallSpec)
    (fun _ _ => True) .initial (connects 0 ++ asks 0 [] ++ [.cancel, .abort])
    (fun state => state.serving.isBusy = false ∧ state.taken.length = 1 ∧ state.resultsFor 0 = 0)
    rfl (by decide)
  obtain ⟨idle, taken, none⟩ := of_decide_eq_true checked
  have one := claimed smallSpec state reached idle 0 (by rw [taken]; exact Nat.one_pos)
  rw [none] at one
  cases one

end Evix.RemoteWorker
