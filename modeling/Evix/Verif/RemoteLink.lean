import Evix.Verif.RemoteService

/-!
# Answers of a remote worker

The master never says which item a response belongs to, so attribution rests on counting: on
the connection its worker holds, the master has read two messages for every work it wrote and
the handshake, except while it waits for one. A connection on which that count is broken, by a
time limit or a failure, is not used for work again.
-/

namespace Evix.RemoteWorker

open Machines Transcript

/-! ## Moves of the link -/

/-- The path of the item whose result is not sent. -/
def Serving.path? : Serving → Option (List String)
  | .sendingWork path | .awaitingEvent path | .awaitingStatus path _ | .sendingResult path _ =>
    some path
  | _ => none

/-- Whether the master has nothing more to ask of the connection it holds. -/
def Serving.isFree : Serving → Bool
  | .opening | .sendingResult _ (.error _) | .settling true | .sendingCancelled | .stopping
  | .ended _ | .aborted => true
  | _ => false

/-- What a step of the link can do. -/
inductive LinkMove (spec : Spec) (state : State) : LinkAction → State → Prop where
  /-- Cancellation is requested. -/
  | cancel : LinkMove spec state .cancel { state with cancel := true }
  /-- A cancelled task is dropped. -/
  | abort (cancelled : state.cancel = true) :
      LinkMove spec state .abort { state with serving := .aborted, stream := none }
  /-- A connection is opened. -/
  | opened (opening : state.serving = .opening) :
      LinkMove spec state (.opened (.ok ())) { state with
        connections := state.connections ++ [.fresh spec]
        serving := .handshake state.connections.length }
  /-- The master goes on with the item in hand and asks nothing more of its connection. -/
  | leave {action : LinkAction} (serving : Serving) (stream : Option Nat)
      (free : serving.isFree = true) (path : serving.path? = state.serving.path?)
      (running : state.serving ≠ .aborted) :
      LinkMove spec state action { state with serving, stream }
  /-- An item is taken up. -/
  | accept (item : WorkItem) (receiving : state.serving = .receiving)
      (running : state.cancel = false) :
      LinkMove spec state (.command (.work item)) { state with
        serving := .sendingWork item.path, taken := state.taken ++ [item.path] }
  /-- The request of the item is written. -/
  | write {after : State} (written : writeWork spec state = some after) :
      LinkMove spec state .write after
  /-- A response is read. -/
  | read {after : State} (given : readResponse spec state = some after) :
      LinkMove spec state .read after
  /-- The result of the item is sent. -/
  | report {path : List String} {answer : Answer} (delivered : Bool)
      (sending : state.serving = .sendingResult path answer) :
      LinkMove spec state (.send delivered) { state with
        serving := if delivered then .settling (Answer.isError answer) else .stopping
        reports := state.reports ++ [⟨state.taken.length - 1, path, answer, state.stream⟩] }
  /-- The master waits for the next command. -/
  | resume {failed : Bool} (settling : state.serving = .settling failed)
      (kept : failed = true → state.cancel = true) :
      LinkMove spec state .settle { state with serving := .receiving }
  /-- The connection is given up. -/
  | stop {written : Bool} {after : State} (stopped : stopStep state written = some after) :
      LinkMove spec state (.stop written) after
  /-- The service of a connection moves. -/
  | service {link : Nat} {connection changed : Connection} {action : ServiceAction}
      (found : state.connections[link]? = some connection)
      (served : serviceStep connection action = some changed) :
      LinkMove spec state (.service link action) (state.setConnection link changed)

/-- Every step of the link is one of its moves. -/
theorem linkStep_moves {spec : Spec} {state after : State} {action : LinkAction}
    (taken : linkStep spec state action = some after) : LinkMove spec state action after := by
  cases action with
  | cancel =>
    obtain rfl := Option.some.inj taken
    exact .cancel
  | abort =>
    simp only [linkStep, Option.ite_none_right_eq_some, Option.some.injEq, Bool.and_eq_true]
      at taken
    obtain ⟨⟨cancelled, _⟩, rfl⟩ := taken
    exact .abort cancelled
  | opened outcome =>
    simp only [linkStep] at taken
    split at taken
    · rename_i opening
      obtain rfl := Option.some.inj taken
      exact .opened opening
    · rename_i error opening
      obtain rfl := Option.some.inj taken
      exact .leave _ _ rfl (by rw [opening]; rfl) (by rw [opening]; nofun)
    · cases taken
  | command command =>
    simp only [linkStep] at taken
    split at taken
    · rename_i receiving
      split at taken
      · obtain rfl := Option.some.inj taken
        exact .leave _ _ rfl (by rw [receiving]; rfl) (by rw [receiving]; nofun)
      · rename_i running
        split at taken
        · obtain rfl := Option.some.inj taken
          exact .accept _ receiving (Bool.eq_false_of_not_eq_true running)
        · obtain rfl := Option.some.inj taken
          exact .leave _ _ rfl (by rw [receiving]; rfl) (by rw [receiving]; nofun)
    · cases taken
  | closed =>
    simp only [linkStep] at taken
    split at taken
    · rename_i receiving
      obtain rfl := Option.some.inj taken
      exact .leave _ _ rfl (by rw [receiving]; rfl) (by rw [receiving]; nofun)
    · cases taken
  | write => exact .write taken
  | read => exact .read taken
  | failed report | itemTimeout =>
    simp only [linkStep] at taken
    split at taken
    all_goals first
      | (rename_i serving
         obtain rfl := Option.some.inj taken
         exact .leave _ _ rfl (by rw [serving]; rfl) (by rw [serving]; nofun))
      | cases taken
  | send delivered =>
    simp only [linkStep] at taken
    split at taken
    · rename_i path answer sending
      obtain rfl := Option.some.inj taken
      exact .report delivered sending
    · rename_i cancelled
      obtain rfl := Option.some.inj taken
      exact .leave _ _ rfl (by rw [cancelled]; rfl) (by rw [cancelled]; nofun)
    · cases taken
  | settle =>
    simp only [linkStep] at taken
    split at taken
    · rename_i failed settling
      obtain rfl := Option.some.inj taken
      split
      · exact .leave _ _ rfl (by rw [settling]; rfl) (by rw [settling]; nofun)
      · rename_i stays
        refine .resume settling fun bad => ?_
        simpa [bad] using stays
    · cases taken
  | stop written => exact .stop taken
  | service link action =>
    simp only [linkStep] at taken
    split at taken
    · rename_i connection found
      obtain ⟨changed, served, rfl⟩ := Option.map_eq_some_iff.mp taken
      exact .service found served
    · cases taken

/-! ## What the master expects -/

/-- Every answer is read. -/
def Connection.Quiet (connection : Connection) : Prop :=
  connection.received.length = 2 * connection.works.length + 1

/-- The last work written is an item's. -/
def Connection.Asked (connection : Connection) (item : Nat) (path : List String) : Prop :=
  connection.works[connection.works.length - 1]? = some (item, path)

/-- Both messages for the last work are still to be read. -/
def Connection.AsksEvent (item : Nat) (path : List String) (connection : Connection) : Prop :=
  connection.received.length + 1 = 2 * connection.works.length ∧ connection.Asked item path

/-- The event of the last work is read, its status is not. -/
def Connection.AsksStatus (item : Nat) (path : List String) (event : Event)
    (connection : Connection) : Prop :=
  connection.received.length = 2 * connection.works.length ∧ connection.Asked item path ∧
    ∃ status, connection.produced[connection.works.length - 1]? = some (path, event, status)

/-- An event is what the evaluator produced for the work of an item on a connection. -/
def Produced (connections : List Connection) (link : Option Nat) (item : Nat)
    (path : List String) (event : Event) : Prop :=
  ∃ (place : Nat) (connection : Connection) (serial : Nat) (status : WorkerStatus),
    link = some place ∧ connections[place]? = some connection ∧
      connection.works[serial]? = some (item, path) ∧
        connection.produced[serial]? = some (path, event, status)

namespace State

/-- The number of the item taken up last. -/
def item (state : State) : Nat := state.taken.length - 1

/-- The worker holds a connection with a property. -/
def Holds (state : State) (property : Connection → Prop) : Prop :=
  ∃ link connection, state.stream = some link ∧ state.connections[link]? = some connection ∧
    property connection

/-- What the master expects of its connection, by where it is. -/
def Expects (state : State) : Prop :=
  match state.serving with
  | .handshake link => ∃ connection, state.connections[link]? = some connection ∧
      connection.works = [] ∧ connection.received = []
  | .receiving => state.cancel = true ∨ state.Holds Connection.Quiet
  | .sendingWork _ | .settling false => state.Holds Connection.Quiet
  | .awaitingEvent path => state.Holds (Connection.AsksEvent state.item path)
  | .awaitingStatus path event => state.Holds (Connection.AsksStatus state.item path event)
  | .sendingResult path (.ok event) => state.Holds Connection.Quiet ∧
      Produced state.connections state.stream state.item path event
  | _ => True

/-- The invariant of the link. -/
structure Sound (state : State) : Prop where
  /-- Every connection is sound. -/
  connections : ∀ connection ∈ state.connections, connection.Sound
  /-- The master's count is right where it matters. -/
  expects : state.Expects
  /-- Reported events were produced for the reported item. -/
  reports : ∀ report ∈ state.reports, ∀ event, report.answer = .ok event →
    Produced state.connections report.link report.item report.path event
  /-- No response was unexpected. -/
  expected : state.unexpectedEvent = false ∧ state.unexpectedStatus = false

variable {spec : Spec} {state after : State} {link : Nat} {connection changed : Connection}

/-- Every connection stays sound when one changes to a sound one. -/
theorem sound_setConnection (sound : ∀ connection ∈ state.connections, connection.Sound)
    (changed : connection.Sound) :
    ∀ other ∈ (state.setConnection link connection).connections, other.Sound := by
  intro other member
  obtain old | rfl := List.mem_or_eq_of_mem_set member
  · exact sound other old
  · exact changed

/-- The connection that changed is there. -/
theorem getElem?_setConnection (found : state.connections[link]? = some connection) :
    (state.setConnection link changed).connections[link]? = some changed := by
  have inside := (List.getElem?_eq_some_iff.mp found).1
  exact List.getElem?_set_self inside

/-- Production is not undone by a connection that only adds works and answers. -/
theorem produced_setConnection (found : state.connections[link]? = some connection)
    (works : connection.works <+: changed.works)
    (produced : connection.produced <+: changed.produced)
    {place : Option Nat} {item : Nat} {path : List String} {event : Event}
    (earlier : Produced state.connections place item path event) :
    Produced (state.setConnection link changed).connections place item path event := by
  obtain ⟨index, holder, serial, status, rfl, there, work, answer⟩ := earlier
  by_cases same : link = index
  · subst same
    obtain rfl := Option.some.inj (found.symm.trans there)
    exact ⟨link, changed, serial, status, rfl, getElem?_setConnection found,
      getElem?_within works work, getElem?_within produced answer⟩
  · refine ⟨index, holder, serial, status, rfl, ?_, work, answer⟩
    rw [setConnection, List.getElem?_set_ne same]
    exact there

/-- A step that leaves the connections alone. -/
theorem Sound.frame (sound : state.Sound) (connections : after.connections = state.connections)
    (reports : after.reports = state.reports)
    (expected : after.unexpectedEvent = false ∧ after.unexpectedStatus = false)
    (expects : after.Expects) : after.Sound where
  connections := by
    rw [connections]
    exact sound.connections
  expects := expects
  reports := by
    rw [reports, connections]
    exact sound.reports
  expected := expected

/-- A master that has nothing to ask expects nothing. -/
theorem expects_of_isFree (free : state.serving.isFree = true) : state.Expects := by
  unfold Expects
  cases serving : state.serving <;> rw [serving] at free
  case sendingResult path answer =>
    cases answer with
    | error report => trivial
    | ok event => cases free
  case settling failed =>
    cases failed with
    | true => trivial
    | false => cases free
  all_goals trivial

/-- The connection the worker holds is sound. -/
theorem Sound.get (sound : state.Sound) (found : state.connections[link]? = some connection) :
    connection.Sound :=
  sound.connections connection (List.mem_of_getElem? found)

end State

/-! ## Reading and writing -/

section Steps

variable {spec : Spec} {state after : State} {link : Nat} {connection : Connection}

/-- What taking a response does. -/
theorem takeResponse_some {read : ServerMessage × State}
    (taken : state.takeResponse link = some read) :
    ∃ connection message responses, state.connections[link]? = some connection ∧
      connection.responses = message :: responses ∧
      read = (message, state.setConnection link (connection.receive message responses)) := by
  unfold State.takeResponse at taken
  split at taken
  · rename_i connection found
    split at taken
    · rename_i message responses first
      obtain rfl := Option.some.inj taken
      exact ⟨connection, message, responses, found, first, rfl⟩
    · cases taken
  · cases taken

/-- Reading does not change what the service has written. -/
theorem Connection.Sound.read (sound : connection.Sound) {message : ServerMessage}
    {responses : List ServerMessage} (first : connection.responses = message :: responses) :
    (connection.receive message responses).Sound where
  begun := sound.begun
  unread := sound.unread
  produced := sound.produced
  outstanding := sound.outstanding
  told := by
    have same : (connection.receive message responses).transcript = connection.transcript := by
      simp [Connection.transcript, Connection.receive, first]
    have told := sound.told
    unfold Connection.Told at told ⊢
    rw [same]
    exact told
  calm := sound.calm

/-- The next message is the one after those read. -/
theorem Connection.next_message {message : ServerMessage} {responses : List ServerMessage}
    (first : connection.responses = message :: responses) :
    connection.transcript[connection.received.length]? = some message := by
  simp [Connection.transcript, first]

/-- Writing a request. -/
theorem Connection.Sound.write (sound : connection.Sound) {message : ClientMessage}
    {works : List (Nat × List String)}
    (same : works.map Prod.snd = [message].filterMap workPath?)
    (room : connection.works.length + works.length ≤ connection.produced.length + 1) :
    (connection.send message works).Sound where
  begun := by
    rw [Connection.send, List.map_append]
    exact sound.begun.trans (List.prefix_append _ _)
  unread := by
    intro still
    show (connection.works ++ works).map Prod.snd =
      connection.begun ++ (connection.requests ++ [message]).filterMap workPath?
    rw [List.map_append, List.filterMap_append, ← List.append_assoc, sound.unread still, same]
  produced := sound.produced
  outstanding := by
    rw [Connection.send, List.length_append]
    exact room
  told := sound.told
  calm := sound.calm

/-- When every answer is read, every work is answered. -/
theorem Connection.Sound.answered (sound : connection.Sound) (quiet : connection.Quiet) :
    connection.works.length ≤ connection.produced.length := by
  have whole := sound.transcript_length
  unfold Connection.Quiet at quiet
  simp only [Connection.transcript, List.length_append] at whole
  omega

/-- Reading a response keeps the link sound, once the master's new place expects the right
thing. -/
theorem State.Sound.read (sound : state.Sound) {message : ServerMessage}
    {responses : List ServerMessage} (found : state.connections[link]? = some connection)
    (first : connection.responses = message :: responses)
    (connections : after.connections = (state.setConnection link
      (connection.receive message responses)).connections)
    (reports : after.reports = state.reports)
    (expected : after.unexpectedEvent = false ∧ after.unexpectedStatus = false)
    (expects : after.Expects) : after.Sound where
  connections := by
    rw [connections]
    exact State.sound_setConnection sound.connections ((sound.get found).read first)
  expects := expects
  reports := by
    intro report member event answer
    rw [reports] at member
    rw [connections]
    have works : connection.works <+: (connection.receive message responses).works :=
      List.prefix_rfl
    exact State.produced_setConnection found works List.prefix_rfl
      (sound.reports report member event answer)
  expected := expected

/-- Reading the handshake. -/
theorem State.Sound.handshake (sound : state.Sound) (serving : state.serving = .handshake link)
    {read : ServerMessage × State} (taken : state.takeResponse link = some read) :
    (handshakeResponse spec link read.1 read.2).Sound := by
  obtain ⟨connection, message, responses, found, first, rfl⟩ := takeResponse_some taken
  have expects := sound.expects
  unfold State.Expects at expects
  rw [serving] at expects
  obtain ⟨holder, there, works, received⟩ := expects
  obtain rfl := Option.some.inj (found.symm.trans there)
  unfold handshakeResponse
  split
  · refine sound.read found first rfl rfl sound.expected
      (.inr ⟨link, _, rfl, State.getElem?_setConnection found, ?_⟩)
    simp [Connection.Quiet, Connection.receive, works, received]
  · exact sound.read found first rfl rfl sound.expected trivial

/-- Reading the first response for an item. -/
theorem State.Sound.awaitEvent (sound : state.Sound) {path : List String}
    (serving : state.serving = .awaitingEvent path) {read : ServerMessage × State}
    (taken : state.stream.bind state.takeResponse = some read) :
    (eventResponse spec path read.1 read.2).Sound := by
  have expects := sound.expects
  unfold State.Expects at expects
  rw [serving] at expects
  obtain ⟨link, holder, stream, there, count, asked⟩ := expects
  rw [stream, Option.bind_some] at taken
  obtain ⟨connection, message, responses, found, first, rfl⟩ := takeResponse_some taken
  obtain rfl := Option.some.inj (found.symm.trans there)
  have placed := Connection.next_message first
  have odd : connection.received.length = 2 * (connection.works.length - 1) + 1 := by omega
  rw [odd] at placed
  obtain ⟨produced, event, status, entry, same⟩ | ⟨text, same⟩ :=
    (sound.get found).event_message placed
  · obtain rfl := (sound.get found).produced_path asked entry
    subst same
    refine sound.read found first rfl rfl sound.expected
      ⟨link, _, stream, State.getElem?_setConnection found, ?_, asked, status, entry⟩
    simp only [Connection.receive, List.length_append, List.length_singleton]
    omega
  · subst same
    exact sound.read found first rfl rfl sound.expected trivial

/-- Reading the second response for an item. -/
theorem State.Sound.awaitStatus (sound : state.Sound) {path : List String} {event : Event}
    (serving : state.serving = .awaitingStatus path event) {read : ServerMessage × State}
    (taken : state.stream.bind state.takeResponse = some read) :
    (statusResponse spec path event read.1 read.2).Sound := by
  have expects := sound.expects
  unfold State.Expects at expects
  rw [serving] at expects
  obtain ⟨link, holder, stream, there, count, asked, status, entry⟩ := expects
  rw [stream, Option.bind_some] at taken
  obtain ⟨connection, message, responses, found, first, rfl⟩ := takeResponse_some taken
  obtain rfl := Option.some.inj (found.symm.trans there)
  have positive : 0 < connection.works.length := by
    have inside := (List.getElem?_eq_some_iff.mp asked).1
    omega
  have placed := Connection.next_message first
  have even : connection.received.length = 2 * (connection.works.length - 1) + 2 := by omega
  rw [even] at placed
  obtain ⟨written, same⟩ := (sound.get found).status_message placed
  subst same
  let changed := connection.receive (.status written) responses
  have holds : (state.setConnection link changed).connections[link]? = some changed :=
    State.getElem?_setConnection found
  refine sound.read found first rfl rfl sound.expected
    ⟨⟨link, _, stream, holds, ?_⟩,
      link, _, connection.works.length - 1, status, stream, holds, asked, entry⟩
  simp only [changed, Connection.Quiet, Connection.receive, List.length_append,
    List.length_singleton]
  omega

/-- Reading a response keeps the link sound. -/
theorem State.Sound.readResponse (sound : state.Sound)
    (taken : readResponse spec state = some after) : after.Sound := by
  unfold RemoteWorker.readResponse at taken
  split at taken
  · rename_i link serving
    obtain ⟨read, given, rfl⟩ := Option.map_eq_some_iff.mp taken
    exact sound.handshake serving given
  · rename_i path serving
    obtain ⟨read, given, rfl⟩ := Option.map_eq_some_iff.mp taken
    exact sound.awaitEvent serving given
  · rename_i path event serving
    obtain ⟨read, given, rfl⟩ := Option.map_eq_some_iff.mp taken
    exact sound.awaitStatus serving given
  · cases taken

/-- What writing a request does. -/
theorem request_some {message : ClientMessage} {works : List (Nat × List String)}
    (taken : state.request message works = some after) :
    ∃ link connection, state.stream = some link ∧ state.connections[link]? = some connection ∧
      after = state.setConnection link (connection.send message works) := by
  unfold State.request at taken
  split at taken
  · rename_i link stream
    obtain ⟨connection, found, rfl⟩ := Option.map_eq_some_iff.mp taken
    exact ⟨link, connection, stream, found, rfl⟩
  · cases taken

/-- Writing a request keeps the link sound, once the master's new place expects the right
thing. -/
theorem State.Sound.write (sound : state.Sound) {message : ClientMessage}
    {works : List (Nat × List String)} (found : state.connections[link]? = some connection)
    (same : works.map Prod.snd = [message].filterMap workPath?)
    (room : connection.works.length + works.length ≤ connection.produced.length + 1)
    (connections : after.connections = (state.setConnection link
      (connection.send message works)).connections)
    (reports : after.reports = state.reports)
    (expected : after.unexpectedEvent = false ∧ after.unexpectedStatus = false)
    (expects : after.Expects) : after.Sound where
  connections := by
    rw [connections]
    exact State.sound_setConnection sound.connections ((sound.get found).write same room)
  expects := expects
  reports := by
    intro report member event answer
    rw [reports] at member
    rw [connections]
    have written : connection.works <+: (connection.send message works).works :=
      List.prefix_append _ _
    exact State.produced_setConnection found written List.prefix_rfl
      (sound.reports report member event answer)
  expected := expected

/-- Writing the request of an item keeps the link sound. -/
theorem State.Sound.writeWork (sound : state.Sound) (taken : writeWork spec state = some after) :
    after.Sound := by
  unfold RemoteWorker.writeWork at taken
  split at taken
  · rename_i path serving
    have expects := sound.expects
    unfold State.Expects at expects
    rw [serving] at expects
    obtain ⟨place, holder, stream, there, quiet⟩ := expects
    split at taken
    · obtain ⟨written, given, rfl⟩ := Option.map_eq_some_iff.mp taken
      obtain ⟨link, connection, held, found, rfl⟩ := request_some given
      obtain rfl := Option.some.inj (held.symm.trans stream)
      obtain rfl := Option.some.inj (found.symm.trans there)
      have answered := (sound.get found).answered quiet
      refine sound.write found rfl ?_ rfl rfl sound.expected
        ⟨link, _, stream, State.getElem?_setConnection found, ?_, ?_⟩
      · simp only [List.length_singleton]
        omega
      · simp only [Connection.Quiet] at quiet
        simp only [Connection.send, List.length_append, List.length_singleton]
        omega
      · simp [Connection.Asked, Connection.send, State.item, State.setConnection]
    · rename_i none
      rw [none] at stream
      cases stream
  · cases taken

/-- Stopping keeps the link sound. -/
theorem State.Sound.stop (sound : state.Sound) {written : Bool}
    (taken : stopStep state written = some after) : after.Sound := by
  unfold stopStep at taken
  split at taken
  · obtain rfl := Option.some.inj taken
    split
    · cases asked : state.request .shutdown [] with
      | none => exact sound.frame rfl rfl sound.expected trivial
      | some requested =>
        obtain ⟨link, connection, stream, found, rfl⟩ := request_some asked
        refine sound.write found rfl ?_ rfl rfl sound.expected trivial
        exact (sound.get found).outstanding
    · exact sound.frame rfl rfl sound.expected trivial
  · cases taken

/-- What the master expects of its connection a service cannot change. -/
theorem State.Holds.serve {property : Connection → Prop} {changed : Connection}
    (holds : state.Holds property) (found : state.connections[link]? = some connection)
    (kept : property connection → property changed) :
    (state.setConnection link changed).Holds property := by
  obtain ⟨place, holder, stream, there, has⟩ := holds
  by_cases same : link = place
  · subst same
    obtain rfl := Option.some.inj (found.symm.trans there)
    exact ⟨link, changed, stream, State.getElem?_setConnection found, kept has⟩
  · refine ⟨place, holder, stream, ?_, has⟩
    rw [State.setConnection, List.getElem?_set_ne same]
    exact there

/-- What the master expects, a step of a service leaves true. -/
theorem State.Expects.serve (expects : state.Expects) {changed : Connection}
    (found : state.connections[link]? = some connection) (serves : connection.Serves changed) :
    (state.setConnection link changed).Expects := by
  obtain ⟨works, received, produced⟩ := serves
  have grows : connection.works <+: changed.works := ⟨[], by rw [works, List.append_nil]⟩
  have quiet : connection.Quiet → changed.Quiet := by
    unfold Connection.Quiet
    rw [works, received]
    exact id
  have asked : ∀ {item path}, connection.Asked item path → changed.Asked item path := by
    unfold Connection.Asked
    rw [works]
    exact id
  have same : (state.setConnection link changed).serving = state.serving := rfl
  unfold State.Expects at expects ⊢
  rw [same]
  cases serving : state.serving <;> rw [serving] at expects
  case handshake place =>
    obtain ⟨holder, there, empty, unread⟩ := expects
    by_cases here : link = place
    · subst here
      obtain rfl := Option.some.inj (found.symm.trans there)
      exact ⟨changed, State.getElem?_setConnection found, works.trans empty,
        received.trans unread⟩
    · refine ⟨holder, ?_, empty, unread⟩
      rw [State.setConnection, List.getElem?_set_ne here]
      exact there
  case receiving =>
    obtain cancelled | holds := expects
    · exact .inl cancelled
    · exact .inr (holds.serve found quiet)
  case sendingWork => exact expects.serve found quiet
  case awaitingEvent path =>
    refine expects.serve found fun asks => ⟨?_, asked asks.2⟩
    rw [works, received]
    exact asks.1
  case awaitingStatus path event =>
    refine expects.serve found fun asks => ?_
    obtain ⟨count, ask, status, entry⟩ := asks
    refine ⟨?_, asked ask, status, ?_⟩
    · rw [works, received]
      exact count
    · rw [works]
      exact getElem?_within produced entry
  case sendingResult path answer =>
    cases answer with
    | error report => trivial
    | ok event => exact ⟨expects.1.serve found quiet,
        State.produced_setConnection found grows produced expects.2⟩
  case settling failed =>
    cases failed with
    | true => trivial
    | false => exact expects.serve found quiet
  all_goals trivial

/-- A step of a service keeps the link sound. -/
theorem State.Sound.service (sound : state.Sound) {changed : Connection} {action : ServiceAction}
    (found : state.connections[link]? = some connection)
    (taken : serviceStep connection action = some changed) :
    (state.setConnection link changed).Sound := by
  obtain ⟨kept, serves⟩ := (sound.get found).serve taken
  refine ⟨State.sound_setConnection sound.connections kept, sound.expects.serve found serves,
    fun report member event answer => ?_, sound.expected⟩
  have grows : connection.works <+: changed.works :=
    ⟨[], by rw [serves.works, List.append_nil]⟩
  exact State.produced_setConnection found grows serves.produced
    (sound.reports report member event answer)

/-- Opening a connection keeps what the others have produced. -/
theorem produced_opened {connections : List Connection} {fresh : Connection} {place : Option Nat}
    {item : Nat} {path : List String} {event : Event}
    (earlier : Produced connections place item path event) :
    Produced (connections ++ [fresh]) place item path event := by
  obtain ⟨index, holder, serial, status, rfl, there, work, answer⟩ := earlier
  exact ⟨index, holder, serial, status, rfl,
    getElem?_within (List.prefix_append _ _) there, work, answer⟩

/-- A request for cancellation asks less of the master. -/
theorem State.Expects.cancel (expects : state.Expects) :
    ({ state with cancel := true } : State).Expects := by
  unfold State.Expects at expects ⊢
  cases serving : state.serving <;> rw [serving] at expects
  case receiving => exact .inl rfl
  case sendingResult path answer =>
    cases answer with
    | error report => trivial
    | ok event => exact expects
  case settling failed =>
    cases failed with
    | true => trivial
    | false => exact expects
  all_goals exact expects

/-- Sending the result of an item keeps the link sound. -/
theorem State.Sound.sendResult (sound : state.Sound) {path : List String} {answer : Answer}
    {delivered : Bool} (serving : state.serving = .sendingResult path answer) :
    ({ state with
      serving := if delivered then .settling (Answer.isError answer) else .stopping
      reports := state.reports ++ [⟨state.taken.length - 1, path, answer, state.stream⟩] } :
        State).Sound := by
  have expects := sound.expects
  unfold State.Expects at expects
  rw [serving] at expects
  refine ⟨sound.connections, ?_, ?_, sound.expected⟩
  · cases delivered with
    | false => trivial
    | true =>
      cases answer with
      | error report => trivial
      | ok event => exact expects.1
  · intro report member event answered
    obtain old | new := List.mem_append.mp member
    · exact sound.reports report old event answered
    · obtain rfl := List.mem_singleton.mp new
      obtain rfl : answer = .ok event := answered
      exact expects.2

/-- Opening a connection keeps the link sound. -/
theorem State.Sound.opened (sound : state.Sound) :
    ({ state with
      connections := state.connections ++ [.fresh spec]
      serving := .handshake state.connections.length } : State).Sound where
  connections := by
    intro connection member
    obtain old | new := List.mem_append.mp member
    · exact sound.connections connection old
    · obtain rfl := List.mem_singleton.mp new
      exact Connection.sound_fresh spec
  expects := ⟨.fresh spec, by simp, rfl, rfl⟩
  reports report member event answer := produced_opened (sound.reports report member event answer)
  expected := sound.expected

/-- Every step keeps the link sound. -/
theorem State.Sound.step (sound : state.Sound) {action : LinkAction}
    (taken : linkStep spec state action = some after) : after.Sound := by
  have expects := sound.expects
  unfold State.Expects at expects
  cases linkStep_moves taken with
  | cancel => exact sound.frame rfl rfl sound.expected sound.expects.cancel
  | abort => exact sound.frame rfl rfl sound.expected trivial
  | opened => exact sound.opened
  | leave serving stream free =>
    exact sound.frame rfl rfl sound.expected (State.expects_of_isFree free)
  | accept item receiving running =>
    rw [receiving, running] at expects
    have holds := expects.resolve_left Bool.false_ne_true
    exact sound.frame rfl rfl sound.expected holds
  | write written => exact sound.writeWork written
  | read given => exact sound.readResponse given
  | report delivered sending => exact sound.sendResult sending
  | @resume failed settling kept =>
    rw [settling] at expects
    cases failed with
    | false => exact sound.frame rfl rfl sound.expected (.inr expects)
    | true => exact sound.frame rfl rfl sound.expected (.inl (kept rfl))
  | stop stopped => exact sound.stop stopped
  | service found served => exact sound.service found served

/-- Every reachable state of the link is sound. -/
theorem State.sound_reachable {legal : State → LinkAction → Prop}
    (reached : (linkMachine spec).Reachable legal state) : state.Sound := by
  refine reached.invariant ?_ fun _ _ _ _ sound _ taken => sound.step taken
  rintro _ rfl
  exact ⟨nofun, trivial, nofun, rfl, rfl⟩

end Steps

end Evix.RemoteWorker
