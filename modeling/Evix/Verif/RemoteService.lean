import Evix.Library.Transcript
import Evix.RemoteWorker.Link

/-!
# The transcript of a connection

What a service writes is a transcript: the handshake, then an event and a status for every
item its evaluator has produced something for, and perhaps an error at the end. The place of a
message in it decides what it can be, and which evaluation it belongs to.
-/

namespace Evix.RemoteWorker

open Machines Transcript

/-- The path of a work request. -/
def workPath? : ClientMessage → Option (List String)
  | .work path => some path
  | .setup .. | .shutdown => none

/-- The event and the status of every evaluation, in order. -/
def answers (produced : List (List String × Event × WorkerStatus)) : List ServerMessage :=
  pairs (fun entry => .event entry.2.1) (fun entry => .status entry.2.2) produced

/-- Every evaluation is answered by two messages. -/
theorem answers_length (produced : List (List String × Event × WorkerStatus)) :
    (answers produced).length = 2 * produced.length :=
  pairs_length _ _ produced

namespace Connection

variable (connection : Connection)

/-- Everything the service has written, read by the master or not. -/
def transcript : List ServerMessage := connection.received ++ connection.responses

/-- What the service has written, by where it is. -/
def Told : Prop :=
  match connection.service with
  | .setup | .spawning => connection.transcript = [] ∧ connection.begun = []
  | .idle | .restarting =>
    connection.transcript = .ready :: answers connection.produced ∧
      connection.begun.length = connection.produced.length
  | .evaluating path =>
    connection.transcript = .ready :: answers connection.produced ∧
      connection.begun = connection.produced.map Prod.fst ++ [path]
  | .answering event status => ∃ earlier path,
    connection.produced = earlier ++ [(path, event, status)] ∧
      connection.transcript = .ready :: answers earlier ∧
      connection.begun.length = connection.produced.length
  | .reporting status => ∃ earlier path event,
    connection.produced = earlier ++ [(path, event, status)] ∧
      connection.transcript = .ready :: answers earlier ++ [.event event] ∧
      connection.begun.length = connection.produced.length
  | .closed => ∃ text, connection.transcript <+: [.error text] ∨
      connection.transcript <+: .ready :: answers connection.produced ++ [.error text]

/-- What holds of every connection, whatever the master does with it. -/
structure Sound : Prop where
  /-- Work is begun in the order it was written. -/
  begun : connection.begun <+: connection.works.map Prod.snd
  /-- An open connection has not lost work. -/
  unread : connection.service ≠ .closed → connection.works.map Prod.snd =
    connection.begun ++ connection.requests.filterMap workPath?
  /-- Work is answered in the order it was begun. -/
  produced : connection.produced.map Prod.fst <+: connection.begun
  /-- At most one item is not answered. -/
  outstanding : connection.works.length ≤ connection.produced.length + 1
  /-- The service has written its answers. -/
  told : connection.Told
  /-- No work arrived while an attribute was in flight. -/
  calm : connection.intruded = false

variable {connection}

/-- Whatever the service does, its transcript begins like this. -/
theorem Sound.told_within (sound : connection.Sound) :
    ∃ text, connection.transcript <+: [.error text] ∨
      connection.transcript <+: .ready :: answers connection.produced ++ [.error text] := by
  have told := sound.told
  unfold Told at told
  cases service : connection.service <;> rw [service] at told
  case setup | spawning =>
    rw [told.1]
    exact ⟨"", .inl List.nil_prefix⟩
  case idle | restarting | evaluating =>
    rw [told.1]
    exact ⟨"", .inr (List.prefix_append _ _)⟩
  case answering event status =>
    obtain ⟨earlier, path, produced, transcript, _⟩ := told
    rw [transcript, produced, answers, answers, pairs_append]
    refine ⟨"", .inr ?_⟩
    rw [List.cons_append, List.append_assoc]
    exact List.prefix_cons_inj _ |>.mpr (List.prefix_append _ _)
  case reporting status =>
    obtain ⟨earlier, path, event, produced, transcript, _⟩ := told
    rw [transcript, produced, answers, answers, pairs_append]
    refine ⟨"", .inr ?_⟩
    simp [pairs]
  case closed => exact told

/-- The first message for an item is its event or an error. -/
theorem Sound.event_message (sound : connection.Sound) {message : ServerMessage} {index : Nat}
    (there : connection.transcript[2 * index + 1]? = some message) :
    (∃ path event status, connection.produced[index]? = some (path, event, status) ∧
      message = .event event) ∨ ∃ text, message = .error text := by
  obtain ⟨text, refused | served⟩ := sound.told_within
  · have same := getElem?_within refused there
    simp at same
  · have same := getElem?_within served there
    rw [List.cons_append, List.getElem?_cons_succ] at same
    by_cases inside : index < connection.produced.length
    · rw [List.getElem?_append_left (by rw [answers_length]; omega), answers, pairs_even] at same
      obtain ⟨⟨path, event, status⟩, found, rfl⟩ := Option.map_eq_some_iff.mp same
      exact .inl ⟨path, event, status, found, rfl⟩
    · rw [List.getElem?_append_right (by rw [answers_length]; omega)] at same
      exact .inr ⟨text, List.mem_singleton.mp (List.mem_of_getElem? same)⟩

/-- The second message for an item is its status. -/
theorem Sound.status_message (sound : connection.Sound) {message : ServerMessage} {index : Nat}
    (there : connection.transcript[2 * index + 2]? = some message) :
    ∃ status, message = .status status := by
  obtain ⟨text, refused | served⟩ := sound.told_within
  · have same := getElem?_within refused there
    simp at same
  · have same := getElem?_within served there
    rw [List.cons_append, List.getElem?_cons_succ] at same
    by_cases inside : index < connection.produced.length
    · rw [List.getElem?_append_left (by rw [answers_length]; omega), answers, pairs_odd] at same
      obtain ⟨⟨path, event, status⟩, found, rfl⟩ := Option.map_eq_some_iff.mp same
      exact ⟨status, rfl⟩
    · rw [List.getElem?_append_right (by rw [answers_length]; omega)] at same
      have short := (List.getElem?_eq_some_iff.mp same).1
      rw [List.length_singleton, answers_length] at short
      omega

/-- The service has not written more than the handshake and two messages for every item, and an
error. -/
theorem Sound.transcript_length (sound : connection.Sound) :
    connection.transcript.length ≤ 2 * connection.produced.length + 2 := by
  obtain ⟨text, refused | served⟩ := sound.told_within
  · have short := refused.length_le
    rw [List.length_singleton] at short
    omega
  · have short := served.length_le
    rw [List.cons_append, List.length_cons, List.length_append, List.length_singleton,
      answers_length] at short
    omega

/-- The paths produced are the paths of the works, in order. -/
theorem Sound.produced_path (sound : connection.Sound) {index item : Nat}
    {asked path : List String} {event : Event} {status : WorkerStatus}
    (work : connection.works[index]? = some (item, asked))
    (entry : connection.produced[index]? = some (path, event, status)) : path = asked := by
  have within := sound.produced.trans sound.begun
  have there : (connection.produced.map Prod.fst)[index]? = some path := by
    rw [List.getElem?_map, entry]
    rfl
  have same := getElem?_within within there
  rw [List.getElem?_map, work] at same
  exact (Option.some.inj same).symm

/-- What a service cannot change: what the master wrote and read. It only adds answers. -/
structure Serves (before after : Connection) : Prop where
  /-- The works are those the master wrote. -/
  works : after.works = before.works
  /-- The messages read are those the master read. -/
  received : after.received = before.received
  /-- Answers are only added. -/
  produced : before.produced <+: after.produced

/-- A service that drops the connection has written what it had written. -/
theorem Sound.close (sound : connection.Sound) {after : Connection}
    (service : after.service = .closed) (works : after.works = connection.works)
    (begun : after.begun = connection.begun) (produced : after.produced = connection.produced)
    (intruded : after.intruded = connection.intruded)
    (told : ∃ text, after.transcript <+: [.error text] ∨
      after.transcript <+: .ready :: answers connection.produced ++ [.error text]) :
    after.Sound where
  begun := by
    rw [begun, works]
    exact sound.begun
  unread := fun still => absurd service still
  produced := by
    rw [produced, begun]
    exact sound.produced
  outstanding := by
    rw [works, produced]
    exact sound.outstanding
  told := by
    unfold Told
    rw [service, produced]
    exact told
  calm := by
    rw [intruded]
    exact sound.calm

/-- A change that leaves the requests alone. -/
theorem Sound.stay (sound : connection.Sound) {after : Connection}
    (still : connection.service ≠ .closed) (requests : after.requests = connection.requests)
    (works : after.works = connection.works) (begun : after.begun = connection.begun)
    (produced : after.produced = connection.produced)
    (intruded : after.intruded = connection.intruded) (told : after.Told) : after.Sound where
  begun := by
    rw [begun, works]
    exact sound.begun
  unread := by
    intro _
    rw [works, begun, requests]
    exact sound.unread still
  produced := by
    rw [produced, begun]
    exact sound.produced
  outstanding := by
    rw [works, produced]
    exact sound.outstanding
  told := told
  calm := by
    rw [intruded]
    exact sound.calm

/-- While an item is evaluated no work is waiting. -/
theorem Sound.no_work (sound : connection.Sound) {path : List String}
    (evaluating : connection.service = .evaluating path) (other : List String) :
    .work other ∉ connection.requests := by
  intro waiting
  have told := sound.told
  unfold Told at told
  rw [evaluating] at told
  have unread := congrArg List.length (sound.unread (by rw [evaluating]; nofun))
  have outstanding := sound.outstanding
  have present : 0 < (connection.requests.filterMap workPath?).length :=
    List.length_pos_of_mem (List.mem_filterMap.mpr ⟨_, waiting, rfl⟩)
  rw [told.2] at unread
  simp only [List.length_append, List.length_map, List.length_singleton] at unread
  omega

/-- Reading the first message. -/
theorem Sound.serve_setup (sound : connection.Sound) {after : Connection}
    {verdict : Except (Option String) Unit}
    (taken : serviceStep connection (.setup verdict) = some after) :
    after.Sound ∧ Serves connection after := by
  have told := sound.told
  unfold Told at told
  unfold serviceStep at taken
  dsimp only at taken
  split at taken
  · rename_i service first
    rw [service] at told
    split at taken
    · obtain rfl := Option.some.inj taken
      refine ⟨⟨sound.begun, fun _ => ?_, sound.produced, sound.outstanding, told, sound.calm⟩,
        rfl, rfl, List.prefix_rfl⟩
      rw [sound.unread (by rw [service]; nofun), first]
      rfl
    · rename_i refusal
      obtain rfl := Option.some.inj taken
      refine ⟨sound.close rfl rfl rfl rfl rfl ⟨refusal, .inl ?_⟩, rfl, rfl, List.prefix_rfl⟩
      simp only [transcript, List.append_eq_nil_iff] at told ⊢
      rw [told.1.1, told.1.2]
      exact List.prefix_rfl
    · obtain rfl := Option.some.inj taken
      exact ⟨sound.close rfl rfl rfl rfl rfl sound.told_within, rfl, rfl, List.prefix_rfl⟩
  · obtain rfl := Option.some.inj taken
    exact ⟨sound.close rfl rfl rfl rfl rfl sound.told_within, rfl, rfl, List.prefix_rfl⟩
  · cases taken

/-- Reading a request. -/
theorem Sound.serve_request (sound : connection.Sound) {after : Connection}
    (taken : serviceStep connection .request = some after) :
    after.Sound ∧ Serves connection after := by
  have told := sound.told
  unfold Told at told
  unfold serviceStep at taken
  dsimp only at taken
  split at taken
  · rename_i path requests service first
    rw [service] at told
    obtain rfl := Option.some.inj taken
    have unread : connection.works.map Prod.snd =
        connection.begun ++ path :: requests.filterMap workPath? := by
      rw [sound.unread (by rw [service]; nofun), first]
      rfl
    have paths : connection.produced.map Prod.fst = connection.begun := by
      apply sound.produced.eq_of_length
      rw [List.length_map, told.2]
    refine ⟨⟨?_, fun _ => ?_, ?_, sound.outstanding, ?_, sound.calm⟩, rfl, rfl, List.prefix_rfl⟩
    · rw [unread]
      exact (List.prefix_append_right_inj _).mpr
        (List.prefix_append [path] (requests.filterMap workPath?))
    · rw [unread]
      simp
    · exact sound.produced.trans (List.prefix_append _ _)
    · exact ⟨told.1, by rw [paths]⟩
  · rename_i path other requests service first
    exact absurd (by rw [first]; exact List.mem_cons_self) (sound.no_work service other)
  · obtain rfl := Option.some.inj taken
    exact ⟨sound.close rfl rfl rfl rfl rfl sound.told_within, rfl, rfl, List.prefix_rfl⟩
  · obtain rfl := Option.some.inj taken
    exact ⟨sound.close rfl rfl rfl rfl rfl sound.told_within, rfl, rfl, List.prefix_rfl⟩
  · cases taken

/-- The evaluator returns. -/
theorem Sound.serve_evaluated (sound : connection.Sound) {after : Connection}
    {result : Except String (Event × WorkerStatus)}
    (taken : serviceStep connection (.evaluated result) = some after) :
    after.Sound ∧ Serves connection after := by
  have told := sound.told
  unfold Told at told
  unfold serviceStep at taken
  dsimp only at taken
  split at taken
  · rename_i path event status service
    rw [service] at told
    obtain rfl := Option.some.inj taken
    refine ⟨⟨sound.begun, fun _ => sound.unread (by rw [service]; nofun), ?_, ?_, ?_, sound.calm⟩,
      rfl, rfl, List.prefix_append _ _⟩
    · rw [told.2, List.map_append]
      exact List.prefix_rfl
    · have outstanding := sound.outstanding
      simp only [List.length_append, List.length_singleton]
      omega
    · exact ⟨connection.produced, path, rfl, told.1, by rw [told.2]; simp⟩
  · rename_i path text service
    rw [service] at told
    obtain rfl := Option.some.inj taken
    refine ⟨sound.close rfl rfl rfl rfl rfl ⟨text, .inr ?_⟩, rfl, rfl, List.prefix_rfl⟩
    rw [← told.1]
    exact ⟨[], (List.append_nil _).trans (List.append_assoc _ _ _).symm⟩
  · cases taken

/-- A message is written. -/
theorem Sound.serve_write (sound : connection.Sound) {after : Connection}
    (taken : serviceStep connection .write = some after) :
    after.Sound ∧ Serves connection after := by
  have told := sound.told
  unfold Told at told
  unfold serviceStep at taken
  dsimp only at taken
  split at taken
  · rename_i event status service
    rw [service] at told
    obtain ⟨earlier, path, produced, written, begun⟩ := told
    obtain rfl := Option.some.inj taken
    refine ⟨sound.stay (by rw [service]; nofun) rfl rfl rfl rfl rfl
      ⟨earlier, path, event, produced, ?_, begun⟩, rfl, rfl, List.prefix_rfl⟩
    rw [← written, transcript, transcript, List.append_assoc]
  · rename_i status service
    rw [service] at told
    obtain ⟨earlier, path, event, produced, written, begun⟩ := told
    obtain rfl := Option.some.inj taken
    refine ⟨sound.stay (by rw [service]; nofun) rfl rfl rfl rfl rfl ?_, rfl, rfl,
      List.prefix_rfl⟩
    have whole : connection.received ++ (connection.responses ++ [.status status]) =
        .ready :: answers connection.produced := by
      rw [← List.append_assoc]
      show connection.transcript ++ _ = _
      rw [written, produced, answers, answers, pairs_append]
      simp [pairs]
    cases status with
    | ready => exact ⟨whole, begun⟩
    | restart => exact ⟨whole, begun⟩
  · cases taken

/-- Every step of a service keeps its connection sound and what the master did. -/
theorem Sound.serve (sound : connection.Sound) {after : Connection} {action : ServiceAction}
    (taken : serviceStep connection action = some after) :
    after.Sound ∧ Serves connection after := by
  have told := sound.told
  unfold Told at told
  cases action with
  | setup verdict => exact sound.serve_setup taken
  | request => exact sound.serve_request taken
  | evaluated result => exact sound.serve_evaluated taken
  | write => exact sound.serve_write taken
  | spawned =>
    simp only [serviceStep] at taken
    split at taken
    · rename_i service
      rw [service] at told
      obtain rfl := Option.some.inj taken
      have none : connection.produced = [] := by
        have fewer := sound.produced.length_le
        rw [told.2] at fewer
        exact List.length_eq_zero_iff.mp (by simpa using fewer)
      refine ⟨sound.stay (by rw [service]; nofun) rfl rfl rfl rfl rfl ⟨?_, ?_⟩, rfl, rfl,
        List.prefix_rfl⟩
      · show connection.received ++ (connection.responses ++ [.ready]) = _
        rw [← List.append_assoc, none]
        show connection.transcript ++ _ = _
        rw [told.1]
        rfl
      · rw [told.2, none]
        rfl
    · cases taken
  | restarted =>
    simp only [serviceStep] at taken
    split at taken
    · rename_i service
      rw [service] at told
      obtain rfl := Option.some.inj taken
      exact ⟨sound.stay (by rw [service]; nofun) rfl rfl rfl rfl rfl told, rfl, rfl,
        List.prefix_rfl⟩
    · cases taken
  | drop =>
    simp only [serviceStep] at taken
    split at taken
    · cases taken
    · obtain rfl := Option.some.inj taken
      exact ⟨sound.close rfl rfl rfl rfl rfl sound.told_within, rfl, rfl, List.prefix_rfl⟩

/-- A new connection is sound. -/
theorem sound_fresh (spec : Spec) : (fresh spec).Sound where
  begun := List.prefix_rfl
  unread _ := rfl
  produced := List.prefix_rfl
  outstanding := Nat.zero_le _
  told := ⟨rfl, rfl⟩
  calm := rfl

end Connection

end Evix.RemoteWorker
