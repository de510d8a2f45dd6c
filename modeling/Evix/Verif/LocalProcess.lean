import Evix.Library.Transcript
import Evix.LocalWorker.Link
import Evix.Verif.RemoteService

/-!
# Transcripts of a worker process

What `worker::run` writes is the handshake and two messages for every item, whatever the master
does, and it writes nothing after a status that announces a restart. It never reports an error: a
process that fails dies.
-/

namespace Evix.LocalWorker

open Machines Transcript RemoteWorker

/-- The events and the statuses of a process, in order. -/
def answers (produced : List (List String × Event)) (statuses : List WorkerStatus) :
    List ServerMessage :=
  alternate (fun entry => .event entry.2) .status produced statuses

namespace Process

variable (process : Process)

/-- Everything the process has written, read by the master or not. -/
def transcript : List ServerMessage := process.received ++ process.responses

/-- Nothing was evaluated yet. -/
structure Untouched : Prop where
  /-- Nothing is written. -/
  transcript : process.transcript = []
  /-- No work is begun. -/
  begun : process.begun = []
  /-- No event is produced. -/
  produced : process.produced = []
  /-- No status is produced. -/
  statuses : process.statuses = []

/-- What the process has written, by where it is. -/
def Told : Prop :=
  match process.place with
  | .unborn | .setup | .loading | .announcing | .greeting => process.Untouched
  | .idle =>
    process.transcript = .ready :: answers process.produced process.statuses ∧
      process.begun.length = process.produced.length ∧
      process.produced.length = process.statuses.length
  | .evaluating path =>
    process.transcript = .ready :: answers process.produced process.statuses ∧
      process.begun = process.produced.map Prod.fst ++ [path] ∧
      process.produced.length = process.statuses.length
  | .answering event => ∃ earlier path,
    process.produced = earlier ++ [(path, event)] ∧
      process.transcript = .ready :: answers earlier process.statuses ∧
      process.begun.length = process.produced.length ∧ earlier.length = process.statuses.length
  | .measuring | .reporting _ =>
    process.transcript = .ready :: answers process.produced process.statuses ∧
      process.begun.length = process.produced.length ∧
      process.produced.length = process.statuses.length + 1
  | .gone => process.transcript <+: .ready :: answers process.produced process.statuses

/-- What holds of every process, whatever the master does with it. -/
structure Sound : Prop where
  /-- Work is begun in the order it was written. -/
  begun : process.begun <+: process.works.map Prod.snd
  /-- A process that lives has not lost work. -/
  unread : process.place ≠ .gone →
    process.works.map Prod.snd = process.begun ++ process.requests.filterMap workPath?
  /-- Work is answered in the order it was begun. -/
  produced : process.produced.map Prod.fst <+: process.begun
  /-- A status comes after its event. -/
  reported : process.statuses.length ≤ process.produced.length
  /-- At most one item is not answered. -/
  outstanding : process.works.length ≤ process.statuses.length + 1
  /-- A process that announced a restart is dead, and had no work after that. -/
  retired : ∀ index, process.statuses[index]? = some .restart →
    index + 1 = process.statuses.length ∧ process.place = .gone ∧
      process.works.length ≤ process.statuses.length
  /-- The process has written its answers. -/
  told : process.Told

variable {process : Process} {config : WorkerConfig}

/-- Whatever the process does, its transcript begins like this. -/
theorem Sound.told_within (sound : process.Sound) :
    process.transcript <+: .ready :: answers process.produced process.statuses := by
  have told := sound.told
  unfold Told at told
  cases place : process.place <;> rw [place] at told
  case unborn | setup | loading | announcing | greeting =>
    rw [told.transcript]
    exact List.nil_prefix
  case idle | evaluating | measuring | reporting => exact within_of_eq told.1
  case answering event =>
    obtain ⟨earlier, path, produced, transcript, _, complete⟩ := told
    rw [transcript, produced, answers, answers, alternate_first _ _ complete]
    exact (List.prefix_cons_inj _).mpr (List.prefix_append _ _)
  case gone => exact told

/-- The first message is the handshake. -/
theorem Sound.handshake_message (sound : process.Sound) {message : ServerMessage}
    (there : process.transcript[0]? = some message) : message = .ready :=
  (Option.some.inj (getElem?_within sound.told_within there)).symm

/-- The first message for an item is its event. -/
theorem Sound.event_message (sound : process.Sound) {message : ServerMessage} {index : Nat}
    (there : process.transcript[2 * index + 1]? = some message) :
    ∃ path event, process.produced[index]? = some (path, event) ∧ message = .event event := by
  have same := getElem?_within sound.told_within there
  rw [List.getElem?_cons_succ] at same
  obtain ⟨⟨path, event⟩, found, rfl⟩ := alternate_even _ _ same
  exact ⟨path, event, found, rfl⟩

/-- The second message for an item is its status. -/
theorem Sound.status_message (sound : process.Sound) {message : ServerMessage} {index : Nat}
    (there : process.transcript[2 * index + 2]? = some message) :
    ∃ status, process.statuses[index]? = some status ∧ message = .status status := by
  have same := getElem?_within sound.told_within there
  exact alternate_odd _ _ same

/-- Not more is produced than there is work. -/
theorem Sound.produced_length (sound : process.Sound) :
    process.produced.length ≤ process.works.length := by
  have within := (sound.produced.trans sound.begun).length_le
  rw [List.length_map, List.length_map] at within
  exact within

/-- When all answers are read, every work has its status. -/
theorem Sound.answered (sound : process.Sound)
    (quiet : process.received.length = 2 * process.works.length + 1) :
    process.statuses.length = process.works.length := by
  have written := sound.told_within.length_le
  have most := alternate_length_le (fun entry : List String × Event => .event entry.2)
    ServerMessage.status process.produced process.statuses
  have produced := sound.produced_length
  have reported := sound.reported
  simp only [transcript, List.length_append, List.length_cons, answers] at written
  omega

/-- The paths produced are the paths of the works, in order. -/
theorem Sound.produced_path (sound : process.Sound) {index item : Nat}
    {asked path : List String} {event : Event} (work : process.works[index]? = some (item, asked))
    (entry : process.produced[index]? = some (path, event)) : path = asked := by
  have within := sound.produced.trans sound.begun
  have there : (process.produced.map Prod.fst)[index]? = some path := by
    rw [List.getElem?_map, entry]
    rfl
  have same := getElem?_within within there
  rw [List.getElem?_map, work] at same
  exact (Option.some.inj same).symm

/-- What a process cannot change: what the master wrote, read and did to it. It only adds
answers. -/
structure Serves (before after : Process) : Prop where
  /-- It lived. -/
  lived : before.place ≠ .gone
  /-- The works are those the master wrote. -/
  works : after.works = before.works
  /-- The messages read are those the master read. -/
  received : after.received = before.received
  /-- Its channel is open or not. -/
  hungUp : after.hungUp = before.hungUp
  /-- Events are only added. -/
  produced : before.produced <+: after.produced
  /-- Statuses are only added. -/
  statuses : before.statuses <+: after.statuses

/-- A process that has announced no restart. -/
theorem Sound.not_retired (sound : process.Sound) (lives : process.place ≠ .gone) {index : Nat} :
    process.statuses[index]? ≠ some .restart :=
  fun restart => lives (sound.retired index restart).2.1

/-- A process that goes on as it was, elsewhere. -/
theorem Sound.stay (sound : process.Sound) {after : Process} (lives : process.place ≠ .gone)
    (requests : after.requests = process.requests) (works : after.works = process.works)
    (begun : after.begun = process.begun) (produced : after.produced = process.produced)
    (statuses : after.statuses = process.statuses) (told : after.Told) : after.Sound where
  begun := by
    rw [begun, works]
    exact sound.begun
  unread _ := by
    rw [works, begun, requests]
    exact sound.unread lives
  produced := by
    rw [produced, begun]
    exact sound.produced
  reported := by
    rw [statuses, produced]
    exact sound.reported
  outstanding := by
    rw [works, statuses]
    exact sound.outstanding
  retired index restart := by
    rw [statuses] at restart
    exact absurd restart (sound.not_retired lives)
  told := told

/-- A process that dies has written what it had written. -/
theorem Sound.close (sound : process.Sound) {after : Process} (lives : process.place ≠ .gone)
    (place : after.place = .gone) (works : after.works = process.works)
    (begun : after.begun = process.begun) (produced : after.produced = process.produced)
    (statuses : after.statuses = process.statuses)
    (transcript : after.transcript = process.transcript) : after.Sound where
  begun := by
    rw [begun, works]
    exact sound.begun
  unread still := absurd place still
  produced := by
    rw [produced, begun]
    exact sound.produced
  reported := by
    rw [statuses, produced]
    exact sound.reported
  outstanding := by
    rw [works, statuses]
    exact sound.outstanding
  retired index restart := by
    rw [statuses] at restart
    exact absurd restart (sound.not_retired lives)
  told := by
    unfold Told
    rw [place, transcript, produced, statuses]
    exact sound.told_within

/-- A work is read. -/
theorem Sound.begin (sound : process.Sound) {path : List String} {requests : List ClientMessage}
    (idle : process.place = .idle) (first : process.requests = .work path :: requests) :
    Sound { process with
      requests, place := .evaluating path, begun := process.begun ++ [path] } := by
  have told := sound.told
  unfold Told at told
  rw [idle] at told
  obtain ⟨transcript, complete, even⟩ := told
  have lives : process.place ≠ .gone := by simp [idle]
  have unread : process.works.map Prod.snd =
      process.begun ++ path :: requests.filterMap workPath? := by
    rw [sound.unread lives, first]
    rfl
  have paths : process.produced.map Prod.fst = process.begun := by
    apply sound.produced.eq_of_length
    rw [List.length_map, complete]
  refine ⟨?_, fun _ => ?_, ?_, sound.reported, sound.outstanding,
    fun index restart => absurd restart (sound.not_retired lives), transcript, ?_, even⟩
  · rw [unread]
    exact (List.prefix_append_right_inj _).mpr
      (List.prefix_append [path] (requests.filterMap workPath?))
  · rw [unread]
    simp
  · exact sound.produced.trans (List.prefix_append _ _)
  · rw [paths]

/-- An event is produced. -/
theorem Sound.produce (sound : process.Sound) {path : List String} (event : Event)
    (evaluating : process.place = .evaluating path) :
    Sound { process with
      place := .answering event, produced := process.produced ++ [(path, event)] } := by
  have told := sound.told
  unfold Told at told
  rw [evaluating] at told
  obtain ⟨transcript, begun, even⟩ := told
  have lives : process.place ≠ .gone := by simp [evaluating]
  refine ⟨sound.begun, fun _ => sound.unread lives, ?_, ?_, sound.outstanding,
    fun index restart => absurd restart (sound.not_retired lives),
    process.produced, path, rfl, transcript, ?_, even⟩
  · rw [begun, List.map_append]
    exact List.prefix_rfl
  · have reported := sound.reported
    simp only [List.length_append, List.length_singleton]
    omega
  · rw [begun]
    simp

/-- An event is written. -/
theorem Sound.tell (sound : process.Sound) {event : Event}
    (answering : process.place = .answering event) :
    Sound { process with
      responses := process.responses ++ [.event event], place := .measuring } := by
  have told := sound.told
  unfold Told at told
  rw [answering] at told
  obtain ⟨earlier, path, produced, transcript, begun, even⟩ := told
  have lives : process.place ≠ .gone := by simp [answering]
  refine sound.stay lives rfl rfl rfl rfl rfl ⟨?_, begun, ?_⟩
  · show process.received ++ (process.responses ++ [.event event]) = _
    rw [produced, answers, alternate_first _ _ even, ← List.append_assoc]
    exact congrArg (· ++ [ServerMessage.event event]) transcript
  · rw [produced, List.length_append, even]
    rfl

/-- A status is written. -/
theorem Sound.announce (sound : process.Sound) {status : WorkerStatus}
    (reporting : process.place = .reporting status) :
    Sound { process with
      responses := process.responses ++ [.status status]
      statuses := process.statuses ++ [status]
      place := if status = .restart then .gone else .idle } := by
  have told := sound.told
  unfold Told at told
  rw [reporting] at told
  obtain ⟨transcript, begun, odd⟩ := told
  have lives : process.place ≠ .gone := by simp [reporting]
  have written : process.received ++ (process.responses ++ [.status status]) =
      .ready :: answers process.produced (process.statuses ++ [status]) := by
    rw [answers, alternate_second _ _ odd, ← List.append_assoc]
    exact congrArg (· ++ [ServerMessage.status status]) transcript
  have outstanding := sound.outstanding
  refine ⟨sound.begun, fun _ => sound.unread lives, sound.produced, ?_, ?_, ?_, ?_⟩
  · simp only [List.length_append, List.length_singleton]
    omega
  · simp only [List.length_append, List.length_singleton]
    omega
  · intro index restart
    simp only [List.length_append, List.length_singleton] at restart ⊢
    by_cases inside : index < process.statuses.length
    · rw [List.getElem?_append_left inside] at restart
      exact absurd restart (sound.not_retired lives)
    · rw [List.getElem?_append_right (Nat.le_of_not_lt inside)] at restart
      have last := (List.getElem?_eq_some_iff.mp restart).1
      rw [List.length_singleton] at last
      have same := List.mem_singleton.mp (List.mem_of_getElem? restart)
      exact ⟨by omega, if_pos same.symm, by omega⟩
  · cases status with
    | restart => exact ⟨[], (List.append_nil _).trans written⟩
    | ready => exact ⟨written, begun, by simp [odd]⟩

/-- Untouched processes differ in what the master knows of them only. -/
theorem Untouched.stay (untouched : process.Untouched) {after : Process}
    (transcript : after.transcript = process.transcript) (begun : after.begun = process.begun)
    (produced : after.produced = process.produced) (statuses : after.statuses = process.statuses) :
    after.Untouched :=
  ⟨transcript.trans untouched.transcript, begun.trans untouched.begun,
    produced.trans untouched.produced, statuses.trans untouched.statuses⟩

/-- The setup is read. -/
theorem Sound.load (sound : process.Sound) {requests : List ClientMessage} {config : WorkerConfig}
    {token storeDir : Option String} (setup : process.place = .setup)
    (first : process.requests = .setup config token storeDir :: requests) :
    Sound { process with requests, place := .loading } := by
  have told := sound.told
  unfold Told at told
  rw [setup] at told
  have lives : process.place ≠ .gone := by simp [setup]
  refine ⟨sound.begun, fun _ => ?_, sound.produced, sound.reported, sound.outstanding,
    fun index restart => absurd restart (sound.not_retired lives),
    told.stay rfl rfl rfl rfl⟩
  rw [sound.unread lives, first]
  rfl

/-- The handshake is written. -/
theorem Sound.greet (sound : process.Sound) (greeting : process.place = .greeting) :
    Sound { process with responses := process.responses ++ [.ready], place := .idle } := by
  have told := sound.told
  unfold Told at told
  rw [greeting] at told
  have lives : process.place ≠ .gone := by simp [greeting]
  refine sound.stay lives rfl rfl rfl rfl rfl ⟨?_, ?_, ?_⟩
  · have empty : process.received ++ process.responses = [] := told.transcript
    show process.received ++ (process.responses ++ [.ready]) = _
    rw [← List.append_assoc, empty, told.produced]
    rfl
  · rw [told.begun, told.produced]
    rfl
  · rw [told.produced, told.statuses]
    rfl

/-- A process that is not born, or has not written its handshake, goes on without writing a
message. -/
theorem Sound.prepare (sound : process.Sound) {after : Process} (untouched : process.Untouched)
    (lives : process.place ≠ .gone) (requests : after.requests = process.requests)
    (works : after.works = process.works) (begun : after.begun = process.begun)
    (produced : after.produced = process.produced) (statuses : after.statuses = process.statuses)
    (transcript : after.transcript = process.transcript)
    (place : after.place = .announcing ∨ after.place = .greeting) : after.Sound := by
  refine sound.stay lives requests works begun produced statuses ?_
  have still := untouched.stay transcript begun produced statuses
  unfold Told
  rcases place with place | place <;> rw [place] <;> exact still

/-- A step that adds no event and no status. -/
theorem serves_quietly {after : Process} (lives : process.place ≠ .gone)
    (works : after.works = process.works) (received : after.received = process.received)
    (hungUp : after.hungUp = process.hungUp) (produced : after.produced = process.produced)
    (statuses : after.statuses = process.statuses) : Serves process after :=
  ⟨lives, works, received, hungUp, within_of_eq produced.symm, within_of_eq statuses.symm⟩

/-- A process that is forked stays sound. -/
theorem Sound.serve_fork (sound : process.Sound) {after : Process}
    (taken : runStep config process .fork = some after) : after.Sound ∧ Serves process after := by
  have told := sound.told
  unfold Told at told
  unfold runStep at taken
  dsimp only at taken
  split at taken
  · rename_i place
    rw [place] at told
    have lives : process.place ≠ .gone := by simp [place]
    obtain rfl := Option.some.inj taken
    exact ⟨sound.prepare told lives rfl rfl rfl rfl rfl rfl (.inl rfl),
      serves_quietly lives rfl rfl rfl rfl rfl⟩
  · cases taken

/-- A process that reads its first message stays sound. -/
theorem Sound.serve_setup (sound : process.Sound) {after : Process}
    (taken : runStep config process .setup = some after) : after.Sound ∧ Serves process after := by
  unfold runStep at taken
  dsimp only at taken
  split at taken
  · rename_i place first
    have lives : process.place ≠ .gone := by simp [place]
    obtain rfl := Option.some.inj taken
    exact ⟨sound.load place first, serves_quietly lives rfl rfl rfl rfl rfl⟩
  · rename_i place first
    have lives : process.place ≠ .gone := by simp [place]
    obtain rfl := Option.some.inj taken
    exact ⟨sound.close lives rfl rfl rfl rfl rfl rfl, serves_quietly lives rfl rfl rfl rfl rfl⟩
  · cases taken

/-- A process that has loaded the root stays sound. -/
theorem Sound.serve_loaded (sound : process.Sound) {after : Process}
    (taken : runStep config process .loaded = some after) :
    after.Sound ∧ Serves process after := by
  have told := sound.told
  unfold Told at told
  unfold runStep at taken
  dsimp only at taken
  split at taken
  · rename_i place
    rw [place] at told
    have lives : process.place ≠ .gone := by simp [place]
    obtain rfl := Option.some.inj taken
    exact ⟨sound.prepare told lives rfl rfl rfl rfl rfl rfl (.inr rfl),
      serves_quietly lives rfl rfl rfl rfl rfl⟩
  · cases taken

/-- A process that writes its pid stays sound. -/
theorem Sound.serve_announce (sound : process.Sound) {after : Process} {pid : Nat}
    (taken : runStep config process (.announce pid) = some after) :
    after.Sound ∧ Serves process after := by
  have told := sound.told
  unfold Told at told
  unfold runStep at taken
  dsimp only at taken
  split at taken
  · rename_i place
    rw [place] at told
    have lives : process.place ≠ .gone := by simp [place]
    obtain rfl := Option.some.inj taken
    exact ⟨sound.prepare told lives rfl rfl rfl rfl rfl rfl (.inr rfl),
      serves_quietly lives rfl rfl rfl rfl rfl⟩
  · cases taken

/-- A process that writes the handshake stays sound. -/
theorem Sound.serve_greet (sound : process.Sound) {after : Process}
    (taken : runStep config process .greet = some after) : after.Sound ∧ Serves process after := by
  unfold runStep at taken
  dsimp only at taken
  split at taken
  · rename_i place
    have lives : process.place ≠ .gone := by simp [place]
    obtain rfl := Option.some.inj taken
    exact ⟨sound.greet place, serves_quietly lives rfl rfl rfl rfl rfl⟩
  · cases taken

/-- A process that reads a message stays sound. -/
theorem Sound.serve_request (sound : process.Sound) {after : Process}
    (taken : runStep config process .request = some after) :
    after.Sound ∧ Serves process after := by
  unfold runStep at taken
  dsimp only at taken
  split at taken
  · rename_i place first
    have lives : process.place ≠ .gone := by simp [place]
    obtain rfl := Option.some.inj taken
    exact ⟨sound.begin place first, serves_quietly lives rfl rfl rfl rfl rfl⟩
  · rename_i place first
    have lives : process.place ≠ .gone := by simp [place]
    obtain rfl := Option.some.inj taken
    exact ⟨sound.close lives rfl rfl rfl rfl rfl rfl, serves_quietly lives rfl rfl rfl rfl rfl⟩
  · cases taken

/-- A process that has evaluated its item stays sound. -/
theorem Sound.serve_evaluated (sound : process.Sound) {after : Process} {event : Event}
    (taken : runStep config process (.evaluated event) = some after) :
    after.Sound ∧ Serves process after := by
  unfold runStep at taken
  dsimp only at taken
  split at taken
  · rename_i place
    have lives : process.place ≠ .gone := by simp [place]
    obtain rfl := Option.some.inj taken
    exact ⟨sound.produce event place, lives, rfl, rfl, rfl, List.prefix_append _ _,
      List.prefix_rfl⟩
  · cases taken

/-- A process that writes its event stays sound. -/
theorem Sound.serve_write (sound : process.Sound) {after : Process}
    (taken : runStep config process .write = some after) : after.Sound ∧ Serves process after := by
  unfold runStep at taken
  dsimp only at taken
  split at taken
  · rename_i place
    have lives : process.place ≠ .gone := by simp [place]
    obtain rfl := Option.some.inj taken
    exact ⟨sound.tell place, serves_quietly lives rfl rfl rfl rfl rfl⟩
  · cases taken

/-- A process that measures its memory stays sound. -/
theorem Sound.serve_measured (sound : process.Sound) {after : Process} {maxRssKb : Nat}
    (taken : runStep config process (.measured maxRssKb) = some after) :
    after.Sound ∧ Serves process after := by
  have told := sound.told
  unfold Told at told
  unfold runStep at taken
  dsimp only at taken
  split at taken
  · rename_i place
    rw [place] at told
    have lives : process.place ≠ .gone := by simp [place]
    obtain rfl := Option.some.inj taken
    exact ⟨sound.stay lives rfl rfl rfl rfl rfl told, serves_quietly lives rfl rfl rfl rfl rfl⟩
  · cases taken

/-- A process that writes its status stays sound. -/
theorem Sound.serve_report (sound : process.Sound) {after : Process}
    (taken : runStep config process .report = some after) : after.Sound ∧ Serves process after := by
  unfold runStep at taken
  dsimp only at taken
  split at taken
  · rename_i place
    have lives : process.place ≠ .gone := by simp [place]
    obtain rfl := Option.some.inj taken
    exact ⟨sound.announce place, lives, rfl, rfl, rfl, List.prefix_rfl, List.prefix_append _ _⟩
  · cases taken

/-- A process that dies stays sound. -/
theorem Sound.serve_die (sound : process.Sound) {after : Process}
    (taken : runStep config process .die = some after) : after.Sound ∧ Serves process after := by
  unfold runStep at taken
  dsimp only at taken
  split at taken
  · cases taken
  · rename_i lives
    have alive : process.place ≠ .gone := lives
    obtain rfl := Option.some.inj taken
    exact ⟨sound.close alive rfl rfl rfl rfl rfl rfl, serves_quietly alive rfl rfl rfl rfl rfl⟩

/-- Every step of a process keeps it sound. -/
theorem Sound.serve (sound : process.Sound) {after : Process} {action : ProcessAction}
    (taken : runStep config process action = some after) :
    after.Sound ∧ Serves process after := by
  cases action with
  | fork => exact sound.serve_fork taken
  | setup => exact sound.serve_setup taken
  | loaded => exact sound.serve_loaded taken
  | announce pid => exact sound.serve_announce taken
  | greet => exact sound.serve_greet taken
  | request => exact sound.serve_request taken
  | evaluated event => exact sound.serve_evaluated taken
  | write => exact sound.serve_write taken
  | measured maxRssKb => exact sound.serve_measured taken
  | report => exact sound.serve_report taken
  | die => exact sound.serve_die taken

/-! ## What the master does -/

/-- What a process has written depends on nothing the master does. -/
theorem told_congr {after : Process} (place : after.place = process.place)
    (begun : after.begun = process.begun) (produced : after.produced = process.produced)
    (statuses : after.statuses = process.statuses)
    (transcript : after.transcript = process.transcript) (told : process.Told) : after.Told := by
  have still : process.Untouched → after.Untouched :=
    fun untouched => untouched.stay transcript begun produced statuses
  unfold Told at told ⊢
  rw [place, transcript, begun, produced, statuses]
  cases there : process.place <;> rw [there] at told
  case unborn | setup | loading | announcing | greeting => exact still told
  all_goals exact told

/-- What the master does to a process that it does not write to. -/
theorem Sound.touch (sound : process.Sound) {after : Process} (place : after.place = process.place)
    (requests : after.requests = process.requests) (works : after.works = process.works)
    (begun : after.begun = process.begun) (produced : after.produced = process.produced)
    (statuses : after.statuses = process.statuses)
    (transcript : after.transcript = process.transcript) : after.Sound where
  begun := by
    rw [begun, works]
    exact sound.begun
  unread lives := by
    rw [place] at lives
    rw [works, begun, requests]
    exact sound.unread lives
  produced := by
    rw [produced, begun]
    exact sound.produced
  reported := by
    rw [statuses, produced]
    exact sound.reported
  outstanding := by
    rw [works, statuses]
    exact sound.outstanding
  retired index restart := by
    rw [statuses] at restart ⊢
    rw [place, works]
    exact sound.retired index restart
  told := told_congr place begun produced statuses transcript sound.told

/-- Reading does not change what the process has written. -/
theorem Sound.read (sound : process.Sound) {message : ServerMessage}
    {responses : List ServerMessage} (first : process.responses = message :: responses) :
    (process.receive message responses).Sound := by
  have same : (process.receive message responses).transcript = process.transcript := by
    simp [transcript, receive, first]
  exact sound.touch rfl rfl rfl rfl rfl rfl same

/-- The next message is the one after those read. -/
theorem next_message {message : ServerMessage} {responses : List ServerMessage}
    (first : process.responses = message :: responses) :
    process.transcript[process.received.length]? = some message := by
  simp [transcript, first]

/-- Writing a request. -/
theorem Sound.write (sound : process.Sound) {message : ClientMessage}
    {works : List (Nat × List String)}
    (same : works.map Prod.snd = [message].filterMap workPath?)
    (room : process.works.length + works.length ≤ process.statuses.length + 1)
    (ready : works = [] ∨ ∀ index : Nat, process.statuses[index]? ≠ some .restart) :
    (process.send message works).Sound where
  begun := by
    rw [send, List.map_append]
    exact sound.begun.trans (List.prefix_append _ _)
  unread lives := by
    show (process.works ++ works).map Prod.snd =
      process.begun ++ (process.requests ++ [message]).filterMap workPath?
    rw [List.map_append, same, List.filterMap_append, sound.unread lives, List.append_assoc]
  produced := sound.produced
  reported := sound.reported
  outstanding := by
    simp only [send, List.length_append]
    exact room
  retired index restart := by
    obtain ⟨last, gone, fits⟩ := sound.retired index restart
    rcases ready with none | calm
    · refine ⟨last, gone, ?_⟩
      rw [send, none, List.append_nil]
      exact fits
    · exact absurd restart (calm index)
  told := by refine told_congr ?_ ?_ ?_ ?_ ?_ sound.told <;> rfl

/-- A process at its start is sound. -/
theorem sound_start {place : Place} (early : place = .unborn ∨ place = .setup) :
    (start place).Sound where
  begun := List.prefix_rfl
  unread _ := rfl
  produced := List.prefix_rfl
  reported := Nat.le_refl 0
  outstanding := Nat.zero_le 1
  retired index restart := by cases restart
  told := by
    have untouched : (start place).Untouched := ⟨rfl, rfl, rfl, rfl⟩
    rcases early with rfl | rfl <;> exact untouched

end Process

end Evix.LocalWorker
