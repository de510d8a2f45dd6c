import Evix.Verif.Replay

/-!
# Who records a replay

A cached session records its replay until the evaluation or the watch that has installed it settles
it. An evaluation that fails to write an event returns without settling, and its session then
records for ever; apart from that, a session that records has a handler that still runs.
-/

namespace Evix

open Machines

/-! ## What a recording session needs -/

/-- A request that opens a session. -/
def Request.Opens : Request → Prop
  | .eval _ | .watch _ => True
  | .replay _ | .query .. | .diff _ => False

/-- A handler that has installed a session under a key. -/
structure Handler.Created (serializer : Serializer) (key : String) (session : Nat)
    (handler : Handler) : Prop where
  /-- Its request opens a session. -/
  opens : handler.request.Opens
  /-- The key is that of its request. -/
  keyed : serializer.sessionKey handler.request.config = .ok key
  /-- The session is its own. -/
  session : handler.session = some session

/-- A handler that has not returned. -/
def Handler.IsRunning (handler : Handler) : Prop := ∀ result, handler.place ≠ .over result

/-- Whoever has installed a session that is recording runs. -/
structure Daemon.Attended (serializer : Serializer) (daemon : Daemon) : Prop where
  /-- A cached session that is recording has a running handler that has installed it. -/
  running : ∀ key cached, daemon.registry.sessions.lookup key = some cached →
    cached.replay = .recording →
    ∃ handler ∈ daemon.handlers, handler.Created serializer key cached.session ∧ handler.IsRunning
  /-- The session of a handler that has returned is not recording when it is still cached. -/
  settled : ∀ handler ∈ daemon.handlers, ¬ handler.IsRunning →
    ∀ key session, handler.Created serializer key session →
    daemon.registry.sessions.lookup key ≠ some ⟨session, .recording⟩

section Condition

variable (serializer : Serializer) (daemon : Daemon)

/-- The response of an item can be written and the client takes it. -/
def Serializer.writes (item : Except String Event) (delivered : Bool) : Bool :=
  delivered &&
    match item with
    | .ok event => (serializer.eventLine event).isOk
    | .error _ => true

/-- A handler streams the events of a session that is cached as recording. -/
def Daemon.isRecording (handler : Handler) : Bool :=
  match handler.place, serializer.sessionKey handler.request.config with
  | .streaming session _, .ok key =>
    daemon.registry.sessions.lookup key = some ⟨session, .recording⟩
  | _, _ => false

/-- An action does not fail the writing of an event of a session that is cached as recording. -/
def Daemon.KeepsRecording : DaemonAction → Prop
  | .handler index (.item item delivered) =>
    (daemon.handlers[index]?).all (fun handler =>
      serializer.writes item delivered || !daemon.isRecording serializer handler) = true
  | _ => True

instance (action : DaemonAction) : Decidable (daemon.KeepsRecording serializer action) :=
  match action with
  | .handler _ (.item _ _) => inferInstanceAs (Decidable (_ = true))
  | .request _ | .handler _ .proceed | .handler _ (.unopened _) | .handler _ .ended
  | .handler _ (.answered _) | .handler _ (.wrote _) => isTrue trivial

end Condition

/-! ## The invariant -/

/-- The session of a place where a handler works on its session. -/
def HandlerPlace.session : HandlerPlace → Option Nat
  | .streaming session _ | .settling session _ | .warm session | .watching session => some session
  | .starting | .answering | .over _ => none

/-- A handler that is going to settle the replay of a session. -/
def HandlerPlace.Tends (session : Nat) : HandlerPlace → Prop
  | .streaming own _ | .settling own _ => own = session
  | .starting | .warm _ | .watching _ | .answering | .over _ => False

/-- What a handler keeps about its session. -/
structure Handler.Tended (serializer : Serializer) (daemon : Daemon) (handler : Handler) :
    Prop where
  /-- It has no session before its first section. -/
  fresh : handler.place = .starting → handler.session = none
  /-- It works on its own session. -/
  own : ∀ session, handler.place.session = some session → handler.session = some session
  /-- Its session is installed. -/
  bounded : ∀ session, handler.session = some session → session < daemon.installs.length
  /-- It settles the session it has installed as long as that is recording. -/
  tends : ∀ key session, handler.Created serializer key session →
    daemon.registry.sessions.lookup key = some ⟨session, .recording⟩ → handler.place.Tends session

/-- The invariant of the runs in which no event of a recording session is lost. -/
structure Daemon.Tended (serializer : Serializer) (daemon : Daemon) : Prop where
  /-- Every session that is recording has a handler that has installed it. -/
  created : ∀ key cached, daemon.registry.sessions.lookup key = some cached →
    cached.replay = .recording → ∃ handler ∈ daemon.handlers,
      handler.Created serializer key cached.session
  /-- Every handler is right. -/
  handlers : ∀ handler ∈ daemon.handlers, handler.Tended serializer daemon

/-- A handler that is going to settle a replay runs. -/
theorem HandlerPlace.Tends.running {handler : Handler} {session : Nat}
    (tends : handler.place.Tends session) : handler.IsRunning := by
  intro result place
  rw [place] at tends
  exact tends

/-- The invariant says what a recording session needs. -/
theorem Daemon.Tended.attended {serializer : Serializer} {daemon : Daemon}
    (tended : daemon.Tended serializer) : daemon.Attended serializer := by
  constructor
  · intro key cached found recording
    obtain ⟨handler, member, created⟩ := tended.created key cached found recording
    obtain ⟨session, replay⟩ := cached
    obtain rfl : replay = .recording := recording
    have tends := (tended.handlers handler member).tends key session created found
    exact ⟨handler, member, created, tends.running⟩
  · intro handler member returned key session created found
    exact returned ((tended.handlers handler member).tends key session created found).running

/-! ## Steps -/

section Steps

variable {serializer : Serializer} {daemon next : Daemon} {handler moved : Handler}
  {action : HandlerAction}

/-- A handler settles a replay as ready or as invalidated. -/
theorem Handler.Sound.settles (sound : handler.Sound serializer daemon) {session : Nat}
    {replay : Replay} (here : handler.place = .settling session replay) : replay ≠ .recording := by
  have fits := sound.place
  rw [here] at fits
  rintro rfl
  obtain invalid | ⟨_, _, ready, _⟩ := fits.2
  · cases invalid
  · cases ready

/-- What is recording after a replay is settled was recording before. -/
theorem lookup_settle_recording {registry : SessionRegistry CachedSession} {key other : String}
    {session live : Nat} {replay : Replay} (settles : replay ≠ .recording)
    (found : (registry.settleReplay key session replay).sessions.lookup other =
      some ⟨live, .recording⟩) :
    registry.sessions.lookup other = some ⟨live, .recording⟩ ∧
      ¬ (other = key ∧ live = session) := by
  obtain ⟨_, new, _⟩ | ⟨old, stays⟩ := Daemon.lookup_settleReplay found
  · exact absurd (congrArg CachedSession.replay new).symm settles
  · refine ⟨old, ?_⟩
    rintro ⟨same, own⟩
    cases stays same own

/-- What is recording after a step was recording before it or is installed by it. -/
theorem Daemon.Shift.recording (sound : handler.Sound serializer daemon)
    (shift : Daemon.Shift serializer daemon handler next) {key : String} {session : Nat}
    (found : next.registry.sessions.lookup key = some ⟨session, .recording⟩) :
    daemon.registry.sessions.lookup key = some ⟨session, .recording⟩ ∨
      session = daemon.installs.length := by
  cases shift with
  | quiet registry same =>
    refine .inl ?_
    rw [← same]
    exact found
  | installed installedKey =>
    obtain ⟨_, new⟩ | ⟨_, old⟩ := SessionRegistry.lookup_insert found
    · exact .inr (congrArg CachedSession.session new)
    · exact .inl old
  | settled own settling replay _ place | invalidated own settling replay _ _ place =>
    exact .inl (lookup_settle_recording (sound.settles place) found).1

/-- No session is uninstalled. -/
theorem Daemon.Shift.installs_le (shift : Daemon.Shift serializer daemon handler next) :
    daemon.installs.length ≤ next.installs.length := by
  cases shift with
  | installed key => exact List.length_append ▸ Nat.le_add_right _ _
  | quiet | settled | invalidated => exact Nat.le_refl _

/-- The handlers that do not move keep what they keep. -/
theorem Handler.Tended.frame {other : Handler} (tended : other.Tended serializer daemon)
    (sound : handler.Sound serializer daemon)
    (shift : Daemon.Shift serializer daemon handler next) : other.Tended serializer next := by
  refine ⟨tended.fresh, tended.own, fun session own => ?_, fun key session created found => ?_⟩
  · exact Nat.lt_of_lt_of_le (tended.bounded session own) shift.installs_le
  · obtain before | new := shift.recording sound found
    · exact tended.tends key session created before
    · have inside := tended.bounded session created.session
      exact absurd new (Nat.ne_of_lt inside)

/-- A handler without a session has installed none. -/
theorem Handler.Created.absurd_of_none {key : String} {session : Nat}
    (created : handler.Created serializer key session) (none : handler.session = none) : False := by
  rw [created.session] at none
  cases none

/-- A handler whose request opens no session settles none that is recording. -/
theorem Handler.tended_of_reads (reads : ¬ handler.request.Opens)
    (fresh : handler.place ≠ .starting)
    (own : ∀ session, handler.place.session = some session → handler.session = some session)
    (bounded : ∀ session, handler.session = some session → session < daemon.installs.length) :
    handler.Tended serializer daemon :=
  ⟨fun here => absurd here fresh, own, bounded, fun _ _ created => absurd created.opens reads⟩

/-- A handler that has no session and leaves its first section without one. -/
theorem Handler.tended_of_none {place : HandlerPlace} (fresh : handler.session = none)
    (unowned : place.session = none) : (handler.goes place).Tended serializer next := by
  refine ⟨fun _ => fresh, fun session own => ?_, fun session own => ?_,
    fun key session created => (created.absurd_of_none fresh).elim⟩
  · cases unowned.symm.trans own
  · cases fresh.symm.trans own

/-- A handler keeps what it keeps in its first section. -/
theorem startHandler_tended (sound : daemon.Sound serializer)
    (tended : handler.Tended serializer daemon) (here : handler.place = .starting) :
    (startHandler serializer daemon handler).2.Tended serializer
      (startHandler serializer daemon handler).1 := by
  have fresh := tended.fresh here
  unfold startHandler
  split
  · exact Handler.tended_of_none fresh rfl
  · rename_i key _
    have grows : daemon.installs.length < (daemon.installs ++ [key]).length := by
      rw [List.length_append]
      exact Nat.lt_succ_self _
    split
    · rename_i config request
      refine ⟨fun starting => ?_, fun session own => ?_, fun session own => ?_,
        fun _ session created _ => ?_⟩
      all_goals simp only [request] at *
      · cases starting
      · exact own
      · exact Option.some.inj own ▸ grows
      · exact Option.some.inj created.session
    · rename_i config request
      refine ⟨fun starting => ?_, fun session own => ?_, fun session own => ?_,
        fun _ session created _ => ?_⟩
      all_goals simp only [request] at *
      · cases starting
      · exact own
      · exact Option.some.inj own ▸ grows
      · exact Option.some.inj created.session
    · split <;> exact Handler.tended_of_none fresh rfl
    all_goals
      rename_i request
      have warm := (warmSession_cases daemon.registry key).2
      split
      · rename_i session registry answer
        rw [answer] at warm
        obtain ⟨cached, present, same⟩ := warm session rfl
        have inside := (List.getElem?_eq_some_iff.mp (sound.entries key cached present).installed).1
        rw [same] at inside
        refine Handler.tended_of_reads (fun opens => ?_) nofun (fun _ own => own) fun _ own => ?_
        · simp only [request] at opens
          exact opens
        · exact Option.some.inj own ▸ inside
      · exact Handler.tended_of_none fresh rfl

/-- A handler that has settled the replay of its session keeps what it keeps: the session is not
recording. -/
theorem settleHandler_tended {session : Nat} {replay : Replay}
    (sound : handler.Sound serializer daemon) (tended : handler.Tended serializer daemon)
    (here : handler.place = .settling session replay) :
    (settleHandler serializer daemon handler session replay).2.Tended serializer
      (settleHandler serializer daemon handler session replay).1 := by
  have fits := sound.place
  rw [here] at fits
  obtain ⟨⟨key, keyed, _⟩, _⟩ := fits
  have own : handler.session = some session := tended.own session (by rw [here]; rfl)
  have settled : ∀ other live, handler.Created serializer other live →
      (daemon.registry.settleReplay key session replay).sessions.lookup other ≠
        some ⟨live, .recording⟩ := by
    intro other live created found
    refine (lookup_settle_recording (sound.settles here) found).2 ⟨?_, ?_⟩
    · exact Except.ok.inj (created.keyed.symm.trans keyed)
    · exact Option.some.inj (created.session.symm.trans own)
  unfold settleHandler
  rw [keyed]
  dsimp only
  split
  · rename_i config request
    refine Handler.tended_of_reads (fun opens => ?_) nofun nofun tended.bounded
    simp only [Handler.goes, request] at opens
    exact opens
  · refine ⟨nofun, fun _ watches => ?_, tended.bounded, fun other live created found => ?_⟩
    · exact own.trans watches
    · exact absurd found (settled other live { created with })
  · refine ⟨nofun, nofun, tended.bounded, fun other live created found => ?_⟩
    exact absurd found (settled other live { created with })

/-- A handler whose client takes the response of an item goes on streaming. -/
theorem streamItem_writes (handler : Handler) (session : Nat) (recorded : Option Bytes)
    {item : Except String Event} {delivered : Bool}
    (writes : serializer.writes item delivered = true) :
    ∃ lines, (streamItem serializer handler session recorded item delivered).place =
      .streaming session lines := by
  obtain ⟨taken, written⟩ := Bool.and_eq_true_iff.mp writes
  unfold streamItem
  split
  · rename_i event
    cases line : serializer.eventLine event with
    | error error =>
      simp only [line] at written
      cases written
    | ok bytes =>
      refine ⟨recorded.map (· ++ bytes), ?_⟩
      simp only [taken, if_true]
  · refine ⟨none, ?_⟩
    simp only [taken, if_true]
    rfl

/-- A handler that cannot write the response of an item returns. -/
theorem streamItem_fails (handler : Handler) (session : Nat) (recorded : Option Bytes)
    {item : Except String Event} {delivered : Bool}
    (lost : serializer.writes item delivered = false) :
    ∃ error, (streamItem serializer handler session recorded item delivered).place =
      .over (.error error) := by
  unfold Serializer.writes at lost
  unfold streamItem
  split
  · rename_i event
    cases line : serializer.eventLine event with
    | error error => exact ⟨error, rfl⟩
    | ok line =>
      cases delivered with
      | false => exact ⟨clientGone, rfl⟩
      | true =>
        simp only [line] at lost
        cases lost
  · cases delivered with
    | false => exact ⟨clientGone, rfl⟩
    | true => cases lost

/-- An item changes neither the request of its handler nor its session. -/
theorem streamItem_frame (serializer : Serializer) (handler : Handler) (session : Nat)
    (recorded : Option Bytes) (item : Except String Event) (delivered : Bool) :
    (streamItem serializer handler session recorded item delivered).request = handler.request ∧
      (streamItem serializer handler session recorded item delivered).session =
        handler.session := by
  unfold streamItem
  split
  · split
    · exact ⟨rfl, rfl⟩
    · split <;> exact ⟨rfl, rfl⟩
  · split <;> exact ⟨rfl, rfl⟩

/-- An item that does not lose an event of a recording session keeps what its handler keeps. -/
theorem streamItem_tended {session : Nat} {recorded : Option Bytes} {item : Except String Event}
    {delivered : Bool} (tended : handler.Tended serializer daemon)
    (here : handler.place = .streaming session recorded)
    (keeps : serializer.writes item delivered = true ∨
      daemon.isRecording serializer handler = false) :
    (streamItem serializer handler session recorded item delivered).Tended serializer daemon := by
  obtain ⟨request, owned⟩ :=
    streamItem_frame serializer handler session recorded item delivered
  have own : handler.session = some session := tended.own session (by rw [here]; rfl)
  generalize given : streamItem serializer handler session recorded item delivered = moved at *
  have before : ∀ key live, moved.Created serializer key live →
      handler.Created serializer key live := by
    rintro key live ⟨opens, keyed, live⟩
    rw [request] at opens keyed
    rw [owned] at live
    exact ⟨opens, keyed, live⟩
  cases writes : serializer.writes item delivered with
  | true =>
    obtain ⟨lines, place⟩ := streamItem_writes handler session recorded writes
    rw [given] at place
    refine ⟨fun starting => ?_, fun live works => ?_, fun live works => ?_,
      fun key live created found => ?_⟩
    · cases place.symm.trans starting
    · rw [place] at works
      rw [owned, own]
      exact works
    · exact tended.bounded live (owned.symm.trans works)
    · have was := tended.tends key live (before key live created) found
      rw [here] at was
      rw [place]
      exact was
  | false =>
    obtain ⟨error, place⟩ := streamItem_fails handler session recorded writes
    rw [given] at place
    refine ⟨fun starting => ?_, fun live works => ?_, fun live works => ?_,
      fun key live created found => ?_⟩
    · cases place.symm.trans starting
    · rw [place] at works
      cases works
    · exact tended.bounded live (owned.symm.trans works)
    · -- the session is not recording, or the event would have been written
      have old := before key live created
      obtain rfl := Option.some.inj (old.session.symm.trans own)
      have idle := keeps.resolve_left (writes ▸ Bool.false_ne_true)
      simp [Daemon.isRecording, here, old.keyed, found] at idle

/-- A handler keeps what it keeps by a step that loses no event of a recording session. -/
theorem handlerStep_tended (sound : daemon.Sound serializer)
    (own : handler.Sound serializer daemon) (tended : handler.Tended serializer daemon)
    (keeps : ∀ item delivered, action = .item item delivered →
      serializer.writes item delivered = true ∨ daemon.isRecording serializer handler = false)
    (taken : handlerStep serializer daemon handler action = some (next, moved)) :
    moved.Tended serializer next := by
  unfold handlerStep at taken
  split at taken
  case h_1 here =>
    have started := startHandler_tended sound tended here
    rw [Option.some.inj taken] at started
    exact started
  case h_2 session replay here =>
    have settled := settleHandler_tended own tended here
    rw [Option.some.inj taken] at settled
    exact settled
  case h_3 item delivered session recorded here =>
    obtain ⟨rfl, rfl⟩ := Prod.mk.inj (Option.some.inj taken)
    exact streamItem_tended tended here (keeps item delivered rfl)
  case h_4 session recorded here =>
    obtain ⟨rfl, rfl⟩ := Prod.mk.inj (Option.some.inj taken)
    refine ⟨nofun, fun live works => ?_, tended.bounded, fun key live created found => ?_⟩
    · exact tended.own live (by rw [here]; exact works)
    · have was := tended.tends key live { created with } found
      rw [here] at was
      exact was
  case h_13 here =>
    split at taken
    all_goals first
      | (obtain ⟨rfl, rfl⟩ := Prod.mk.inj (Option.some.inj taken)
         exact Handler.tended_of_none (tended.fresh here) rfl)
      | cases taken
  case h_14 => cases taken
  case h_5 | h_6 =>
    obtain ⟨rfl, rfl⟩ := Prod.mk.inj (Option.some.inj taken)
    exact tended
  case h_11 session here =>
    obtain ⟨rfl, rfl⟩ := Prod.mk.inj (Option.some.inj taken)
    have owned : handler.session = some session := tended.own session (by rw [here]; rfl)
    refine ⟨fun starting => ?_, fun live works => ?_, tended.bounded,
      fun key live created found => ?_⟩
    · cases request : handler.request <;> simp [Handler.goes, request] at starting
    · cases request : handler.request with
      | diff config =>
        simp only [Handler.goes, request] at works
        exact owned.trans works
      | eval | replay | watch | query =>
        simp only [Handler.goes, request] at works
        cases works
    · have was := tended.tends key live { created with } found
      rw [here] at was
      exact was.elim
  all_goals
    rename_i here
    obtain ⟨rfl, rfl⟩ := Prod.mk.inj (Option.some.inj taken)
    refine ⟨nofun, nofun, tended.bounded, fun key live created found => ?_⟩
    have was := tended.tends key live { created with } found
    rw [here] at was
    exact was.elim

/-- A handler that has installed a session is still the one that has, after its step. -/
theorem Handler.Created.kept {key : String} {session : Nat}
    (created : handler.Created serializer key session) (tended : handler.Tended serializer daemon)
    (taken : handlerStep serializer daemon handler action = some (next, moved)) :
    moved.Created serializer key session := by
  unfold handlerStep at taken
  split at taken
  case h_1 here | h_13 here =>
    exact (created.absurd_of_none (tended.fresh here)).elim
  case h_2 =>
    have settled := Option.some.inj taken
    unfold settleHandler at settled
    split at settled
    · obtain ⟨_, rfl⟩ := Prod.mk.inj settled
      exact { created with }
    · split at settled <;> obtain ⟨_, rfl⟩ := Prod.mk.inj settled <;> exact { created with }
  case h_3 item delivered session recorded here =>
    obtain ⟨_, rfl⟩ := Prod.mk.inj (Option.some.inj taken)
    obtain ⟨request, owned⟩ :=
      streamItem_frame serializer handler session recorded item delivered
    exact ⟨request ▸ created.opens, request ▸ created.keyed, owned.trans created.session⟩
  case h_14 => cases taken
  all_goals
    obtain ⟨_, rfl⟩ := Prod.mk.inj (Option.some.inj taken)
    exact { created with }

/-- What is recording after the first section of a handler was recording before or is installed by
the handler. -/
theorem startHandler_created {key : String} {session : Nat}
    (found : (startHandler serializer daemon handler).1.registry.sessions.lookup key =
      some ⟨session, .recording⟩) :
    daemon.registry.sessions.lookup key = some ⟨session, .recording⟩ ∨
      (startHandler serializer daemon handler).2.Created serializer key session := by
  unfold startHandler at found ⊢
  split at found
  · exact .inl found
  · rename_i own keyed
    split at found
    · rename_i config request
      obtain ⟨rfl, new⟩ | ⟨_, old⟩ := SessionRegistry.lookup_insert found
      · obtain rfl := congrArg CachedSession.session new
        simp only [request] at keyed ⊢
        exact .inr ⟨trivial, keyed, rfl⟩
      · exact .inl old
    · rename_i config request
      obtain ⟨rfl, new⟩ | ⟨_, old⟩ := SessionRegistry.lookup_insert found
      · obtain rfl := congrArg CachedSession.session new
        simp only [request] at keyed ⊢
        exact .inr ⟨trivial, keyed, rfl⟩
      · exact .inl old
    · have kept := sessions_replay daemon.registry own
      split at found
      all_goals
        rename_i answer
        rw [answer] at kept
        exact .inl (kept ▸ found)
    all_goals
      have kept := (warmSession_cases daemon.registry own).1
      split at found
      all_goals
        rename_i answer
        rw [answer] at kept
        exact .inl (kept ▸ found)

/-- What is recording after the step of a handler was recording before or is installed by the
handler. -/
theorem handlerStep_created (sound : handler.Sound serializer daemon)
    (taken : handlerStep serializer daemon handler action = some (next, moved)) {key : String}
    {session : Nat}
    (found : next.registry.sessions.lookup key = some ⟨session, .recording⟩) :
    daemon.registry.sessions.lookup key = some ⟨session, .recording⟩ ∨
      moved.Created serializer key session := by
  unfold handlerStep at taken
  split at taken
  case h_1 =>
    have started := Option.some.inj taken
    have after : (startHandler serializer daemon handler).1 = next := congrArg Prod.fst started
    have goes : (startHandler serializer daemon handler).2 = moved := congrArg Prod.snd started
    rw [← after] at found
    rw [← goes]
    exact startHandler_created found
  case h_2 settling replay here =>
    have settled := Option.some.inj taken
    unfold settleHandler at settled
    split at settled
    · obtain ⟨rfl, _⟩ := Prod.mk.inj settled
      exact .inl found
    · split at settled
      all_goals
        obtain ⟨rfl, _⟩ := Prod.mk.inj settled
        exact .inl (lookup_settle_recording (sound.settles here) found).1
  case h_13 =>
    split at taken
    all_goals first
      | (obtain ⟨rfl, _⟩ := Prod.mk.inj (Option.some.inj taken)
         exact .inl found)
      | cases taken
  case h_14 => cases taken
  all_goals
    obtain ⟨rfl, _⟩ := Prod.mk.inj (Option.some.inj taken)
    exact .inl found

end Steps

/-! ## Runs -/

namespace Daemon

variable {serializer : Serializer} {daemon next : Daemon}

/-- What the condition says of an item. -/
theorem KeepsRecording.item {index : Nat} {handler : Handler} {action : HandlerAction}
    (keeps : daemon.KeepsRecording serializer (.handler index action))
    (present : daemon.handlers[index]? = some handler) (item : Except String Event)
    (delivered : Bool) (gives : action = .item item delivered) :
    serializer.writes item delivered = true ∨ daemon.isRecording serializer handler = false := by
  subst gives
  change (daemon.handlers[index]?).all _ = true at keeps
  rw [present, Option.all_some, Bool.or_eq_true, Bool.not_eq_true'] at keeps
  exact keeps

/-- Every step that loses no event of a recording session keeps the invariant. -/
theorem Tended.step (sound : daemon.Sound serializer) (tended : daemon.Tended serializer)
    {action : DaemonAction} (keeps : daemon.KeepsRecording serializer action)
    (taken : daemonStep serializer daemon action = some next) : next.Tended serializer := by
  cases action with
  | request request =>
    obtain rfl := Option.some.inj taken
    refine ⟨fun key cached found recording => ?_, fun handler member => ?_⟩
    · obtain ⟨handler, member, created⟩ := tended.created key cached found recording
      exact ⟨handler, List.mem_append_left _ member, created⟩
    · obtain old | new := List.mem_append.mp member
      · exact { tended.handlers handler old with }
      · obtain rfl := List.mem_singleton.mp new
        exact ⟨fun _ => rfl, nofun, nofun, fun _ _ created => nomatch created.session⟩
  | handler index action =>
    simp only [daemonStep] at taken
    split at taken
    · rename_i handler present
      obtain ⟨⟨after, moved⟩, stepped, rfl⟩ := Option.map_eq_some_iff.mp taken
      have member := List.mem_of_getElem? present
      have own := sound.handlers handler member
      have shift := handlerStep_shift stepped
      have inside := (List.getElem?_eq_some_iff.mp present).1
      refine ⟨fun key cached found recording => ?_, fun other listed => ?_⟩
      · obtain ⟨session, replay⟩ := cached
        obtain rfl : replay = .recording := recording
        obtain old | new := handlerStep_created own stepped found
        · obtain ⟨other, listed, created⟩ := tended.created key _ old rfl
          obtain ⟨position, there⟩ := List.getElem?_of_mem listed
          by_cases self : position = index
          · subst self
            obtain rfl := Option.some.inj (present.symm.trans there)
            exact ⟨moved, List.mem_set inside _, created.kept (tended.handlers _ member) stepped⟩
          · refine ⟨other, List.mem_of_getElem? (i := position) ?_, created⟩
            show (daemon.handlers.set index moved)[position]? = some other
            rw [List.getElem?_set_ne (Ne.symm self)]
            exact there
        · exact ⟨moved, List.mem_set inside _, new⟩
      · obtain old | rfl := List.mem_or_eq_of_mem_set listed
        · exact { (tended.handlers other old).frame own shift with }
        · exact { handlerStep_tended sound own (tended.handlers handler member)
            (keeps.item present) stepped with }
    · cases taken

/-- What every run keeps that loses no event of a recording session. -/
theorem tended_reachable
    (reached : (daemonMachine serializer).Reachable
      (fun daemon action => daemon.KeepsRecording serializer action) daemon) :
    daemon.Tended serializer := by
  refine reached.invariant ?_ ?_
  · rintro _ rfl
    refine ⟨fun key cached found => ?_, fun _ member => absurd member List.not_mem_nil⟩
    cases found
  · intro before action after earlier tended keeps taken
    have sound := sound_reachable (earlier.weaken fun _ _ _ => trivial)
    exact tended.step sound keeps taken

/-- A step that loses an event of a recording session leaves the session recording, and nobody to
settle it. -/
theorem not_attended_of_lost (sound : daemon.Sound serializer) {action : DaemonAction}
    (lost : ¬ daemon.KeepsRecording serializer action)
    (taken : daemonStep serializer daemon action = some next) : ¬ next.Attended serializer := by
  intro attended
  unfold KeepsRecording at lost
  split at lost
  · rename_i index item delivered
    cases present : daemon.handlers[index]? with
    | none =>
      rw [present] at lost
      exact lost rfl
    | some handler =>
      rw [present, Option.all_some, Bool.or_eq_true, not_or, Bool.not_eq_true] at lost
      obtain ⟨fails, records⟩ := lost
      rw [Bool.not_eq_true', Bool.not_eq_false] at records
      unfold isRecording at records
      split at records
      · rename_i session recorded key here keyed
        have found := of_decide_eq_true records
        have fits := (sound.handlers handler (List.mem_of_getElem? present)).place
        rw [here] at fits
        obtain ⟨_, owned, _, ⟨config, evaluates⟩, _⟩ := fits
        simp only [daemonStep, present, handlerStep, here, Option.map_some,
          Option.some.injEq] at taken
        subst taken
        obtain ⟨error, place⟩ := streamItem_fails handler session recorded fails
        obtain ⟨request, same⟩ :=
          streamItem_frame serializer handler session recorded item delivered
        have listed := List.mem_set (List.getElem?_eq_some_iff.mp present).1
          (streamItem serializer handler session recorded item delivered)
        refine attended.settled _ listed (fun running => running _ place) key session ⟨?_, ?_, ?_⟩
          found
        · rw [request, evaluates]
          trivial
        · rw [request]
          exact keyed
        · rw [same]
          exact owned
      · cases records
  · exact lost trivial

end Daemon

/-- In every run that loses no event of a recording session, every cached session that is recording
has its handler still running, and the session of a handler that has returned is not recording; the
first step that loses such an event leaves a session recording without a handler. -/
theorem recording_attended {serializer : Serializer} {daemon : Daemon}
    (reached : (daemonMachine serializer).Reachable
      (fun daemon action => daemon.KeepsRecording serializer action) daemon) :
    daemon.Attended serializer ∧ ∀ action after,
      daemonStep serializer daemon action = some after →
      (after.Attended serializer ↔ daemon.KeepsRecording serializer action) := by
  refine ⟨(Daemon.tended_reachable reached).attended, fun action after taken =>
    ⟨fun attended => ?_, fun keeps => ?_⟩⟩
  · by_contra lost
    have sound := Daemon.sound_reachable (reached.weaken fun _ _ _ => trivial)
    exact Daemon.not_attended_of_lost sound lost taken attended
  · exact (Daemon.tended_reachable (reached.next keeps taken)).attended

/-- The client of an evaluation goes away after a diff has invalidated its replay. -/
theorem recording_attended_invalidated : ∃ daemon : Daemon, daemon.Attended rootSerializer ∧
    daemon.registry.sessions.lookup defaultKey = some ⟨0, .invalidated⟩ ∧
    daemon.handlers.map Handler.place = [.over (.error clientGone), .answering] := by
  obtain ⟨daemon, reached, checked⟩ := Machine.reachable_of_execute (daemonMachine rootSerializer)
    (fun daemon action => daemon.KeepsRecording rootSerializer action) .started
    [.request (.eval .default), .handler 0 .proceed, .request (.diff .default),
      .handler 1 .proceed, .handler 1 (.answered (.ok ())), .handler 1 .proceed,
      .handler 0 (.item (.ok (.attrSet "" [] [])) false)]
    (fun daemon => daemon.registry.sessions.lookup defaultKey = some ⟨0, .invalidated⟩ ∧
      daemon.handlers.map Handler.place = [.over (.error clientGone), .answering])
    rfl (by decide +kernel)
  exact ⟨daemon, (recording_attended reached).1, of_decide_eq_true checked⟩

/-- A client that goes away before its evaluation ends leaves the session recording. -/
theorem recording_attended_lost : ∃ daemon : Daemon,
    (daemonMachine rootSerializer).Reachable (fun _ _ => True) daemon ∧
      daemon.registry.sessions.lookup defaultKey = some ⟨0, .recording⟩ ∧
      daemon.handlers.map Handler.place = [.over (.error clientGone)] ∧
      ¬ daemon.Attended rootSerializer := by
  obtain ⟨daemon, reached, checked⟩ := Machine.reachable_of_execute (daemonMachine rootSerializer)
    (fun _ _ => True) .started
    [.request (.eval .default), .handler 0 .proceed,
      .handler 0 (.item (.ok (.attrSet "" [] [])) false)]
    (fun daemon => daemon.registry.sessions.lookup defaultKey = some ⟨0, .recording⟩ ∧
      daemon.handlers.map Handler.place = [.over (.error clientGone)]) rfl (by decide +kernel)
  obtain ⟨found, places⟩ := of_decide_eq_true checked
  refine ⟨daemon, reached, found, places, fun attended => ?_⟩
  obtain ⟨handler, member, _, running⟩ := attended.running defaultKey _ found rfl
  have place := List.mem_map_of_mem (f := Handler.place) member
  rw [places] at place
  exact running _ (List.mem_singleton.mp place)

end Evix
