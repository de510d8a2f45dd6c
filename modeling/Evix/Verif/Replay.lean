import Evix.Daemon.Handlers

/-!
# What a replay answers

A replay answers the event lines that one evaluation of its key wrote to its client, in a stream
that ended without an error. No session of the key is newer than that evaluation's, and no diff has
invalidated it.
-/

namespace Evix

open Machines

/-- The bytes of the event lines a handler has written. -/
def Handler.lines (handler : Handler) : Bytes := (handler.written.map Prod.snd).flatten

/-- An evaluation of a key in a session, whose stream has ended without an error and whose event
lines are the given bytes. -/
structure Handler.Recorded (serializer : Serializer) (key : String) (session : Nat) (lines : Bytes)
    (handler : Handler) : Prop where
  /-- It evaluates a configuration of the key. -/
  request : ∃ config, handler.request = .eval config ∧ serializer.sessionKey config = .ok key
  /-- It has installed the session. -/
  session : handler.session = some session
  /-- Its stream has ended. -/
  ended : handler.ended = true
  /-- Its stream has given no error. -/
  clean : handler.errored = false
  /-- Its client has got the lines of its events. -/
  written : ∀ pair ∈ handler.written, serializer.eventLine pair.1 = .ok pair.2
  /-- The bytes are those lines. -/
  lines : lines = handler.lines

/-! ## The invariant -/

/-- A session is installed under the key of a handler. -/
def Daemon.Holds (serializer : Serializer) (daemon : Daemon) (handler : Handler) (session : Nat) :
    Prop :=
  ∃ key, serializer.sessionKey handler.request.config = .ok key ∧
    daemon.installs[session]? = some key

/-- The key of a recorded evaluation is that of its request. -/
theorem Handler.Recorded.keyed {serializer : Serializer} {key : String} {session : Nat}
    {lines : Bytes} {handler : Handler}
    (recorded : handler.Recorded serializer key session lines) :
    serializer.sessionKey handler.request.config = .ok key := by
  obtain ⟨config, request, keyed⟩ := recorded.request
  rw [request]
  exact keyed

/-- What a handler has made sure of where it is. -/
def HandlerPlace.Fits (serializer : Serializer) (daemon : Daemon) (handler : Handler) :
    HandlerPlace → Prop
  | .starting => handler.ended = false ∧ handler.errored = false ∧ handler.written = []
  | .streaming session recorded =>
    handler.ended = false ∧ handler.session = some session ∧
      daemon.Holds serializer handler session ∧ (∃ config, handler.request = .eval config) ∧
        ∀ lines, recorded = some lines → handler.errored = false ∧ lines = handler.lines
  | .settling session replay =>
    daemon.Holds serializer handler session ∧ (replay = .invalidated ∨
      ∃ key lines, replay = .ready lines ∧ handler.Recorded serializer key session lines)
  | .warm session => daemon.Holds serializer handler session
  | _ => True

/-- The invariant of a handler. -/
structure Handler.Sound (serializer : Serializer) (daemon : Daemon) (handler : Handler) :
    Prop where
  /-- Its client has got the lines of its events. -/
  written : ∀ pair ∈ handler.written, serializer.eventLine pair.1 = .ok pair.2
  /-- It fits its place. -/
  place : handler.place.Fits serializer daemon handler

/-- The invariant of a cached session. -/
structure Daemon.Caches (serializer : Serializer) (daemon : Daemon) (key : String)
    (cached : CachedSession) : Prop where
  /-- The session is installed under the key. -/
  installed : daemon.installs[cached.session]? = some key
  /-- No later session is. -/
  newest : ∀ later, cached.session < later → daemon.installs[later]? ≠ some key
  /-- An invalidated session stays so. -/
  sticky : cached.session ∈ daemon.invalidated → cached.replay = .invalidated
  /-- What can be replayed is recorded. -/
  ready : ∀ lines, cached.replay = .ready lines →
    ∃ handler ∈ daemon.handlers, handler.Recorded serializer key cached.session lines

/-- The invariant of the daemon. -/
structure Daemon.Sound (serializer : Serializer) (daemon : Daemon) : Prop where
  /-- Every cached session is right. -/
  entries : ∀ key cached, daemon.registry.sessions.lookup key = some cached →
    daemon.Caches serializer key cached
  /-- Invalidated sessions are installed. -/
  bounded : ∀ session ∈ daemon.invalidated, session < daemon.installs.length
  /-- Every handler is right. -/
  handlers : ∀ handler ∈ daemon.handlers, handler.Sound serializer daemon

/-! ## What a handler does to the daemon -/

/-- What the step of a handler may do to the cache. -/
inductive Daemon.Shift (serializer : Serializer) (daemon : Daemon) (handler : Handler) :
    Daemon → Prop where
  /-- No entry changes. -/
  | quiet (registry : SessionRegistry CachedSession) :
    registry.sessions = daemon.registry.sessions → Shift serializer daemon handler
      { daemon with registry }
  /-- A session is installed. -/
  | installed (key : String) : Shift serializer daemon handler
    { daemon with
      registry := daemon.registry.replaceSession key daemon.installs.length
      installs := daemon.installs ++ [key] }
  /-- A replay is settled. -/
  | settled (key : String) (session : Nat) (replay : Replay) :
    serializer.sessionKey handler.request.config = .ok key →
    handler.place = .settling session replay → Shift serializer daemon handler
      { daemon with registry := daemon.registry.settleReplay key session replay }
  /-- A diff settles its invalidation. -/
  | invalidated (key : String) (session : Nat) (replay : Replay) :
    serializer.sessionKey handler.request.config = .ok key →
    (∃ config, handler.request = .diff config) →
    handler.place = .settling session replay → Shift serializer daemon handler
      { daemon with
        registry := daemon.registry.settleReplay key session replay
        invalidated := daemon.invalidated ++ [session] }

section Steps

variable {serializer : Serializer} {daemon next : Daemon} {handler moved : Handler}
  {action : HandlerAction}

/-- A replay changes no entry. -/
theorem sessions_replay (registry : SessionRegistry CachedSession) (key : String) :
    (registry.replay key).2.sessions = registry.sessions := by
  have kept := registry.sessions_get key
  unfold SessionRegistry.replay
  split
  · rename_i found
    rw [found] at kept
    exact kept
  · rename_i found
    rw [found] at kept
    split <;> exact kept

/-- Asking for a warm session changes no entry, and what is answered is cached. -/
theorem warmSession_cases (registry : SessionRegistry CachedSession) (key : String) :
    (registry.warmSession key).2.sessions = registry.sessions ∧
      ∀ session, (registry.warmSession key).1 = .ok session →
        ∃ cached, registry.sessions.lookup key = some cached ∧ cached.session = session := by
  unfold SessionRegistry.warmSession SessionRegistry.get
  cases found : registry.sessions.lookup key with
  | none => exact ⟨rfl, nofun⟩
  | some cached => exact ⟨rfl, fun session given => ⟨cached, rfl, Except.ok.inj given⟩⟩

/-- The first section of a handler reads the cache or installs a session. -/
theorem startHandler_shift (serializer : Serializer) (daemon : Daemon) (handler : Handler) :
    Daemon.Shift serializer daemon handler (startHandler serializer daemon handler).1 := by
  unfold startHandler
  split
  · exact .quiet daemon.registry rfl
  · rename_i key _
    split
    · exact .installed key
    · exact .installed key
    · have kept := sessions_replay daemon.registry key
      split
      all_goals
        rename_i found
        rw [found] at kept
        exact .quiet _ kept
    all_goals
      have kept := (warmSession_cases daemon.registry key).1
      split
      all_goals
        rename_i found
        rw [found] at kept
        exact .quiet _ kept

/-- What the step of a handler does to the cache. -/
theorem handlerStep_shift
    (taken : handlerStep serializer daemon handler action = some (next, moved)) :
    Daemon.Shift serializer daemon handler next := by
  unfold handlerStep at taken
  split at taken
  case h_1 =>
    have started := startHandler_shift serializer daemon handler
    rw [Option.some.inj taken] at started
    exact started
  case h_2 session replay place =>
    have settled := Option.some.inj taken
    unfold settleHandler at settled
    split at settled
    · obtain ⟨rfl, rfl⟩ := Prod.mk.inj settled
      exact .quiet daemon.registry rfl
    · rename_i key keyed
      split at settled
      · rename_i config request
        obtain ⟨rfl, rfl⟩ := Prod.mk.inj settled
        exact .invalidated key session replay keyed ⟨config, request⟩ place
      all_goals
        obtain ⟨rfl, rfl⟩ := Prod.mk.inj settled
        exact .settled key session replay keyed place
  case h_13 =>
    split at taken
    all_goals first
      | (obtain ⟨rfl, rfl⟩ := Prod.mk.inj (Option.some.inj taken)
         exact .quiet daemon.registry rfl)
      | cases taken
  all_goals first
    | (obtain ⟨rfl, rfl⟩ := Prod.mk.inj (Option.some.inj taken)
       exact .quiet daemon.registry rfl)
    | cases taken

/-- More sessions and the same handler. -/
theorem HandlerPlace.Fits.frame {place : HandlerPlace}
    (fits : place.Fits serializer daemon handler)
    (holds : ∀ session, daemon.Holds serializer handler session →
      next.Holds serializer handler session) : place.Fits serializer next handler := by
  unfold HandlerPlace.Fits at fits ⊢
  split at fits
  · exact fits
  · obtain ⟨running, session, held, rest⟩ := fits
    exact ⟨running, session, holds _ held, rest⟩
  · exact ⟨holds _ fits.1, fits.2⟩
  · exact holds _ fits
  · trivial

/-- An installed session stays installed. -/
theorem Daemon.Shift.holds (shift : Daemon.Shift serializer daemon handler next) (other : Handler)
    (session : Nat) (held : daemon.Holds serializer other session) :
    next.Holds serializer other session := by
  cases shift with
  | installed key =>
    obtain ⟨old, keyed, installed⟩ := held
    refine ⟨old, keyed, ?_⟩
    show (daemon.installs ++ [key])[session]? = some old
    rw [List.getElem?_append_left (List.getElem?_eq_some_iff.mp installed).1]
    exact installed
  | quiet | settled | invalidated => exact held

/-- A handler fits where its first section leaves it. -/
theorem startHandler_sound (entries : daemon.Sound serializer)
    (sound : handler.Sound serializer daemon) (here : handler.place = .starting) :
    (startHandler serializer daemon handler).2.Sound serializer
      (startHandler serializer daemon handler).1 := by
  have fits := sound.place
  rw [here] at fits
  obtain ⟨running, clean, written⟩ := fits
  unfold startHandler
  split
  · exact ⟨sound.written, trivial⟩
  · rename_i key keyed
    split
    · rename_i config request
      refine ⟨sound.written, ?_⟩
      simp only [request]
      refine ⟨running, rfl, ?_, ⟨config, rfl⟩, fun lines given => ?_⟩
      · rw [request] at keyed
        exact ⟨key, keyed, List.getElem?_concat_length⟩
      · obtain rfl := Option.some.inj given
        refine ⟨clean, ?_⟩
        show [] = (handler.written.map Prod.snd).flatten
        rw [written]
        rfl
    · rename_i config request
      refine ⟨sound.written, ?_⟩
      simp only [request]
      rw [request] at keyed
      exact ⟨⟨key, keyed, List.getElem?_concat_length⟩, .inl rfl⟩
    · split <;> exact ⟨sound.written, trivial⟩
    all_goals
      have warm := (warmSession_cases daemon.registry key).2
      split
      · rename_i session registry found
        rw [found] at warm
        obtain ⟨cached, present, same⟩ := warm session rfl
        have installed := (entries.entries key cached present).installed
        rw [same] at installed
        exact ⟨sound.written, key, keyed, installed⟩
      · exact ⟨sound.written, trivial⟩

/-- A handler fits where an item of its stream leaves it. -/
theorem streamItem_sound {session : Nat} {recorded : Option Bytes} {item : Except String Event}
    {delivered : Bool} (sound : handler.Sound serializer daemon)
    (here : handler.place = .streaming session recorded) :
    (streamItem serializer handler session recorded item delivered).Sound serializer daemon := by
  have fits := sound.place
  rw [here] at fits
  obtain ⟨running, session, installed, config, lines⟩ := fits
  unfold streamItem
  split
  · split
    · exact ⟨sound.written, trivial⟩
    · rename_i event _ line given
      split
      · refine ⟨fun pair member => ?_, running, session, installed, config, fun bytes kept => ?_⟩
        · obtain old | new := List.mem_append.mp member
          · exact sound.written pair old
          · obtain rfl := List.mem_singleton.mp new
            exact given
        · obtain ⟨before, was, rfl⟩ := Option.map_eq_some_iff.mp kept
          obtain ⟨clean, same⟩ := lines before was
          refine ⟨clean, ?_⟩
          show before ++ line = ((handler.written ++ [(event, line)]).map Prod.snd).flatten
          rw [List.map_append, List.flatten_append, same]
          simp [Handler.lines]
      · exact ⟨sound.written, trivial⟩
  · split
    · exact ⟨sound.written, running, session, installed, config, nofun⟩
    · exact ⟨sound.written, trivial⟩

/-- A handler fits where its step leaves it. -/
theorem handlerStep_sound (entries : daemon.Sound serializer)
    (sound : handler.Sound serializer daemon)
    (taken : handlerStep serializer daemon handler action = some (next, moved)) :
    moved.Sound serializer next := by
  unfold handlerStep at taken
  split at taken
  case h_1 here =>
    have started := startHandler_sound entries sound here
    rw [Option.some.inj taken] at started
    exact started
  case h_2 session replay here =>
    have settled := Option.some.inj taken
    have installed := sound.place
    rw [here] at installed
    unfold settleHandler at settled
    split at settled
    · obtain ⟨rfl, rfl⟩ := Prod.mk.inj settled
      exact ⟨sound.written, trivial⟩
    · split at settled
      all_goals
        obtain ⟨rfl, rfl⟩ := Prod.mk.inj settled
        exact ⟨sound.written, trivial⟩
  case h_3 item delivered session recorded here =>
    obtain ⟨rfl, rfl⟩ := Prod.mk.inj (Option.some.inj taken)
    exact streamItem_sound sound here
  case h_4 session recorded here =>
    obtain ⟨rfl, rfl⟩ := Prod.mk.inj (Option.some.inj taken)
    have fits := sound.place
    rw [here] at fits
    obtain ⟨running, owned, held, ⟨config, request⟩, lines⟩ := fits
    refine ⟨sound.written, held, ?_⟩
    obtain ⟨key, keyed, _⟩ := held
    rw [request] at keyed
    cases recorded with
    | none => exact .inl rfl
    | some bytes =>
      obtain ⟨clean, same⟩ := lines bytes rfl
      exact .inr ⟨key, bytes, rfl, ⟨config, request, keyed⟩, owned, rfl, clean, sound.written,
        same⟩
  case h_11 session here =>
    obtain ⟨rfl, rfl⟩ := Prod.mk.inj (Option.some.inj taken)
    have installed := sound.place
    rw [here] at installed
    refine ⟨sound.written, ?_⟩
    cases request : handler.request with
    | diff config => exact ⟨installed, .inl rfl⟩
    | eval | replay | watch | query => trivial
  case h_13 =>
    split at taken
    all_goals first
      | (obtain ⟨rfl, rfl⟩ := Prod.mk.inj (Option.some.inj taken)
         exact ⟨sound.written, trivial⟩)
      | cases taken
  case h_14 => cases taken
  all_goals
    obtain ⟨rfl, rfl⟩ := Prod.mk.inj (Option.some.inj taken)
    first | exact sound | exact ⟨sound.written, trivial⟩

/-- A handler whose stream has ended stays as it is recorded. -/
theorem Handler.Recorded.kept {key : String} {session : Nat} {lines : Bytes}
    (recorded : handler.Recorded serializer key session lines)
    (sound : handler.Sound serializer daemon)
    (taken : handlerStep serializer daemon handler action = some (next, moved)) :
    moved.Recorded serializer key session lines := by
  have fits := sound.place
  unfold handlerStep at taken
  split at taken
  case h_1 here =>
    rw [here] at fits
    exact absurd (fits.1.symm.trans recorded.ended) Bool.false_ne_true
  case h_3 here | h_4 here =>
    rw [here] at fits
    exact absurd (fits.1.symm.trans recorded.ended) Bool.false_ne_true
  case h_2 =>
    have settled := Option.some.inj taken
    unfold settleHandler at settled
    split at settled
    · obtain ⟨rfl, rfl⟩ := Prod.mk.inj settled
      exact { recorded with }
    · split at settled
      all_goals
        obtain ⟨rfl, rfl⟩ := Prod.mk.inj settled
        exact { recorded with }
  case h_13 here =>
    rw [here] at fits
    exact absurd (fits.1.symm.trans recorded.ended) Bool.false_ne_true
  case h_14 => cases taken
  all_goals
    obtain ⟨rfl, rfl⟩ := Prod.mk.inj (Option.some.inj taken)
    exact { recorded with }

end Steps

/-! ## The cache -/

namespace Daemon

variable {serializer : Serializer} {daemon next : Daemon} {handler : Handler}

/-- A session just installed is the newest of its key. -/
theorem Sound.install (sound : daemon.Sound serializer) (key : String) {other : String}
    {cached : CachedSession}
    (found : (daemon.registry.replaceSession key daemon.installs.length).sessions.lookup other =
      some cached) :
    Caches serializer { daemon with
      registry := daemon.registry.replaceSession key daemon.installs.length
      installs := daemon.installs ++ [key] } other cached := by
  obtain ⟨rfl, rfl⟩ | ⟨differ, old⟩ := SessionRegistry.lookup_insert found
  · refine ⟨List.getElem?_concat_length, fun later after there => ?_, fun bad => ?_, nofun⟩
    · have bound := (List.getElem?_eq_some_iff.mp there).1
      rw [List.length_append, List.length_singleton] at bound
      exact absurd after (Nat.not_lt.mpr (Nat.le_of_lt_succ bound))
    · exact absurd (sound.bounded _ bad) (Nat.lt_irrefl _)
  · obtain ⟨installed, newest, sticky, ready⟩ := sound.entries other cached old
    have bound := (List.getElem?_eq_some_iff.mp installed).1
    refine ⟨?_, fun later after there => ?_, sticky, ready⟩
    · show (daemon.installs ++ [key])[cached.session]? = some other
      rw [List.getElem?_append_left bound]
      exact installed
    · change (daemon.installs ++ [key])[later]? = some other at there
      by_cases within : later < daemon.installs.length
      · rw [List.getElem?_append_left within] at there
        exact newest later after there
      · rw [List.getElem?_append_right (Nat.le_of_not_lt within)] at there
        exact differ (List.mem_singleton.mp (List.mem_of_getElem? there))

/-- What is found after a replay is settled. -/
theorem lookup_settleReplay {registry : SessionRegistry CachedSession} {key other : String}
    {session : Nat} {replay : Replay} {cached : CachedSession}
    (found : (registry.settleReplay key session replay).sessions.lookup other = some cached) :
    (other = key ∧ cached = ⟨session, replay⟩ ∧
      ∃ before, registry.sessions.lookup key = some before ∧ before.session = session ∧
        before.replay ≠ .invalidated) ∨
      registry.sessions.lookup other = some cached ∧
        (other = key → cached.session = session → cached.replay = .invalidated) := by
  obtain ⟨rfl, before, present, rfl⟩ | ⟨differ, old⟩ := SessionRegistry.lookup_getMut found
  · split
    · rename_i settles
      obtain ⟨rfl, live⟩ := settles
      exact .inl ⟨rfl, rfl, before, present, rfl, live⟩
    · rename_i keeps
      refine .inr ⟨present, fun _ same => ?_⟩
      by_contra live
      exact keeps ⟨same, live⟩
  · exact .inr ⟨old, fun same => absurd same differ⟩

/-- A settled replay is right when it is invalidated or recorded. -/
theorem Sound.settle (sound : daemon.Sound serializer) (key : String) (session : Nat)
    (replay : Replay)
    (recorded : ∀ lines, replay = .ready lines →
      ∃ handler ∈ daemon.handlers, handler.Recorded serializer key session lines)
    {other : String} {cached : CachedSession}
    (found : (daemon.registry.settleReplay key session replay).sessions.lookup other =
      some cached) :
    Caches serializer { daemon with
      registry := daemon.registry.settleReplay key session replay } other cached := by
  obtain ⟨rfl, rfl, before, present, rfl, live⟩ | ⟨old, _⟩ := lookup_settleReplay found
  · obtain ⟨installed, newest, sticky, _⟩ := sound.entries other before present
    exact ⟨installed, newest, fun bad => absurd (sticky bad) live, recorded⟩
  · exact { sound.entries other cached old with }

/-- The cache stays right. -/
theorem Sound.shift (sound : daemon.Sound serializer) (member : handler ∈ daemon.handlers)
    (shift : Shift serializer daemon handler next) :
    (∀ key cached, next.registry.sessions.lookup key = some cached →
      next.Caches serializer key cached) ∧
    ∀ session ∈ next.invalidated, session < next.installs.length := by
  have fits := (sound.handlers handler member).place
  cases shift with
  | quiet registry same =>
    refine ⟨fun key cached found => ?_, sound.bounded⟩
    rw [show registry.sessions = daemon.registry.sessions from same] at found
    exact { sound.entries key cached found with }
  | installed key =>
    refine ⟨fun other cached found => sound.install key found, fun session bad => ?_⟩
    rw [List.length_append]
    exact Nat.lt_succ_of_lt (sound.bounded session bad)
  | settled key session replay keyed here =>
    rw [here] at fits
    refine ⟨fun other cached found => ?_, sound.bounded⟩
    refine sound.settle key session replay (fun lines given => ?_) found
    obtain settled | ⟨other, bytes, same, recorded⟩ := fits.2
    · rw [settled] at given
      cases given
    · obtain rfl := Replay.ready.inj (same.symm.trans given)
      obtain rfl := Except.ok.inj (recorded.keyed.symm.trans keyed)
      exact ⟨handler, member, recorded⟩
  | invalidated key session replay keyed request here =>
    rw [here] at fits
    obtain ⟨⟨held, holds, installed⟩, settles⟩ := fits
    obtain rfl := Except.ok.inj (keyed.symm.trans holds)
    -- only an evaluation settles a replay that is ready
    obtain rfl : replay = .invalidated := by
      refine settles.resolve_right ?_
      rintro ⟨_, _, _, recorded⟩
      obtain ⟨_, evaluates, _⟩ := recorded.request
      obtain ⟨_, diffs⟩ := request
      rw [diffs] at evaluates
      cases evaluates
    refine ⟨fun other cached found => ?_, fun one bad => ?_⟩
    · obtain ⟨there, newest, sticky, ready⟩ := sound.settle key session .invalidated nofun found
      refine ⟨there, newest, fun bad => ?_, ready⟩
      obtain old | new := List.mem_append.mp bad
      · exact sticky old
      · have same := List.mem_singleton.mp new
        obtain ⟨_, rfl, _⟩ | ⟨_, kept⟩ := lookup_settleReplay found
        · rfl
        · -- the session is cached under its own key only
          have own : other = key := by
            change daemon.installs[cached.session]? = some other at there
            rw [same, installed] at there
            exact (Option.some.inj there).symm
          exact kept own same
    · obtain old | new := List.mem_append.mp bad
      · exact sound.bounded one old
      · obtain rfl := List.mem_singleton.mp new
        exact (List.getElem?_eq_some_iff.mp installed).1

/-- Every step keeps the invariant. -/
theorem Sound.step (sound : daemon.Sound serializer) {action : DaemonAction}
    (taken : daemonStep serializer daemon action = some next) : next.Sound serializer := by
  cases action with
  | request request =>
    obtain rfl := Option.some.inj taken
    refine ⟨fun key cached found => ?_, sound.bounded, fun handler member => ?_⟩
    · obtain ⟨installed, newest, sticky, ready⟩ := sound.entries key cached found
      refine ⟨installed, newest, sticky, fun lines given => ?_⟩
      obtain ⟨handler, member, recorded⟩ := ready lines given
      exact ⟨handler, List.mem_append_left _ member, recorded⟩
    · obtain old | new := List.mem_append.mp member
      · exact { sound.handlers handler old with }
      · obtain rfl := List.mem_singleton.mp new
        exact ⟨fun _ listed => absurd listed List.not_mem_nil, rfl, rfl, rfl⟩
  | handler index action =>
    simp only [daemonStep] at taken
    split at taken
    · rename_i handler present
      obtain ⟨⟨after, moved⟩, stepped, rfl⟩ := Option.map_eq_some_iff.mp taken
      have member := List.mem_of_getElem? present
      have shift := handlerStep_shift stepped
      obtain ⟨entries, bounded⟩ := sound.shift member shift
      have same : after.handlers = daemon.handlers := by
        cases shift <;> rfl
      refine ⟨fun key cached found => ?_, bounded, fun other listed => ?_⟩
      · obtain ⟨installed, newest, sticky, ready⟩ := entries key cached found
        refine ⟨installed, newest, sticky, fun lines given => ?_⟩
        obtain ⟨other, listed, recorded⟩ := ready lines given
        rw [same] at listed
        obtain ⟨position, there⟩ := List.getElem?_of_mem listed
        by_cases self : position = index
        · subst self
          obtain rfl := Option.some.inj (present.symm.trans there)
          exact ⟨moved, List.mem_set (List.getElem?_eq_some_iff.mp there).1 _,
            recorded.kept (sound.handlers _ member) stepped⟩
        · refine ⟨other, List.mem_of_getElem? (i := position) ?_, recorded⟩
          show (daemon.handlers.set index moved)[position]? = some other
          rw [List.getElem?_set_ne (Ne.symm self)]
          exact there
      · obtain old | rfl := List.mem_or_eq_of_mem_set listed
        · obtain ⟨written, place⟩ := sound.handlers other old
          exact ⟨written, place.frame (shift.holds other)⟩
        · exact { handlerStep_sound sound (sound.handlers _ member) stepped with }
    · cases taken

/-- What every run keeps. -/
theorem sound_reachable
    (reached : (daemonMachine serializer).Reachable (fun _ _ => True) daemon) :
    daemon.Sound serializer := by
  refine reached.invariant ?_ ?_
  · rintro _ rfl
    refine ⟨fun key cached found => ?_, fun _ bad => absurd bad List.not_mem_nil,
      fun _ member => absurd member List.not_mem_nil⟩
    cases found
  · intro before action after _ sound _ taken
    exact sound.step taken

end Daemon

/-- What can be replayed is cached. -/
theorem replay_cached {registry : SessionRegistry CachedSession} {key : String} {lines : Bytes}
    (given : (registry.replay key).1 = .ok lines) :
    ∃ cached, registry.sessions.lookup key = some cached ∧ cached.replay = .ready lines := by
  unfold SessionRegistry.replay SessionRegistry.get at given
  cases found : registry.sessions.lookup key with
  | none =>
    rw [found] at given
    cases given
  | some cached =>
    refine ⟨cached, rfl, ?_⟩
    rw [found] at given
    cases replay : cached.replay with
    | ready bytes =>
      simp only [replay] at given
      rw [Except.ok.inj given]
    | recording | invalidated =>
      simp only [replay] at given
      cases given

/-- What a replay of a configuration answers. -/
def Daemon.replays (serializer : Serializer) (daemon : Daemon) (config : Config) :
    Except String Bytes := do
  let key ← serializer.sessionKey config
  (daemon.registry.replay key).1

/-- Bytes are the event lines that one evaluation of a key wrote to its client, in a stream that
ended without an error; no later session of the key is installed, and no diff has settled the
invalidation of this one. -/
def Daemon.Records (serializer : Serializer) (daemon : Daemon) (key : String) (lines : Bytes) :
    Prop :=
  ∃ handler ∈ daemon.handlers, ∃ session, handler.Recorded serializer key session lines ∧
    daemon.installs[session]? = some key ∧
    (∀ later, session < later → daemon.installs[later]? ≠ some key) ∧
    session ∉ daemon.invalidated

/-- Whenever a replay succeeds, its bytes are on record under the key of its configuration. -/
theorem replay_recorded {serializer : Serializer} {daemon : Daemon} {config : Config}
    {lines : Bytes} (reached : (daemonMachine serializer).Reachable (fun _ _ => True) daemon)
    (given : daemon.replays serializer config = .ok lines) :
    ∃ key, serializer.sessionKey config = .ok key ∧ daemon.Records serializer key lines := by
  unfold Daemon.replays at given
  cases keyed : serializer.sessionKey config with
  | error error =>
    rw [keyed] at given
    cases given
  | ok key =>
    rw [keyed] at given
    obtain ⟨cached, found, replay⟩ := replay_cached given
    obtain ⟨installed, newest, sticky, ready⟩ :=
      (Daemon.sound_reachable reached).entries key cached found
    obtain ⟨handler, member, recorded⟩ := ready lines replay
    refine ⟨key, rfl, handler, member, cached.session, recorded, installed, newest, fun bad => ?_⟩
    rw [sticky bad] at replay
    cases replay

/-- The key of the default configuration. -/
def defaultKey : String :=
  "\x7b\"input\":\x7b\"type\":\"expr\",\"value\":\"\x7b\x7d\"\x7d,\"autoArgs\":[]," ++
    "\"forceRecurse\":false,\"gcRootsDir\":null,\"workers\":1,\"maxMemorySize\":4096," ++
    "\"itemTimeoutSeconds\":1800,\"meta\":false,\"showInputDrvs\":false," ++
    "\"overrideInputs\":[],\"nixOptions\":[],\"remotes\":[]\x7d"

/-- The line of an empty root. -/
def rootLine : Bytes :=
  ("\x7b\"type\":\"event\",\"event\":\x7b\"attr_set\":\x7b\"attr\":\"\",\"attr_path\":[]," ++
    "\"attrs\":[]\x7d\x7d\x7d\n").toUTF8.toList

/-- What is written for the default configuration and an empty root. -/
def rootSerializer : Serializer where
  key config := if config = .ofConfig .default then .ok defaultKey else .error "key"
  eventLine event := if event = .attrSet "" [] [] then .ok rootLine else .error "event"

/-- The root is replayed after its evaluation, beside one whose client went away. -/
theorem replay_recorded_root : ∃ daemon : Daemon,
    daemon.replays rootSerializer .default = .ok rootLine ∧
      ∃ key, rootSerializer.sessionKey .default = .ok key ∧
        daemon.Records rootSerializer key rootLine := by
  obtain ⟨daemon, reached, checked⟩ := Machine.reachable_of_execute (daemonMachine rootSerializer)
    (fun _ _ => True) .started
    [.request (.eval .default), .handler 0 .proceed,
      .handler 0 (.item (.ok (.attrSet "" [] [])) false),
      .request (.eval .default), .handler 1 .proceed,
      .handler 1 (.item (.ok (.attrSet "" [] [])) true), .handler 1 .ended, .handler 1 .proceed]
    (fun daemon => daemon.replays rootSerializer .default = .ok rootLine) rfl (by decide +kernel)
  have given := of_decide_eq_true checked
  exact ⟨daemon, given, replay_recorded reached given⟩

end Evix
