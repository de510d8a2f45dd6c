import Evix.Daemon.Serving
import Evix.Library.Admission

/-!
# The connections the daemon serves

The slots that are taken are the threads that run, whatever the clients, the threads and the signals
do, so the counter never wraps and the loop refines a door with a limit. Once a shutdown is
requested, the loop ends after a few of its own steps.
-/

namespace Evix

open Machines Admission

variable {ι : Type}

/-! ## The slots -/

namespace ServePlace

/-- The client whose slot is not yet with a thread. -/
def holder : ServePlace ι → List ι
  | .spawning client => [client]
  | .checking | .polling | .polled _ | .accepting | .accepted _ | .refusing _ | .returned _ => []

/-- The client that is accepted and not decided on. -/
def pending : ServePlace ι → List ι
  | .accepted client => [client]
  | .checking | .polling | .polled _ | .accepting | .refusing _ | .spawning _ | .returned _ => []

/-- The client that is refused and not answered. -/
def unanswered : ServePlace ι → List ι
  | .refusing client => [client]
  | .checking | .polling | .polled _ | .accepting | .accepted _ | .spawning _ | .returned _ => []

/-- `poll` has reported a connection, and it is not accepted yet. -/
def expectsClient : ServePlace ι → Bool
  | .polled readable => !readable
  | .accepting => true
  | .checking | .polling | .accepted _ | .refusing _ | .spawning _ | .returned _ => false

/-- The loop holds no client. -/
def isIdle : ServePlace ι → Bool
  | .checking | .polling | .polled _ | .accepting | .returned _ => true
  | .accepted _ | .refusing _ | .spawning _ => false

/-- How many steps the loop makes at most once a shutdown is requested. -/
def rank : ServePlace ι → Nat
  | .returned _ => 0
  | .checking | .polled _ => 1
  | .polling | .refusing _ | .spawning _ => 2
  | .accepted _ => 3
  | .accepting => 4

end ServePlace

namespace ConnectionLimiter

/-- A slot that is taken is counted: the counter is below the limit, so it does not wrap. -/
theorem acquire_eq_some {limiter after : ConnectionLimiter}
    (taken : limiter.acquire = some after) :
    limiter.active.toNat < limiter.max.toNat ∧ after.max = limiter.max ∧
      after.active.toNat = limiter.active.toNat + 1 := by
  simp only [acquire] at taken
  split at taken
  · contradiction
  · rename_i room
    obtain rfl := Option.some.inj taken
    have below : limiter.active.toNat < limiter.max.toNat := by
      rw [← UInt64.lt_iff_toNat_lt]
      exact UInt64.not_le.mp room
    have bound := limiter.max.toNat_lt
    refine ⟨below, rfl, ?_⟩
    rw [UInt64.toNat_add, UInt64.toNat_one]
    omega

/-- There is no slot when they are all taken. -/
theorem acquire_eq_none {limiter : ConnectionLimiter} (full : limiter.acquire = none) :
    limiter.max.toNat ≤ limiter.active.toNat := by
  simp only [acquire] at full
  split at full
  · rename_i taken
    exact UInt64.le_iff_toNat_le.mp taken
  · contradiction

/-- A slot that is dropped is not counted any more. -/
theorem release_active {limiter : ConnectionLimiter} (some : 0 < limiter.active.toNat) :
    limiter.release.active.toNat = limiter.active.toNat - 1 := by
  have small : (1 : UInt64) ≤ limiter.active := UInt64.le_iff_toNat_le.mpr some
  simp only [release]
  rw [UInt64.toNat_sub_of_le _ _ small, UInt64.toNat_one]

end ConnectionLimiter

/-! ## What a step of the loop does -/

namespace ServeState

/-- What a step of the loop may do. -/
inductive Passage (state : ServeState ι) : ServeState ι → Prop where
  /-- It goes on without a client. -/
  | idles (next : ServePlace ι) : state.place.isIdle = true → next.isIdle = true →
    (next.expectsClient = true → state.waiting ≠ []) →
    (next = .returned (.ok ()) → state.requested = true ∨ state.place = .polled true) →
    (next = .polled true → state.pipe.readable = true) →
    (state.requested = true → next.rank < state.place.rank) →
    Passage state { state with place := next }
  /-- It accepts the next client. -/
  | accepts (client : ι) (waiting : List ι) : state.place = .accepting →
    state.waiting = client :: waiting →
    Passage state { state with place := .accepted client, waiting }
  /-- It takes a slot for the client. -/
  | admits (client : ι) (limiter : ConnectionLimiter) : state.place = .accepted client →
    state.limiter.acquire = some limiter →
    Passage state { state with
      place := .spawning client, limiter, decided := state.decided ++ [(client, true)] }
  /-- There is no slot. -/
  | refuses (client : ι) : state.place = .accepted client → state.limiter.acquire = none →
    Passage state { state with
      place := .refusing client, decided := state.decided ++ [(client, false)] }
  /-- It answers a client for which there is no slot. -/
  | answers (client : ι) : state.place = .refusing client →
    Passage state { state with
      place := .checking, answers := state.answers ++ [(client, limitExceeded)] }
  /-- The answer does not reach the client. -/
  | drops (client : ι) : state.place = .refusing client →
    Passage state { state with place := .checking }
  /-- It starts the thread of the client. -/
  | spawns (client : ι) : state.place = .spawning client →
    Passage state { state with place := .checking, handling := state.handling ++ [client] }

/-- What a step of the loop does. -/
theorem serveMain_passage {state after : ServeState ι} {outcome : CallOutcome}
    (alert : state.place.expectsClient = true → state.waiting ≠ [])
    (taken : serveMain state outcome = some after) : state.Passage after := by
  cases place : state.place with
  | checking =>
    simp only [serveMain, place, Option.some.injEq] at taken
    subst taken
    refine .idles _ (by simp [place, ServePlace.isIdle]) ?_ ?_ ?_ ?_ ?_ <;>
      split <;> simp_all [ServePlace.isIdle, ServePlace.expectsClient, ServePlace.rank]
  | polling =>
    have idle : state.place.isIdle = true := by simp [place, ServePlace.isIdle]
    simp only [serveMain, place] at taken
    split at taken
    · split at taken
      · rename_i ready
        obtain rfl := Option.some.inj taken
        refine .idles _ idle rfl ?_ (by simp) ?_ (fun _ => by simp [place, ServePlace.rank])
        · intro unread
          simp only [ServePlace.expectsClient, Bool.not_eq_true'] at unread
          simpa [unread] using ready
        · intro seen
          exact ServePlace.polled.inj seen
      · contradiction
    · obtain rfl := Option.some.inj taken
      by_cases requested : state.requested = true
      · rw [if_pos requested]
        exact .idles (.returned (.ok ())) idle rfl (by simp [ServePlace.expectsClient])
          (fun _ => .inl requested) (by simp) fun _ => by simp [place, ServePlace.rank]
      · have same : state = { state with place := .polling } := by rw [← place]
        rw [if_neg requested]
        nth_rewrite 2 [same]
        exact .idles .polling idle rfl (by simp [ServePlace.expectsClient]) (by simp) (by simp)
          fun now => absurd now requested
    · obtain rfl := Option.some.inj taken
      exact .idles _ idle rfl (by simp [ServePlace.expectsClient]) (by simp) (by simp)
        fun _ => by simp [place, ServePlace.rank]
  | polled readable =>
    have idle : state.place.isIdle = true := by simp [place, ServePlace.isIdle]
    simp only [serveMain, place, Option.some.injEq] at taken
    subst taken
    refine .idles _ idle ?_ ?_ ?_ ?_ ?_ <;>
      split <;>
        simp_all [ServePlace.isIdle, ServePlace.expectsClient, ServePlace.rank, or_comm]
  | accepting =>
    simp only [serveMain, place] at taken
    split at taken
    · rename_i client waiting here
      obtain rfl := Option.some.inj taken
      exact .accepts client waiting place here
    · contradiction
    all_goals
      obtain rfl := Option.some.inj taken
      exact .idles _ (by simp [place, ServePlace.isIdle]) rfl
        (by simp [ServePlace.expectsClient]) (by simp) (by simp)
        fun _ => by simp [place, ServePlace.rank]
  | accepted client =>
    simp only [serveMain, place] at taken
    split at taken
    · rename_i limiter free
      obtain rfl := Option.some.inj taken
      exact .admits client limiter place free
    · rename_i full
      obtain rfl := Option.some.inj taken
      exact .refuses client place full
  | refusing client =>
    simp only [serveMain, place] at taken
    split at taken
    · obtain rfl := Option.some.inj taken
      exact .answers client place
    all_goals
      obtain rfl := Option.some.inj taken
      exact .drops client place
  | spawning client =>
    simp only [serveMain, place, Option.some.injEq] at taken
    subst taken
    exact .spawns client place
  | returned result => simp [serveMain, place] at taken

/-- The door that a daemon stands for. -/
def door (state : ServeState ι) : Door ι :=
  ⟨state.handling ++ state.place.holder, state.closed, state.decided⟩

/-- A slot is taken for every thread, and there are no more of them than slots. -/
structure Counted (max : UInt64) (state : ServeState ι) : Prop where
  /-- The limit stays. -/
  limit : state.limiter.max = max
  /-- Every slot that is taken is that of a client. -/
  active : state.limiter.active.toNat = state.door.serving.length
  /-- There are no more of them than slots. -/
  within : state.door.serving.length ≤ max.toNat

/-- The slots are untouched by a step that changes neither the limiter nor who is served. -/
theorem Counted.congr {max : UInt64} {state after : ServeState ι} (counted : state.Counted max)
    (limiter : after.limiter = state.limiter) (serving : after.door.serving = state.door.serving) :
    after.Counted max := by
  constructor
  · rw [limiter]
    exact counted.limit
  · rw [limiter, serving]
    exact counted.active
  · rw [serving]
    exact counted.within

/-- A thread that ends drops its slot. -/
theorem Counted.finish {max : UInt64} {state : ServeState ι} (counted : state.Counted max)
    {index : Nat} {client : ι} (found : state.handling[index]? = some client) :
    Counted max { state with
      limiter := state.limiter.release
      handling := state.handling.eraseIdx index
      closed := state.closed ++ [client] } := by
  obtain ⟨inside, -⟩ := List.getElem?_eq_some_iff.mp found
  have active := counted.active
  have within := counted.within
  simp only [door, List.length_append] at active within
  have positive : 0 < state.limiter.active.toNat := by omega
  constructor
  · exact counted.limit
  · simp only [ConnectionLimiter.release_active positive, door, List.length_append,
      List.length_eraseIdx_of_lt inside]
    omega
  · simp only [door, List.length_append, List.length_eraseIdx_of_lt inside]
    omega

/-- A loop without a client holds none. -/
theorem holder_of_isIdle {place : ServePlace ι} (idle : place.isIdle = true) :
    place.holder = [] ∧ place.pending = [] ∧ place.unanswered = [] := by
  cases place with
  | checking | polling | polled | accepting | returned => exact ⟨rfl, rfl, rfl⟩
  | accepted | refusing | spawning => contradiction

/-- The loop counts the slots it takes. -/
theorem Counted.passage {max : UInt64} {state after : ServeState ι} (counted : state.Counted max)
    (passage : state.Passage after) : after.Counted max := by
  cases passage with
  | idles next leaves enters =>
    refine counted.congr rfl ?_
    simp only [door, (holder_of_isIdle leaves).1, (holder_of_isIdle enters).1]
  | accepts client waiting place =>
    exact counted.congr rfl (by simp [door, place, ServePlace.holder])
  | admits client limiter place free =>
    have serving : state.door.serving = state.handling := by simp [door, place, ServePlace.holder]
    obtain ⟨below, limit, more⟩ := ConnectionLimiter.acquire_eq_some free
    have active := counted.active
    rw [serving] at active
    rw [counted.limit] at below limit
    constructor
    · exact limit
    · simp [door, ServePlace.holder, more, active]
    · simp only [door, ServePlace.holder, List.length_append, List.length_singleton]
      omega
  | refuses client place =>
    exact counted.congr rfl (by simp [door, place, ServePlace.holder])
  | answers client place =>
    exact counted.congr rfl (by simp [door, place, ServePlace.holder])
  | drops client place =>
    exact counted.congr rfl (by simp [door, place, ServePlace.holder])
  | spawns client place =>
    exact counted.congr rfl (by simp [door, place, ServePlace.holder])

/-! ## The clients -/

/-- Every client is somewhere, once, and in its order. -/
structure Accounted (state : ServeState ι) : Prop where
  /-- Every client that has connected is decided on, accepted or waiting. -/
  ordered : state.arrived = state.decided.map (·.1) ++ state.place.pending ++ state.waiting
  /-- Clients are answered only when they are refused. -/
  answered : (state.answers.map (·.1) ++ state.place.unanswered).Sublist (refused state.decided)
  /-- Every answer says why. -/
  told : ∀ answer ∈ state.answers, answer.2 = limitExceeded

/-- The loop keeps its clients in order. -/
theorem Accounted.passage {state after : ServeState ι} (accounted : state.Accounted)
    (passage : state.Passage after) : after.Accounted := by
  obtain ⟨ordered, answered, told⟩ := accounted
  cases passage with
  | idles next leaves enters =>
    have left := holder_of_isIdle leaves
    have entered := holder_of_isIdle enters
    constructor
    · simpa only [left.2.1, entered.2.1] using ordered
    · simpa only [left.2.2, entered.2.2] using answered
    · exact told
  | accepts client waiting place here =>
    constructor
    · simp [ordered, place, here, ServePlace.pending]
    · simpa [place, ServePlace.unanswered] using answered
    · exact told
  | admits client limiter place =>
    constructor
    · simp [ordered, place, ServePlace.pending]
    · simpa [place, ServePlace.unanswered] using answered
    · exact told
  | refuses client place =>
    constructor
    · simp [ordered, place, ServePlace.pending]
    · simp only [place, ServePlace.unanswered, List.append_nil] at answered
      simpa [ServePlace.unanswered] using answered.append_right [client]
    · exact told
  | answers client place =>
    constructor
    · simpa [place, ServePlace.pending] using ordered
    · simpa [place, ServePlace.unanswered] using answered
    · intro answer member
      rcases List.mem_append.mp member with old | new
      · exact told answer old
      · rw [List.mem_singleton.mp new]
  | drops client place =>
    constructor
    · simpa [place, ServePlace.pending] using ordered
    · simp only [place, ServePlace.unanswered] at answered
      simpa [ServePlace.unanswered] using (List.sublist_append_left _ _).trans answered
    · exact told
  | spawns client place =>
    constructor
    · simpa [place, ServePlace.pending] using ordered
    · simpa [place, ServePlace.unanswered] using answered
    · exact told

/-! ## The signals -/

/-- A request is seen. -/
structure Alert (state : ServeState ι) : Prop where
  /-- A connection that was reported is still there. -/
  reported : state.place.expectsClient = true → state.waiting ≠ []
  /-- A request wakes the loop up, or is about to. -/
  woken : state.requested = true → 0 < state.raising ∨ state.pipe.readable = true
  /-- What is in the pipe, or will be, is written for a request. -/
  written : state.pipe.readable = true ∨ 0 < state.raising → state.requested = true
  /-- What `poll` has seen was written for a request. -/
  seen : state.place = .polled true → state.requested = true
  /-- The loop ends for a request. -/
  ended : state.place = .returned (.ok ()) → state.requested = true

/-- The loop sees what it is told. -/
theorem Alert.passage {state after : ServeState ι} (alert : state.Alert)
    (passage : state.Passage after) : after.Alert := by
  obtain ⟨reported, woken, written, seen, ended⟩ := alert
  cases passage with
  | idles next leaves enters expects ends sees =>
    refine ⟨expects, woken, written, fun now => written (.inl (sees now)), fun now => ?_⟩
    exact (ends now).elim id seen
  | accepts | admits | refuses | answers | drops | spawns =>
    exact ⟨by simp [ServePlace.expectsClient], woken, written, by simp, by simp⟩

/-! ## Every run -/

/-- What holds of a daemon that serves. -/
structure Sound (max : UInt64) (state : ServeState ι) : Prop where
  /-- The slots are counted. -/
  counted : state.Counted max
  /-- The clients are accounted for. -/
  accounted : state.Accounted
  /-- The signals are seen. -/
  alert : state.Alert

/-- A daemon that begins to serve. -/
theorem sound_fresh {max : UInt64} {state : ServeState ι} (fresh : state.IsFresh max) :
    state.Sound max := by
  obtain ⟨pipe, unread, rfl⟩ := fresh
  refine ⟨⟨rfl, rfl, Nat.zero_le _⟩, ⟨rfl, List.Sublist.refl _, by simp⟩, ?_⟩
  exact ⟨by simp [ServePlace.expectsClient], by simp, by simp [unread], by simp, by simp⟩

/-- Every step keeps what holds. -/
theorem Sound.step {max : UInt64} {state after : ServeState ι} (sound : state.Sound max)
    {action : ServeAction ι} (taken : serveStep state action = some after) : after.Sound max := by
  obtain ⟨counted, accounted, alert⟩ := sound
  cases action with
  | connect client =>
    obtain rfl := Option.some.inj taken
    refine ⟨counted.congr rfl rfl, ⟨?_, accounted.answered, accounted.told⟩, ?_⟩
    · simp [accounted.ordered]
    · exact ⟨by simp, alert.woken, alert.written, alert.seen, alert.ended⟩
  | signal =>
    obtain rfl := Option.some.inj taken
    refine ⟨counted.congr rfl rfl, ⟨accounted.ordered, accounted.answered, accounted.told⟩, ?_⟩
    exact ⟨alert.reported, fun _ => .inl (Nat.succ_pos _), fun _ => rfl, fun _ => rfl, fun _ => rfl⟩
  | raise =>
    simp only [serveStep] at taken
    split at taken
    · rename_i raising raised
      obtain rfl := Option.some.inj taken
      have requested : state.requested = true := alert.written (.inr (by omega))
      refine ⟨counted.congr rfl rfl, ⟨accounted.ordered, accounted.answered, accounted.told⟩, ?_⟩
      exact ⟨alert.reported, fun _ => .inr (by simp), fun _ => requested, alert.seen, alert.ended⟩
    · contradiction
  | finish index =>
    simp only [serveStep] at taken
    split at taken
    · rename_i client found
      obtain rfl := Option.some.inj taken
      refine ⟨counted.finish found, ⟨accounted.ordered, accounted.answered, accounted.told⟩, ?_⟩
      exact ⟨alert.reported, alert.woken, alert.written, alert.seen, alert.ended⟩
    · contradiction
  | main outcome =>
    have passage := serveMain_passage alert.reported taken
    exact ⟨counted.passage passage, accounted.passage passage, alert.passage passage⟩

/-- Every state that is reached is sound. -/
theorem sound_reachable {max : UInt64} {state : ServeState ι}
    (reached : (serveMachine max).Reachable (fun _ _ => True) state) : state.Sound max :=
  reached.invariant (fun _ => sound_fresh) fun _ _ _ _ sound _ taken => sound.step taken

end ServeState

/-! ## The daemon is a door -/

/-- A step of the daemon is a step of its door, or leaves the door alone. -/
theorem door_step {max : UInt64} {state after : ServeState ι} {action : ServeAction ι}
    (sound : state.Sound max) (taken : serveStep state action = some after) :
    after.door = state.door ∨
      ∃ move, Admission.step max.toNat state.door move = some after.door := by
  cases action with
  | connect client =>
    obtain rfl := Option.some.inj taken
    exact .inl rfl
  | signal =>
    obtain rfl := Option.some.inj taken
    exact .inl rfl
  | raise =>
    simp only [serveStep] at taken
    split at taken
    · obtain rfl := Option.some.inj taken
      exact .inl rfl
    · contradiction
  | finish index =>
    simp only [serveStep] at taken
    split at taken
    · rename_i client found
      obtain rfl := Option.some.inj taken
      obtain ⟨inside, -⟩ := List.getElem?_eq_some_iff.mp found
      refine .inr ⟨.leave index, ?_⟩
      simp only [Admission.step, ServeState.door, List.getElem?_append_left inside, found,
        List.eraseIdx_append_of_lt_length inside]
    · contradiction
  | main outcome =>
    cases ServeState.serveMain_passage sound.alert.reported taken with
    | idles next leaves enters =>
      refine .inl ?_
      simp only [ServeState.door, (ServeState.holder_of_isIdle leaves).1,
        (ServeState.holder_of_isIdle enters).1]
    | accepts client waiting place =>
      exact .inl (by simp [ServeState.door, place, ServePlace.holder])
    | admits client limiter place free =>
      have serving : state.door.serving = state.handling := by
        simp [ServeState.door, place, ServePlace.holder]
      have below := (ConnectionLimiter.acquire_eq_some free).1
      rw [sound.counted.limit, sound.counted.active, serving] at below
      refine .inr ⟨.decide client, ?_⟩
      simp [Admission.step, ServeState.door, place, ServePlace.holder, below]
    | refuses client place full =>
      have serving : state.door.serving = state.handling := by
        simp [ServeState.door, place, ServePlace.holder]
      have above := ConnectionLimiter.acquire_eq_none full
      rw [sound.counted.limit, sound.counted.active, serving] at above
      refine .inr ⟨.decide client, ?_⟩
      simp [Admission.step, ServeState.door, place, ServePlace.holder, Nat.not_lt.mpr above]
    | answers client place => exact .inl (by simp [ServeState.door, place, ServePlace.holder])
    | drops client place => exact .inl (by simp [ServeState.door, place, ServePlace.holder])
    | spawns client place => exact .inl (by simp [ServeState.door, place, ServePlace.holder])

/-- The daemon refines a door with its limit. -/
def serveRefinement (max : UInt64) :
    Refinement (serveMachine (ι := ι) max) (fun _ _ => True) (Admission.machine (ι := ι) max.toNat)
      fun _ _ => True where
  view := ServeState.door
  starts := by
    rintro state ⟨pipe, unread, rfl⟩
    rfl
  simulates := by
    intro state action after reached _ taken
    obtain same | ⟨move, moved⟩ := door_step (ServeState.sound_reachable reached) taken
    · exact .inl same
    · exact .inr ⟨move, trivial, moved⟩

/-- Whatever clients, threads and signals do, the counter of the daemon is the number of threads
that run (and of the slot that is on its way to one), never more than the limit; a client is
refused exactly when that many are served; every client is decided on at most once, in its order;
the admitted ones are those that are served or have left, and a client that is told of the limit was
refused. -/
theorem daemon_slots {max : UInt64} {state : ServeState ι}
    (reached : (serveMachine max).Reachable (fun _ _ => True) state) :
    state.limiter.active.toNat = (state.handling ++ state.place.holder).length ∧
      (state.handling ++ state.place.holder).length ≤ max.toNat ∧
      (state.limiter.acquire = none ↔
        (state.handling ++ state.place.holder).length = max.toNat) ∧
      state.arrived = state.decided.map (·.1) ++ state.place.pending ++ state.waiting ∧
      (admitted state.decided).Perm (state.handling ++ state.place.holder ++ state.closed) ∧
      (state.answers.map (·.1)).Sublist (refused state.decided) ∧
      ∀ answer ∈ state.answers, answer.2 = limitExceeded := by
  have sound := ServeState.sound_reachable reached
  have kept := Door.kept ((serveRefinement max).reachable reached)
  refine ⟨sound.counted.active, kept.within, ⟨?_, ?_⟩, sound.accounted.ordered, kept.ledger,
    (List.sublist_append_left _ _).trans sound.accounted.answered, sound.accounted.told⟩
  · intro full
    have above := ConnectionLimiter.acquire_eq_none full
    rw [sound.counted.limit, sound.counted.active] at above
    exact Nat.le_antisymm kept.within above
  · intro full
    cases free : state.limiter.acquire with
    | none => rfl
    | some limiter =>
      have below := (ConnectionLimiter.acquire_eq_some free).1
      rw [sound.counted.limit, sound.counted.active] at below
      exact absurd full (Nat.ne_of_lt below)

/-- With one slot, a second client is refused while the first one is served. -/
theorem daemon_slots_two : ∃ state : ServeState Nat,
    (serveMachine 1).Reachable (fun _ _ => True) state ∧
      (state.decided = [(0, true), (1, false)] ∧ state.closed = [0] ∧ state.answers.length = 1) ∧
      (admitted state.decided).Perm (state.handling ++ state.place.holder ++ state.closed) := by
  obtain ⟨state, reached, found⟩ := (serveMachine 1).reachable_of_execute (fun _ _ => True)
    (⟨.checking, .new 1, false, 0, .empty 1 (by decide), [], [], [], [], [], []⟩ : ServeState Nat)
    [.connect 0, .connect 1, .main .ok, .main .ok, .main .ok, .main .ok, .main .ok, .main .ok,
      .main .ok, .main .ok, .main .ok, .main .ok, .main .ok, .main .ok, .finish 0]
    (fun state => state.decided = [(0, true), (1, false)] ∧ state.closed = [0] ∧
      state.answers.length = 1)
    ⟨.empty 1 (by decide), rfl, rfl⟩ (by decide)
  exact ⟨state, reached, of_decide_eq_true found, (daemon_slots reached).2.2.2.2.1⟩

/-! ## The shutdown -/

/-- Whether an action is a step of the loop. -/
def ServeAction.isMain : ServeAction ι → Bool
  | .main _ => true
  | .connect _ | .signal | .raise | .finish _ => false

namespace ServeState

/-- The clients that are accepted, or will be before the flag is loaded again. -/
def taken (state : ServeState ι) : Nat :=
  state.decided.length + state.place.pending.length + if state.place.rank = 4 then 1 else 0

/-- Once a shutdown is requested, a step of the loop brings its end closer and takes no client
that was not already about to be accepted. -/
theorem Passage.ends {state after : ServeState ι} (passage : state.Passage after)
    (requested : state.requested = true) :
    after.requested = true ∧ after.place.rank < state.place.rank ∧
      after.taken ≤ state.taken := by
  cases passage with
  | idles next leaves enters expects ends sees closer =>
    have shorter := closer requested
    have most : state.place.rank ≤ 4 := by cases state.place <;> simp [ServePlace.rank]
    refine ⟨requested, shorter, ?_⟩
    have not_accepting : next.rank ≠ 4 := by omega
    simp [taken, (holder_of_isIdle leaves).2.1, (holder_of_isIdle enters).2.1, not_accepting]
  | accepts client waiting place =>
    exact ⟨requested, by simp [place, ServePlace.rank],
      by simp [taken, place, ServePlace.rank, ServePlace.pending]⟩
  | admits client limiter place | refuses client place | answers client place
  | drops client place | spawns client place =>
    exact ⟨requested, by simp [place, ServePlace.rank],
      by simp [taken, place, ServePlace.rank, ServePlace.pending]⟩

/-- Nobody else moves the loop or takes a client, and a request stays. -/
theorem step_other {state after : ServeState ι} {action : ServeAction ι}
    (other : action.isMain = false) (taken : serveStep state action = some after) :
    (state.requested = true → after.requested = true) ∧ after.place = state.place ∧
      after.decided = state.decided := by
  cases action with
  | main outcome => contradiction
  | connect client =>
    obtain rfl := Option.some.inj taken
    exact ⟨id, rfl, rfl⟩
  | signal =>
    obtain rfl := Option.some.inj taken
    exact ⟨fun _ => rfl, rfl, rfl⟩
  | raise | finish =>
    simp only [serveStep] at taken
    split at taken
    · obtain rfl := Option.some.inj taken
      exact ⟨id, rfl, rfl⟩
    · contradiction

/-- The loop is not stuck once a request has been written to the pipe. -/
theorem Sound.moves {max : UInt64} {state : ServeState ι} (sound : state.Sound max)
    (requested : state.requested = true) (raised : state.raising = 0)
    (runs : ∀ result, state.place ≠ .returned result) :
    (serveStep state (.main .ok)).isSome = true := by
  have readable : state.pipe.readable = true := by
    obtain pending | readable := sound.alert.woken requested
    · omega
    · exact readable
  have reported := sound.alert.reported
  cases place : state.place with
  | returned result => exact absurd place (runs result)
  | accepting =>
    have some := reported (by simp [place, ServePlace.expectsClient])
    cases waiting : state.waiting with
    | nil => exact absurd waiting some
    | cons client rest => simp [serveStep, serveMain, place, waiting]
  | accepted client =>
    simp only [serveStep, serveMain, place]
    split <;> rfl
  | checking | polling | polled | refusing | spawning =>
    simp [serveStep, serveMain, place, readable]

/-- Once a shutdown is requested, every step of the loop is counted down. -/
theorem countdown {max : UInt64} {state after : ServeState ι} {actions : List (ServeAction ι)}
    (reached : (serveMachine max).Reachable (fun _ _ => True) state)
    (requested : state.requested = true)
    (run : (serveMachine max).Run (fun _ _ => True) state actions after) :
    after.requested = true ∧ actions.countP ServeAction.isMain + after.place.rank ≤
      state.place.rank ∧ after.taken ≤ state.taken := by
  induction run with
  | nil => exact ⟨requested, by simp, Nat.le_refl _⟩
  | @cons state middle after action actions first rest ih =>
    have next := reached.next first.allowed first.taken
    cases kind : action.isMain with
    | false =>
      obtain ⟨stays, same, decided⟩ := step_other kind first.taken
      obtain ⟨ends, counted, taken⟩ := ih next (stays requested)
      refine ⟨ends, ?_, ?_⟩
      · simpa [List.countP_cons, kind, same] using counted
      · simpa [ServeState.taken, same, decided] using taken
    | true =>
      obtain ⟨outcome, rfl⟩ : ∃ outcome, action = .main outcome := by
        cases action with
        | main outcome => exact ⟨outcome, rfl⟩
        | connect | signal | raise | finish => contradiction
      have passage := serveMain_passage (sound_reachable reached).alert.reported first.taken
      obtain ⟨stays, closer, fewer⟩ := passage.ends requested
      obtain ⟨ends, counted, taken⟩ := ih next stays
      refine ⟨ends, ?_, Nat.le_trans taken fewer⟩
      simp only [List.countP_cons, kind, ↓reduceIte]
      omega

end ServeState

/-- The loop returns without an error only after a signal. From a signal on, in whatever order
clients, threads and signals go on, the loop makes at most four more steps, it takes at most one
more client, and it never waits: once no handler is between the flag and the pipe, its next step can
be made unless it has returned. -/
theorem daemon_shutdown {max : UInt64} {state after : ServeState ι}
    {actions : List (ServeAction ι)}
    (reached : (serveMachine max).Reachable (fun _ _ => True) state)
    (run : (serveMachine max).Run (fun _ _ => True) state actions after) :
    (state.place = .returned (.ok ()) → state.requested = true) ∧
      (state.requested = true →
        actions.countP ServeAction.isMain ≤ 4 ∧
        after.decided.length + after.place.pending.length ≤
          state.decided.length + state.place.pending.length + 1 ∧
        (after.raising = 0 → (∀ result, after.place ≠ .returned result) →
          (serveStep after (.main .ok)).isSome = true)) := by
  refine ⟨(ServeState.sound_reachable reached).alert.ended, fun requested => ?_⟩
  obtain ⟨stays, counted, fewer⟩ := ServeState.countdown reached requested run
  have most : state.place.rank ≤ 4 := by cases state.place <;> simp [ServePlace.rank]
  refine ⟨by omega, ?_, fun raised runs => ?_⟩
  · simp only [ServeState.taken] at fewer
    split at fewer <;> split at fewer <;> omega
  · exact (ServeState.sound_reachable (run.reachable reached)).moves stays raised runs

/-- A signal that arrives before `accept` still lets one client in. -/
theorem daemon_shutdown_accepting : ∃ after : ServeState Nat,
    (serveMachine 1).Reachable (fun _ _ => True) after ∧
      (after.place = .returned (.ok ()) ∧ after.handling = [0]) ∧
      after.decided.length + after.place.pending.length ≤ 1 := by
  let start : ServeState Nat :=
    ⟨.checking, .new 1, false, 0, .empty 1 (by decide), [], [], [], [], [], []⟩
  let signalled : ServeState Nat :=
    ⟨.accepting, .new 1, true, 1, .empty 1 (by decide), [0], [], [], [0], [], []⟩
  have fresh : start.IsFresh 1 := ⟨.empty 1 (by decide), rfl, rfl⟩
  have before : (serveMachine 1).Run (fun _ _ => True) start
      [.connect 0, .main .ok, .main .ok, .main .ok, .signal] signalled := Machine.run_of_execute rfl
  have ending : (serveMachine 1).Run (fun _ _ => True) signalled
      [.main .ok, .main .ok, .main .ok, .main .ok] _ := Machine.run_of_execute rfl
  have reached := before.reachable (.start fresh)
  exact ⟨_, ending.reachable reached, ⟨rfl, rfl⟩,
    ((daemon_shutdown reached ending).2 rfl).2.1⟩

end Evix
