import Evix.Library.Admission
import Evix.RemoteWorker.Serve

/-!
# The connections a remote service serves

The permits that are taken are those of the tasks that run: the service refines a door with its
limit, and it lets nobody in whose token it could not check.
-/

namespace Evix.RemoteWorker

open Machines Admission

variable {ι : Type}

namespace ListenPlace

/-- The client whose permit is not yet with a task. -/
def holder : ListenPlace ι → List ι
  | .spawning client => [client]
  | .starting | .binding | .accepting | .accepted _ | .returned _ => []

/-- The client that is accepted and not decided on. -/
def pending : ListenPlace ι → List ι
  | .accepted client => [client]
  | .starting | .binding | .accepting | .spawning _ | .returned _ => []

end ListenPlace

namespace ListenState

/-- The door that a service stands for. -/
def door (state : ListenState ι) : Door ι :=
  ⟨state.serving.map (·.1) ++ state.place.holder, state.closed.map (·.1), state.decided⟩

/-- What holds of a service with a token. -/
structure Sound (token : Option String) (state : ListenState ι) : Prop where
  /-- Every permit is free or with a connection. -/
  counted : state.permits + state.door.serving.length = maxRemoteConnections
  /-- Every client that has connected is decided on, accepted or waiting, in its order. -/
  ordered : state.arrived = state.decided.map (·.1) ++ state.place.pending ++ state.waiting
  /-- Every connection is served with the token of the service. -/
  guarded : ∀ connection ∈ state.serving ++ state.closed, connection.2 = token
  /-- A service with an empty token does not begin. -/
  begun : token = some "" → state.decided = [] ∧ (state.place = .starting ∨
    state.place = .returned "remote worker token must not be empty")

/-- A step that serves the same connections. -/
theorem Sound.congr {token : Option String} {state after : ListenState ι}
    (sound : state.Sound token) (permits : after.permits = state.permits)
    (serving : after.serving = state.serving) (closed : after.closed = state.closed)
    (holder : after.place.holder = state.place.holder)
    (ordered : after.arrived = after.decided.map (·.1) ++ after.place.pending ++ after.waiting)
    (begun : token = some "" → after.decided = [] ∧ (after.place = .starting ∨
      after.place = .returned "remote worker token must not be empty")) : after.Sound token := by
  constructor
  · have counted := sound.counted
    simp only [door] at counted
    simpa only [door, permits, serving, holder] using counted
  · exact ordered
  · rw [serving, closed]
    exact sound.guarded
  · exact begun

end ListenState

open ListenState

variable {addr : String} {token : Option String}

/-- What a step of `serve` keeps, and what it does at the door. -/
theorem serveMain_step {state after : ListenState ι} {outcome : Except String Unit}
    (sound : state.Sound token) (taken : serveMain addr token state outcome = some after) :
    after.Sound token ∧ (after.door = state.door ∨ ∃ client,
      Admission.step maxRemoteConnections state.door (.decide client) = some after.door) := by
  have begun (place : ListenPlace ι) (now : state.place = place) (running : place ≠ .starting)
      (alive : place ≠ .returned "remote worker token must not be empty") : token ≠ some "" := by
    intro unset
    obtain same | same := (sound.begun unset).2
    · exact running (now.symm.trans same)
    · exact alive (now.symm.trans same)
  have ordered := sound.ordered
  cases place : state.place with
  | starting =>
    simp only [serveMain, place, Option.some.injEq] at taken
    subst taken
    simp only [place, ListenPlace.pending] at ordered
    refine ⟨sound.congr rfl rfl rfl ?_ ?_ ?_, .inl ?_⟩
    · simp only [place]
      split <;> rfl
    · simp only
      split <;> exact ordered
    · intro unset
      exact ⟨(sound.begun unset).1, .inr (if_pos unset)⟩
    · simp only [door, place]
      split <;> rfl
  | binding =>
    have usable := begun _ place (by simp) (by simp)
    simp only [serveMain, place] at taken
    simp only [place, ListenPlace.pending] at ordered
    split at taken
    all_goals
      obtain rfl := Option.some.inj taken
      exact ⟨sound.congr rfl rfl rfl (by simp [place, ListenPlace.holder]) ordered
        fun unset => absurd unset usable, .inl (by simp [door, place, ListenPlace.holder])⟩
  | accepting =>
    have usable := begun _ place (by simp) (by simp)
    simp only [serveMain, place] at taken
    simp only [place, ListenPlace.pending] at ordered
    split at taken
    · rename_i client waiting here
      obtain rfl := Option.some.inj taken
      exact ⟨sound.congr rfl rfl rfl (by simp [place, ListenPlace.holder])
        (by simpa [ListenPlace.pending, here] using ordered)
        fun unset => absurd unset usable, .inl (by simp [door, place, ListenPlace.holder])⟩
    · contradiction
    · obtain rfl := Option.some.inj taken
      exact ⟨sound.congr rfl rfl rfl (by simp [place, ListenPlace.holder]) ordered
        fun unset => absurd unset usable, .inl (by simp [door, place, ListenPlace.holder])⟩
  | accepted client =>
    have usable := begun _ place (by simp) (by simp)
    have serving : state.door.serving = state.serving.map (·.1) := by
      simp [door, place, ListenPlace.holder]
    have counted := sound.counted
    rw [serving, List.length_map] at counted
    simp only [serveMain, place] at taken
    simp only [place, ListenPlace.pending] at ordered
    split at taken
    · rename_i permits free
      obtain rfl := Option.some.inj taken
      have room : state.serving.length < maxRemoteConnections := by omega
      refine ⟨⟨?_, ?_, sound.guarded, fun unset => absurd unset usable⟩, .inr ⟨client, ?_⟩⟩
      · simp only [door, ListenPlace.holder, List.length_append, List.length_map,
          List.length_singleton]
        omega
      · simpa [ListenPlace.pending] using ordered
      · simp [Admission.step, door, place, ListenPlace.holder, room]
    · rename_i none_free
      obtain rfl := Option.some.inj taken
      have full : ¬ state.serving.length < maxRemoteConnections := by omega
      refine ⟨sound.congr rfl rfl rfl (by simp [place, ListenPlace.holder])
        (by simpa [ListenPlace.pending] using ordered) fun unset => absurd unset usable,
        .inr ⟨client, ?_⟩⟩
      simp [Admission.step, door, place, ListenPlace.holder, full]
  | spawning client =>
    have usable := begun _ place (by simp) (by simp)
    simp only [serveMain, place, Option.some.injEq] at taken
    subst taken
    simp only [place, ListenPlace.pending] at ordered
    have same : (state.serving ++ [(client, token)]).map (·.1) ++ ListenPlace.accepting.holder =
        state.serving.map (·.1) ++ state.place.holder := by
      simp [place, ListenPlace.holder]
    refine ⟨⟨?_, ordered, ?_, fun unset => absurd unset usable⟩, .inl ?_⟩
    · simp only [door, same]
      exact sound.counted
    · intro connection member
      simp only [List.mem_append, List.mem_singleton] at member
      obtain (old | rfl) | old := member
      · exact sound.guarded _ (List.mem_append_left _ old)
      · rfl
      · exact sound.guarded _ (List.mem_append_right _ old)
    · simp only [door, same]
  | returned error => simp [serveMain, place] at taken

/-- What any step keeps, and what it does at the door. -/
theorem serveStep_step {state after : ListenState ι} {action : ListenAction ι}
    (sound : state.Sound token) (taken : serveStep addr token state action = some after) :
    after.Sound token ∧ (after.door = state.door ∨ ∃ move,
      Admission.step maxRemoteConnections state.door move = some after.door) := by
  cases action with
  | connect client =>
    obtain rfl := Option.some.inj taken
    exact ⟨sound.congr rfl rfl rfl rfl (by simp [sound.ordered]) sound.begun, .inl rfl⟩
  | finish index =>
    simp only [serveStep] at taken
    split at taken
    · rename_i connection found
      obtain rfl := Option.some.inj taken
      obtain ⟨inside, here⟩ := List.getElem?_eq_some_iff.mp found
      have inside' : index < (state.serving.map (·.1)).length := by simpa using inside
      have counted := sound.counted
      simp only [door, List.length_append, List.length_map] at counted
      refine ⟨⟨?_, sound.ordered, ?_, sound.begun⟩, .inr ⟨.leave index, ?_⟩⟩
      · simp only [door, List.length_append, List.length_map, List.length_eraseIdx_of_lt inside]
        omega
      · intro other member
        have kept := sound.guarded
        simp only [List.mem_append, List.mem_singleton] at member kept
        obtain old | old | rfl := member
        · exact kept _ (.inl (List.mem_of_mem_eraseIdx old))
        · exact kept _ (.inr old)
        · exact kept _ (.inl (here ▸ List.getElem_mem inside))
      · simp [Admission.step, door, List.getElem?_append_left inside', found,
          List.eraseIdx_append_of_lt_length inside', List.eraseIdx_map]
    · contradiction
  | main outcome =>
    obtain ⟨kept, same | ⟨client, moved⟩⟩ := serveMain_step sound taken
    · exact ⟨kept, .inl same⟩
    · exact ⟨kept, .inr ⟨_, moved⟩⟩

/-- Every state that is reached is sound. -/
theorem serve_sound {state : ListenState ι}
    (reached : (serveMachine addr token).Reachable (fun _ _ => True) state) :
    state.Sound token := by
  refine reached.invariant ?_ ?_
  · rintro state rfl
    exact ⟨rfl, rfl, by simp, fun _ => ⟨rfl, .inl rfl⟩⟩
  · intro state action after _ sound _ taken
    have stepped : serveStep addr token state action = some after := taken
    exact (serveStep_step sound stepped).1

/-- The service refines a door with its limit. -/
def serveRefinement (addr : String) (token : Option String) :
    Refinement (serveMachine (ι := ι) addr token) (fun _ _ => True)
      (Admission.machine (ι := ι) maxRemoteConnections) fun _ _ => True where
  view := ListenState.door
  starts := by
    rintro state rfl
    rfl
  simulates := by
    intro state action after reached _ taken
    obtain same | ⟨move, moved⟩ := (serveStep_step (serve_sound reached) taken).2
    · exact .inl same
    · exact .inr ⟨move, trivial, moved⟩

/-- Whatever its clients and their tasks do, a remote service serves no more connections than it has
permits, and the permits that are free are the rest; every client is decided on at most once, in its
order, and the admitted ones are those that are served or have left. Every connection is served with
the token of the service, and with an empty token there is none. -/
theorem remote_slots {state : ListenState ι}
    (reached : (serveMachine addr token).Reachable (fun _ _ => True) state) :
    state.permits + (state.serving.map (·.1) ++ state.place.holder).length =
        maxRemoteConnections ∧
      state.arrived = state.decided.map (·.1) ++ state.place.pending ++ state.waiting ∧
      (admitted state.decided).Perm
        (state.serving.map (·.1) ++ state.place.holder ++ state.closed.map (·.1)) ∧
      (∀ connection ∈ state.serving ++ state.closed, connection.2 = token) ∧
      (token = some "" → state.decided = []) := by
  have sound := serve_sound reached
  have kept := Door.kept ((serveRefinement addr token).reachable reached)
  exact ⟨sound.counted, sound.ordered, kept.ledger, sound.guarded,
    fun unset => (sound.begun unset).1⟩

/-- One client is served and one has left. -/
theorem remote_slots_two : ∃ state : ListenState Nat,
    (serveMachine "" (some "secret")).Reachable (fun _ _ => True) state ∧
      (state.permits = 63 ∧ state.serving = [(1, some "secret")] ∧
        state.closed = [(0, some "secret")]) ∧
      ∀ connection ∈ state.serving ++ state.closed, connection.2 = some "secret" := by
  obtain ⟨state, reached, found⟩ := (serveMachine "" (some "secret")).reachable_of_execute
    (fun _ _ => True)
    (⟨.starting, maxRemoteConnections, [], [], [], [], []⟩ : ListenState Nat)
    [.connect 0, .connect 1, .main (.ok ()), .main (.ok ()), .main (.ok ()), .main (.ok ()),
      .main (.ok ()), .main (.ok ()), .main (.ok ()), .main (.ok ()), .finish 0]
    (fun state => state.permits = 63 ∧ state.serving = [(1, some "secret")] ∧
      state.closed = [(0, some "secret")])
    rfl (by decide)
  exact ⟨state, reached, of_decide_eq_true found, (remote_slots reached).2.2.2.1⟩

end Evix.RemoteWorker
