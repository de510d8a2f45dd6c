import Evix.Verif.WarmGraph
import Evix.Watch

/-!
# Whether a watch is up to date

A watch that rests has evaluated the last change, as long as nothing changes between the start
of the initial evaluation and the registration of the watcher. A change in that gap is never
notified.
-/

namespace Evix

open Machines

/-- One watch follows the files beside any number of streams; evaluations complete, the watcher
does not fail and nothing is cancelled. -/
def Calm (state : Watched) : WatchedAction → Prop
  | .session (.call .diff _) | .session .cancel | .session .cancelNotify => False
  | .session (.call .watch _) => ∀ task ∈ state.session.tasks, task.call ≠ .watch
  | .session (.task _ (.evaluation (.returned result))) => result = .ok .completed
  | .session (.task _ (.registered (.error _))) | .session (.task _ (.received (.error _)))
  | .session (.task _ (.received .closed)) => False
  | _ => True

/-- Nothing changes between the start of the initial evaluation and the registration. -/
def Covered (state : Watched) : WatchedAction → Prop
  | .change => state.session.initials = [] ∨ state.registered = true
  | _ => True

instance (state : Watched) (action : WatchedAction) : Decidable (Calm state action) := by
  unfold Calm
  split <;> infer_instance

instance (state : Watched) (action : WatchedAction) : Decidable (Covered state action) := by
  unfold Covered
  split <;> infer_instance

/-- The warm graph is that of an evaluation started at or after the last change. -/
def Watched.UpToDate (state : Watched) : Prop :=
  ∃ id, state.session.source = some id ∧ state.session.IsFrom id ∧
    state.started[id]? = some state.version

/-- Whether a watch is at its receive loop. -/
def Place.isResting : Place → Bool
  | .looping | .receiving => true
  | _ => false

/-- A watch that rests with no notification left is up to date. -/
def Watched.Current (state : Watched) : Prop :=
  ∀ task ∈ state.session.tasks, task.place.isResting = true → state.transit = 0 →
    state.queue = 0 → state.UpToDate

/-! ## What a watch keeps track of -/

/-- Whether a place is one of a watch only. -/
def Place.isWatching : Place → Bool
  | .spawning false | .checkingCancel | .subscribing | .inspecting _ | .parked _ | .registering
  | .looping | .receiving | .debouncing | .reading | .launching _ | .evaluating ..
  | .storing .. | .sending _ => true
  | _ => false

/-- Whether a place comes after the registration of the watcher. -/
def Place.isAfter : Place → Bool
  | .looping | .receiving | .debouncing | .reading | .launching _ | .evaluating ..
  | .storing .. | .sending _ | .over _ => true
  | _ => false

/-- An evaluation has seen the last change, once every notification is received. -/
def Watched.Sees (state : Watched) (id : Nat) : Prop :=
  state.transit = 0 → state.queue = 0 → state.started[id]? = some state.version

/-- What a task has made sure of. -/
def Place.Tracks (state : Watched) : Place → Prop
  | .evaluatingInitial id | .storingInitial id _ => id ∈ state.session.initials
  | .debouncing | .reading | .launching _ => state.registered = true
  | .evaluating _ id | .storing _ id .. => state.registered = true ∧ state.Sees id
  | .looping | .receiving | .sending _ =>
    state.registered = true ∧ ∃ id, state.session.source = some id ∧ state.Sees id
  | _ => True

/-- The invariant of a session and its watched files. -/
structure Watched.Tracked (state : Watched) : Prop where
  /-- Starts are recorded. -/
  starts : state.started.length = state.session.evaluations.length
  /-- Only a watch is at the places of a watch. -/
  callers : ∀ task ∈ state.session.tasks, task.place.isWatching = true → task.call = .watch
  /-- There is one watch. -/
  one : ∀ (first second : Nat) (task other : Task), state.session.tasks[first]? = some task →
    state.session.tasks[second]? = some other → task.call = .watch → other.call = .watch →
      first = second
  /-- A watcher is registered by a watch. -/
  registrant : state.registered = true →
    ∃ task ∈ state.session.tasks, task.call = .watch ∧ task.place.isAfter = true
  /-- Until then the initial evaluation has seen the last change. -/
  unregistered : state.registered = false →
    (∀ id ∈ state.session.initials, state.started[id]? = some state.version) ∧
      ∀ id, state.session.source = some id → id ∈ state.session.initials
  /-- Tasks keep track. -/
  places : ∀ task ∈ state.session.tasks, task.place.Tracks state

section Moves

variable {session after : Session} {task : Task} {action : TaskAction} {place : Place}

/-- Only a watch comes to the places of a watch. -/
theorem proceedTask_watching
    (taken : proceedTask session task.call task.place = some (after, place))
    (watching : place.isWatching = true) :
    task.place.isWatching = true ∨ task.call = .watch := by
  cases here : task.place <;> rw [here] at taken <;> simp only [proceedTask] at taken
  case finishing =>
    obtain ⟨rfl, rfl⟩ := Prod.mk.inj (Option.some.inj taken)
    split at watching
    · exact .inr ‹_›
    · cases watching
  case checkingCancel | subscribing | inspecting | parked | looping | debouncing | reading |
    launching | storing => exact .inl rfl
  all_goals first
    | (obtain ⟨rfl, rfl⟩ := Prod.mk.inj (Option.some.inj taken)
       cases watching)
    | cases taken

/-- Only a watch comes to the places of a watch. -/
theorem taskStep_watching (taken : taskStep session task action = some (after, place))
    (watching : place.isWatching = true) :
    task.place.isWatching = true ∨ task.call = .watch := by
  unfold taskStep at taken
  split at taken
  case h_1 runtime starts here =>
    obtain ⟨rfl, rfl⟩ := Prod.mk.inj (Option.some.inj taken)
    cases starts with
    | false =>
      rw [here]
      exact .inl rfl
    | true => cases runtime <;> cases watching
  case h_3 action id here =>
    unfold initialStep at taken
    obtain ⟨next, _, moved⟩ := Option.map_eq_some_iff.mp taken
    split at moved
    all_goals
      obtain ⟨rfl, rfl⟩ := Prod.mk.inj moved
      cases watching
  case h_13 => exact proceedTask_watching taken watching
  case h_14 => cases taken
  all_goals first
    | (rename_i here
       rw [here]
       exact .inl rfl)
    | (obtain ⟨rfl, rfl⟩ := Prod.mk.inj (Option.some.inj taken)
       cases watching)

/-- A task past the registration stays past it. -/
theorem taskStep_after (taken : taskStep session task action = some (after, place))
    (past : task.place.isAfter = true) : place.isAfter = true := by
  unfold taskStep at taken
  split at taken
  case h_4 call previous id here =>
    unfold roundStep at taken
    obtain ⟨next, _, moved⟩ := Option.map_eq_some_iff.mp taken
    split at moved
    all_goals obtain ⟨rfl, rfl⟩ := Prod.mk.inj moved
    · rfl
    · rfl
    all_goals
      unfold unfinished
      cases task.call <;> rfl
  case h_13 =>
    cases here : task.place <;> rw [here] at taken past <;> simp only [proceedTask] at taken
    case reading =>
      split at taken
      all_goals
        obtain ⟨rfl, rfl⟩ := Prod.mk.inj (Option.some.inj taken)
        rfl
    case looping | storing =>
      obtain ⟨rfl, rfl⟩ := Prod.mk.inj (Option.some.inj taken)
      split <;> rfl
    all_goals first
      | (cases past; done)
      | (obtain ⟨rfl, rfl⟩ := Prod.mk.inj (Option.some.inj taken)
         rfl)
      | cases taken
  case h_14 => cases taken
  all_goals
    rename_i here
    rw [here] at past
    first
    | (cases past; done)
    | (obtain ⟨rfl, rfl⟩ := Prod.mk.inj (Option.some.inj taken)
       rfl)

/-- A watcher is registered in one place. -/
theorem taskStep_registered
    (taken : taskStep session task (.registered (.ok ())) = some (after, place)) :
    task.place = .registering ∧ place = .looping := by
  cases here : task.place <;> simp only [taskStep, here] at taken
  case registering =>
    obtain ⟨rfl, rfl⟩ := Prod.mk.inj (Option.some.inj taken)
    exact ⟨rfl, rfl⟩
  all_goals cases taken

/-- A change starts one evaluation or none. -/
theorem Change.length {target : Place} (change : Change session target after) :
    after.evaluations.length = session.evaluations.length ∨
      after.evaluations.length = session.evaluations.length + 1 := by
  cases change with
  | evaluated => exact .inl List.length_set
  | started | relaunched => exact .inr List.length_append
  | nothing | notified | finished | failed | storedInitial | storedRound => exact .inl rfl

end Moves

namespace Task.Like

variable {old other : Task}

theorem call (like : old.Like other) : other.call = old.call := by
  obtain rfl | rfl := like
  · rfl
  · unfold Task.wake
    split <;> rfl

theorem isWatching (like : old.Like other) : other.place.isWatching = old.place.isWatching := by
  obtain rfl | rfl := like
  · rfl
  · unfold Task.wake
    split <;> simp_all [Place.isWatching]

theorem isAfter (like : old.Like other) : other.place.isAfter = old.place.isAfter := by
  obtain rfl | rfl := like
  · rfl
  · unfold Task.wake
    split <;> simp_all [Place.isAfter]

theorem tracks (like : old.Like other) {state : Watched} (tracks : old.place.Tracks state) :
    other.place.Tracks state := by
  obtain rfl | rfl := like
  · exact tracks
  · unfold Task.wake
    split
    · trivial
    · trivial
    · exact tracks

end Task.Like

/-! ## Steps of a task -/

namespace Watched

variable {state next : Watched}

/-- An evaluation that has seen the last change has still seen it when nothing new is known. -/
theorem Sees.keep {id : Nat} (sees : state.Sees id) (version : next.version = state.version)
    (quiet : next.transit = 0 → next.queue = 0 → state.transit = 0 ∧ state.queue = 0)
    (started : state.started <+: next.started) : next.Sees id := by
  intro arrived received
  obtain ⟨transit, queue⟩ := quiet arrived received
  have seen := sees transit queue
  obtain ⟨rest, same⟩ := started
  rw [← same, version, List.getElem?_append_left (List.getElem?_eq_some_iff.mp seen).1]
  exact seen

/-- The state after a step of a task. -/
def moved (state : Watched) (index : Nat) (task : Task) (action : TaskAction) (session : Session)
    (place : Place) : Watched :=
  state.follow (.task index action) (session.setPlace index task place)

namespace Tracked

variable {session : Session} {index : Nat} {task : Task} {action : TaskAction} {place : Place}

/-- A move that starts no evaluation. -/
theorem moved_started_same
    (same : session.evaluations.length = state.session.evaluations.length) :
    (state.moved index task action session place).started = state.started := by
  simp [moved, follow, Session.setPlace, same]

/-- A move that starts an evaluation. -/
theorem moved_started_new
    (new : session.evaluations.length = state.session.evaluations.length + 1) :
    (state.moved index task action session place).started = state.started ++ [state.version] := by
  simp [moved, follow, Session.setPlace, new]

/-- Starts are not forgotten. -/
theorem started_moved (change : Change state.session task.place session) :
    state.started <+: (state.moved index task action session place).started := by
  obtain same | new := change.length
  · exact ⟨[], by rw [moved_started_same same, List.append_nil]⟩
  · rw [moved_started_new new]
    exact List.prefix_append _ _

/-- A rested or sending task goes on within its loop. -/
theorem tracks_still (change : Change state.session task.place session)
    (source : session.source = state.session.source)
    (registered : (state.moved index task action session place).registered = state.registered)
    (queue : (state.moved index task action session place).queue = state.queue)
    (known : state.registered = true ∧
      ∃ id, state.session.source = some id ∧ state.Sees id) :
    (state.moved index task action session place).registered = true ∧
      ∃ id, (state.moved index task action session place).session.source = some id ∧
        (state.moved index task action session place).Sees id := by
  obtain ⟨past, id, from_, sees⟩ := known
  refine ⟨registered.trans past, id, source.trans from_, ?_⟩
  exact sees.keep rfl (fun transit empty => ⟨transit, queue.symm.trans empty⟩)
    (started_moved change)

/-- A task that goes on by itself keeps track. -/
theorem proceed (tracked : state.Tracked) (found : state.session.tasks[index]? = some task)
    (taken : proceedTask state.session task.call task.place = some (session, place)) :
    place.Tracks (state.moved index task .proceed session place) := by
  have change := (proceedTask_change taken).1
  have tracks := tracked.places task (List.mem_of_getElem? found)
  cases here : task.place <;> rw [here] at taken tracks <;> simp only [proceedTask] at taken
  case starting =>
    obtain ⟨rfl, rfl⟩ := Prod.mk.inj (Option.some.inj taken)
    exact List.mem_append_right _ (List.mem_singleton_self _)
  case finishing =>
    obtain ⟨rfl, rfl⟩ := Prod.mk.inj (Option.some.inj taken)
    split <;> trivial
  case checkingCancel =>
    split at taken
    all_goals
      obtain ⟨rfl, rfl⟩ := Prod.mk.inj (Option.some.inj taken)
      trivial
  case inspecting =>
    split at taken
    · obtain ⟨rfl, rfl⟩ := Prod.mk.inj (Option.some.inj taken)
      trivial
    · split at taken
      all_goals
        obtain ⟨rfl, rfl⟩ := Prod.mk.inj (Option.some.inj taken)
        trivial
  case parked woken =>
    cases woken with
    | false => cases taken
    | true =>
      obtain ⟨rfl, rfl⟩ := Prod.mk.inj (Option.some.inj taken)
      trivial
  case looping =>
    obtain ⟨rfl, rfl⟩ := Prod.mk.inj (Option.some.inj taken)
    split
    · trivial
    · exact tracks_still change rfl rfl rfl tracks
  case debouncing =>
    obtain ⟨rfl, rfl⟩ := Prod.mk.inj (Option.some.inj taken)
    exact tracks
  case reading =>
    split at taken
    · obtain ⟨rfl, rfl⟩ := Prod.mk.inj (Option.some.inj taken)
      trivial
    · obtain ⟨rfl, rfl⟩ := Prod.mk.inj (Option.some.inj taken)
      exact tracks
  case launching previous =>
    obtain ⟨rfl, rfl⟩ := Prod.mk.inj (Option.some.inj taken)
    refine ⟨tracks, fun _ _ => ?_⟩
    rw [moved_started_new List.length_append, ← tracked.starts]
    exact List.getElem?_concat_length
  case storing previous id accumulator diff =>
    obtain ⟨rfl, rfl⟩ := Prod.mk.inj (Option.some.inj taken)
    split
    · exact ⟨tracks.1, id, rfl, tracks.2.keep rfl (fun transit empty => ⟨transit, empty⟩)
        (started_moved change)⟩
    · trivial
  all_goals first
    | (obtain ⟨rfl, rfl⟩ := Prod.mk.inj (Option.some.inj taken)
       trivial)
    | cases taken

/-- A watch that has not registered its watcher finds no watcher registered. -/
theorem not_registered (tracked : state.Tracked) (found : state.session.tasks[index]? = some task)
    (call : task.call = .watch) (before : task.place.isAfter = false) :
    state.registered = false := by
  cases registered : state.registered with
  | false => rfl
  | true =>
    obtain ⟨other, member, watch, past⟩ := tracked.registrant registered
    obtain ⟨position, there⟩ := List.getElem?_of_mem member
    obtain rfl := tracked.one index position task other found there call watch
    obtain rfl := Option.some.inj (found.symm.trans there)
    rw [before] at past
    cases past

/-- When the watcher is registered the graph is that of the initial evaluation, which has seen the
last change. -/
theorem register (tracked : state.Tracked) (sound : state.session.Sound)
    (found : state.session.tasks[index]? = some task) (here : task.place = .registering) :
    Place.looping.Tracks
      (state.moved index task (.registered (.ok ())) state.session .looping) := by
  have member := List.mem_of_getElem? found
  have call := tracked.callers task member (by rw [here]; rfl)
  have before := tracked.not_registered found call (by rw [here]; rfl)
  have completed := sound.complete task member (by rw [here]; rfl)
  obtain ⟨id, source, _⟩ := sound.isFrom completed
  obtain ⟨starts, sources⟩ := tracked.unregistered before
  refine ⟨rfl, id, source, fun _ _ => ?_⟩
  rw [moved_started_same rfl]
  exact starts id (sources id source)

/-- A re-evaluation keeps track of its start. -/
theorem round {previous : EvalGraph} {id : Nat} {move : EvaluationAction}
    (tracked : state.Tracked) (found : state.session.tasks[index]? = some task)
    (here : task.place = .evaluating previous id)
    (calm : Calm state (.session (.task index (.evaluation move))))
    (taken : roundStep state.session task.call previous id move = some (session, place)) :
    place.Tracks (state.moved index task (.evaluation move) session place) := by
  have change := (roundStep_change here taken).1
  have tracks := tracked.places task (List.mem_of_getElem? found)
  rw [here] at tracks
  have sees : ∀ place, (state.moved index task (.evaluation move) session place).Sees id :=
    fun _ => tracks.2.keep rfl (fun transit empty => ⟨transit, empty⟩) (started_moved change)
  unfold roundStep at taken
  obtain ⟨next, stepped, moved⟩ := Option.map_eq_some_iff.mp taken
  split at moved
  · obtain ⟨rfl, rfl⟩ := Prod.mk.inj moved
    exact ⟨tracks.1, sees _⟩
  · obtain ⟨rfl, rfl⟩ := Prod.mk.inj moved
    exact ⟨tracks.1, sees _⟩
  · cases calm
  · cases calm

/-- The initial evaluation keeps its number. -/
theorem initial {id : Nat} {move : EvaluationAction}
    (tracked : state.Tracked) (found : state.session.tasks[index]? = some task)
    (here : task.place = .evaluatingInitial id)
    (taken : initialStep state.session id move = some (session, place)) :
    place.Tracks (state.moved index task (.evaluation move) session place) := by
  have tracks := tracked.places task (List.mem_of_getElem? found)
  rw [here] at tracks
  obtain same | ⟨starting, _⟩ := (initialStep_change here taken).1.initials
  · have kept : id ∈ session.initials := by
      rw [same]
      exact tracks
    unfold initialStep at taken
    obtain ⟨next, stepped, moved⟩ := Option.map_eq_some_iff.mp taken
    split at moved
    all_goals obtain ⟨rfl, rfl⟩ := Prod.mk.inj moved
    · exact kept
    · exact kept
    · trivial
    · trivial
  · rw [here] at starting
    cases starting

/-- The task that moves keeps track. -/
theorem mover (tracked : state.Tracked) (sound : state.session.Sound)
    (found : state.session.tasks[index]? = some task)
    (calm : Calm state (.session (.task index action)))
    (taken : taskStep state.session task action = some (session, place)) :
    place.Tracks (state.moved index task action session place) := by
  have change := (taskStep_change taken).1
  have tracks := tracked.places task (List.mem_of_getElem? found)
  unfold taskStep at taken
  split at taken
  case h_1 runtime starts here =>
    obtain ⟨rfl, rfl⟩ := Prod.mk.inj (Option.some.inj taken)
    cases runtime <;> cases starts <;> trivial
  case h_2 contended here =>
    obtain ⟨rfl, rfl⟩ := Prod.mk.inj (Option.some.inj taken)
    trivial
  case h_3 move id here => exact tracked.initial found here taken
  case h_4 move previous id here => exact tracked.round found here calm taken
  case h_5 here =>
    obtain ⟨rfl, rfl⟩ := Prod.mk.inj (Option.some.inj taken)
    exact tracked.register sound found here
  case h_6 => cases calm
  case h_7 here =>
    obtain ⟨rfl, rfl⟩ := Prod.mk.inj (Option.some.inj taken)
    rw [here] at tracks
    exact tracks.1
  case h_8 => cases calm
  case h_9 => cases calm
  case h_10 here =>
    obtain ⟨rfl, rfl⟩ := Prod.mk.inj (Option.some.inj taken)
    rw [here] at tracks
    exact tracks_still change rfl rfl rfl tracks
  case h_11 item here =>
    obtain ⟨rfl, rfl⟩ := Prod.mk.inj (Option.some.inj taken)
    rw [here] at tracks
    exact tracks_still change rfl rfl rfl tracks
  case h_12 =>
    obtain ⟨rfl, rfl⟩ := Prod.mk.inj (Option.some.inj taken)
    trivial
  case h_13 => exact tracked.proceed found taken
  case h_14 => cases taken

/-! ## Tasks beside the one that moves -/

/-- What receives or registers is a watch. -/
theorem moved_quiet (index : Nat) (plain : task.place.isWatching = false)
    (taken : taskStep state.session task action = some (session, place)) :
    (state.moved index task action session place).registered = state.registered ∧
      (state.moved index task action session place).queue = state.queue := by
  unfold taskStep at taken
  split at taken
  case h_5 here | h_6 here | h_7 here | h_8 here | h_9 here | h_10 here =>
    rw [here] at plain
    cases plain
  case h_14 => cases taken
  all_goals exact ⟨rfl, rfl⟩

/-- A stream leaves the graph of a registered watch alone. -/
theorem source_quiet (sound : state.session.Sound)
    (found : state.session.tasks[index]? = some task) (plain : task.place.isWatching = false)
    (change : Change state.session task.place session)
    (completed : state.session.warm.completed = true) :
    session.source = state.session.source := by
  obtain same | ⟨id, accumulator, here, rfl⟩ | ⟨previous, id, accumulator, diff, here, rfl⟩ :=
    change.graphs
  · exact congrArg (fun graphs => graphs.2.2.2.1) same
  · have incomplete := sound.incomplete task (List.mem_of_getElem? found) (by rw [here]; rfl)
    rw [completed] at incomplete
    cases incomplete
  · rw [here] at plain
    cases plain

/-- A task beside the one that moves keeps track. -/
theorem beside (tracked : state.Tracked) (sound : state.session.Sound)
    (found : state.session.tasks[index]? = some task) {position : Nat} {other : Task}
    (there : state.session.tasks[position]? = some other) (apart : position ≠ index)
    (taken : taskStep state.session task action = some (session, place)) :
    other.place.Tracks (state.moved index task action session place) := by
  have change := (taskStep_change taken).1
  have member := List.mem_of_getElem? there
  have tracks := tracked.places other member
  -- the only watch is the other task, so the one that moves is a stream
  have plain : other.place.isWatching = true → task.place.isWatching = false := by
    intro watching
    cases mine : task.place.isWatching with
    | false => rfl
    | true =>
      exact absurd (tracked.one position index other task there found
        (tracked.callers other member watching)
        (tracked.callers task (List.mem_of_getElem? found) mine)) apart
  have quiet : other.place.isWatching = true → _ := fun watching =>
    moved_quiet index (plain watching) taken
  have still : other.place.isWatching = true → other.place.isRound other.call = true →
      (state.registered = true ∧ ∃ id, state.session.source = some id ∧ state.Sees id) →
      (state.moved index task action session place).registered = true ∧
        ∃ id, (state.moved index task action session place).session.source = some id ∧
          (state.moved index task action session place).Sees id := by
    intro watching round known
    exact tracks_still change (source_quiet sound found (plain watching) change
      (sound.complete other member round)) (quiet watching).1 (quiet watching).2 known
  have initials : ∀ id, id ∈ state.session.initials → id ∈ session.initials := by
    intro id listed
    cases change with
    | started => exact List.mem_append_left _ listed
    | nothing | notified | finished | failed | relaunched | evaluated | storedInitial |
        storedRound => exact listed
  cases here : other.place <;> rw [here] at tracks quiet still
  case evaluatingInitial id => exact initials id tracks
  case storingInitial id accumulator => exact initials id tracks
  case looping | receiving | sending => exact still rfl rfl tracks
  case debouncing | reading | launching => exact (quiet rfl).1.trans tracks
  case evaluating | storing =>
    refine ⟨(quiet rfl).1.trans tracks.1, ?_⟩
    exact tracks.2.keep rfl (fun transit empty => ⟨transit, (quiet rfl).2.symm.trans empty⟩)
      (started_moved change)
  all_goals trivial

/-! ## Every step -/

/-- A watcher is still registered by a watch. -/
theorem registrant_moved (tracked : state.Tracked)
    (found : state.session.tasks[index]? = some task)
    (taken : taskStep state.session task action = some (session, place))
    (registered : (state.moved index task action session place).registered = true) :
    ∃ other ∈ (session.setPlace index task place).tasks,
      other.call = .watch ∧ other.place.isAfter = true := by
  have change := (taskStep_change taken).1
  have mover := List.mem_of_getElem? (change.getElem?_self place found)
  cases before : state.registered with
  | true =>
    obtain ⟨old, member, watch, past⟩ := tracked.registrant before
    obtain ⟨position, was⟩ := List.getElem?_of_mem member
    by_cases same : position = index
    · subst same
      obtain rfl := Option.some.inj (found.symm.trans was)
      exact ⟨_, mover, watch, taskStep_after taken past⟩
    · obtain ⟨other, there, like⟩ := change.getElem?_other place was same
      exact ⟨other, List.mem_of_getElem? there, like.call.trans watch, like.isAfter.trans past⟩
  | false =>
    unfold moved follow at registered
    dsimp only at registered
    split at registered
    · rename_i position same
      cases same
      obtain ⟨here, rfl⟩ := taskStep_registered taken
      have watch := tracked.callers task (List.mem_of_getElem? found) (by rw [here]; rfl)
      exact ⟨_, mover, watch, rfl⟩
    · rw [before] at registered
      cases registered

/-- Until the registration the initial evaluation has seen the last change. -/
theorem unregistered_moved (tracked : state.Tracked)
    (found : state.session.tasks[index]? = some task)
    (taken : taskStep state.session task action = some (session, place))
    (unregistered : (state.moved index task action session place).registered = false) :
    (∀ id ∈ session.initials, (state.moved index task action session place).started[id]? =
      some state.version) ∧
        ∀ id, session.source = some id → id ∈ session.initials := by
  have change := (taskStep_change taken).1
  have tracks := tracked.places task (List.mem_of_getElem? found)
  have before : state.registered = false := by
    unfold moved follow at unregistered
    dsimp only at unregistered
    split at unregistered
    · cases unregistered
    · exact unregistered
  obtain ⟨starts, sources⟩ := tracked.unregistered before
  have kept : ∀ id ∈ state.session.initials,
      (state.moved index task action session place).started[id]? = some state.version := by
    intro id listed
    obtain ⟨rest, same⟩ : state.started <+:
        (state.moved index task action session place).started := started_moved change
    rw [← same, List.getElem?_append_left (List.getElem?_eq_some_iff.mp (starts id listed)).1]
    exact starts id listed
  cases change with
  | started here =>
    constructor
    · intro id listed
      obtain old | rfl := mem_concat listed
      · exact kept id old
      · rw [moved_started_new List.length_append, ← tracked.starts]
        exact List.getElem?_concat_length
    · intro id source
      exact List.mem_append_left _ (sources id source)
  | storedInitial id accumulator here =>
    rw [here] at tracks
    refine ⟨kept, ?_⟩
    rintro _ ⟨⟩
    exact tracks
  | storedRound previous id accumulator diff here =>
    rw [here] at tracks
    rw [tracks.1] at before
    cases before
  | nothing | notified | finished | failed | relaunched | evaluated => exact ⟨kept, sources⟩

/-- A step of a task keeps the invariant. -/
theorem taskStep (tracked : state.Tracked) (sound : state.session.Sound)
    (found : state.session.tasks[index]? = some task)
    (calm : Calm state (.session (.task index action)))
    (taken : taskStep state.session task action = some (session, place)) :
    (state.moved index task action session place).Tracked := by
  have change := (taskStep_change taken).1
  have here := List.mem_of_getElem? found
  have cases_ : ∀ (position : Nat) (other : Task),
      (session.setPlace index task place).tasks[position]? = some other →
      (position = index ∧ other = { task with place }) ∨
        position ≠ index ∧ ∃ old, state.session.tasks[position]? = some old ∧ old.Like other :=
    fun _ _ there => change.getElem? there
  have watches : ∀ (position : Nat) (other : Task),
      (session.setPlace index task place).tasks[position]? = some other → other.call = .watch →
      ∃ old, state.session.tasks[position]? = some old ∧ old.call = .watch := by
    intro position other there watch
    obtain ⟨rfl, rfl⟩ | ⟨_, old, was, like⟩ := cases_ position other there
    · exact ⟨task, found, watch⟩
    · exact ⟨old, was, like.call.symm.trans watch⟩
  refine ⟨?_, ?_, ?_, ?_, ?_, ?_⟩
  · show _ = (session.setPlace index task place).evaluations.length
    obtain same | new := change.length
    · rw [moved_started_same same, tracked.starts]
      exact same.symm
    · rw [moved_started_new new, List.length_append, tracked.starts]
      exact new.symm
  · intro other member watching
    obtain ⟨position, there⟩ := List.getElem?_of_mem member
    obtain ⟨rfl, rfl⟩ | ⟨_, old, was, like⟩ := cases_ position other there
    · obtain before | watch := taskStep_watching taken watching
      · exact tracked.callers task here before
      · exact watch
    · rw [like.isWatching] at watching
      exact like.call.trans (tracked.callers old (List.mem_of_getElem? was) watching)
  · intro first second one other there elsewhere watch watch'
    obtain ⟨old, was, call⟩ := watches first one there watch
    obtain ⟨old', was', call'⟩ := watches second other elsewhere watch'
    exact tracked.one first second old old' was was' call call'
  · exact tracked.registrant_moved found taken
  · exact tracked.unregistered_moved found taken
  · intro other member
    obtain ⟨position, there⟩ := List.getElem?_of_mem member
    obtain ⟨rfl, rfl⟩ | ⟨apart, old, was, like⟩ := cases_ position other there
    · exact tracked.mover sound found calm taken
    · exact like.tracks (tracked.beside sound found was apart taken)

/-- A place keeps track of what a step leaves alone. -/
theorem tracks_frame {next : Watched} (tracks : place.Tracks state)
    (registered : next.registered = state.registered) (sees : ∀ id, state.Sees id → next.Sees id)
    (source : next.session.source = state.session.source)
    (initials : next.session.initials = state.session.initials) : place.Tracks next := by
  unfold Place.Tracks at tracks ⊢
  split
  · rw [initials]
    exact tracks
  · rw [initials]
    exact tracks
  · exact registered.trans tracks
  · exact registered.trans tracks
  · exact registered.trans tracks
  · exact ⟨registered.trans tracks.1, sees _ tracks.2⟩
  · exact ⟨registered.trans tracks.1, sees _ tracks.2⟩
  all_goals first
    | trivial
    | (obtain ⟨past, id, from_, seen⟩ := tracks
       exact ⟨registered.trans past, id, source.trans from_, sees id seen⟩)

/-- What a call leaves alone. -/
theorem sessionStep_call {call : Call} {contended : Bool}
    (taken : sessionStep state.session (.call call contended) = some session) :
    session.tasks = state.session.tasks ++ [callTask state.session call contended] ∧
      session.evaluations = state.session.evaluations ∧
        session.initials = state.session.initials ∧ session.source = state.session.source := by
  cases call with
  | diff =>
    obtain rfl := Option.some.inj taken
    exact ⟨rfl, rfl, rfl, rfl⟩
  | stream | watch =>
    obtain rfl := Option.some.inj taken
    unfold Session.startInitial
    split <;> exact ⟨rfl, rfl, rfl, rfl⟩

/-- The task of a stream or a watch has nothing to keep track of. -/
theorem callTask_tracks {next : Watched} {call : Call} {contended : Bool} (other : call ≠ .diff) :
    (callTask session call contended).place.Tracks next := by
  cases call with
  | diff => exact absurd rfl other
  | stream =>
    show (if session.claims then Place.spawning true else _).Tracks next
    split <;> trivial
  | watch => trivial

/-- The task of a stream is at no place of a watch. -/
theorem callTask_watching {call : Call} {contended : Bool} (other : call ≠ .diff)
    (watching : (callTask session call contended).place.isWatching = true) : call = .watch := by
  cases call with
  | diff => exact absurd rfl other
  | stream =>
    have place : (if session.claims then Place.spawning true else
        .over (.error (initialUnavailableError session.warm contended))).isWatching = true :=
      watching
    split at place <;> cases place
  | watch => rfl

/-- A call keeps the invariant: there is at most one watch. -/
theorem call (tracked : state.Tracked) {call : Call} {contended : Bool}
    (calm : Calm state (.session (.call call contended)))
    (taken : sessionStep state.session (.call call contended) = some session) :
    (state.follow (.call call contended) session).Tracked := by
  obtain ⟨tasks, evaluations, initials, source⟩ := sessionStep_call taken
  have started : (state.follow (.call call contended) session).started = state.started := by
    simp [follow, evaluations]
  have named : (callTask state.session call contended).call = call := by
    cases call <;> rfl
  have stream : call ≠ .diff := by
    rintro rfl
    cases calm
  have sees : ∀ id, state.Sees id → (state.follow (.call call contended) session).Sees id :=
    fun id seen => seen.keep rfl (fun transit empty => ⟨transit, empty⟩)
      ⟨[], by rw [started, List.append_nil]⟩
  have single : call = .watch → ∀ other ∈ state.session.tasks, other.call ≠ .watch := by
    rintro rfl
    exact calm
  refine ⟨?_, ?_, ?_, ?_, ?_, ?_⟩
  · rw [started, tracked.starts]
    exact (congrArg List.length evaluations).symm
  · intro other member watching
    obtain old | rfl := mem_concat (tasks ▸ member)
    · exact tracked.callers other old watching
    · exact named.trans (callTask_watching stream watching)
  · intro first second one other there elsewhere watch watch'
    obtain was | ⟨rfl, rfl⟩ := getElem?_concat (tasks ▸ there) <;>
      obtain was' | ⟨rfl, rfl⟩ := getElem?_concat (tasks ▸ elsewhere)
    · exact tracked.one first second one other was was' watch watch'
    · exact absurd watch (single (named.symm.trans watch') one (List.mem_of_getElem? was))
    · exact absurd watch' (single (named.symm.trans watch) other (List.mem_of_getElem? was'))
    · rfl
  · intro registered
    obtain ⟨other, member, watch, past⟩ := tracked.registrant registered
    refine ⟨other, ?_, watch, past⟩
    show other ∈ session.tasks
    rw [tasks]
    exact List.mem_append_left _ member
  · intro unregistered
    obtain ⟨starts, sources⟩ := tracked.unregistered unregistered
    show (∀ id ∈ session.initials, _) ∧ ∀ id, session.source = some id → id ∈ session.initials
    rw [initials, source, started]
    exact ⟨starts, sources⟩
  · intro other member
    obtain old | rfl := mem_concat (tasks ▸ member)
    · exact tracks_frame (tracked.places other old) rfl sees source initials
    · exact callTask_tracks stream

/-- A step of the files or of the queue. -/
theorem environment (tracked : state.Tracked) {next : Watched}
    (session : next.session = state.session) (registered : next.registered = state.registered)
    (started : next.started = state.started)
    (version : state.registered = false → next.version = state.version ∨
      state.session.initials = [])
    (places : ∀ task ∈ state.session.tasks, task.place.Tracks next) : next.Tracked := by
  refine ⟨?_, ?_, ?_, ?_, ?_, ?_⟩
  · rw [started, session]
    exact tracked.starts
  · rw [session]
    exact tracked.callers
  · rw [session]
    exact tracked.one
  · rw [registered, session]
    exact tracked.registrant
  · intro unregistered
    rw [registered] at unregistered
    obtain ⟨starts, sources⟩ := tracked.unregistered unregistered
    rw [session, started]
    refine ⟨fun id listed => ?_, sources⟩
    obtain same | none := version unregistered
    · rw [same]
      exact starts id listed
    · rw [none] at listed
      cases listed
  · rw [session]
    exact places

/-- Every calm and covered step keeps the invariant. -/
theorem step (tracked : state.Tracked) (sound : state.session.Sound) {next : Watched}
    {action : WatchedAction} (calm : Calm state action) (covered : Covered state action)
    (taken : watchedStep state action = some next) : next.Tracked := by
  cases action with
  | change =>
    obtain rfl := Option.some.inj taken
    refine tracked.environment rfl rfl rfl (fun unregistered => .inr ?_) fun task member => ?_
    · refine covered.resolve_right fun registered => ?_
      rw [registered] at unregistered
      cases unregistered
    · have tracks := tracked.places task member
      cases registered : state.registered with
      | true =>
        refine tracks_frame tracks registered.symm (fun id _ transit _ => ?_) rfl rfl
        -- the notification of the change is on its way
        simp only [if_true] at transit
        cases transit
      | false =>
        unfold Place.Tracks at tracks ⊢
        rw [registered] at tracks
        split at tracks <;>
          first | exact tracks | exact absurd tracks.1 Bool.false_ne_true
  | deliver =>
    simp only [watchedStep, Option.ite_none_right_eq_some, Option.some.injEq] at taken
    obtain ⟨_, rfl⟩ := taken
    refine tracked.environment rfl rfl rfl (fun _ => .inl rfl) fun task member => ?_
    refine tracks_frame (tracked.places task member) rfl (fun id _ _ empty => ?_) rfl rfl
    cases empty
  | drain index =>
    simp only [watchedStep, Option.ite_none_right_eq_some, Option.some.injEq, Bool.and_eq_true]
      at taken
    obtain ⟨⟨debounces, _⟩, rfl⟩ := taken
    obtain ⟨watch, found, here⟩ : ∃ watch, state.session.tasks[index]? = some watch ∧
        watch.place = .debouncing := by
      obtain ⟨watch, found, here⟩ := (Option.any_eq_true _ _).mp debounces
      exact ⟨watch, found, of_decide_eq_true here⟩
    have call := tracked.callers watch (List.mem_of_getElem? found) (by rw [here]; rfl)
    refine tracked.environment rfl rfl rfl (fun _ => .inl rfl) fun task member => ?_
    have tracks := tracked.places task member
    obtain ⟨position, there⟩ := List.getElem?_of_mem member
    cases watching : task.place.isWatching with
    | true =>
      obtain rfl := tracked.one index position watch task found there call
        (tracked.callers task member watching)
      obtain rfl := Option.some.inj (found.symm.trans there)
      rw [here] at tracks ⊢
      exact tracks
    | false =>
      cases elsewhere : task.place <;> rw [elsewhere] at tracks watching <;>
        first | exact tracks | cases watching
  | session action =>
    simp only [watchedStep, Option.ite_none_right_eq_some] at taken
    obtain ⟨_, taken⟩ := taken
    obtain ⟨session, moved, rfl⟩ := Option.map_eq_some_iff.mp taken
    cases action with
    | call call contended => exact tracked.call calm moved
    | cancel | cancelNotify => cases calm
    | task index action =>
      simp only [sessionStep] at moved
      split at moved
      · rename_i task found
        obtain ⟨⟨after, place⟩, stepped, rfl⟩ := Option.map_eq_some_iff.mp moved
        exact tracked.taskStep sound found calm stepped
      · cases moved

end Tracked

end Watched

/-- The session of watched files is a session. -/
def watchedSession (legal : Watched → WatchedAction → Prop) :
    Refinement watchedMachine legal sessionMachine fun _ _ => True where
  view := Watched.session
  starts := by
    rintro _ rfl
    rfl
  simulates := by
    intro state action after _ _ taken
    cases action with
    | change =>
      obtain rfl := Option.some.inj taken
      exact .inl rfl
    | deliver | drain =>
      simp only [watchedMachine, watchedStep, Option.ite_none_right_eq_some, Option.some.injEq]
        at taken
      obtain ⟨_, rfl⟩ := taken
      exact .inl rfl
    | session action =>
      simp only [watchedMachine, watchedStep, Option.ite_none_right_eq_some] at taken
      obtain ⟨session, moved, rfl⟩ := Option.map_eq_some_iff.mp taken.2
      exact .inr ⟨action, trivial, moved⟩

section Current

variable {state : Watched}

/-- The session of watched files is sound. -/
theorem watched_sound {legal : Watched → WatchedAction → Prop}
    (reached : watchedMachine.Reachable legal state) : state.session.Sound := by
  have projected : sessionMachine.Reachable (fun _ _ => True) state.session :=
    (watchedSession legal).reachable reached
  exact sound_reachable projected

/-- A session just opened has nothing to keep track of. -/
theorem tracked_opened : Watched.opened.Tracked where
  starts := rfl
  callers := fun _ member => absurd member List.not_mem_nil
  one := by
    intro first second task other there
    cases there
  registrant := nofun
  unregistered := fun _ => ⟨fun _ listed => absurd listed List.not_mem_nil, nofun⟩
  places := fun _ member => absurd member List.not_mem_nil

/-- What a run without an early change keeps. -/
theorem tracked_reachable
    (reached : watchedMachine.Reachable
      (fun state action => Calm state action ∧ Covered state action) state) : state.Tracked := by
  refine reached.invariant ?_ ?_
  · rintro _ rfl
    exact tracked_opened
  · intro before action after earlier tracked allowed taken
    exact tracked.step (watched_sound earlier) allowed.1 allowed.2 taken

/-- In every run in which nothing changes between the start of the initial evaluation and the
registration of the watcher, a watch that rests is up to date. -/
theorem watch_current
    (reached : watchedMachine.Reachable
      (fun state action => Calm state action ∧ Covered state action) state) : state.Current := by
  intro task member resting transit queue
  have sound := watched_sound reached
  have tracks := (tracked_reachable reached).places task member
  have known : ∃ id, state.session.source = some id ∧ state.Sees id := by
    cases here : task.place <;> rw [here] at tracks resting <;>
      first | exact tracks.2 | cases resting
  obtain ⟨id, source, sees⟩ := known
  have round : task.place.isRound task.call = true := by
    cases here : task.place <;> rw [here] at resting <;> first | rfl | cases resting
  obtain ⟨other, same, whole⟩ := sound.isFrom (sound.complete task member round)
  obtain rfl := Option.some.inj (source.symm.trans same)
  exact ⟨id, source, whole, sees transit queue⟩

end Current

/-- A step of the task of the first call. -/
def watchMoves (action : TaskAction) : WatchedAction := .session (.task 0 action)

/-- A watch starts its initial evaluation. -/
def watchStarts : List WatchedAction :=
  [.session (.call .watch false), watchMoves (.spawned true), watchMoves .proceed]

/-- From the end of the initial evaluation to the receive loop. -/
def watchSettles : List WatchedAction :=
  [watchMoves (.evaluation (.returned (.ok .completed)))] ++
    List.replicate 5 (watchMoves .proceed) ++
    [watchMoves (.registered (.ok ())), watchMoves .proceed]

/-- A watch that follows one change is up to date when it rests again. -/
theorem watch_current_change : ∃ state : Watched, state.Current ∧
    state.session.tasks.map Task.place = [.looping] ∧ state.version = 1 ∧
      state.session.source = some 1 := by
  obtain ⟨state, reached, checked⟩ := Machine.reachable_of_execute watchedMachine
    (fun state action => Calm state action ∧ Covered state action) .opened
    (watchStarts ++ watchSettles ++ [.change, .deliver, watchMoves (.received .change)] ++
      List.replicate 3 (watchMoves .proceed) ++
      [watchMoves (.evaluation (.returned (.ok .completed))), watchMoves .proceed,
        watchMoves (.sent true)])
    (fun state => state.session.tasks.map Task.place = [.looping] ∧ state.version = 1 ∧
      state.session.source = some 1) rfl (by decide)
  exact ⟨state, watch_current reached, of_decide_eq_true checked⟩

/-- A change while the initial evaluation runs is lost: the watch rests, and its graph is older
than the files. -/
theorem watch_current_early : ¬ ∀ state : Watched,
    watchedMachine.Reachable Calm state → state.Current := by
  intro claimed
  obtain ⟨state, reached, checked⟩ := Machine.reachable_of_execute watchedMachine Calm .opened
    (watchStarts ++ [.change] ++ watchSettles)
    (fun state => state.session.tasks.map Task.place = [.receiving] ∧ state.transit = 0 ∧
      state.queue = 0 ∧ state.started = [0] ∧ state.version = 1) rfl (by decide)
  obtain ⟨places, transit, queue, started, version⟩ := of_decide_eq_true checked
  obtain ⟨task, member, place⟩ : ∃ task ∈ state.session.tasks, task.place = .receiving := by
    apply List.mem_map.mp
    rw [places]
    exact List.mem_singleton_self _
  obtain ⟨id, _, _, fresh⟩ := claimed state reached task member (by rw [place]; rfl) transit queue
  rw [started, version] at fresh
  have same := List.mem_singleton.mp (List.mem_of_getElem? fresh)
  cases same

end Evix
