import Evix.Daemon.Launch
import Evix.Verif.Startup

/-!
# The steps of a launch

Where the calls of a daemon lead, and what a step of the daemon or of the process that makes it says
to the process that waits.
-/

namespace Evix

open Machines

/-! ## The calls of a daemon -/

namespace StartupPlace

/-- How many calls a daemon makes from a place at most. -/
def callsLeft : StartupPlace → Nat
  | .creating => 11
  | .checking => 10
  | .probing => 9
  | .removing => 8
  | .binding => 7
  | .listening _ => 6
  | .permitting _ => 5
  | .announcing _ => 4
  | .installing _ => 3
  | .serving _ => 2
  | .retracting .. | .closing .. => 1
  | .over _ | .killed => 0

/-- There are not many. -/
theorem callsLeft_le (place : StartupPlace) : place.callsLeft ≤ 11 := by
  cases place <;> simp [callsLeft]

/-- Whether it has not come to the announcement. -/
def isBinding : StartupPlace → Bool
  | .creating | .checking | .probing | .removing | .binding | .listening _ | .permitting _ => true
  | .announcing _ | .retracting .. | .installing _ | .serving _ | .closing .. | .over _
  | .killed => false

/-- Before the announcement there are calls to make. -/
theorem callsLeft_pos {place : StartupPlace} (binds : place.isBinding = true) :
    0 < place.callsLeft := by
  cases place with
  | creating | checking | probing | removing | binding | listening | permitting =>
    simp [callsLeft]
  | announcing | retracting | installing | serving | closing | «over» | killed => cases binds

/-- Whether it is past the announcement. -/
def isServing : StartupPlace → Bool
  | .installing _ | .serving _ | .closing .. => true
  | .creating | .checking | .probing | .removing | .binding | .listening _ | .permitting _
  | .announcing _ | .retracting .. | .over _ | .killed => false

/-- Where a call leads. -/
inductive Leads : StartupPlace → Except String Unit → StartupPlace → Prop where
  /-- It is still before the announcement. -/
  | binds {place next : StartupPlace} {outcome : Except String Unit} : place.isBinding →
    next.isBinding → Leads place outcome next
  /-- It comes to the announcement. -/
  | announces {place : StartupPlace} {outcome : Except String Unit} (id : Nat) : place.isBinding →
    Leads place outcome (.announcing id)
  /-- It is to remove a socket of which it cannot set the permissions. -/
  | forbidden {place : StartupPlace} {outcome : Except String Unit} (id : Nat) (error : String) :
    place.isBinding → Leads place outcome (.retracting id error)
  /-- It fails before the announcement. -/
  | fails {place : StartupPlace} {outcome : Except String Unit} (error : String) :
    place.isBinding → Leads place outcome (.over (.error error))
  /-- The announcement succeeds. -/
  | announced (id : Nat) : Leads (.announcing id) (.ok ()) (.installing id)
  /-- The announcement fails. -/
  | unannounced (id : Nat) (error : String) :
    Leads (.announcing id) (.error error) (.retracting id error)
  /-- It removes its socket, or cannot. -/
  | retracts {outcome : Except String Unit} (id : Nat) (error : String) :
    Leads (.retracting id error) outcome (.over (.error error))
  /-- It goes on after the announcement. -/
  | serves {place next : StartupPlace} {outcome : Except String Unit} : place.isServing →
    next.isServing → Leads place outcome next
  /-- It fails after the announcement. -/
  | stops {place : StartupPlace} {outcome : Except String Unit} (id : Nat) (error : String) :
    place.isServing → Leads place outcome (.retracting id error)
  /-- It ends. -/
  | ends {place : StartupPlace} {outcome : Except String Unit} (result : Except String Unit) :
    place.isServing → Leads place outcome (.over result)

end StartupPlace

section Calls

variable {path : SocketPath} {world : StartupWorld} {place next : StartupPlace}
  {outcome : Except String Unit} {entry : Option PathEntry} {created : Nat}

/-- Where the call of a daemon leads. -/
theorem startupCall_leads
    (taken : startupCall path world outcome place = some (entry, created, next)) :
    place.Leads outcome next := by
  cases place with
  | creating | checking | removing | binding | listening =>
    simp only [startupCall] at taken
    split at taken <;> cases taken <;> first | exact .binds rfl rfl | exact .fails _ rfl
  | probing =>
    simp only [startupCall] at taken
    split at taken
    · cases taken
      exact .fails _ rfl
    · cases taken
      exact .binds rfl rfl
    · cases taken
      exact .binds rfl rfl
    · split at taken <;> cases taken
      · exact .fails _ rfl
      · exact .binds rfl rfl
  | permitting id =>
    simp only [startupCall] at taken
    split at taken <;> cases taken
    · exact .announces _ rfl
    · exact .forbidden _ _ rfl
    · exact .forbidden _ _ rfl
  | announcing id =>
    simp only [startupCall] at taken
    split at taken <;> cases taken
    · exact .announced id
    · exact .unannounced id _
  | retracting id error =>
    simp only [startupCall] at taken
    split at taken <;> cases taken <;> exact .retracts id error
  | installing id =>
    simp only [startupCall] at taken
    split at taken <;> cases taken
    · exact .serves rfl rfl
    · exact .stops _ _ rfl
  | serving id =>
    cases taken
    exact .serves rfl rfl
  | closing id result =>
    simp only [startupCall] at taken
    split at taken <;> cases taken <;> exact .ends _ rfl
  | «over» | killed => cases taken

/-- A call leaves fewer calls. -/
theorem startupCall_callsLeft
    (taken : startupCall path world outcome place = some (entry, created, next)) :
    next.callsLeft < place.callsLeft := by
  cases place with
  | probing =>
    simp only [startupCall] at taken
    split at taken
    · cases taken
      simp [StartupPlace.callsLeft, StartupPlace.fails]
    · cases taken
      decide
    · cases taken
      decide
    · split at taken <;> cases taken <;> simp [StartupPlace.callsLeft, StartupPlace.fails]
  | serving id =>
    cases taken
    exact Nat.lt_succ_self _
  | «over» | killed => cases taken
  | creating | checking | removing | binding | listening | permitting | announcing | retracting
  | installing | closing =>
    simp only [startupCall] at taken
    split at taken <;> cases taken <;> simp [StartupPlace.callsLeft, StartupPlace.fails]

/-- A daemon that has calls left can make one. -/
theorem startupCall_isSome (left : 0 < place.callsLeft) (path : SocketPath) (world : StartupWorld)
    (outcome : Except String Unit) : (startupCall path world outcome place).isSome = true := by
  cases place with
  | «over» | killed => exact absurd left (Nat.lt_irrefl 0)
  | probing =>
    simp only [startupCall]
    split
    · rfl
    · rfl
    · rfl
    · split <;> rfl
  | serving => rfl
  | creating | checking | removing | binding | listening | permitting | announcing | retracting
  | installing | closing =>
    simp only [startupCall]
    split <;> rfl

/-- What another daemon does leaves a daemon where it is. -/
theorem startupStep_other {after : StartupWorld} {action : StartupAction} {index : Nat}
    (other : action.concerns index = false) (present : world.daemons[index]? = some place)
    (taken : startupStep path world action = some after) : after.daemons[index]? = some place := by
  cases action with
  | start =>
    obtain rfl := Option.some.inj taken
    rw [List.getElem?_append_left (List.getElem?_eq_some_iff.mp present).1]
    exact present
  | call acting outcome =>
    have apart : acting ≠ index := by simpa [StartupAction.concerns] using other
    simp only [startupStep] at taken
    split at taken
    · obtain ⟨next, _, rfl⟩ := Option.map_eq_some_iff.mp taken
      rw [List.getElem?_set_ne apart]
      exact present
    · cases taken
  | kill acting =>
    have apart : acting ≠ index := by simpa [StartupAction.concerns] using other
    simp only [startupStep] at taken
    split at taken
    · obtain rfl := Option.some.inj taken
      rw [List.getElem?_set_ne apart]
      exact present
    · cases taken

end Calls

/-! ## The steps of a launch -/

namespace Launch

variable {path : SocketPath} {pidPath : String} {index : Nat} {state after : Launch}
  {outcome : Except String Unit} {emptied : Bool}

/-- What a call on the path does. -/
theorem call_eq_some (called : state.call path index outcome = some after) :
    ∃ place next world, state.place index = some place ∧ after = { state with world } ∧
      startupStep path state.world (.call index outcome) = some world ∧
      place.Leads outcome next ∧ next.callsLeft < place.callsLeft ∧
      world.daemons[index]? = some next := by
  obtain ⟨world, taken, rfl⟩ := Option.map_eq_some_iff.mp called
  have step := taken
  simp only [startupStep] at taken
  split at taken
  · rename_i place present
    obtain ⟨⟨entry, created, next⟩, made, rfl⟩ := Option.map_eq_some_iff.mp taken
    refine ⟨place, next, _, present, rfl, step, startupCall_leads made,
      startupCall_callsLeft made, ?_⟩
    rw [List.getElem?_set_self (List.getElem?_eq_some_iff.mp present).1]
  · cases taken

/-- A daemon that has calls left can make one. -/
theorem call_isSome {place : StartupPlace} (present : state.place index = some place)
    (left : 0 < place.callsLeft) (path : SocketPath) (outcome : Except String Unit) :
    (state.call path index outcome).isSome = true := by
  have made := startupCall_isSome left path state.world outcome
  have present : state.world.daemons[index]? = some place := present
  simp only [call, startupStep, present, Option.isSome_map, made]

end Launch

/-- Whether the child has not made the daemon yet. -/
def MiddlePlace.isStarting : MiddlePlace → Bool
  | .settingSession | .forking | .reporting _ => true
  | .absent | .leaving | .gone => false

/-- Whether the daemon has neither announced itself nor given up. -/
def LaunchedPlace.isStarting : LaunchedPlace → Bool
  | .changing | .redirecting | .starting | .writingPid | .announcing | .droppingPid _ | .retracting
  | .reporting _ => true
  | .absent | .failed _ | .running | .removingPid _ | .ended _ | .killed => false

/-- Whether the daemon has announced itself and was not killed since. -/
def LaunchedPlace.isServing : LaunchedPlace → Bool
  | .running | .removingPid _ | .ended _ => true
  | .absent | .changing | .redirecting | .starting | .writingPid | .announcing | .droppingPid _
  | .retracting | .reporting _ | .failed _ | .killed => false

/-- Where the daemon is among those of the path. -/
def LaunchedPlace.Fits : LaunchedPlace → StartupPlace → Prop
  | .absent, place | .changing, place | .redirecting, place =>
    place = .creating ∨ place = .checking
  | .starting, place => place.isBinding = true ∨ ∃ id error, place = .retracting id error
  | .writingPid, place | .announcing, place | .droppingPid _, place => ∃ id, place = .announcing id
  | .retracting, place => ∃ id error, place = .retracting id error
  | .running, place => place.isServing = true ∨ ∃ id error, place = .retracting id error
  | .reporting _, place | .failed _, place =>
    (place = .creating ∨ place = .checking) ∨ ∃ result, place = .over result
  | .removingPid _, place | .ended _, place => ∃ result, place = .over result
  | .killed, _ => True

/-- How many calls the daemon makes at most. -/
def LaunchedPlace.callsLeft : LaunchedPlace → StartupPlace → Nat
  | .absent, _ => 24
  | .changing, _ => 23
  | .redirecting, _ => 22
  | .starting, place => 10 + place.callsLeft
  | .writingPid, _ => 8
  | .announcing, _ => 7
  | .droppingPid _, _ => 6
  | .retracting, _ => 1
  | .reporting _, _ => 1
  | .running, place => 2 + place.callsLeft
  | .removingPid _, _ => 1
  | .failed _, _ | .ended _, _ | .killed, _ => 0

namespace Launch

variable {path : SocketPath} {pidPath : String} {index : Nat} {state after : Launch}
  {outcome : Except String Unit} {emptied : Bool} {place : StartupPlace}

/-- Where `bind_listener` goes on. -/
theorem bindListener_fits {next : StartupPlace} (fits : LaunchedPlace.starting.Fits place)
    (leads : place.Leads outcome next) (fewer : next.callsLeft < place.callsLeft) :
    (bindListener (some next)).Fits next ∧
      (bindListener (some next)).callsLeft next < 10 + place.callsLeft := by
  cases leads with
  | binds _ still =>
    have goes : bindListener (some next) = .starting := by cases next <;> first | rfl | cases still
    rw [goes]
    exact ⟨.inl still, Nat.add_lt_add_left fewer 10⟩
  | announces id =>
    refine ⟨⟨id, rfl⟩, ?_⟩
    simp only [bindListener, LaunchedPlace.callsLeft]
    omega
  | forbidden id error => exact ⟨.inr ⟨id, error, rfl⟩, Nat.add_lt_add_left fewer 10⟩
  | fails error | retracts _ error =>
    refine ⟨.inr ⟨_, rfl⟩, ?_⟩
    simp only [bindListener, LaunchedPlace.callsLeft]
    omega
  | announced | unannounced => obtain before | ⟨_, _, same⟩ := fits <;> contradiction
  | serves before | stops _ _ before | ends _ before =>
    obtain still | ⟨_, _, rfl⟩ := fits
    · cases place <;> contradiction
    · cases before

/-- Where a serving daemon goes on. -/
theorem serveConnections_fits {next : StartupPlace} (fits : LaunchedPlace.running.Fits place)
    (leads : place.Leads outcome next) (fewer : next.callsLeft < place.callsLeft) :
    (serveConnections (some next)).Fits next ∧
      (serveConnections (some next)).callsLeft next < 2 + place.callsLeft := by
  cases leads with
  | serves _ still =>
    have goes : serveConnections (some next) = .running := by
      cases next <;> first | rfl | cases still
    rw [goes]
    exact ⟨.inl still, Nat.add_lt_add_left fewer 2⟩
  | stops id error => exact ⟨.inr ⟨id, error, rfl⟩, Nat.add_lt_add_left fewer 2⟩
  | ends | retracts =>
    refine ⟨⟨_, rfl⟩, ?_⟩
    simp only [serveConnections, LaunchedPlace.callsLeft]
    omega
  | announced | unannounced => obtain before | ⟨_, _, same⟩ := fits <;> contradiction
  | binds before | announces _ before | forbidden _ _ before | fails _ before =>
    obtain still | ⟨_, _, rfl⟩ := fits
    · cases place <;> contradiction
    · cases before

/-- The announcement leads to the signal handlers. -/
theorem announced_of_leads {id : Nat} {next : StartupPlace}
    (leads : StartupPlace.Leads (.announcing id) (.ok ()) next) : next = .installing id := by
  cases leads <;> first | rfl | contradiction

/-- An announcement that fails leads to the removal of the socket. -/
theorem unannounced_of_leads {id : Nat} {error : String} {next : StartupPlace}
    (leads : StartupPlace.Leads (.announcing id) (.error error) next) :
    next = .retracting id error := by
  cases leads <;> first | rfl | contradiction

/-- After the removal of the socket the daemon returns its error. -/
theorem over_of_leads {id : Nat} {error : String} {next : StartupPlace}
    (leads : StartupPlace.Leads (.retracting id error) outcome next) :
    next = .over (.error error) := by
  cases leads <;> first | rfl | contradiction

/-- What was written goes to what was written before. -/
theorem send_eq_some {response : Response} (sent : state.send response = some after) :
    state.launcher = .waiting ∧ after = { state with sent := state.sent ++ [response] } := by
  simp only [send] at sent
  split at sent
  · rename_i waits
    exact ⟨waits, (Option.some.inj sent).symm⟩
  · cases sent

/-- Where a call on the path leads. -/
theorem call_leads (present : state.place index = some place)
    (called : state.call path index outcome = some after) :
    ∃ next, after.place index = some next ∧ place.Leads outcome next ∧
      next.callsLeft < place.callsLeft := by
  obtain ⟨_, next, world, here, rfl, _, leads, fewer, there⟩ := call_eq_some called
  obtain rfl := Option.some.inj (present.symm.trans here)
  exact ⟨next, there, leads, fewer⟩

/-- Whether the daemon is among those of the path after a call, with fewer calls left. -/
def Goes (index : Nat) (place : StartupPlace) (state after : Launch) : Prop :=
  ∃ next, after.place index = some next ∧ after.daemon.Fits next ∧
    after.daemon.callsLeft next < state.daemon.callsLeft place

/-- A call after which the daemon goes on by where it leads. -/
theorem goes_of_call {goesOn : Option StartupPlace → LaunchedPlace}
    (present : state.place index = some place)
    (taken : ((state.call path index outcome).map fun middle =>
      { middle with daemon := goesOn (middle.place index) }) = some after)
    (follows : ∀ next, place.Leads outcome next → next.callsLeft < place.callsLeft →
      (goesOn (some next)).Fits next ∧
        (goesOn (some next)).callsLeft next < state.daemon.callsLeft place) :
    Goes index place state after := by
  obtain ⟨middle, called, rfl⟩ := Option.map_eq_some_iff.mp taken
  obtain ⟨next, there, leads, fewer⟩ := call_leads present called
  refine ⟨next, there, ?_⟩
  rw [there]
  exact follows next leads fewer

/-- A daemon that leaves its directory and its terminal has not made a call. -/
theorem goes_changing (was : state.daemon = .changing ∨ state.daemon = .redirecting)
    (present : state.place index = some place) (fits : place = .creating ∨ place = .checking)
    (taken : state.daemonStep path pidPath index outcome emptied = some after) :
    Goes index place state after := by
  unfold Goes
  unfold daemonStep at taken
  rcases was with was | was <;> rw [was] <;> cases outcome <;>
    simp only [was] at taken <;> cases taken
  · exact ⟨place, present, .inl fits, by simp [LaunchedPlace.callsLeft]⟩
  · exact ⟨place, present, fits, Nat.lt_succ_self _⟩
  · exact ⟨place, present, .inl fits, by simp [LaunchedPlace.callsLeft]⟩
  · have binding : place.isBinding = true := by
      obtain rfl | rfl := fits <;> rfl
    refine ⟨place, present, .inl binding, ?_⟩
    have bound := StartupPlace.callsLeft_le place
    simp only [LaunchedPlace.callsLeft]
    omega

/-- A call of `bind_listener`. -/
theorem goes_starting (was : state.daemon = .starting) (present : state.place index = some place)
    (fits : LaunchedPlace.starting.Fits place)
    (taken : state.daemonStep path pidPath index outcome emptied = some after) :
    Goes index place state after := by
  unfold daemonStep at taken
  simp only [was] at taken
  refine goes_of_call present taken fun next leads fewer => ?_
  rw [was]
  exact bindListener_fits fits leads fewer

/-- Writing the pid file. -/
theorem goes_writingPid {id : Nat} (was : state.daemon = .writingPid)
    (present : state.place index = some (.announcing id))
    (taken : state.daemonStep path pidPath index outcome emptied = some after) :
    Goes index (.announcing id) state after := by
  unfold Goes
  unfold daemonStep at taken
  rw [was]
  cases outcome with
  | ok =>
    simp only [was] at taken
    cases taken
    exact ⟨_, present, ⟨id, rfl⟩, Nat.lt_succ_self _⟩
  | error error =>
    simp only [was] at taken
    obtain ⟨middle, called, rfl⟩ := Option.map_eq_some_iff.mp taken
    obtain ⟨next, there, leads, _⟩ := call_leads present called
    obtain rfl := unannounced_of_leads leads
    exact ⟨_, there, ⟨_, _, rfl⟩, by simp [LaunchedPlace.callsLeft]⟩

/-- Announcing the socket. -/
theorem goes_announcing {id : Nat} (was : state.daemon = .announcing)
    (present : state.place index = some (.announcing id))
    (taken : state.daemonStep path pidPath index outcome emptied = some after) :
    Goes index (.announcing id) state after := by
  unfold Goes
  unfold daemonStep at taken
  rw [was]
  cases outcome with
  | ok =>
    simp only [was] at taken
    obtain ⟨middle, called, written⟩ := Option.bind_eq_some_iff.mp taken
    obtain ⟨_, rfl⟩ := send_eq_some written
    obtain ⟨next, there, leads, _⟩ := call_leads present called
    obtain rfl := announced_of_leads leads
    exact ⟨_, there, .inl rfl, by simp [LaunchedPlace.callsLeft, StartupPlace.callsLeft]⟩
  | error error =>
    simp only [was] at taken
    cases taken
    exact ⟨_, present, ⟨id, rfl⟩, by simp [LaunchedPlace.callsLeft]⟩

/-- Removing the pid file of a socket that could not be announced. -/
theorem goes_droppingPid {id : Nat} {reason : String} (was : state.daemon = .droppingPid reason)
    (present : state.place index = some (.announcing id))
    (taken : state.daemonStep path pidPath index outcome emptied = some after) :
    Goes index (.announcing id) state after := by
  unfold Goes
  unfold daemonStep at taken
  rw [was]
  cases outcome <;> simp only [was] at taken <;>
    obtain ⟨middle, called, rfl⟩ := Option.map_eq_some_iff.mp taken <;>
    obtain ⟨next, there, leads, _⟩ := call_leads present called <;>
    obtain rfl := unannounced_of_leads leads <;>
    exact ⟨_, there, ⟨_, _, rfl⟩, by simp [LaunchedPlace.callsLeft]⟩

/-- Removing a socket that could not be announced. -/
theorem goes_retracting {id : Nat} {error : String} (was : state.daemon = .retracting)
    (present : state.place index = some (.retracting id error))
    (taken : state.daemonStep path pidPath index outcome emptied = some after) :
    Goes index (.retracting id error) state after := by
  unfold daemonStep at taken
  simp only [was] at taken
  refine goes_of_call present taken fun next leads _ => ?_
  obtain rfl := over_of_leads leads
  rw [was]
  exact ⟨.inr ⟨_, rfl⟩, Nat.one_pos⟩

/-- Reporting an error. -/
theorem goes_reporting {error : String} (was : state.daemon = .reporting error)
    (present : state.place index = some place) (fits : (LaunchedPlace.reporting error).Fits place)
    (taken : state.daemonStep path pidPath index outcome emptied = some after) :
    Goes index place state after := by
  unfold Goes
  unfold daemonStep at taken
  rw [was]
  cases outcome with
  | ok =>
    simp only [was] at taken
    obtain ⟨_, rfl⟩ := send_eq_some taken
    exact ⟨place, present, fits, Nat.one_pos⟩
  | error =>
    simp only [was] at taken
    cases taken
    exact ⟨place, present, fits, Nat.one_pos⟩

/-- A call of a daemon that serves. -/
theorem goes_running (was : state.daemon = .running) (present : state.place index = some place)
    (fits : LaunchedPlace.running.Fits place)
    (taken : state.daemonStep path pidPath index outcome emptied = some after) :
    Goes index place state after := by
  unfold daemonStep at taken
  simp only [was] at taken
  refine goes_of_call present taken fun next leads fewer => ?_
  rw [was]
  exact serveConnections_fits fits leads fewer

/-- Removing the pid file at the end. -/
theorem goes_removingPid {result : Except String Unit} (was : state.daemon = .removingPid result)
    (present : state.place index = some place)
    (fits : (LaunchedPlace.removingPid result).Fits place)
    (taken : state.daemonStep path pidPath index outcome emptied = some after) :
    Goes index place state after := by
  unfold Goes
  unfold daemonStep at taken
  rw [was]
  cases outcome <;> simp only [was] at taken <;> cases taken <;>
    exact ⟨place, present, fits, Nat.one_pos⟩

/-- Where the daemon is after it has made a call. -/
theorem daemonStep_fits (present : state.place index = some place) (fits : state.daemon.Fits place)
    (taken : state.daemonStep path pidPath index outcome emptied = some after) :
    Goes index place state after := by
  cases was : state.daemon <;> rw [was] at fits
  case changing => exact goes_changing (.inl was) present fits taken
  case redirecting => exact goes_changing (.inr was) present fits taken
  case starting => exact goes_starting was present fits taken
  case writingPid =>
    obtain ⟨id, rfl⟩ := fits
    exact goes_writingPid was present taken
  case announcing =>
    obtain ⟨id, rfl⟩ := fits
    exact goes_announcing was present taken
  case droppingPid =>
    obtain ⟨id, rfl⟩ := fits
    exact goes_droppingPid was present taken
  case retracting =>
    obtain ⟨id, error, rfl⟩ := fits
    exact goes_retracting was present taken
  case reporting => exact goes_reporting was present fits taken
  case running => exact goes_running was present fits taken
  case removingPid => exact goes_removingPid was present fits taken
  all_goals simp [daemonStep, was] at taken

/-- What the step of the daemon says to the process that waits. -/
inductive DaemonMove (state after : Launch) : Prop where
  /-- Nothing: it is still starting. -/
  | prepares : state.daemon.isStarting = true → after.daemon.isStarting = true →
    after.sent = state.sent → DaemonMove state after
  /-- Nothing: it gives up. -/
  | fails (error : String) : state.daemon.isStarting = true → after.daemon = .failed error →
    after.sent = state.sent → DaemonMove state after
  /-- That it has failed. -/
  | reports (error : String) : state.daemon.isStarting = true → after.daemon = .failed error →
    state.launcher = .waiting → after.sent = state.sent ++ [.error error] → DaemonMove state after
  /-- That it is ready. -/
  | announces : state.daemon.isStarting = true → after.daemon = .running →
    state.launcher = .waiting → after.sent = state.sent ++ [.done] → DaemonMove state after
  /-- Nothing: it has announced itself. -/
  | serves : state.daemon.isServing = true → after.daemon.isServing = true →
    after.sent = state.sent → DaemonMove state after

/-- The daemon that starts goes on starting, or gives up. -/
theorem bindListener_isStarting (place : Option StartupPlace) :
    (bindListener place).isStarting = true := by
  unfold bindListener
  split <;> rfl

/-- The daemon that serves goes on serving. -/
theorem serveConnections_isServing (place : Option StartupPlace) :
    (serveConnections place).isServing = true := by
  unfold serveConnections
  split <;> rfl

/-- A call on the path changes nothing else. -/
theorem call_frame (called : state.call path index outcome = some after) :
    after.launcher = state.launcher ∧ after.middle = state.middle ∧ after.daemon = state.daemon ∧
      after.sent = state.sent ∧ after.pidFile = state.pidFile := by
  obtain ⟨world, _, rfl⟩ := Option.map_eq_some_iff.mp called
  exact ⟨rfl, rfl, rfl, rfl, rfl⟩

/-- What the step of the daemon says, and that the other processes stay where they are. -/
theorem daemonStep_move (taken : state.daemonStep path pidPath index outcome emptied = some after) :
    (after.launcher = state.launcher ∧ after.middle = state.middle) ∧ DaemonMove state after := by
  cases was : state.daemon with
  | changing | redirecting =>
    cases outcome <;> simp only [daemonStep, was] at taken <;> cases taken <;>
      exact ⟨⟨rfl, rfl⟩, .prepares (by rw [was]; rfl) rfl rfl⟩
  | starting =>
    simp only [daemonStep, was] at taken
    obtain ⟨middle, called, rfl⟩ := Option.map_eq_some_iff.mp taken
    obtain ⟨launcher, child, -, sent, -⟩ := call_frame called
    exact ⟨⟨launcher, child⟩, .prepares (by rw [was]; rfl) (bindListener_isStarting _) sent⟩
  | writingPid =>
    cases outcome with
    | ok =>
      simp only [daemonStep, was] at taken
      cases taken
      exact ⟨⟨rfl, rfl⟩, .prepares (by rw [was]; rfl) rfl rfl⟩
    | error =>
      simp only [daemonStep, was] at taken
      obtain ⟨middle, called, rfl⟩ := Option.map_eq_some_iff.mp taken
      obtain ⟨launcher, child, -, sent, -⟩ := call_frame called
      exact ⟨⟨launcher, child⟩, .prepares (by rw [was]; rfl) rfl sent⟩
  | announcing =>
    cases outcome with
    | ok =>
      simp only [daemonStep, was] at taken
      obtain ⟨middle, called, written⟩ := Option.bind_eq_some_iff.mp taken
      obtain ⟨waits, rfl⟩ := send_eq_some written
      obtain ⟨launcher, child, -, sent, -⟩ := call_frame called
      exact ⟨⟨launcher, child⟩, .announces (by rw [was]; rfl) rfl (launcher.symm.trans waits)
        (congrArg (· ++ [Response.done]) sent)⟩
    | error error =>
      simp only [daemonStep, was] at taken
      cases taken
      exact ⟨⟨rfl, rfl⟩, .prepares (by rw [was]; rfl) rfl rfl⟩
  | droppingPid error =>
    cases outcome <;> simp only [daemonStep, was] at taken <;>
      obtain ⟨middle, called, rfl⟩ := Option.map_eq_some_iff.mp taken <;>
      obtain ⟨launcher, child, -, sent, -⟩ := call_frame called <;>
      exact ⟨⟨launcher, child⟩, .prepares (by rw [was]; rfl) rfl sent⟩
  | retracting =>
    simp only [daemonStep, was] at taken
    obtain ⟨middle, called, rfl⟩ := Option.map_eq_some_iff.mp taken
    obtain ⟨launcher, child, -, sent, -⟩ := call_frame called
    refine ⟨⟨launcher, child⟩, ?_⟩
    cases goes : retract (middle.place index) with
    | failed error => exact .fails error (by rw [was]; rfl) rfl sent
    | retracting => exact .prepares (by rw [was]; rfl) rfl sent
    | _ =>
      unfold retract at goes
      split at goes <;> cases goes
  | reporting error =>
    cases outcome with
    | ok =>
      simp only [daemonStep, was] at taken
      obtain ⟨waits, rfl⟩ := send_eq_some taken
      exact ⟨⟨rfl, rfl⟩, .reports error (by rw [was]; rfl) rfl waits rfl⟩
    | error =>
      simp only [daemonStep, was] at taken
      cases taken
      exact ⟨⟨rfl, rfl⟩, .fails error (by rw [was]; rfl) rfl rfl⟩
  | running =>
    simp only [daemonStep, was] at taken
    obtain ⟨middle, called, rfl⟩ := Option.map_eq_some_iff.mp taken
    obtain ⟨launcher, child, -, sent, -⟩ := call_frame called
    exact ⟨⟨launcher, child⟩, .serves (by rw [was]; rfl) (serveConnections_isServing _) sent⟩
  | removingPid result =>
    cases outcome <;> simp only [daemonStep, was] at taken <;> cases taken <;>
      exact ⟨⟨rfl, rfl⟩, .serves (by rw [was]; rfl) rfl rfl⟩
  | absent | failed | ended | killed => simp [daemonStep, was] at taken

/-- What the step of the child does. -/
inductive MiddleMove (state after : Launch) : Prop where
  /-- It goes on, or gives up. -/
  | prepares : state.middle.isStarting = true → after.middle.isStarting = true →
    after.daemon = state.daemon → after.sent = state.sent → MiddleMove state after
  /-- It makes the daemon. -/
  | forks : state.middle.isStarting = true → after.middle = .leaving → after.daemon = .changing →
    after.sent = state.sent → MiddleMove state after
  /-- It says that it has failed. -/
  | reports (error : String) : state.middle.isStarting = true → after.middle = .gone →
    after.daemon = state.daemon → state.launcher = .waiting →
    after.sent = state.sent ++ [.error error] → MiddleMove state after
  /-- It ends. -/
  | leaves : state.middle.holds = true → after.middle = .gone → after.daemon = state.daemon →
    after.sent = state.sent → MiddleMove state after

/-- What the step of the child does, and that all else stays as it is. -/
theorem middleStep_move (taken : state.middleStep outcome = some after) :
    (after.launcher = state.launcher ∧ after.world = state.world ∧
      after.pidFile = state.pidFile) ∧ MiddleMove state after := by
  cases was : state.middle with
  | settingSession =>
    cases outcome <;> simp only [middleStep, was] at taken <;> cases taken <;>
      exact ⟨⟨rfl, rfl, rfl⟩, .prepares (by rw [was]; rfl) rfl rfl rfl⟩
  | forking =>
    cases outcome <;> simp only [middleStep, was] at taken <;> cases taken
    · exact ⟨⟨rfl, rfl, rfl⟩, .prepares (by rw [was]; rfl) rfl rfl rfl⟩
    · exact ⟨⟨rfl, rfl, rfl⟩, .forks (by rw [was]; rfl) rfl rfl rfl⟩
  | reporting error =>
    cases outcome with
    | ok =>
      simp only [middleStep, was] at taken
      obtain ⟨waits, rfl⟩ := send_eq_some taken
      exact ⟨⟨rfl, rfl, rfl⟩, .reports error (by rw [was]; rfl) rfl rfl waits rfl⟩
    | error =>
      simp only [middleStep, was] at taken
      cases taken
      exact ⟨⟨rfl, rfl, rfl⟩, .leaves (by rw [was]; rfl) rfl rfl rfl⟩
  | leaving =>
    simp only [middleStep, was] at taken
    cases taken
    exact ⟨⟨rfl, rfl, rfl⟩, .leaves (by rw [was]; rfl) rfl rfl rfl⟩
  | absent | gone => simp [middleStep, was] at taken

end Launch

end Evix
