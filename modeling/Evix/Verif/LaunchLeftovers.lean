import Evix.Verif.Launch

/-!
# What a launch leaves behind

A daemon that has the path and the pid file for itself removes what it has made, if the removals
succeed.
-/

namespace Evix

open Machines

namespace StartupPlace

/-- Whether a call has to succeed for nothing to be left at the path. -/
def isTidying : StartupPlace → Bool
  | .listening _ | .retracting .. | .closing .. => true
  | .creating | .checking | .probing | .removing | .binding | .permitting _ | .announcing _
  | .installing _ | .serving _ | .over _ | .killed => false

/-- The path names the socket of the daemon while it has one, and no socket made from a number on
while it has none. -/
def Owns (bound : Nat) (entry : Option PathEntry) : StartupPlace → Prop
  | .creating | .checking | .probing | .removing | .binding | .over _ =>
    ∀ id, entry = some (.socket id) → id < bound
  | .listening id | .permitting id | .announcing id | .retracting id _ | .installing id
  | .serving id | .closing id _ => entry = some (.socket id) ∧ bound ≤ id
  | .killed => True

end StartupPlace

section Leftovers

variable {path : SocketPath} {world : StartupWorld} {place next : StartupPlace}
  {outcome : Except String Unit} {entry : Option PathEntry} {created bound : Nat}

/-- A call of the only daemon that moves leaves the path as it should. -/
theorem startupCall_owns (grown : bound ≤ world.created) (owns : place.Owns bound world.entry)
    (tidy : place.isTidying = true → outcome = .ok ())
    (taken : startupCall path world outcome place = some (entry, created, next)) :
    bound ≤ created ∧ next.Owns bound entry := by
  have empty : ∀ id, (none : Option PathEntry) = some (.socket id) → id < bound := nofun
  cases place with
  | creating | checking =>
    simp only [startupCall] at taken
    split at taken <;> cases taken <;>
      first | exact ⟨grown, owns⟩ | exact ⟨grown, empty⟩
  | probing =>
    simp only [startupCall] at taken
    split at taken
    · cases taken
      exact ⟨grown, owns⟩
    · cases taken
      exact ⟨grown, empty⟩
    · cases taken
      exact ⟨grown, owns⟩
    · split at taken <;> cases taken <;> exact ⟨grown, owns⟩
  | removing =>
    simp only [startupCall] at taken
    split at taken <;> cases taken <;> first | exact ⟨grown, empty⟩ | exact ⟨grown, owns⟩
  | binding =>
    simp only [startupCall] at taken
    split at taken <;> cases taken
    · exact ⟨Nat.le_succ_of_le grown, rfl, grown⟩
    · exact ⟨grown, owns⟩
    · exact ⟨grown, owns⟩
  | listening id =>
    obtain rfl := tidy rfl
    cases taken
    exact ⟨grown, owns⟩
  | retracting id error =>
    obtain rfl := tidy rfl
    cases taken
    exact ⟨grown, empty⟩
  | closing id result =>
    obtain rfl := tidy rfl
    cases taken
    exact ⟨grown, empty⟩
  | permitting | announcing | installing =>
    simp only [startupCall] at taken
    split at taken <;> cases taken <;> exact ⟨grown, owns⟩
  | serving id =>
    cases taken
    exact ⟨grown, owns⟩
  | «over» | killed => cases taken

end Leftovers

/-- Whether the daemon is about to remove the pid file. -/
def LaunchedPlace.isTidying : LaunchedPlace → Bool
  | .droppingPid _ | .removingPid _ => true
  | .absent | .changing | .redirecting | .starting | .writingPid | .announcing | .retracting
  | .reporting _ | .failed _ | .running | .ended _ | .killed => false

/-- What the pid file holds, as the daemon stands, when it held `first` before. -/
def LaunchedPlace.PidFits (first now : Option PidEntry) : LaunchedPlace → Prop
  | .absent | .changing | .redirecting | .starting | .writingPid => now = first
  | .announcing | .droppingPid _ | .running | .removingPid _ => now = some .own
  | .retracting | .reporting _ | .failed _ | .ended _ => now ≠ some .own
  | .killed => True

namespace Launch

variable {path : SocketPath} {pidPath : String} {index bound : Nat} {state after : Launch}
  {outcome : Except String Unit} {emptied : Bool} {first : Option PidEntry}

/-- A daemon alone with its path and its pid file, for which `listen` and the removal of files
succeed. -/
def Tidy (index : Nat) (state : Launch) : LaunchAction → Prop
  | .daemon (.error _) _ =>
    state.daemon.isTidying = false ∧ ∀ place ∈ state.place index, place.isTidying = false
  | .others _ | .otherPid _ => False
  | .launcher _ | .middle _ | .daemon (.ok ()) _ | .killLauncher | .killMiddle | .killDaemon => True

instance decidableTidy (index : Nat) (state : Launch) (action : LaunchAction) :
    Decidable (state.Tidy index action) :=
  match action with
  | .daemon (.error _) _ =>
    inferInstanceAs (Decidable (state.daemon.isTidying = false ∧
      ∀ place ∈ state.place index, place.isTidying = false))
  | .others _ | .otherPid _ => isFalse id
  | .launcher _ | .middle _ | .daemon (.ok ()) _ | .killLauncher | .killMiddle | .killDaemon =>
    isTrue trivial

/-- What a tidy run keeps. -/
structure Swept (index bound : Nat) (first : Option PidEntry) (state : Launch) : Prop where
  /-- Sockets have later numbers. -/
  grown : bound ≤ state.world.created
  /-- What the path names. -/
  owns : ∃ place, state.place index = some place ∧ place.Owns bound state.world.entry
  /-- What the pid file holds. -/
  pid : state.daemon.PidFits first state.pidFile

/-- What a call leaves at the path. -/
theorem Swept.call (swept : state.Swept index bound first)
    (tidy : ∀ place, state.place index = some place → place.isTidying = true → outcome = .ok ())
    (called : state.call path index outcome = some after) :
    bound ≤ after.world.created ∧
      ∃ place, after.place index = some place ∧ place.Owns bound after.world.entry := by
  obtain ⟨place, present, owns⟩ := swept.owns
  obtain ⟨world, taken, rfl⟩ := Option.map_eq_some_iff.mp called
  have found : state.world.daemons[index]? = some place := present
  simp only [startupStep, found] at taken
  obtain ⟨⟨entry, created, next⟩, made, rfl⟩ := Option.map_eq_some_iff.mp taken
  obtain ⟨grown, kept⟩ := startupCall_owns swept.grown owns (tidy place present) made
  exact ⟨grown, next, List.getElem?_set_self (List.getElem?_eq_some_iff.mp found).1, kept⟩

/-- The pid file of a daemon that starts. -/
theorem bindListener_pidFits (foreign : first ≠ some .own) (place : Option StartupPlace) :
    (bindListener place).PidFits first first := by
  unfold bindListener
  split
  · rfl
  · exact foreign
  · rfl

/-- The pid file of a daemon that serves. -/
theorem serveConnections_pidFits (place : Option StartupPlace) :
    (serveConnections place).PidFits first (some .own) := by
  unfold serveConnections
  split <;> rfl

/-- The pid file of a daemon that removes its socket. -/
theorem retract_pidFits {now : Option PidEntry} (foreign : now ≠ some .own)
    (place : Option StartupPlace) : (retract place).PidFits first now := by
  unfold retract
  split <;> exact foreign

/-- What a tidy call leaves at the path. -/
theorem Swept.tidyCall (swept : state.Swept index bound first)
    (tidy : state.Tidy index (.daemon outcome emptied))
    (called : state.call path index outcome = some after) :
    bound ≤ after.world.created ∧
      ∃ place, after.place index = some place ∧ place.Owns bound after.world.entry := by
  refine swept.call (fun place present tidying => ?_) called
  cases outcome with
  | ok => rfl
  | error =>
    rw [tidy.2 place present] at tidying
    cases tidying

/-- What an announcement leaves at the path, which may fail. -/
theorem Swept.announcement (swept : state.Swept index bound first) {id : Nat}
    (here : state.place index = some (.announcing id))
    (called : state.call path index outcome = some after) :
    bound ≤ after.world.created ∧
      ∃ place, after.place index = some place ∧ place.Owns bound after.world.entry := by
  refine swept.call (fun place present tidying => ?_) called
  obtain rfl := Option.some.inj (here.symm.trans present)
  cases tidying

/-- Leaving the directory and the terminal. -/
theorem Swept.changing (swept : state.Swept index bound first) (foreign : first ≠ some .own)
    (was : state.daemon = .changing ∨ state.daemon = .redirecting)
    (taken : state.daemonStep path pidPath index outcome emptied = some after) :
    after.Swept index bound first := by
  have pid := swept.pid
  have same : state.pidFile = first := by
    rcases was with was | was <;> rw [was] at pid <;> exact pid
  rcases was with was | was <;> cases outcome <;>
    simp only [daemonStep, was] at taken <;> cases taken
  · exact ⟨swept.grown, swept.owns, same ▸ foreign⟩
  · exact ⟨swept.grown, swept.owns, same⟩
  · exact ⟨swept.grown, swept.owns, same ▸ foreign⟩
  · exact ⟨swept.grown, swept.owns, same⟩

/-- A call of `bind_listener`. -/
theorem Swept.starting (swept : state.Swept index bound first) (foreign : first ≠ some .own)
    (tidy : state.Tidy index (.daemon outcome emptied)) (was : state.daemon = .starting)
    (taken : state.daemonStep path pidPath index outcome emptied = some after) :
    after.Swept index bound first := by
  have pid := swept.pid
  rw [was] at pid
  simp only [daemonStep, was] at taken
  obtain ⟨middle, called, rfl⟩ := Option.map_eq_some_iff.mp taken
  obtain ⟨grown, owns⟩ := swept.tidyCall tidy called
  have same : middle.pidFile = first := (call_frame called).2.2.2.2.trans pid
  refine ⟨grown, owns, ?_⟩
  rw [same]
  exact bindListener_pidFits foreign _

/-- Writing the pid file. -/
theorem Swept.writingPid (swept : state.Swept index bound first) (foreign : first ≠ some .own)
    {id : Nat} (present : state.place index = some (.announcing id))
    (was : state.daemon = .writingPid)
    (taken : state.daemonStep path pidPath index outcome emptied = some after) :
    after.Swept index bound first := by
  have pid := swept.pid
  rw [was] at pid
  have same : state.pidFile = first := pid
  have spoiled : some PidEntry.other ≠ some .own := by decide
  cases outcome with
  | ok =>
    simp only [daemonStep, was] at taken
    cases taken
    exact ⟨swept.grown, swept.owns, rfl⟩
  | error =>
    simp only [daemonStep, was] at taken
    obtain ⟨middle, called, rfl⟩ := Option.map_eq_some_iff.mp taken
    obtain ⟨grown, owns⟩ := swept.announcement present called
    refine ⟨grown, owns, ?_⟩
    cases emptied with
    | true => exact spoiled
    | false => exact same ▸ foreign

/-- Announcing the socket. -/
theorem Swept.announcing (swept : state.Swept index bound first)
    (tidy : state.Tidy index (.daemon outcome emptied)) (was : state.daemon = .announcing)
    (taken : state.daemonStep path pidPath index outcome emptied = some after) :
    after.Swept index bound first := by
  have pid := swept.pid
  rw [was] at pid
  cases outcome with
  | ok =>
    simp only [daemonStep, was] at taken
    obtain ⟨middle, called, written⟩ := Option.bind_eq_some_iff.mp taken
    obtain ⟨_, rfl⟩ := send_eq_some written
    obtain ⟨grown, owns⟩ := swept.tidyCall tidy called
    exact ⟨grown, owns, (call_frame called).2.2.2.2.trans pid⟩
  | error =>
    simp only [daemonStep, was] at taken
    cases taken
    exact ⟨swept.grown, swept.owns, pid⟩

/-- Removing the pid file of a socket that could not be announced. -/
theorem Swept.droppingPid (swept : state.Swept index bound first)
    (tidy : state.Tidy index (.daemon outcome emptied)) {reason : String} {id : Nat}
    (present : state.place index = some (.announcing id)) (was : state.daemon = .droppingPid reason)
    (taken : state.daemonStep path pidPath index outcome emptied = some after) :
    after.Swept index bound first := by
  have missing : (none : Option PidEntry) ≠ some .own := by decide
  cases outcome with
  | ok =>
    simp only [daemonStep, was] at taken
    obtain ⟨middle, called, rfl⟩ := Option.map_eq_some_iff.mp taken
    obtain ⟨grown, owns⟩ := swept.announcement present called
    exact ⟨grown, owns, missing⟩
  | error =>
    have fails := tidy.1
    rw [was] at fails
    cases fails

/-- Removing the pid file at the end. -/
theorem Swept.removingPid (swept : state.Swept index bound first)
    (tidy : state.Tidy index (.daemon outcome emptied)) {result : Except String Unit}
    (was : state.daemon = .removingPid result)
    (taken : state.daemonStep path pidPath index outcome emptied = some after) :
    after.Swept index bound first := by
  have missing : (none : Option PidEntry) ≠ some .own := by decide
  cases outcome with
  | ok =>
    simp only [daemonStep, was] at taken
    cases taken
    exact ⟨swept.grown, swept.owns, missing⟩
  | error =>
    have fails := tidy.1
    rw [was] at fails
    cases fails

/-- Removing the socket. -/
theorem Swept.retracting (swept : state.Swept index bound first)
    (tidy : state.Tidy index (.daemon outcome emptied)) (was : state.daemon = .retracting)
    (taken : state.daemonStep path pidPath index outcome emptied = some after) :
    after.Swept index bound first := by
  have pid := swept.pid
  rw [was] at pid
  simp only [daemonStep, was] at taken
  obtain ⟨middle, called, rfl⟩ := Option.map_eq_some_iff.mp taken
  obtain ⟨grown, owns⟩ := swept.tidyCall tidy called
  refine ⟨grown, owns, retract_pidFits ?_ _⟩
  rw [(call_frame called).2.2.2.2]
  exact pid

/-- Reporting an error. -/
theorem Swept.reporting (swept : state.Swept index bound first) {error : String}
    (was : state.daemon = .reporting error)
    (taken : state.daemonStep path pidPath index outcome emptied = some after) :
    after.Swept index bound first := by
  have pid := swept.pid
  rw [was] at pid
  cases outcome with
  | ok =>
    simp only [daemonStep, was] at taken
    obtain ⟨_, rfl⟩ := send_eq_some taken
    exact ⟨swept.grown, swept.owns, pid⟩
  | error =>
    simp only [daemonStep, was] at taken
    cases taken
    exact ⟨swept.grown, swept.owns, pid⟩

/-- A call of a daemon that serves. -/
theorem Swept.running (swept : state.Swept index bound first)
    (tidy : state.Tidy index (.daemon outcome emptied)) (was : state.daemon = .running)
    (taken : state.daemonStep path pidPath index outcome emptied = some after) :
    after.Swept index bound first := by
  have pid := swept.pid
  rw [was] at pid
  have own : state.pidFile = some .own := pid
  simp only [daemonStep, was] at taken
  obtain ⟨middle, called, rfl⟩ := Option.map_eq_some_iff.mp taken
  obtain ⟨grown, owns⟩ := swept.tidyCall tidy called
  refine ⟨grown, owns, ?_⟩
  rw [(call_frame called).2.2.2.2, own]
  exact serveConnections_pidFits _

/-- A tidy step of the daemon keeps what is at the path and in the pid file. -/
theorem Swept.daemon (swept : state.Swept index bound first) (kept : state.Kept index)
    (foreign : first ≠ some .own) (tidy : state.Tidy index (.daemon outcome emptied))
    (taken : state.daemonStep path pidPath index outcome emptied = some after) :
    after.Swept index bound first := by
  obtain ⟨place, present, fits⟩ := kept.fits
  cases was : state.daemon <;> rw [was] at fits
  case changing => exact swept.changing foreign (.inl was) taken
  case redirecting => exact swept.changing foreign (.inr was) taken
  case starting => exact swept.starting foreign tidy was taken
  case writingPid =>
    obtain ⟨id, rfl⟩ := fits
    exact swept.writingPid foreign present was taken
  case announcing => exact swept.announcing tidy was taken
  case droppingPid =>
    obtain ⟨id, rfl⟩ := fits
    exact swept.droppingPid tidy present was taken
  case retracting => exact swept.retracting tidy was taken
  case reporting => exact swept.reporting was taken
  case running => exact swept.running tidy was taken
  case removingPid => exact swept.removingPid tidy was taken
  all_goals simp [daemonStep, was] at taken

/-- Every tidy step keeps what is at the path and in the pid file. -/
theorem Swept.step (swept : state.Swept index bound first) (kept : state.Kept index)
    (foreign : first ≠ some .own) {action : LaunchAction} (tidy : state.Tidy index action)
    (taken : state.step path pidPath index action = some after) :
    after.Swept index bound first := by
  cases action with
  | launcher outcome =>
    simp only [Launch.step, launcherStep] at taken
    repeat' split at taken
    all_goals cases taken <;> exact ⟨swept.grown, swept.owns, swept.pid⟩
  | middle outcome =>
    obtain ⟨⟨_, world, pidFile⟩, move⟩ := middleStep_move taken
    have path : bound ≤ after.world.created ∧
        ∃ place, after.place index = some place ∧ place.Owns bound after.world.entry := by
      rw [Launch.place, world]
      exact ⟨swept.grown, swept.owns⟩
    have same : after.daemon = state.daemon → after.Swept index bound first := by
      intro daemon
      refine ⟨path.1, path.2, ?_⟩
      rw [daemon, pidFile]
      exact swept.pid
    cases move with
    | prepares _ _ daemon | reports _ _ _ daemon | leaves _ _ daemon => exact same daemon
    | forks starts _ daemon =>
      refine ⟨path.1, path.2, ?_⟩
      have none : state.daemon = .absent := by
        obtain none | left | left := kept.made
        · exact none
        · rw [left] at starts
          cases starts
        · rw [left] at starts
          cases starts
      have pid := swept.pid
      rw [none] at pid
      rw [daemon, pidFile]
      exact pid
  | daemon outcome emptied => exact swept.daemon kept foreign tidy taken
  | killLauncher | killMiddle =>
    simp only [Launch.step] at taken
    split at taken <;> cases taken
    exact ⟨swept.grown, swept.owns, swept.pid⟩
  | killDaemon =>
    simp only [Launch.step] at taken
    split at taken
    · obtain ⟨world, killed, rfl⟩ := Option.map_eq_some_iff.mp taken
      simp only [startupStep] at killed
      split at killed
      · rename_i inside
        cases killed
        exact ⟨swept.grown, ⟨.killed, List.getElem?_set_self inside, trivial⟩, trivial⟩
      · cases killed
    · cases taken
  | others | otherPid => exact tidy.elim

end Launch

/-- The sockets that the path has named were made. -/
theorem startup_entry {path : SocketPath} {legal : StartupWorld → StartupAction → Prop}
    {world : StartupWorld} (reached : (startupMachine path).Reachable legal world) :
    ∀ id, world.entry = some (.socket id) → id < world.created := by
  induction reached with
  | start initial =>
    obtain rfl | rfl | rfl | rfl := initial <;> intro id named <;> cases named <;>
      exact Nat.one_pos
  | @next before after action _ _ taken made =>
    cases action with
    | start =>
      obtain rfl := Option.some.inj taken
      exact made
    | kill index =>
      simp only [startupMachine, startupStep] at taken
      split at taken
      · obtain rfl := Option.some.inj taken
        exact made
      · cases taken
    | call index outcome =>
      simp only [startupMachine, startupStep] at taken
      split at taken
      · obtain ⟨⟨entry, created, next⟩, called, rfl⟩ := Option.map_eq_some_iff.mp taken
        cases startupCall_passage called with
        | idle _ _ same =>
          rw [same]
          exact made
        | refused | continues => exact made
        | removed | retracted | cleaned => simp
        | binds =>
          rintro id named
          cases named
          exact Nat.lt_succ_self _
      · cases taken

section Leftovers

variable {path : SocketPath} {pidPath : String} {index : Nat} {first state : Launch}

/-- When no other daemon moves and `listen` and the removals of files succeed: a daemon that has
failed to start or has returned leaves no socket at the path and not its pid file, one that has not
bound its socket has not touched the pid file, and one that serves is named by its pid file and
listens on the socket that the path names. -/
theorem launch_leaves {actions : List LaunchAction}
    (initial : (launchMachine path pidPath index).start first)
    (run : (launchMachine path pidPath index).Run (Launch.Tidy index) first actions state) :
    match state.daemon with
    | .absent | .changing | .redirecting | .starting | .writingPid => state.pidFile = first.pidFile
    | .failed _ | .ended _ =>
      state.pidFile ≠ some .own ∧
        ∀ id, state.world.entry = some (.socket id) → id < first.world.created
    | .running =>
      state.pidFile = some .own ∧
        ∀ place id, state.place index = some place → place.listens = some id →
          state.world.entry = some (.socket id) ∧ first.world.created ≤ id
    | .announcing | .droppingPid _ | .removingPid _ => state.pidFile = some .own
    | .retracting | .reporting _ => state.pidFile ≠ some .own
    | .killed => True := by
  have foreign : first.pidFile ≠ some .own := Launch.IsInitial.pidFile initial
  have kept := Launch.kept_reachable (run.reachable (.start initial))
  have swept : state.Swept index first.world.created first.pidFile := by
    refine run.preserves (.start initial) (fun before action after reached swept tidy taken =>
      swept.step (Launch.kept_reachable reached) foreign tidy taken) ?_
    refine ⟨Nat.le_refl _, ⟨_, Launch.IsInitial.place initial, ?_⟩, ?_⟩
    · have made := startup_entry (Launch.IsInitial.world initial)
      obtain creating | checking := StartupWorld.first_idles path
      · rw [creating]
        exact made
      · rw [checking]
        exact made
    · rw [Launch.IsInitial.daemon initial]
      rfl
  obtain ⟨place, present, owns⟩ := swept.owns
  obtain ⟨fit, here, fits⟩ := kept.fits
  obtain rfl := Option.some.inj (present.symm.trans here)
  have pid := swept.pid
  cases was : state.daemon with
  | absent | changing | redirecting | starting | writingPid | announcing | droppingPid | removingPid
  | retracting | reporting =>
    rw [was] at pid
    exact pid
  | failed error =>
    rw [was] at pid fits
    refine ⟨pid, ?_⟩
    obtain (rfl | rfl) | ⟨result, rfl⟩ := fits <;> exact owns
  | ended result =>
    rw [was] at pid fits
    obtain ⟨result, rfl⟩ := fits
    exact ⟨pid, owns⟩
  | running =>
    rw [was] at pid
    refine ⟨pid, fun own id found listens => ?_⟩
    obtain rfl := Option.some.inj (present.symm.trans found)
    cases place <;> first | cases listens; exact owns | cases listens
  | killed => trivial

/-- A daemon announces itself, serves, and ends: nothing is left. -/
theorem launch_leaves_ended : ∃ state : Launch, state.daemon = .ended (.ok ()) ∧
    state.world.entry = none ∧ state.pidFile ≠ some .own := by
  let ended : Launch :=
    ⟨⟨none, 1, [.over (.ok ())]⟩, .waiting, .gone, .ended (.ok ()), [.done], none⟩
  have ran : (launchMachine launchPath "/run/user/1/evix.pid" 0).execute (Launch.Tidy 0) firstLaunch
      (forkActions ++ bindActions ++ List.replicate 6 (.daemon (.ok ()) false)) = some ended := rfl
  exact ⟨ended, rfl, rfl, (launch_leaves (firstLaunch_initial _) (Machine.run_of_execute ran)).1⟩

end Leftovers

end Evix
