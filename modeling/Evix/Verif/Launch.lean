import Evix.Library.Termination
import Evix.Verif.LaunchMoves

/-!
# Launching the daemon

The process that was started waits for one line. At most one is ever written: by its child, by a
daemon that has failed to start, or by a daemon that has bound its socket and written its pid file.
-/

namespace Evix

open Machines

/-! ## What was said -/

namespace Launch

variable {path : SocketPath} {pidPath : String} {index : Nat} {state after : Launch}
  {outcome : Except String Unit} {emptied : Bool}

/-- No daemon comes of the launch any more. -/
def IsLost (state : Launch) : Prop :=
  (state.middle = .leaving ∨ state.middle = .gone) ∧
    (state.daemon = .absent ∨ state.daemon = .killed ∨ ∃ error, state.daemon = .failed error)

/-- What was said, as the daemon stands. -/
inductive Told (state : Launch) : Prop where
  /-- Nothing. -/
  | nothing : state.sent = [] → state.daemon.isServing = false → Told state
  /-- That the daemon is ready. -/
  | ready : state.sent = [.done] → state.daemon.isServing = true ∨ state.daemon = .killed →
    Told state
  /-- That no daemon comes of the launch. -/
  | failed (error : String) : state.sent = [.error error] →
    state.middle = .leaving ∨ state.middle = .gone →
    state.daemon = .absent ∨ state.daemon = .failed error → Told state

/-- What the process that was started has read. -/
def Answered (state : Launch) : Prop :=
  match state.launcher with
  | .pairing | .forking | .failed _ => state.middle = .absent
  | .waiting => state.middle ≠ .absent
  | .killed => True
  | .printed => state.sent = [.done]
  | .exited message =>
    message = "reading daemon readiness" ∨ state.sent = [.error message] ∨
      message = "parsing daemon readiness" ∧ state.sent = [] ∧ state.IsLost

/-- What every step of a launch keeps. -/
structure Kept (index : Nat) (state : Launch) : Prop where
  /-- The daemon is where it says among those of the path. -/
  fits : ∃ place, state.place index = some place ∧ state.daemon.Fits place
  /-- The daemon is made by the child. -/
  made : state.daemon = .absent ∨ state.middle = .leaving ∨ state.middle = .gone
  /-- What was said. -/
  told : Told state
  /-- What was read. -/
  answered : Answered state

/-- A process that has not ended has read nothing. -/
theorem Answered.of_open (waits : state.launcher = .waiting) (born : state.middle ≠ .absent) :
    Answered state := by
  simp only [Answered, waits]
  exact born

/-- The launch is still lost, and what was read stays read, when nothing new is said. -/
theorem Answered.quiet (answered : Answered state) (launcher : after.launcher = state.launcher)
    (sent : after.sent = state.sent) (absent : after.middle = .absent ↔ state.middle = .absent)
    (lost : state.IsLost → after.IsLost) : Answered after := by
  unfold Answered at answered ⊢
  rw [launcher]
  cases was : state.launcher with
  | pairing | forking | failed =>
    rw [was] at answered
    exact absent.mpr answered
  | waiting =>
    rw [was] at answered
    exact fun none => answered (absent.mp none)
  | killed => trivial
  | printed =>
    rw [was] at answered
    exact sent.trans answered
  | exited message =>
    rw [was] at answered
    obtain own | read | ⟨ended, nothing, gone⟩ := answered
    · exact .inl own
    · exact .inr (.inl (sent.trans read))
    · exact .inr (.inr ⟨ended, sent.trans nothing, lost gone⟩)

/-- While the daemon is starting nothing was said. -/
theorem Told.nothing_of_starting (told : Told state) (starts : state.daemon.isStarting = true) :
    state.sent = [] := by
  cases told with
  | nothing none _ => exact none
  | ready _ on =>
    obtain on | killed := on
    · cases was : state.daemon <;> rw [was] at starts on <;> cases starts <;> cases on
    · rw [killed] at starts
      cases starts
  | failed error _ _ never =>
    obtain never | never := never <;> rw [never] at starts <;> cases starts

/-- A daemon that is starting is not lost. -/
theorem IsLost.not_starting (lost : state.IsLost) : state.daemon.isStarting = false := by
  obtain ⟨_, absent | killed | ⟨error, failed⟩⟩ := lost
  · rw [absent]
    rfl
  · rw [killed]
    rfl
  · rw [failed]
    rfl

/-- A daemon that serves is not lost. -/
theorem IsLost.not_serving (lost : state.IsLost) : state.daemon.isServing = false := by
  obtain ⟨_, absent | killed | ⟨error, failed⟩⟩ := lost
  · rw [absent]
    rfl
  · rw [killed]
    rfl
  · rw [failed]
    rfl

/-- The step of the daemon keeps the invariant. -/
theorem Kept.daemon (kept : state.Kept index)
    (taken : state.daemonStep path pidPath index outcome emptied = some after) :
    after.Kept index := by
  obtain ⟨place, present, fits⟩ := kept.fits
  obtain ⟨next, there, fits, _⟩ := daemonStep_fits present fits taken
  obtain ⟨⟨launcher, middle⟩, move⟩ := daemonStep_move taken
  have absent : after.middle = .absent ↔ state.middle = .absent := by rw [middle]
  have exists_daemon : state.daemon ≠ .absent → after.middle = .leaving ∨ after.middle = .gone := by
    intro here
    obtain none | made := kept.made
    · exact absurd none here
    · rwa [middle]
  have born : after.middle = .leaving ∨ after.middle = .gone → after.middle ≠ .absent := by
    rintro (left | left) none <;> rw [left] at none <;> cases none
  have starting : state.daemon.isStarting = true → state.daemon ≠ .absent := by
    rintro starts none
    rw [none] at starts
    cases starts
  cases move with
  | prepares starts still sent =>
    have quiet := kept.told.nothing_of_starting starts
    refine ⟨⟨next, there, fits⟩, .inr (exists_daemon (starting starts)),
      .nothing (sent.trans quiet) ?_, kept.answered.quiet launcher sent absent fun lost => ?_⟩
    · cases was : after.daemon <;> rw [was] at still <;> first | rfl | cases still
    · rw [lost.not_starting] at starts
      cases starts
  | fails error starts failed sent =>
    have quiet := kept.told.nothing_of_starting starts
    refine ⟨⟨next, there, fits⟩, .inr (exists_daemon (starting starts)),
      .nothing (sent.trans quiet) ?_, kept.answered.quiet launcher sent absent fun lost => ?_⟩
    · rw [failed]
      rfl
    · rw [lost.not_starting] at starts
      cases starts
  | reports error starts failed waits sent =>
    have quiet := kept.told.nothing_of_starting starts
    rw [quiet] at sent
    exact ⟨⟨next, there, fits⟩, .inr (exists_daemon (starting starts)),
      .failed error sent (exists_daemon (starting starts)) (.inr failed),
      .of_open (launcher.trans waits) (born (exists_daemon (starting starts)))⟩
  | announces starts running waits sent =>
    have quiet := kept.told.nothing_of_starting starts
    rw [quiet] at sent
    refine ⟨⟨next, there, fits⟩, .inr (exists_daemon (starting starts)), .ready sent (.inl ?_),
      .of_open (launcher.trans waits) (born (exists_daemon (starting starts)))⟩
    rw [running]
    rfl
  | serves on still sent =>
    have here : state.daemon ≠ .absent := by
      intro none
      rw [none] at on
      cases on
    refine ⟨⟨next, there, fits⟩, .inr (exists_daemon here), ?_,
      kept.answered.quiet launcher sent absent fun lost => ?_⟩
    · cases kept.told with
      | nothing _ off =>
        rw [off] at on
        cases on
      | ready done _ => exact .ready (sent.trans done) (.inl still)
      | failed error _ _ never =>
        obtain never | never := never <;> rw [never] at on <;> cases on
    · rw [lost.not_serving] at on
      cases on

/-- The step of the child keeps the invariant. -/
theorem Kept.middle (kept : state.Kept index) (taken : state.middleStep outcome = some after) :
    after.Kept index := by
  obtain ⟨⟨launcher, world, _⟩, move⟩ := middleStep_move taken
  have fits : after.daemon = state.daemon →
      ∃ place, after.place index = some place ∧ after.daemon.Fits place := by
    intro same
    rw [same, place, world]
    exact kept.fits
  -- Before the second fork there is no daemon.
  have alone : state.middle.isStarting = true → state.daemon = .absent ∧ state.sent = [] := by
    intro starts
    have none : state.daemon = .absent := by
      obtain none | made | made := kept.made
      · exact none
      · rw [made] at starts
        cases starts
      · rw [made] at starts
        cases starts
    refine ⟨none, ?_⟩
    cases kept.told with
    | nothing quiet _ => exact quiet
    | ready _ on => obtain on | on := on <;> rw [none] at on <;> cases on
    | failed _ _ left _ => obtain left | left := left <;> rw [left] at starts <;> cases starts
  have unlost : state.middle.isStarting = true → ¬ state.IsLost := by
    rintro starts ⟨left | left, _⟩ <;> rw [left] at starts <;> cases starts
  have present : state.middle.isStarting = true → after.middle ≠ .absent →
      (after.middle = .absent ↔ state.middle = .absent) := by
    intro starts here
    refine ⟨fun none => absurd none here, fun none => ?_⟩
    rw [none] at starts
    cases starts
  cases move with
  | prepares starts still daemon sent =>
    obtain ⟨none, quiet⟩ := alone starts
    refine ⟨fits daemon, .inl (daemon.trans none), .nothing (sent.trans quiet) ?_,
      kept.answered.quiet launcher sent (present starts fun gone => ?_)
        fun lost => absurd lost (unlost starts)⟩
    · rw [daemon, none]
      rfl
    · rw [gone] at still
      cases still
  | forks starts left daemon sent =>
    obtain ⟨none, quiet⟩ := alone starts
    refine ⟨?_, .inr (.inl left), .nothing (sent.trans quiet) ?_,
      kept.answered.quiet launcher sent (present starts fun gone => ?_)
        fun lost => absurd lost (unlost starts)⟩
    · obtain ⟨was, there, first⟩ := kept.fits
      rw [none] at first
      rw [daemon, place, world]
      exact ⟨was, there, first⟩
    · rw [daemon]
      rfl
    · rw [left] at gone
      cases gone
  | reports error starts gone daemon waits sent =>
    obtain ⟨none, quiet⟩ := alone starts
    rw [quiet] at sent
    exact ⟨fits daemon, .inl (daemon.trans none),
      .failed error sent (.inr gone) (.inl (daemon.trans none)),
      .of_open (launcher.trans waits) fun absent => by rw [gone] at absent; cases absent⟩
  | leaves holds gone daemon sent =>
    refine ⟨fits daemon, .inr (.inr gone), ?_, kept.answered.quiet launcher sent
      ⟨fun none => ?_, fun none => ?_⟩ fun lost => ⟨.inr gone, by rw [daemon]; exact lost.2⟩⟩
    · cases kept.told with
      | nothing quiet off => exact .nothing (sent.trans quiet) (by rw [daemon]; exact off)
      | ready done on => exact .ready (sent.trans done) (by rw [daemon]; exact on)
      | failed error was left never =>
        exact .failed error (sent.trans was) (.inr gone) (by rw [daemon]; exact never)
    · rw [gone] at none
      cases none
    · rw [none] at holds
      cases holds

/-- What was said stands while the daemon and its maker stay where they are. -/
theorem Told.frame (told : Told state) (middle : after.middle = state.middle)
    (daemon : after.daemon = state.daemon) (sent : after.sent = state.sent) : Told after := by
  cases told with
  | nothing quiet off => exact .nothing (sent.trans quiet) (by rw [daemon]; exact off)
  | ready done on => exact .ready (sent.trans done) (by rw [daemon]; exact on)
  | failed error said left never =>
    exact .failed error (sent.trans said) (by rw [middle]; exact left)
      (by rw [daemon]; exact never)

/-- The step of the process that was started keeps the invariant. -/
theorem Kept.launcher (kept : state.Kept index) (taken : state.launcherStep outcome = some after) :
    after.Kept index := by
  have answered := kept.answered
  unfold Answered at answered
  cases was : state.launcher with
  | pairing =>
    rw [was] at answered
    cases outcome <;> simp only [launcherStep, was] at taken <;> cases taken <;>
      exact ⟨kept.fits, kept.made, kept.told.frame rfl rfl rfl, answered⟩
  | forking =>
    rw [was] at answered
    have none : state.daemon = .absent := by
      obtain none | left | left := kept.made
      · exact none
      · rw [left] at answered
        cases answered
      · rw [left] at answered
        cases answered
    have quiet : state.sent = [] := by
      cases kept.told with
      | nothing quiet _ => exact quiet
      | ready _ on => obtain on | on := on <;> rw [none] at on <;> cases on
      | failed _ _ left _ => obtain left | left := left <;> rw [left] at answered <;> cases answered
    have off : state.daemon.isServing = false := by
      rw [none]
      rfl
    cases outcome <;> simp only [launcherStep, was] at taken <;> cases taken
    · exact ⟨kept.fits, .inl none, .nothing quiet off, answered⟩
    · exact ⟨kept.fits, .inl none, .nothing quiet off, nofun⟩
  | waiting =>
    rw [was] at answered
    cases outcome with
    | error =>
      simp only [launcherStep, was] at taken
      cases taken
      exact ⟨kept.fits, kept.made, kept.told.frame rfl rfl rfl, .inl rfl⟩
    | ok =>
      simp only [launcherStep, was] at taken
      split at taken
      · cases taken
      · rename_i unblocked
        cases taken
        refine ⟨kept.fits, kept.made, kept.told.frame rfl rfl rfl, ?_⟩
        cases kept.told with
        | nothing quiet off =>
          simp only [quiet, true_and, Bool.or_eq_true, not_or, Bool.not_eq_true] at unblocked
          simp only [quiet, List.head?_nil, waitForReadiness, Answered]
          refine .inr (.inr ⟨trivial, trivial, .inr ?_, ?_⟩)
          · cases middle : state.middle with
            | absent => exact absurd middle answered
            | gone => rfl
            | _ =>
              rw [middle] at unblocked
              cases unblocked.1
          · cases daemon : state.daemon with
            | absent => exact .inl rfl
            | killed => exact .inr (.inl rfl)
            | failed error => exact .inr (.inr ⟨error, rfl⟩)
            | ended =>
              rw [daemon] at off
              cases off
            | _ =>
              rw [daemon] at unblocked
              cases unblocked.2
        | ready done _ =>
          simp only [done, List.head?_cons, waitForReadiness, Answered]
        | failed error said _ _ =>
          simp only [said, List.head?_cons, waitForReadiness, Answered]
          exact .inr (.inl trivial)
  | printed | exited | failed | killed => simp [launcherStep, was] at taken

/-- Every step keeps the invariant. -/
theorem Kept.step (kept : state.Kept index) {action : LaunchAction}
    (taken : state.step path pidPath index action = some after) : after.Kept index := by
  cases action with
  | launcher outcome => exact kept.launcher taken
  | middle outcome => exact kept.middle taken
  | daemon outcome emptied => exact kept.daemon taken
  | killLauncher =>
    simp only [Launch.step] at taken
    split at taken
    · cases taken
    · cases taken
      exact ⟨kept.fits, kept.made, kept.told.frame rfl rfl rfl, trivial⟩
  | killMiddle =>
    simp only [Launch.step] at taken
    split at taken
    · rename_i holds
      cases taken
      refine ⟨kept.fits, .inr (.inr rfl), ?_, kept.answered.quiet rfl rfl ⟨nofun, fun none => ?_⟩
        fun lost => ⟨.inr rfl, lost.2⟩⟩
      · cases kept.told with
        | nothing quiet off => exact .nothing quiet off
        | ready done on => exact .ready done on
        | failed error said _ never => exact .failed error said (.inr rfl) never
      · rw [none] at holds
        cases holds
    · cases taken
  | killDaemon =>
    simp only [Launch.step] at taken
    split at taken
    · rename_i holds
      obtain ⟨world, killed, rfl⟩ := Option.map_eq_some_iff.mp taken
      have made : state.middle = .leaving ∨ state.middle = .gone := by
        obtain none | made := kept.made
        · rw [none] at holds
          cases holds
        · exact made
      refine ⟨?_, .inr made, ?_, kept.answered.quiet rfl rfl Iff.rfl
        fun lost => ⟨lost.1, .inr (.inl rfl)⟩⟩
      · simp only [startupStep] at killed
        split at killed
        · rename_i inside
          cases killed
          exact ⟨.killed, List.getElem?_set_self inside, trivial⟩
        · cases killed
      · cases kept.told with
        | nothing quiet off => exact .nothing quiet rfl
        | ready done on => exact .ready done (.inr rfl)
        | failed error said _ never =>
          obtain never | never := never <;> rw [never] at holds <;> cases holds
    · cases taken
  | others action =>
    simp only [Launch.step] at taken
    split at taken
    · cases taken
    · rename_i other
      obtain ⟨world, moved, rfl⟩ := Option.map_eq_some_iff.mp taken
      obtain ⟨place, present, fits⟩ := kept.fits
      exact ⟨⟨place, startupStep_other (Bool.eq_false_iff.mpr other) present moved, fits⟩,
        kept.made, kept.told.frame rfl rfl rfl, kept.answered.quiet rfl rfl Iff.rfl id⟩
  | otherPid present =>
    cases taken
    exact ⟨kept.fits, kept.made, kept.told.frame rfl rfl rfl,
      kept.answered.quiet rfl rfl Iff.rfl id⟩

/-- What every run keeps. -/
theorem kept_reachable {legal : Launch → LaunchAction → Prop}
    (reached : (launchMachine path pidPath index).Reachable legal state) : state.Kept index := by
  refine reached.invariant (fun first initial => ?_) fun _ _ _ _ kept _ taken => kept.step taken
  have waits : first.place index = some (.first path) := initial.place
  refine ⟨⟨_, waits, ?_⟩, .inl initial.daemon, .nothing initial.sent ?_, ?_⟩
  · rw [initial.daemon]
    exact StartupWorld.first_idles path
  · rw [initial.daemon]
    rfl
  · simp only [Answered, initial.launcher]
    exact initial.middle

/-- What a launch does to its path is what the daemons of the path do. -/
theorem step_world {action : LaunchAction}
    (taken : state.step path pidPath index action = some after) :
    after.world = state.world ∨
      ∃ action, startupStep path state.world action = some after.world := by
  have calls : ∀ {outcome middle world}, state.call path index outcome = some middle →
      middle.world = world → ∃ action, startupStep path state.world action = some world := by
    rintro outcome middle _ called rfl
    obtain ⟨_, _, world, _, rfl, moved, _⟩ := call_eq_some called
    exact ⟨_, moved⟩
  cases action with
  | launcher outcome =>
    simp only [Launch.step, launcherStep] at taken
    repeat' split at taken
    all_goals cases taken <;> exact .inl rfl
  | middle outcome => exact .inl (middleStep_move taken).1.2.1
  | daemon outcome emptied =>
    cases was : state.daemon with
    | changing | redirecting | removingPid =>
      cases outcome <;> simp only [Launch.step, daemonStep, was] at taken <;> cases taken <;>
        exact .inl rfl
    | starting | retracting | running =>
      simp only [Launch.step, daemonStep, was] at taken
      obtain ⟨middle, called, rfl⟩ := Option.map_eq_some_iff.mp taken
      exact .inr (calls called rfl)
    | writingPid =>
      cases outcome <;> simp only [Launch.step, daemonStep, was] at taken
      · obtain ⟨middle, called, rfl⟩ := Option.map_eq_some_iff.mp taken
        exact .inr (calls called rfl)
      · cases taken
        exact .inl rfl
    | announcing =>
      cases outcome <;> simp only [Launch.step, daemonStep, was] at taken
      · cases taken
        exact .inl rfl
      · obtain ⟨middle, called, written⟩ := Option.bind_eq_some_iff.mp taken
        obtain ⟨_, rfl⟩ := send_eq_some written
        exact .inr (calls called rfl)
    | droppingPid =>
      cases outcome <;> simp only [Launch.step, daemonStep, was] at taken <;>
        obtain ⟨middle, called, rfl⟩ := Option.map_eq_some_iff.mp taken <;>
        exact .inr (calls called rfl)
    | reporting =>
      cases outcome <;> simp only [Launch.step, daemonStep, was] at taken
      · cases taken
        exact .inl rfl
      · obtain ⟨_, rfl⟩ := send_eq_some taken
        exact .inl rfl
    | absent | failed | ended | killed => simp [Launch.step, daemonStep, was] at taken
  | killLauncher | killMiddle =>
    simp only [Launch.step] at taken
    split at taken <;> cases taken
    exact .inl rfl
  | killDaemon =>
    simp only [Launch.step] at taken
    split at taken
    · obtain ⟨world, moved, rfl⟩ := Option.map_eq_some_iff.mp taken
      exact .inr ⟨_, moved⟩
    · cases taken
  | others other =>
    simp only [Launch.step] at taken
    split at taken
    · cases taken
    · obtain ⟨world, moved, rfl⟩ := Option.map_eq_some_iff.mp taken
      exact .inr ⟨_, moved⟩
  | otherPid present =>
    cases taken
    exact .inl rfl

/-- A launch refines the daemons of its path. -/
theorem world_reachable {legal : Launch → LaunchAction → Prop}
    (reached : (launchMachine path pidPath index).Reachable legal state) :
    (startupMachine path).Reachable (fun _ _ => True) state.world := by
  induction reached with
  | start initial => exact Launch.IsInitial.world initial
  | next _ _ taken was =>
    obtain same | ⟨move, moved⟩ := step_world taken
    · rw [same]
      exact was
    · exact was.next trivial moved

/-- What the process that was started says of the daemon is so. -/
def Reports (state : Launch) : Prop :=
  match state.launcher with
  | .pairing | .forking | .failed _ => state.middle = .absent ∧ state.daemon = .absent
  | .waiting | .killed => True
  | .printed => state.sent = [.done] ∧ (state.daemon.isServing = true ∨ state.daemon = .killed)
  | .exited message =>
    message = "reading daemon readiness" ∨
      state.IsLost ∧
        (state.sent = [.error message] ∧
            (state.daemon = .absent ∨ state.daemon = .failed message) ∨
          state.sent = [] ∧ message = "parsing daemon readiness")

end Launch

section Reports

variable {path : SocketPath} {pidPath : String} {index : Nat} {state : Launch}

/-- However the processes of a launch and the other daemons of its path interleave, fail or are
killed: what happens to the path is what its daemons do, a launcher that prints the path of the
socket has read that the daemon is ready, and one that exits with a message has no daemon, unless
it could not read. -/
theorem launch_reports {legal : Launch → LaunchAction → Prop}
    (reached : (launchMachine path pidPath index).Reachable legal state) :
    (startupMachine path).Reachable (fun _ _ => True) state.world ∧ state.Reports := by
  refine ⟨Launch.world_reachable reached, ?_⟩
  have kept := Launch.kept_reachable reached
  have answered := kept.answered
  unfold Launch.Answered at answered
  unfold Launch.Reports
  have unborn : state.middle = .absent → state.daemon = .absent := by
    intro none
    obtain absent | left | left := kept.made
    · exact absent
    · rw [none] at left
      cases left
    · rw [none] at left
      cases left
  cases was : state.launcher with
  | pairing | forking | failed =>
    rw [was] at answered
    exact ⟨answered, unborn answered⟩
  | waiting | killed => trivial
  | printed =>
    rw [was] at answered
    have done : state.sent = [.done] := answered
    refine ⟨done, ?_⟩
    cases kept.told with
    | nothing quiet _ => simp [quiet] at done
    | ready _ on => exact on
    | failed error said _ _ => simp [said] at done
  | exited message =>
    rw [was] at answered
    obtain own | said | ⟨parsing, quiet, lost⟩ := answered
    · exact .inl own
    · refine .inr ?_
      cases kept.told with
      | nothing quiet _ => simp [quiet] at said
      | ready done _ => simp [done] at said
      | failed error same left never =>
        obtain rfl : error = message := by simpa [same] using said
        refine ⟨⟨left, ?_⟩, .inl ⟨said, never⟩⟩
        obtain none | failed := never
        · exact .inl none
        · exact .inr (.inr ⟨error, failed⟩)
    · exact .inr ⟨lost, .inr ⟨quiet, parsing⟩⟩

end Reports

/-- The path of the example. -/
def launchPath : SocketPath := ⟨"/run/user/1/evix.sock", some "/run/user/1"⟩

/-- A launch on a path that names nothing. -/
def firstLaunch : Launch := ⟨⟨none, 0, [.creating]⟩, .pairing, .absent, .absent, [], none⟩

/-- It may begin. -/
theorem firstLaunch_initial (pidPath : String) :
    (launchMachine launchPath pidPath 0).start firstLaunch := by
  have started :
      (startupMachine launchPath).step ⟨none, 0, []⟩ .start = some firstLaunch.world := rfl
  exact ⟨.next (.start (.inl rfl)) trivial started, rfl, rfl, rfl, rfl, rfl, nofun⟩

/-- The calls up to the first one on the path. -/
def forkActions : List LaunchAction :=
  [.launcher (.ok ()), .launcher (.ok ()), .middle (.ok ()), .middle (.ok ()), .middle (.ok ()),
    .daemon (.ok ()) false, .daemon (.ok ()) false]

/-- The calls on the path up to the pid file. -/
def bindActions : List LaunchAction :=
  List.replicate 5 (.daemon (.ok ()) false)

/-- A daemon announces itself, and its launcher exits before the daemon serves. -/
theorem launch_reports_printed : ∃ state : Launch, state.launcher = .printed ∧
    state.daemon = .running ∧ state.Reports := by
  obtain ⟨state, reached, printed⟩ := Machine.reachable_of_execute
    (launchMachine launchPath "/run/user/1/evix.pid" 0) (fun _ _ => True) firstLaunch
    (forkActions ++ bindActions ++
      [.daemon (.ok ()) false, .daemon (.ok ()) false, .launcher (.ok ())])
    (fun state => state.launcher == .printed && state.daemon == .running)
    (firstLaunch_initial _) (by decide)
  simp only [Bool.and_eq_true, beq_iff_eq] at printed
  exact ⟨state, printed.1, printed.2, (launch_reports reached).2⟩

/-! ## An answer comes -/

/-- How many calls the process that was started makes at most. -/
def LauncherPlace.callsLeft : LauncherPlace → Nat
  | .pairing => 3
  | .forking => 2
  | .waiting => 1
  | .printed | .exited _ | .failed _ | .killed => 0

/-- How many calls its child makes at most. -/
def MiddlePlace.callsLeft : MiddlePlace → Nat
  | .absent => 4
  | .settingSession => 3
  | .forking => 2
  | .reporting _ | .leaving => 1
  | .gone => 0

namespace Launch

variable {path : SocketPath} {pidPath : String} {index : Nat} {state after : Launch}
  {outcome : Except String Unit} {emptied : Bool}

/-- How many steps the processes of a launch take at most. -/
def stepsLeft (index : Nat) (state : Launch) : Nat :=
  state.launcher.callsLeft + state.middle.callsLeft +
    ((state.place index).map state.daemon.callsLeft).getD 0

/-- The steps that are left, by where the daemon is. -/
theorem stepsLeft_eq {place : StartupPlace} (present : state.place index = some place) :
    state.stepsLeft index =
      state.launcher.callsLeft + state.middle.callsLeft + state.daemon.callsLeft place := by
  rw [stepsLeft, present]
  rfl

/-- A daemon that can be killed has calls left. -/
theorem callsLeft_pos {daemon : LaunchedPlace} (holds : daemon.holds = true)
    (place : StartupPlace) : 0 < daemon.callsLeft place := by
  cases daemon with
  | absent | failed | ended | killed => cases holds
  | changing | redirecting | starting | writingPid | announcing | droppingPid | retracting
  | reporting | running | removingPid =>
    simp only [LaunchedPlace.callsLeft]
    omega

/-- The steps that are left when other processes than the daemon's path have moved. -/
theorem stepsLeft_beside {place : StartupPlace} (present : state.place index = some place)
    (launcher : LauncherPlace) (middle : MiddlePlace) (daemon : LaunchedPlace)
    (sent : List Response) (pidFile : Option PidEntry) :
    stepsLeft index ⟨state.world, launcher, middle, daemon, sent, pidFile⟩ =
      launcher.callsLeft + middle.callsLeft + daemon.callsLeft place :=
  stepsLeft_eq present

/-- A step of the process that was started leaves fewer. -/
theorem Kept.shrinks_launcher (kept : state.Kept index)
    (taken : state.launcherStep outcome = some after) :
    after.stepsLeft index < state.stepsLeft index := by
  obtain ⟨place, present, _⟩ := kept.fits
  have answered := kept.answered
  unfold Answered at answered
  rw [stepsLeft_eq present]
  cases was : state.launcher with
  | pairing =>
    cases outcome <;> simp only [launcherStep, was] at taken <;> cases taken <;>
      rw [stepsLeft_beside present] <;> simp [LauncherPlace.callsLeft]
  | forking =>
    rw [was] at answered
    cases outcome <;> simp only [launcherStep, was] at taken <;> cases taken <;>
      rw [stepsLeft_beside present, answered] <;>
      simp only [LauncherPlace.callsLeft, MiddlePlace.callsLeft] <;> omega
  | waiting =>
    cases outcome with
    | error =>
      simp only [launcherStep, was] at taken
      cases taken
      rw [stepsLeft_beside present]
      simp [LauncherPlace.callsLeft]
    | ok =>
      simp only [launcherStep, was] at taken
      split at taken
      · cases taken
      · cases taken
        have ended : (waitForReadiness state.sent.head?).callsLeft = 0 := by
          unfold waitForReadiness
          split <;> rfl
        rw [stepsLeft_beside present, ended, LauncherPlace.callsLeft]
        omega
  | printed | exited | failed | killed => simp [launcherStep, was] at taken

/-- A step of its child leaves fewer. -/
theorem Kept.shrinks_middle (kept : state.Kept index)
    (taken : state.middleStep outcome = some after) :
    after.stepsLeft index < state.stepsLeft index := by
  obtain ⟨place, present, _⟩ := kept.fits
  rw [stepsLeft_eq present]
  have none : state.middle.isStarting = true → state.daemon = .absent := by
    intro starts
    obtain none | left | left := kept.made
    · exact none
    · rw [left] at starts
      cases starts
    · rw [left] at starts
      cases starts
  cases was : state.middle with
  | settingSession =>
    cases outcome <;> simp only [middleStep, was] at taken <;> cases taken <;>
      rw [stepsLeft_beside present] <;> simp [MiddlePlace.callsLeft]
  | forking =>
    have absent := none (by rw [was]; rfl)
    cases outcome <;> simp only [middleStep, was] at taken <;> cases taken <;>
      rw [stepsLeft_beside present] <;>
      simp [MiddlePlace.callsLeft, LaunchedPlace.callsLeft, absent]
  | reporting error =>
    cases outcome with
    | ok =>
      simp only [middleStep, was] at taken
      obtain ⟨_, rfl⟩ := send_eq_some taken
      rw [stepsLeft_beside present]
      simp [MiddlePlace.callsLeft]
    | error =>
      simp only [middleStep, was] at taken
      cases taken
      rw [stepsLeft_beside present]
      simp [MiddlePlace.callsLeft]
  | leaving =>
    simp only [middleStep, was] at taken
    cases taken
    rw [stepsLeft_beside present]
    simp [MiddlePlace.callsLeft]
  | absent | gone => simp [middleStep, was] at taken

/-- A call of the daemon leaves fewer steps. -/
theorem Kept.shrinks_daemon (kept : state.Kept index)
    (taken : state.daemonStep path pidPath index outcome emptied = some after) :
    after.stepsLeft index < state.stepsLeft index := by
  obtain ⟨place, present, fits⟩ := kept.fits
  obtain ⟨next, there, _, fewer⟩ := daemonStep_fits present fits taken
  obtain ⟨⟨launcher, middle⟩, _⟩ := daemonStep_move taken
  rw [stepsLeft_eq present, stepsLeft_eq there, launcher, middle]
  omega

/-- Killing the process that was started leaves fewer steps. -/
theorem Kept.shrinks_killLauncher (kept : state.Kept index)
    (taken : state.step path pidPath index .killLauncher = some after) :
    after.stepsLeft index < state.stepsLeft index := by
  obtain ⟨place, present, _⟩ := kept.fits
  simp only [Launch.step] at taken
  split at taken
  · cases taken
  · rename_i «open»
    cases taken
    rw [stepsLeft_eq present, stepsLeft_beside present]
    cases was : state.launcher <;> simp [was, LauncherPlace.isOver] at «open» <;>
      simp only [LauncherPlace.callsLeft] <;> omega

/-- Killing its child leaves fewer steps. -/
theorem Kept.shrinks_killMiddle (kept : state.Kept index)
    (taken : state.step path pidPath index .killMiddle = some after) :
    after.stepsLeft index < state.stepsLeft index := by
  obtain ⟨place, present, _⟩ := kept.fits
  simp only [Launch.step] at taken
  split at taken
  · rename_i holds
    cases taken
    rw [stepsLeft_eq present, stepsLeft_beside present]
    cases was : state.middle <;> simp [was, MiddlePlace.holds] at holds <;>
      simp only [MiddlePlace.callsLeft] <;> omega
  · cases taken

/-- Killing the daemon leaves fewer steps. -/
theorem Kept.shrinks_killDaemon (kept : state.Kept index)
    (taken : state.step path pidPath index .killDaemon = some after) :
    after.stepsLeft index < state.stepsLeft index := by
  obtain ⟨place, present, _⟩ := kept.fits
  rw [stepsLeft_eq present]
  have present : state.world.daemons[index]? = some place := present
  simp only [Launch.step] at taken
  split at taken
  · rename_i holds
    have more := callsLeft_pos holds place
    obtain ⟨world, killed, rfl⟩ := Option.map_eq_some_iff.mp taken
    simp only [startupStep] at killed
    split at killed
    · rename_i inside
      cases killed
      have there : Launch.place index { state with
          world := { state.world with daemons := state.world.daemons.set index .killed }
          daemon := .killed } = some .killed := List.getElem?_set_self inside
      rw [stepsLeft_eq there]
      exact Nat.add_lt_add_left more _
    · cases killed
  · cases taken

/-- A process of a launch that takes a step has fewer left. -/
theorem Kept.shrinks (kept : state.Kept index) {action : LaunchAction} (own : action.isOwn = true)
    (taken : state.step path pidPath index action = some after) :
    after.stepsLeft index < state.stepsLeft index := by
  cases action with
  | launcher outcome => exact kept.shrinks_launcher taken
  | middle outcome => exact kept.shrinks_middle taken
  | daemon outcome emptied => exact kept.shrinks_daemon taken
  | killLauncher => exact kept.shrinks_killLauncher taken
  | killMiddle => exact kept.shrinks_killMiddle taken
  | killDaemon => exact kept.shrinks_killDaemon taken
  | others | otherPid => cases own

/-- What others do takes no step of the launch. -/
theorem Kept.stays (kept : state.Kept index) {action : LaunchAction} (other : action.isOwn = false)
    (taken : state.step path pidPath index action = some after) :
    after.stepsLeft index = state.stepsLeft index := by
  obtain ⟨place, present, fits⟩ := kept.fits
  cases action with
  | others action =>
    simp only [Launch.step] at taken
    split at taken
    · cases taken
    · rename_i apart
      obtain ⟨world, moved, rfl⟩ := Option.map_eq_some_iff.mp taken
      rw [stepsLeft_eq (startupStep_other (Bool.eq_false_iff.mpr apart) present moved),
        stepsLeft_eq present]
  | otherPid =>
    cases taken
    rfl
  | launcher | middle | daemon | killLauncher | killMiddle | killDaemon => cases other

/-- Some process of the launch can make its next call: the one that was started, its child, or a
daemon that has not announced itself. -/
def CanCall (path : SocketPath) (pidPath : String) (index : Nat) (state : Launch) : Prop :=
  (state.launcherStep (.ok ())).isSome = true ∨ (state.middleStep (.ok ())).isSome = true ∨
    state.daemon.isStarting = true ∧
      (state.daemonStep path pidPath index (.ok ()) false).isSome = true

/-- While the launcher waits, a daemon that is starting can make its next call. -/
theorem daemonStep_isSome {place : StartupPlace} (present : state.place index = some place)
    (fits : state.daemon.Fits place) (starts : state.daemon.isStarting = true)
    (waits : state.launcher = .waiting) (path : SocketPath) (pidPath : String) :
    (state.daemonStep path pidPath index (.ok ()) false).isSome = true := by
  cases was : state.daemon with
  | changing | redirecting | writingPid => simp [daemonStep, was]
  | starting =>
    rw [was] at fits
    have left : 0 < place.callsLeft := by
      obtain binds | ⟨_, _, rfl⟩ := fits
      · exact StartupPlace.callsLeft_pos binds
      · exact Nat.one_pos
    simp only [daemonStep, was, Option.isSome_map, call_isSome present left]
  | announcing =>
    rw [was] at fits
    obtain ⟨id, rfl⟩ := fits
    obtain ⟨middle, called⟩ := Option.isSome_iff_exists.mp
      (call_isSome present (by simp [StartupPlace.callsLeft]) path (.ok ()))
    have still := (call_frame called).1.trans waits
    simp [daemonStep, was, called, send, still]
  | droppingPid error =>
    rw [was] at fits
    obtain ⟨id, rfl⟩ := fits
    have made := call_isSome present (by simp [StartupPlace.callsLeft]) path (.error error)
    simp only [daemonStep, was, Option.isSome_map, made]
  | retracting =>
    rw [was] at fits
    obtain ⟨id, error, rfl⟩ := fits
    have made := call_isSome present (by simp [StartupPlace.callsLeft]) path (.ok ())
    simp only [daemonStep, was, Option.isSome_map, made]
  | reporting error => simp [daemonStep, was, send, waits]
  | absent | failed | running | removingPid | ended | killed =>
    rw [was] at starts
    cases starts

/-- Until the launcher has ended some process of the launch can make its next call. -/
theorem Kept.canCall (kept : state.Kept index) («open» : state.launcher.isOver = false)
    (path : SocketPath) (pidPath : String) : state.CanCall path pidPath index := by
  obtain ⟨place, present, fits⟩ := kept.fits
  cases was : state.launcher with
  | pairing | forking => exact .inl (by simp [launcherStep, was])
  | waiting =>
    by_cases starts : state.daemon.isStarting = true
    · exact .inr (.inr ⟨starts, daemonStep_isSome present fits starts was path pidPath⟩)
    · by_cases holds : state.middle.holds = true
      · refine .inr (.inl ?_)
        cases middle : state.middle with
        | absent | gone =>
          rw [middle] at holds
          cases holds
        | settingSession | forking | reporting | leaving => simp [middleStep, middle, send, was]
      · refine .inl ?_
        have unblocked :
            ¬(state.sent = [] ∧ (state.middle.holds || state.daemon.holds) = true) := by
          rintro ⟨quiet, blocked⟩
          have daemon : state.daemon.holds = true := by simpa [holds] using blocked
          have on : state.daemon.isServing = false := by
            cases kept.told with
            | nothing _ off => exact off
            | ready done _ => simp [done] at quiet
            | failed error said _ _ => simp [said] at quiet
          cases now : state.daemon with
          | absent | failed | ended | killed =>
            rw [now] at daemon
            cases daemon
          | running | removingPid =>
            rw [now] at on
            cases on
          | _ =>
            rw [now] at starts
            exact starts rfl
        simp only [launcherStep, was, if_neg unblocked, Option.isSome_some]
  | printed | exited | failed | killed =>
    rw [was] at «open»
    cases «open»

end Launch

section Answers

variable {path : SocketPath} {pidPath : String} {index : Nat} {first state : Launch}

/-- However the processes of a launch fail, are killed or interleave with other daemons, they take
31 steps at most, and until the process that was started has ended one of them can make its next
call. -/
theorem launch_answers {legal : Launch → LaunchAction → Prop} {actions : List LaunchAction}
    (initial : (launchMachine path pidPath index).start first)
    (run : (launchMachine path pidPath index).Run legal first actions state) :
    actions.countP LaunchAction.isOwn ≤ 31 ∧
      (state.launcher.isOver = false → state.CanCall path pidPath index) := by
  have reached := run.reachable (.start initial)
  refine ⟨?_, fun «open» => (Launch.kept_reachable reached).canCall «open» path pidPath⟩
  have bound := run.countP_le (Launch.stepsLeft index) LaunchAction.isOwn (.start initial)
    (fun state action after here step => by
      have kept := Launch.kept_reachable here
      cases own : action.isOwn with
      | true => exact Nat.le_of_lt (kept.shrinks own step.taken)
      | false => exact Nat.le_of_eq (kept.stays own step.taken))
    fun state action after here step own => (Launch.kept_reachable here).shrinks own step.taken
  have place : first.place index = some (.first path) := Launch.IsInitial.place initial
  have start : first.stepsLeft index = 31 := by
    rw [Launch.stepsLeft_eq place, Launch.IsInitial.launcher initial,
      Launch.IsInitial.middle initial, Launch.IsInitial.daemon initial]
    rfl
  omega

/-- A daemon is killed before it has bound its socket: the launcher has read the end of the line,
and no step is left. -/
theorem launch_answers_killed : ∃ state : Launch,
    state.launcher = .exited "parsing daemon readiness" ∧
      (forkActions ++ [LaunchAction.killDaemon, .launcher (.ok ())]).countP LaunchAction.isOwn ≤
        31 := by
  let killed : Launch :=
    ⟨⟨none, 0, [.killed]⟩, .exited "parsing daemon readiness", .gone, .killed, [], none⟩
  have ran : (launchMachine launchPath "/run/user/1/evix.pid" 0).execute (fun _ _ => True)
      firstLaunch (forkActions ++ [.killDaemon, .launcher (.ok ())]) = some killed := rfl
  exact ⟨killed, rfl, (launch_answers (firstLaunch_initial _) (Machine.run_of_execute ran)).1⟩

end Answers

end Evix
