import Evix.Verif.InitialMoves

/-!
# The flags of a session

The claim of the initial evaluation, the warm state and the stored error are behind two locks. A
call without a runtime stores its error only when the warm state is not locked, whether or not it
is the call that claimed the initial evaluation. The flags are consistent in every run in which
these calls do not disturb an initial evaluation of another task.
-/

namespace Evix

open Machines

/-- Whether the run of the initial evaluation is going on at a place. -/
def Place.isRunning : Place → Bool
  | .evaluatingInitial _ => true
  | _ => false

/-- Whether a task waits for the run of the initial evaluation. -/
def Session.running (session : Session) : Bool :=
  session.tasks.any fun task => task.place.isRunning

/-- The flags agree. -/
structure Session.Consistent (session : Session) : Prop where
  /-- A complete session has no error. -/
  clear : session.warm.completed = true → session.warm.error = none
  /-- A session with an error has no initial evaluation that is still going on. -/
  stopped : session.warm.error ≠ none → ∀ id ∈ session.initials, session.Ended id
  /-- A finished initial evaluation has left a graph or an error. -/
  finished : session.initial = .finished → session.warm.Settled

/-- A step of a task that does not disturb the flags. A call without a runtime stores its error
while the warm state is incomplete and no run of the initial evaluation is going on; one that found
the warm state locked finishes the initial evaluation when it is settled; and the task that claimed
the initial evaluation starts it while no error is stored. -/
def Place.Orderly (session : Session) : Place → TaskAction → Prop
  | .unspawned, .tried false => session.warm.completed = false ∧ session.running = false
  | .finishingUnspawned, .proceed => session.warm.Settled
  | .starting, .proceed => session.warm.error = none
  | _, _ => True

/-- A step that does not disturb the flags. -/
def Session.Orderly (session : Session) : SessionAction → Prop
  | .task index action => ∀ task ∈ session.tasks[index]?, task.place.Orderly session action
  | _ => True

/-- The invariant behind the flags. -/
structure Session.Flagged (session : Session) : Prop where
  /-- Only the owner has a role in the initial evaluation. -/
  claimed : ∀ (index : Nat) (task : Task), session.tasks[index]? = some task →
    task.place.role.isClaimed = true → session.owner = some index
  /-- A complete session has no error. -/
  clear : session.warm.completed = true → session.warm.error = none
  /-- A run that is going on has begun and not ended, and there is no error. -/
  running : ∀ task ∈ session.tasks, ∀ id, task.place = .evaluatingInitial id →
    session.warm.error = none ∧ id ∈ session.initials ∧ ¬ session.Ended id
  /-- A run that has begun has ended, or its task waits for it. -/
  started : ∀ id ∈ session.initials, session.Ended id ∨
    ∃ task ∈ session.tasks, task.place = .evaluatingInitial id
  /-- A run that failed leaves nothing complete. -/
  failing : ∀ task ∈ session.tasks, task.place.role = .failing → session.warm.completed = false
  /-- The initial evaluation is settled before it is finished. -/
  settled : ∀ task ∈ session.tasks, task.place.role = .finishing ∨ task.place.role = .failed →
    session.warm.Settled
  /-- A finished initial evaluation is settled. -/
  finished : session.initial = .finished → session.warm.Settled

/-- What is flagged is consistent. -/
theorem Session.Flagged.consistent {session : Session} (flagged : session.Flagged) :
    session.Consistent where
  clear := flagged.clear
  stopped := by
    intro error id member
    obtain ended | ⟨task, there, here⟩ := flagged.started id member
    · exact ended
    · exact absurd (flagged.running task there id here).1 error
  finished := flagged.finished

/-! ## Tasks beside the one that moves -/

namespace Task.Like

variable {old other : Task}

theorem role (like : old.Like other) : other.place.role = old.place.role := by
  obtain rfl | rfl := like
  · rfl
  · unfold Task.wake
    split <;> simp_all [Place.role]

theorem evaluatingInitial (like : old.Like other) {id : Nat} :
    other.place = .evaluatingInitial id ↔ old.place = .evaluatingInitial id := by
  obtain rfl | rfl := like
  · rfl
  · unfold Task.wake
    split <;> simp_all

end Task.Like

namespace Session.Flagged

variable {session after : Session} {index position : Nat} {task other old : Task} {target : Place}
  {action : TaskAction}

/-- A task beside a claimed one has no role in the initial evaluation. -/
theorem unclaimed (flagged : session.Flagged) (found : session.tasks[index]? = some task)
    (was : session.tasks[position]? = some old) (claimed : old.place.role.isClaimed = true)
    (apart : position ≠ index) : task.place.role.isClaimed = false := by
  refine Bool.eq_false_of_not_eq_true fun second => apart ?_
  have mine := flagged.claimed index task found second
  have others := flagged.claimed position old was claimed
  exact Option.some.inj (others.symm.trans mine)

/-- Only a task that is going on with a complete session stores a difference. -/
theorem not_storing (sound : session.Sound) (found : session.tasks[index]? = some task)
    (incomplete : session.warm.completed = false) :
    ¬ ∃ previous id accumulator diff, task.place = .storing previous id accumulator diff := by
  rintro ⟨previous, id, accumulator, diff, here⟩
  have complete := sound.complete task (List.mem_of_getElem? found) (by rw [here]; rfl)
  rw [incomplete] at complete
  cases complete

/-- What a step beside a task of the initial evaluation leaves of the warm state. -/
theorem beside (flagged : session.Flagged) (sound : session.Sound)
    (found : session.tasks[index]? = some task)
    (move : InitialMove session task.place action after target)
    (was : session.tasks[position]? = some old) (claimed : old.place.role.isClaimed = true)
    (apart : position ≠ index) (incomplete : session.warm.completed = false) :
    after.warm.completed = false ∧ (after.warm.error = session.warm.error ∨
      task.place = .unspawned ∧ action = .tried false) := by
  have free := flagged.unclaimed found was claimed apart
  obtain ⟨completed, error⟩ | ⟨_, storing | round⟩ | ⟨⟨completed, _⟩, failing | tried⟩ :=
    move.warm
  · exact ⟨completed.trans incomplete, .inl error⟩
  · rw [storing] at free
    cases free
  · exact (not_storing sound found incomplete round).elim
  · rw [failing] at free
    cases free
  · exact ⟨completed.trans incomplete, .inr tried⟩

/-! ## Every step keeps the invariant -/

theorem claimed_step (flagged : session.Flagged) (found : session.tasks[index]? = some task)
    (move : InitialMove session task.place action after target)
    (change : Change session task.place after)
    (there : (after.setPlace index task target).tasks[position]? = some other)
    (claimed : other.place.role.isClaimed = true) : after.owner = some position := by
  rw [move.owner]
  obtain ⟨rfl, rfl⟩ | ⟨_, old, was, like⟩ := change.getElem? there
  · exact flagged.claimed position task found (move.claimed claimed)
  · exact flagged.claimed position old was (like.role ▸ claimed)

theorem clear_step (flagged : session.Flagged) (found : session.tasks[index]? = some task)
    (move : InitialMove session task.place action after target)
    (orderly : task.place.Orderly session action) (completed : after.warm.completed = true) :
    after.warm.error = none := by
  obtain ⟨flag, error⟩ | ⟨⟨_, error⟩, _⟩ | ⟨⟨flag, _⟩, failing | ⟨here, rfl⟩⟩ := move.warm
  · rw [error]
    exact flagged.clear (flag.symm.trans completed)
  · exact error
  · have incomplete := flagged.failing task (List.mem_of_getElem? found) failing
    rw [flag, incomplete] at completed
    cases completed
  · rw [here] at orderly
    rw [flag, orderly.1] at completed
    cases completed

/-- The task that moved waits for a run that has begun and not ended. -/
theorem running_self (flagged : session.Flagged) (found : session.tasks[index]? = some task)
    {id : Nat} (move : InitialMove session task.place action after (.evaluatingInitial id))
    (orderly : task.place.Orderly session action) :
    after.warm.error = none ∧ id ∈ after.initials ∧ ¬ after.Ended id := by
  have member := List.mem_of_getElem? found
  generalize here : task.place = place at move orderly
  generalize now : Place.evaluatingInitial id = target at move
  cases move with
  | start =>
    obtain rfl := Place.evaluatingInitial.inj now
    refine ⟨orderly, List.mem_append_right _ (List.mem_singleton_self _), fun ended => ?_⟩
    exact Nat.lt_irrefl _ (Session.ended_launch ended).inside
  | go taken =>
    obtain rfl := Place.evaluatingInitial.inj now
    obtain ⟨error, begun, going⟩ := flagged.running task member _ here
    have flags := (Session.flags_evaluate taken).1
    simp only [Session.flags, Prod.mk.injEq] at flags
    rw [flags.2.2.1, flags.2.2.2.2]
    refine ⟨error, begun, fun ended => ?_⟩
    obtain before | ⟨_, quiet⟩ := Session.ended_evaluate taken ended
    · exact going before
    · exact quiet _ rfl
  | pass _ _ _ _ role =>
    subst now
    obtain ⟨other, _⟩ | ⟨waiting, _⟩ := role
    · cases other
    · cases waiting
  | stop _ role =>
    subst now
    obtain storing | failing := role
    · cases storing
    · cases failing
  | finish role =>
    subst now
    obtain waiting | other := role
    · cases waiting
    · cases other
  | wake _ role =>
    subst now
    cases role
  | round role =>
    subst now
    cases role
  | park | leave | enter | try_ | close | closed | store | fail | record | notify | conclude =>
    cases now

theorem running_step (flagged : session.Flagged) (sound : session.Sound)
    (found : session.tasks[index]? = some task)
    (move : InitialMove session task.place action after target)
    (change : Change session task.place after) (orderly : task.place.Orderly session action)
    (there : (after.setPlace index task target).tasks[position]? = some other) {id : Nat}
    (here : other.place = .evaluatingInitial id) :
    after.warm.error = none ∧ id ∈ after.initials ∧ ¬ after.Ended id := by
  obtain ⟨rfl, rfl⟩ | ⟨apart, old, was, like⟩ := change.getElem? there
  · obtain rfl : target = .evaluatingInitial id := here
    exact flagged.running_self found move orderly
  · have waits := like.evaluatingInitial.mp here
    have member := List.mem_of_getElem? was
    obtain ⟨error, begun, going⟩ := flagged.running old member id waits
    have incomplete := sound.incomplete old member (by rw [waits]; rfl)
    have claimed : old.place.role.isClaimed = true := by rw [waits]; rfl
    refine ⟨?_, ?_, fun ended => ?_⟩
    · obtain ⟨_, same | ⟨unspawned, rfl⟩⟩ :=
        flagged.beside sound found move was claimed apart incomplete
      · exact same.trans error
      · rw [unspawned] at orderly
        have running : session.running = true :=
          List.any_eq_true.mpr ⟨old, member, by rw [waits]; rfl⟩
        have quiet := orderly.2
        rw [running] at quiet
        cases quiet
    · obtain same | ⟨_, _, grown⟩ := move.initials
      · rw [same]
        exact begun
      · rw [grown]
        exact List.mem_append_left _ begun
    · obtain before | ⟨previous, round⟩ | ⟨mine, _⟩ := move.ended ended
      · exact going before
      · have complete := sound.complete task (List.mem_of_getElem? found) (by rw [round]; rfl)
        rw [incomplete] at complete
        cases complete
      · have free := flagged.unclaimed found was claimed apart
        rw [mine] at free
        cases free

/-- A task that waited for a run goes on waiting, or the run has ended. -/
theorem waits_self {id : Nat} (here : task.place = .evaluatingInitial id)
    (move : InitialMove session task.place action after target) :
    target = .evaluatingInitial id ∨ after.Ended id := by
  rw [here] at move
  cases move with
  | go => exact .inl rfl
  | stop taken => exact .inr (Session.ended_of_returned taken)
  | pass _ _ _ _ role =>
    obtain ⟨_, other | waiting⟩ | ⟨_, waiting | joining⟩ := role
    · cases other
    · cases waiting
    · cases waiting
    · cases joining
  | wake failing => cases failing

theorem started_step (flagged : session.Flagged) (found : session.tasks[index]? = some task)
    (move : InitialMove session task.place action after target)
    (change : Change session task.place after) {id : Nat} (begun : id ∈ after.initials) :
    after.Ended id ∨
      ∃ other ∈ (after.setPlace index task target).tasks, other.place = .evaluatingInitial id := by
  have moved := change.getElem?_self target found
  have before : id ∈ session.initials → after.Ended id ∨
      ∃ other ∈ (after.setPlace index task target).tasks, other.place = .evaluatingInitial id := by
    intro begun
    obtain ended | ⟨old, member, waits⟩ := flagged.started id begun
    · exact .inl (move.keepsEnded id ended)
    · obtain ⟨position, was⟩ := List.getElem?_of_mem member
      by_cases same : position = index
      · subst same
        obtain rfl := Option.some.inj (found.symm.trans was)
        obtain still | ended := waits_self waits move
        · exact .inr ⟨_, List.mem_of_getElem? moved, still⟩
        · exact .inl ended
      · obtain ⟨other, there, like⟩ := change.getElem?_other target was same
        exact .inr ⟨other, List.mem_of_getElem? there, like.evaluatingInitial.mpr waits⟩
  obtain same | ⟨_, now, grown⟩ := move.initials
  · rw [same] at begun
    exact before begun
  · rw [grown] at begun
    obtain begun | rfl := mem_concat begun
    · exact before begun
    · exact .inr ⟨_, List.mem_of_getElem? moved, now⟩

/-- A task whose run failed has claimed the initial evaluation and not stored it. -/
theorem failing_self (move : InitialMove session task.place action after target)
    (failing : target.role = .failing) :
    task.place.role = .failing ∨ ∃ id, task.place = .evaluatingInitial id := by
  generalize task.place = place at move
  cases move with
  | pass _ _ _ _ role =>
    obtain ⟨other, _⟩ | ⟨waiting, _⟩ := role
    · rw [other] at failing
      cases failing
    · rw [waiting] at failing
      cases failing
  | finish role =>
    obtain waiting | other := role
    · rw [waiting] at failing
      cases failing
    · rw [other] at failing
      cases failing
  | round role =>
    rw [role] at failing
    cases failing
  | @stop id => exact .inr ⟨id, rfl⟩
  | wake failing => exact .inl failing
  | fail => exact .inl rfl
  | park | leave | enter | try_ | close | closed | start | go | store | record | notify
  | conclude => cases failing

theorem failing_step (flagged : session.Flagged) (sound : session.Sound)
    (found : session.tasks[index]? = some task)
    (move : InitialMove session task.place action after target)
    (change : Change session task.place after)
    (there : (after.setPlace index task target).tasks[position]? = some other)
    (failing : other.place.role = .failing) : after.warm.completed = false := by
  have member := List.mem_of_getElem? found
  obtain ⟨rfl, rfl⟩ | ⟨apart, old, was, like⟩ := change.getElem? there
  · have before : session.warm.completed = false ∧ task.place.role ≠ .storing := by
      obtain mine | ⟨id, waits⟩ := failing_self move failing
      · exact ⟨flagged.failing task member mine, by rw [mine]; nofun⟩
      · exact ⟨sound.incomplete task member (by rw [waits]; rfl), by rw [waits]; nofun⟩
    obtain ⟨same, _⟩ | ⟨_, storing | round⟩ | ⟨⟨same, _⟩, _⟩ := move.warm
    · exact same.trans before.1
    · exact absurd storing before.2
    · exact (not_storing sound found before.1 round).elim
    · exact same.trans before.1
  · have mine : old.place.role = .failing := like.role ▸ failing
    have incomplete := flagged.failing old (List.mem_of_getElem? was) mine
    exact (flagged.beside sound found move was (by rw [mine]; rfl) apart incomplete).1

/-- A task stores a result or an error before it is about to finish the initial evaluation. -/
theorem settled_self (move : InitialMove session task.place action after target)
    (role : target.role = .finishing ∨ target.role = .failed) :
    after.warm.Settled ∨ task.place.role = .failed := by
  generalize task.place = place at move
  cases move with
  | store => exact .inl (.inl rfl)
  | record => exact .inl (.inr nofun)
  | notify => exact .inr rfl
  | pass _ _ _ _ moved =>
    obtain ⟨other, _⟩ | ⟨waiting, _⟩ := moved
    · simp [other] at role
    · simp [waiting] at role
  | stop _ moved =>
    obtain storing | failing := moved
    · simp [storing] at role
    · simp [failing] at role
  | finish moved =>
    obtain waiting | other := moved
    · simp [waiting] at role
    · simp [other] at role
  | wake _ moved | round moved => simp [moved] at role
  | park | leave | enter | try_ | close | closed | start | go | fail | conclude =>
    simp [Place.role] at role

theorem settled_step (flagged : session.Flagged) (found : session.tasks[index]? = some task)
    (move : InitialMove session task.place action after target)
    (change : Change session task.place after)
    (there : (after.setPlace index task target).tasks[position]? = some other)
    (role : other.place.role = .finishing ∨ other.place.role = .failed) :
    after.warm.Settled := by
  obtain ⟨rfl, rfl⟩ | ⟨_, old, was, like⟩ := change.getElem? there
  · obtain settled | failed := settled_self move role
    · exact settled
    · exact move.settled (flagged.settled task (List.mem_of_getElem? found) (.inr failed))
  · rw [like.role] at role
    exact move.settled (flagged.settled old (List.mem_of_getElem? was) role)

theorem finished_step (flagged : session.Flagged) (found : session.tasks[index]? = some task)
    (move : InitialMove session task.place action after target)
    (orderly : task.place.Orderly session action) (finished : after.initial = .finished) :
    after.warm.Settled := by
  have member := List.mem_of_getElem? found
  refine move.settled ?_
  obtain same | finishing | ⟨error, here⟩ | ⟨here, rfl⟩ := move.initial
  · exact flagged.finished (same.symm.trans finished)
  · exact flagged.settled task member (.inl finishing)
  · exact flagged.settled task member (.inr (by rw [here]; rfl))
  · rw [here] at orderly
    exact orderly

/-- A step of a task keeps the invariant. -/
theorem taskStep (flagged : session.Flagged) (sound : session.Sound)
    (found : session.tasks[index]? = some task)
    (move : InitialMove session task.place action after target)
    (change : Change session task.place after) (orderly : task.place.Orderly session action) :
    (after.setPlace index task target).Flagged where
  claimed := by
    intro position other there claimed
    have owner : after.owner = some position :=
      flagged.claimed_step found move change there claimed
    exact owner
  clear := by
    have clear : after.warm.completed = true → after.warm.error = none :=
      flagged.clear_step found move orderly
    exact clear
  running := by
    intro other member id here
    obtain ⟨position, there⟩ := List.getElem?_of_mem member
    exact flagged.running_step sound found move change orderly there here
  started := by
    intro id begun
    exact flagged.started_step found move change begun
  failing := by
    intro other member failing
    obtain ⟨position, there⟩ := List.getElem?_of_mem member
    have incomplete : after.warm.completed = false :=
      flagged.failing_step sound found move change there failing
    exact incomplete
  settled := by
    intro other member role
    obtain ⟨position, there⟩ := List.getElem?_of_mem member
    have settled : after.warm.Settled := flagged.settled_step found move change there role
    exact settled
  finished := by
    have finished : after.initial = .finished → after.warm.Settled :=
      flagged.finished_step found move orderly
    exact finished

/-- A new task that does not claim the initial evaluation. -/
theorem spawn (flagged : session.Flagged) {fresh : Task}
    (unclaimed : fresh.place.role.isClaimed = false) : (session.spawn fresh).Flagged where
  claimed := by
    intro position other there claimed
    obtain was | ⟨_, rfl⟩ := getElem?_concat there
    · exact flagged.claimed position other was claimed
    · rw [unclaimed] at claimed
      cases claimed
  clear := flagged.clear
  running := by
    intro other member id here
    obtain old | rfl := mem_concat member
    · exact flagged.running other old id here
    · rw [here] at unclaimed
      cases unclaimed
  started := by
    intro id begun
    obtain ended | ⟨other, member, here⟩ := flagged.started id begun
    · exact .inl ended
    · exact .inr ⟨other, List.mem_append_left _ member, here⟩
  failing := by
    intro other member failing
    obtain old | rfl := mem_concat member
    · exact flagged.failing other old failing
    · rw [failing] at unclaimed
      cases unclaimed
  settled := by
    intro other member role
    obtain old | rfl := mem_concat member
    · exact flagged.settled other old role
    · obtain finishing | failed := role
      · rw [finishing] at unclaimed
        cases unclaimed
      · rw [failed] at unclaimed
        cases unclaimed
  finished := flagged.finished

/-- A new task that claims the initial evaluation. -/
theorem claim (flagged : session.Flagged) (sound : session.Sound) (idle : session.initial = .idle)
    (call : Call) : (session.startInitial.spawn ⟨call, .spawning true⟩).Flagged := by
  rw [Session.startInitial_idle idle]
  have vacant : ∀ other ∈ session.tasks, other.place.role.isClaimed = true → False := by
    intro other member claimed
    obtain ⟨position, was⟩ := List.getElem?_of_mem member
    have owner := flagged.claimed position other was claimed
    rw [(sound.idle idle).1] at owner
    cases owner
  refine ⟨?_, flagged.clear, ?_, ?_, ?_, ?_, nofun⟩
  · intro position other there claimed
    obtain was | ⟨rfl, rfl⟩ := getElem?_concat there
    · exact (vacant other (List.mem_of_getElem? was) claimed).elim
    · rfl
  · intro other member id here
    obtain old | rfl := mem_concat member
    · exact (vacant other old (by rw [here]; rfl)).elim
    · cases here
  · intro id begun
    have none : session.initials = [] := sound.unowned (sound.idle idle).1
    have begun : id ∈ session.initials := begun
    rw [none] at begun
    cases begun
  · intro other member failing
    obtain old | rfl := mem_concat member
    · exact (vacant other old (by rw [failing]; rfl)).elim
    · cases failing
  · intro other member role
    obtain old | rfl := mem_concat member
    · obtain finishing | failed := role
      · exact (vacant other old (by rw [finishing]; rfl)).elim
      · exact (vacant other old (by rw [failed]; rfl)).elim
    · obtain finishing | failed := role
      · cases finishing
      · cases failed

/-- Waking the waiters keeps the invariant. -/
theorem notifyWaiters (flagged : session.Flagged) : session.notifyWaiters.Flagged := by
  refine ⟨?_, flagged.clear, ?_, ?_, ?_, ?_, flagged.finished⟩
  · intro position other there claimed
    obtain ⟨old, was, like⟩ := getElem?_notifyWaiters there
    exact flagged.claimed position old was (like.role ▸ claimed)
  · intro other member id here
    obtain ⟨old, was, like⟩ := mem_notifyWaiters member
    exact flagged.running old was id (like.evaluatingInitial.mp here)
  · intro id begun
    obtain ended | ⟨old, was, here⟩ := flagged.started id begun
    · exact .inl ended
    · exact .inr ⟨old.wake, List.mem_map_of_mem was,
        Task.Like.evaluatingInitial (.inr rfl) |>.mpr here⟩
  · intro other member failing
    obtain ⟨old, was, like⟩ := mem_notifyWaiters member
    exact flagged.failing old was (like.role ▸ failing)
  · intro other member role
    obtain ⟨old, was, like⟩ := mem_notifyWaiters member
    exact flagged.settled old was (like.role ▸ role)

/-- Every step that does not disturb the flags keeps the invariant. -/
theorem step (flagged : session.Flagged) (sound : session.Sound) {action : SessionAction}
    (orderly : session.Orderly action) (taken : sessionStep session action = some after) :
    after.Flagged := by
  cases sessionStep_moves taken with
  | claim idle => exact flagged.claim sound idle _
  | join | refuse | read => exact flagged.spawn rfl
  | cancel =>
    exact ⟨flagged.claimed, flagged.clear, flagged.running, flagged.started, flagged.failing,
      flagged.settled, flagged.finished⟩
  | wake => exact flagged.notifyWaiters
  | task found stepped =>
    exact flagged.taskStep sound found (taskStep_moves stepped) (taskStep_change stepped).1
      (orderly _ found)

end Session.Flagged

/-- A session just opened. -/
theorem flagged_opened : Session.opened.Flagged where
  claimed := fun _ _ there => by cases there
  clear := nofun
  running := fun _ member => absurd member List.not_mem_nil
  started := fun _ begun => absurd begun List.not_mem_nil
  failing := fun _ member => absurd member List.not_mem_nil
  settled := fun _ member => absurd member List.not_mem_nil
  finished := nofun

/-- Every session reached by orderly steps. -/
theorem flagged_reachable {session : Session}
    (reached : sessionMachine.Reachable Session.Orderly session) : session.Flagged := by
  refine reached.invariant ?_ fun _ _ _ before flagged orderly taken =>
    flagged.step (sound_reachable before) orderly taken
  rintro _ rfl
  exact flagged_opened

/-! ## The flags are consistent -/

instance Place.decidableOrderly (session : Session) (place : Place) (action : TaskAction) :
    Decidable (place.Orderly session action) := by
  unfold Place.Orderly WarmState.Settled
  split <;> infer_instance

instance Session.decidableOrderly (session : Session) (action : SessionAction) :
    Decidable (session.Orderly action) :=
  match action with
  | .task index action =>
    inferInstanceAs
      (Decidable (∀ task ∈ session.tasks[index]?, task.place.Orderly session action))
  | .call .. | .cancel | .cancelNotify => isTrue trivial

/-- A step of a task after which the flags are consistent did not disturb them. -/
theorem orderly_of_consistent {session after : Session} {index : Nat} {task : Task} {target : Place}
    {action : TaskAction} (flagged : session.Flagged)
    (move : InitialMove session task.place action after target)
    (consistent : (after.setPlace index task target).Consistent) :
    task.place.Orderly session action := by
  unfold Place.Orderly
  generalize here : task.place = place at move
  split
  · cases move with
    | try_ =>
      have error : (session.setError noRuntimeMessage).warm.error ≠ none := nofun
      refine ⟨Bool.eq_false_of_not_eq_true fun completed => error (consistent.clear completed), ?_⟩
      refine Bool.eq_false_of_not_eq_true fun running => ?_
      obtain ⟨other, member, waits⟩ := List.any_eq_true.mp running
      obtain ⟨id, place⟩ : ∃ id, other.place = .evaluatingInitial id := by
        unfold Place.isRunning at waits
        split at waits
        · rename_i id there
          exact ⟨id, there⟩
        · cases waits
      obtain ⟨_, begun, going⟩ := flagged.running other member id place
      exact going (consistent.stopped error id begun)
    | pass _ _ _ _ role => obtain ⟨_, role | role⟩ | ⟨_, role | role⟩ := role <;> cases role
  · cases move with
    | close => exact consistent.finished rfl
    | pass _ _ _ _ role => obtain ⟨_, role | role⟩ | ⟨_, role | role⟩ := role <;> cases role
    | wake failing => cases failing
  · cases move with
    | start =>
      by_contra error
      have begun : session.evaluations.length ∈ session.initials ++ [session.evaluations.length] :=
        List.mem_append_right _ (List.mem_singleton_self _)
      have ended := consistent.stopped error _ begun
      exact Nat.lt_irrefl _ (Session.ended_launch ended).inside
    | pass _ _ _ _ role => obtain ⟨_, role | role⟩ | ⟨_, role | role⟩ := role <;> cases role
    | wake failing => cases failing
  · trivial

/-- In every run whose steps do not disturb the flags they are consistent, and the first step that
disturbs them leaves them inconsistent. -/
theorem session_flags {session : Session}
    (reached : sessionMachine.Reachable Session.Orderly session) :
    session.Consistent ∧ ∀ action after, sessionStep session action = some after →
      (after.Consistent ↔ session.Orderly action) := by
  have flagged := flagged_reachable reached
  refine ⟨flagged.consistent, fun action after taken => ⟨fun consistent => ?_, fun orderly => ?_⟩⟩
  · cases sessionStep_moves taken with
    | claim | join | refuse | read | cancel | wake => trivial
    | task found stepped =>
      intro task there
      obtain rfl := Option.some.inj (found.symm.trans there)
      exact orderly_of_consistent flagged (taskStep_moves stepped) consistent
  · exact (flagged_reachable (reached.next orderly taken)).consistent

/-- A stream without a runtime fails, and a watch that comes later without a runtime fails too. -/
theorem session_flags_unspawned : ∃ session : Session, session.Consistent ∧
    session.initial = .finished ∧ session.warm.error = some noRuntimeMessage := by
  obtain ⟨session, reached, checked⟩ := Machine.reachable_of_execute sessionMachine
    Session.Orderly .opened
    [.call .stream false, .task 0 (.spawned false), .task 0 (.tried false), .task 0 .proceed,
      .task 0 .proceed, .call .watch false, .task 1 (.spawned false), .task 1 (.tried false)]
    (fun session => session.initial = .finished ∧ session.warm.error = some noRuntimeMessage)
    rfl (by decide)
  exact ⟨session, (session_flags reached).1, of_decide_eq_true checked⟩

/-- A watch without a runtime stores its error in a complete session, or while the run of another
task goes on; and a stream that has no runtime and finds the warm state locked leaves nothing. -/
theorem session_flags_disturbed :
    (∃ session : Session, sessionMachine.Reachable (fun _ _ => True) session ∧
      session.warm.completed = true ∧ session.warm.error ≠ none) ∧
    (∃ session : Session, sessionMachine.Reachable (fun _ _ => True) session ∧
      session.warm.error ≠ none ∧ ∃ id ∈ session.initials, ¬ session.Ended id) ∧
    ∃ session : Session, sessionMachine.Reachable (fun _ _ => True) session ∧
      session.initial = .finished ∧ ¬ session.warm.Settled := by
  refine ⟨?_, ?_, ?_⟩
  · obtain ⟨session, reached, checked⟩ := Machine.reachable_of_execute sessionMachine
      (fun _ _ => True) .opened
      (streams 0 [] ++
        [.call .watch false, .task 1 (.spawned false), .task 1 (.tried false)])
      (fun session => session.warm.completed = true ∧ session.warm.error ≠ none) rfl (by decide)
    exact ⟨session, reached, of_decide_eq_true checked⟩
  · obtain ⟨session, reached, checked⟩ := Machine.reachable_of_execute sessionMachine
      (fun _ _ => True) .opened
      [.call .stream false, .task 0 (.spawned true), .task 0 .proceed, .call .watch false,
        .task 1 (.spawned false), .task 1 (.tried false)]
      (fun session => session.warm.error ≠ none ∧ 0 ∈ session.initials ∧
        session.evaluations.map Evaluation.ended = [none]) rfl (by decide)
    obtain ⟨error, begun, running⟩ := of_decide_eq_true checked
    refine ⟨session, reached, error, 0, begun, ?_⟩
    rintro ⟨evaluation, found, ended⟩
    have first : (session.evaluations.map Evaluation.ended)[0]? = some evaluation.ended := by
      rw [List.getElem?_map, found]
      rfl
    rw [running] at first
    exact ended (Option.some.inj first).symm
  · obtain ⟨session, reached, checked⟩ := Machine.reachable_of_execute sessionMachine
      (fun _ _ => True) .opened
      [.call .stream false, .task 0 (.spawned false), .task 0 (.tried true), .task 0 .proceed]
      (fun session => session.initial = .finished ∧ session.warm.completed = false ∧
        session.warm.error = none) rfl (by decide)
    obtain ⟨finished, incomplete, clear⟩ := of_decide_eq_true checked
    refine ⟨session, reached, finished, ?_⟩
    rintro (completed | error)
    · rw [incomplete] at completed
      cases completed
    · exact error clear

end Evix
