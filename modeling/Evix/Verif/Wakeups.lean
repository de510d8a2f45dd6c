import Evix.Verif.Flags

/-!
# No lost wake-up

A watch that did not claim the initial evaluation creates its notification, reads the warm state
and waits. Every place at which the task of the initial evaluation may end it is followed by a
call that wakes the waiters, and a watch that parks has read the warm state before that.
-/

namespace Evix

open Machines

/-- Whether a task at a place is in the initial evaluation and has yet to wake the waiters, however
it goes on. -/
def Place.owesNotify : Place → Bool
  | .spawning true | .starting | .evaluatingInitial _ | .storingInitial .. | .notifyingCancelled
  | .storingFailure _ | .notifyingFailure _ | .recordingError .. | .notifyingError _ => true
  | _ => false

/-- A step inside a runtime. -/
def Attended (_session : Session) : SessionAction → Prop
  | .task _ (.spawned runtime) => runtime = true
  | _ => True

instance (session : Session) (action : SessionAction) : Decidable (Attended session action) := by
  unfold Attended
  split <;> infer_instance

/-- The task of the initial evaluation has not finished and has yet to wake the waiters. -/
def Session.Owing (session : Session) : Prop :=
  ∃ owner worker, session.owner = some owner ∧ session.tasks[owner]? = some worker ∧
    worker.place.owesNotify = true

/-- No watch is parked without having been woken. -/
def Session.Quiet (session : Session) : Prop :=
  ∀ task ∈ session.tasks, task.place ≠ .parked false

/-- No wake-up is lost. -/
structure Session.Attentive (session : Session) : Prop where
  /-- A watch that is parked and not woken will be woken by the task of the initial evaluation. -/
  parked : ∀ task ∈ session.tasks, task.place = .parked false → session.Owing
  /-- A task that has yet to wake the waiters has so after its step, or has woken them. -/
  kept : ∀ (index : Nat) (task : Task) (action : TaskAction) (after : Session),
    session.tasks[index]? = some task → task.place.owesNotify = true →
      Attended session (.task index action) →
      sessionStep session (.task index action) = some after →
      (∃ next, after.tasks[index]? = some next ∧ next.place.owesNotify = true) ∨ after.Quiet
  /-- Nobody is left behind when the session is complete or the initial evaluation finished. -/
  attended : session.warm.completed = true ∨ session.initial = .finished → session.Quiet

/-- The invariant behind the wake-ups. -/
structure Session.Wakeful (session : Session) : Prop where
  /-- The flags are consistent. -/
  flagged : session.Flagged
  /-- No task is without a runtime. -/
  attended : ∀ task ∈ session.tasks, task.place.role ≠ .unspawned ∧ task.place.role ≠ .closing
  /-- Before the first claim nothing has happened. -/
  vacant : session.owner = none → session.initial = .idle ∧ session.warm.error = none
  /-- A watch that waits, or is about to, waits for an owner. -/
  waiting : ∀ task ∈ session.tasks, task.place.role = .waiting ∨ task.place.role = .joining →
    session.owner ≠ none
  /-- There is no error while the run is going on. -/
  going : ∀ task ∈ session.tasks, task.place.role = .going → session.warm.error = none
  /-- Nothing is complete or finished before the last wake-up. -/
  owing : ∀ task ∈ session.tasks, task.place.owesNotify = true →
    session.warm.completed = false ∧ session.initial ≠ .finished
  /-- The owner leaves a graph or an error before it ceases to owe a wake-up. -/
  live : session.owner ≠ none → session.warm.Settled ∨ session.Owing
  /-- A watch that is parked and not woken will be woken. -/
  parked : ∀ task ∈ session.tasks, task.place = .parked false → session.Owing

/-- What a task that owes a wake-up has to do with the initial evaluation. -/
theorem Place.role_of_owesNotify {place : Place} (owes : place.owesNotify = true) :
    place.role = .going ∨ place.role = .storing ∨ place.role = .failing ∨
      ∃ error, place = .notifyingError error := by
  unfold Place.owesNotify at owes
  split at owes
  · exact .inl rfl
  · exact .inl rfl
  · exact .inl rfl
  · exact .inr (.inl rfl)
  · exact .inr (.inr (.inl rfl))
  · exact .inr (.inr (.inl rfl))
  · exact .inr (.inr (.inl rfl))
  · exact .inr (.inr (.inl rfl))
  · exact .inr (.inr (.inr ⟨_, rfl⟩))
  · cases owes

/-- Before the final error is stored a task of the initial evaluation owes a wake-up. -/
theorem Place.owesNotify_of_role {place : Place}
    (role : place.role = .going ∨ place.role = .storing ∨ place.role = .failing) :
    place.owesNotify = true := by
  unfold Place.role at role
  split at role <;> first | rfl | simp at role

/-- A task that owes a wake-up has claimed the initial evaluation. -/
theorem Place.claimed_of_owesNotify {place : Place} (owes : place.owesNotify = true) :
    place.role.isClaimed = true := by
  obtain going | storing | failing | ⟨error, rfl⟩ := place.role_of_owesNotify owes
  · rw [going]; rfl
  · rw [storing]; rfl
  · rw [failing]; rfl
  · rfl

/-- A task that is woken waits no longer. -/
theorem Task.wake_woken (task : Task) :
    task.wake.place ≠ .parked false ∧ task.wake.place ≠ .inspecting false := by
  unfold Task.wake
  split
  · exact ⟨nofun, nofun⟩
  · exact ⟨nofun, nofun⟩
  · rename_i inspecting parked
    exact ⟨parked false, inspecting false⟩

theorem Task.Like.owesNotify {old other : Task} (like : old.Like other) :
    other.place.owesNotify = old.place.owesNotify := by
  obtain rfl | rfl := like
  · rfl
  · unfold Task.wake
    split <;> simp_all [Place.owesNotify]

namespace InitialMove

variable {session after : Session} {place target : Place} {action : TaskAction}

/-- A task that owes a wake-up still owes it, or wakes the waiters and is about to finish. -/
theorem owes (move : InitialMove session place action after target)
    (owes : place.owesNotify = true) (attended : action ≠ .spawned false) :
    target.owesNotify = true ∨ after.tasks = session.tasks.map Task.wake ∧
      (target.role = .finishing ∨ target.role = .failed) := by
  cases move with
  | store => exact .inr ⟨rfl, .inl rfl⟩
  | notify => exact .inr ⟨rfl, .inr rfl⟩
  | enter | start | go | fail | record => exact .inl rfl
  | stop _ role =>
    obtain storing | failing := role
    · exact .inl (target.owesNotify_of_role (.inr (.inl storing)))
    · exact .inl (target.owesNotify_of_role (.inr (.inr failing)))
  | wake _ role => exact .inl (target.owesNotify_of_role (.inr (.inr role)))
  | pass _ _ _ _ role =>
    have claimed := place.claimed_of_owesNotify owes
    obtain ⟨_, role | role⟩ | ⟨_, role | role⟩ := role <;> rw [role] at claimed <;> cases claimed
  | leave => exact absurd rfl attended
  | park | try_ | close | closed | finish | conclude | round => cases owes

/-- A task that stores its result is about to finish the initial evaluation. -/
theorem stored (move : InitialMove session place action after target)
    (storing : place.role = .storing) : target = .finishing := by
  cases move with
  | store => rfl
  | pass _ _ _ _ role =>
    obtain ⟨_, role | role⟩ | ⟨_, role | role⟩ := role <;> rw [role] at storing <;> cases storing
  | leave starts => cases starts <;> cases storing
  | wake failing =>
    rw [failing] at storing
    cases storing
  | park | try_ | enter | close | closed | start | go | stop | finish | fail | record | notify
  | conclude | round => cases storing

/-- A task that owes a wake-up owed it before. -/
theorem owed (move : InitialMove session place action after target)
    (owes : target.owesNotify = true) : place.owesNotify = true := by
  have claimed := move.claimed (target.claimed_of_owesNotify owes)
  cases move with
  | enter | start | go | stop | fail | record => rfl
  | wake failing => exact place.owesNotify_of_role (.inr (.inr failing))
  | pass _ _ _ _ role =>
    obtain ⟨_, role | role⟩ | ⟨_, role | role⟩ := role <;> rw [role] at claimed <;> cases claimed
  | finish role =>
    have waits := target.claimed_of_owesNotify owes
    obtain role | role := role <;> rw [role] at waits <;> cases waits
  | leave | store | notify | conclude => cases owes
  | park | try_ | close | closed | round => cases claimed

end InitialMove

namespace Session.Wakeful

variable {session after : Session} {index position : Nat} {task other old : Task} {target : Place}
  {action : TaskAction}

/-- Inside a runtime no step disturbs the flags. -/
theorem orderly (wakeful : session.Wakeful) (found : session.tasks[index]? = some task) :
    task.place.Orderly session action := by
  have member := List.mem_of_getElem? found
  have attended := wakeful.attended task member
  have going := wakeful.going task member
  generalize task.place = place at attended going
  unfold Place.Orderly
  split
  · exact (attended.1 rfl).elim
  · exact (attended.2 rfl).elim
  · exact going rfl
  · trivial

/-- Another task than the owner does not touch the flags while the owner owes a wake-up. -/
theorem beside (wakeful : session.Wakeful) (sound : session.Sound)
    (found : session.tasks[index]? = some task)
    (move : InitialMove session task.place action after target)
    (was : session.tasks[position]? = some old) (owes : old.place.owesNotify = true)
    (apart : position ≠ index) :
    after.warm.completed = false ∧ after.warm.error = session.warm.error ∧
      after.initial ≠ .finished := by
  have member := List.mem_of_getElem? found
  have claimed := old.place.claimed_of_owesNotify owes
  obtain ⟨incomplete, going⟩ := wakeful.owing old (List.mem_of_getElem? was) owes
  have free := wakeful.flagged.unclaimed found was claimed apart
  obtain ⟨kept, same | ⟨unspawned, _⟩⟩ :=
    wakeful.flagged.beside sound found move was claimed apart incomplete
  · refine ⟨kept, same, ?_⟩
    obtain same | finishing | ⟨error, here⟩ | ⟨here, _⟩ := move.initial
    · rw [same]
      exact going
    · rw [finishing] at free
      cases free
    · rw [here] at free
      cases free
    · have attended := (wakeful.attended task member).2
      rw [here] at attended
      exact (attended rfl).elim
  · have attended := (wakeful.attended task member).1
    rw [unspawned] at attended
    exact (attended rfl).elim

/-! ## Every step keeps the invariant -/

theorem attended_self (wakeful : session.Wakeful) (found : session.tasks[index]? = some task)
    (move : InitialMove session task.place action after target)
    (attended : action ≠ .spawned false) :
    target.role ≠ .unspawned ∧ target.role ≠ .closing := by
  have before := wakeful.attended task (List.mem_of_getElem? found)
  generalize task.place = place at move before
  cases move with
  | leave => exact (attended rfl).elim
  | try_ => exact (before.1 rfl).elim
  | close => exact (before.2 rfl).elim
  | pass _ _ _ _ role => obtain ⟨role, _⟩ | ⟨role, _⟩ := role <;> rw [role] <;> exact ⟨nofun, nofun⟩
  | stop _ role | finish role => obtain role | role := role <;> rw [role] <;> exact ⟨nofun, nofun⟩
  | wake _ role | round role => rw [role]; exact ⟨nofun, nofun⟩
  | park | enter | closed | start | go | store | fail | record | notify | conclude =>
    exact ⟨nofun, nofun⟩

theorem vacant_step (wakeful : session.Wakeful) (found : session.tasks[index]? = some task)
    (move : InitialMove session task.place action after target) (vacant : after.owner = none) :
    after.initial = .idle ∧ after.warm.error = none := by
  have attended := wakeful.attended task (List.mem_of_getElem? found)
  have vacant : session.owner = none := move.owner ▸ vacant
  have unclaimed : task.place.role.isClaimed = false := by
    refine Bool.eq_false_of_not_eq_true fun claimed => ?_
    have owner := wakeful.flagged.claimed index task found claimed
    rw [vacant] at owner
    cases owner
  obtain ⟨idle, clear⟩ := wakeful.vacant vacant
  constructor
  · obtain same | finishing | ⟨error, here⟩ | ⟨here, _⟩ := move.initial
    · exact same.trans idle
    · rw [finishing] at unclaimed
      cases unclaimed
    · rw [here] at unclaimed
      cases unclaimed
    · rw [here] at attended
      exact (attended.2 rfl).elim
  · obtain ⟨_, same⟩ | ⟨⟨_, none⟩, _⟩ | ⟨_, failing | ⟨here, _⟩⟩ := move.warm
    · exact same.trans clear
    · exact none
    · rw [failing] at unclaimed
      cases unclaimed
    · rw [here] at attended
      exact (attended.1 rfl).elim

/-- A task waits for the owner it waited for, or was the owner. -/
theorem waiting_self (wakeful : session.Wakeful) (found : session.tasks[index]? = some task)
    (move : InitialMove session task.place action after target)
    (waits : target.role = .waiting ∨ target.role = .joining) : session.owner ≠ none := by
  have member := List.mem_of_getElem? found
  have claims : task.place.role.isClaimed = true → session.owner ≠ none := fun claimed => by
    rw [wakeful.flagged.claimed index task found claimed]
    nofun
  have keeps := wakeful.waiting task member
  generalize task.place = place at move claims keeps
  cases move with
  | pass _ _ _ _ role =>
    obtain ⟨other, _⟩ | ⟨_, waiting | joining⟩ := role
    · rw [other] at waits
      simp at waits
    · exact keeps (.inl waiting)
    · exact keeps (.inr joining)
  | park => exact keeps (.inl rfl)
  | finish => exact claims rfl
  | stop | store | fail | record | enter | start | go | notify | conclude => exact claims rfl
  | wake failing => exact claims (by rw [failing]; rfl)
  | round role => simp [role] at waits
  | leave | try_ | close | closed => simp [Place.role] at waits

/-- The run of a task that goes on has no error yet. -/
theorem going_self (wakeful : session.Wakeful) (found : session.tasks[index]? = some task)
    (move : InitialMove session task.place action after target) (going : target.role = .going) :
    after.warm.error = none := by
  have member := List.mem_of_getElem? found
  have role : task.place.role = .going := by
    generalize task.place = place at move
    cases move with
    | enter | start | go => rfl
    | pass _ _ _ _ role =>
      obtain ⟨role, _⟩ | ⟨role, _⟩ := role <;> rw [role] at going <;> cases going
    | stop _ role | finish role => obtain role | role := role <;> rw [role] at going <;> cases going
    | wake _ role | round role => rw [role] at going; cases going
    | park | leave | try_ | close | closed | store | fail | record | notify | conclude =>
      cases going
  obtain ⟨_, same⟩ | ⟨⟨_, none⟩, _⟩ | ⟨_, failing | ⟨unspawned, _⟩⟩ := move.warm
  · exact same.trans (wakeful.going task member role)
  · exact none
  · rw [failing] at role
    cases role
  · rw [unspawned] at role
    cases role

/-- A task that still owes a wake-up has completed and finished nothing. -/
theorem owing_self (wakeful : session.Wakeful) (sound : session.Sound)
    (found : session.tasks[index]? = some task)
    (move : InitialMove session task.place action after target)
    (owes : target.owesNotify = true) :
    after.warm.completed = false ∧ after.initial ≠ .finished := by
  have member := List.mem_of_getElem? found
  have owed := move.owed owes
  obtain ⟨incomplete, going⟩ := wakeful.owing task member owed
  constructor
  · obtain ⟨same, _⟩ | ⟨_, storing | round⟩ | ⟨⟨same, _⟩, _⟩ := move.warm
    · exact same.trans incomplete
    · rw [move.stored storing] at owes
      cases owes
    · exact (Flagged.not_storing sound found incomplete round).elim
    · exact same.trans incomplete
  · obtain same | finishing | ⟨error, here⟩ | ⟨here, _⟩ := move.initial
    · rw [same]
      exact going
    · obtain role | role | role | ⟨error, here⟩ := task.place.role_of_owesNotify owed
      · rw [role] at finishing
        cases finishing
      · rw [role] at finishing
        cases finishing
      · rw [role] at finishing
        cases finishing
      · rw [here] at finishing
        cases finishing
    · rw [here] at owed
      cases owed
    · rw [here] at owed
      cases owed

/-- A step leaves every watch woken, or the owner owes a wake-up if it did before. -/
theorem owing_step (move : InitialMove session task.place action after target)
    (found : session.tasks[index]? = some task)
    (change : Change session task.place after) (attended : action ≠ .spawned false)
    (owing : session.Owing) : (after.setPlace index task target).Owing ∨
      after.tasks = session.tasks.map Task.wake ∧
        (target.role = .finishing ∨ target.role = .failed) := by
  obtain ⟨owner, worker, own, there, owes⟩ := owing
  have own : after.owner = some owner := move.owner.trans own
  by_cases same : owner = index
  · subst same
    obtain rfl := Option.some.inj (found.symm.trans there)
    obtain still | woken := move.owes owes attended
    · exact .inl ⟨owner, _, own, change.getElem?_self target found, still⟩
    · exact .inr woken
  · obtain ⟨next, moved, like⟩ := change.getElem?_other target there same
    exact .inl ⟨owner, next, own, moved, like.owesNotify.trans owes⟩

theorem live_step (wakeful : session.Wakeful)
    (move : InitialMove session task.place action after target)
    (found : session.tasks[index]? = some task)
    (change : Change session task.place after) (attended : action ≠ .spawned false)
    (flagged : (after.setPlace index task target).Flagged) (owned : after.owner ≠ none) :
    after.warm.Settled ∨ (after.setPlace index task target).Owing := by
  obtain settled | owing := wakeful.live (move.owner ▸ owned)
  · exact .inl (move.settled settled)
  · obtain still | ⟨_, role⟩ := owing_step move found change attended owing
    · exact .inr still
    · have member := List.mem_of_getElem? (change.getElem?_self target found)
      have settled : after.warm.Settled := flagged.settled _ member role
      exact .inl settled

/-- A watch that parks has read a state that is not settled, so the owner owes a wake-up. -/
theorem parks (wakeful : session.Wakeful) (found : session.tasks[index]? = some task)
    (move : InitialMove session task.place action after target) (parked : target = .parked false) :
    session.Owing ∧ after.tasks ≠ session.tasks.map Task.wake := by
  have member := List.mem_of_getElem? found
  have waiting := wakeful.waiting task member
  generalize here : task.place = place at move waiting
  cases move with
  | park completed error =>
    constructor
    · obtain settled | owing := wakeful.live (waiting (.inl rfl))
      · obtain complete | failed := settled
        · rw [completed] at complete
          cases complete
        · exact absurd error failed
      · exact owing
    · intro woken
      rw [woken] at member
      obtain ⟨old, _, rfl⟩ := List.mem_map.mp member
      exact old.wake_woken.2 here
  | pass _ _ _ _ _ moving | finish _ moving => exact absurd parked moving
  | stop _ role =>
    rw [parked] at role
    simp [Place.role] at role
  | wake _ role | round role =>
    rw [parked] at role
    cases role
  | leave | try_ | close | closed | enter | start | go | store | fail | record | notify
  | conclude => cases parked

/-- A watch that is parked after a step was parked, or has just parked. -/
theorem parked_step (wakeful : session.Wakeful)
    (move : InitialMove session task.place action after target)
    (found : session.tasks[index]? = some task)
    (change : Change session task.place after) (attended : action ≠ .spawned false)
    (there : (after.setPlace index task target).tasks[position]? = some other)
    (parked : other.place = .parked false) : (after.setPlace index task target).Owing := by
  have before : session.Owing ∧ after.tasks ≠ session.tasks.map Task.wake := by
    obtain ⟨rfl, rfl⟩ | ⟨apart, old, was, like⟩ := change.getElem? there
    · exact wakeful.parks found move parked
    · refine ⟨?_, fun woken => ?_⟩
      · obtain rfl | rfl := like
        · exact wakeful.parked other (List.mem_of_getElem? was) parked
        · exact absurd parked old.wake_woken.1
      · rw [Session.setPlace, List.getElem?_set_ne apart.symm, woken] at there
        obtain ⟨old, _, rfl⟩ := List.mem_map.mp (List.mem_of_getElem? there)
        exact absurd parked old.wake_woken.1
  obtain still | ⟨woken, _⟩ := owing_step move found change attended before.1
  · exact still
  · exact absurd woken before.2

/-- A step of a task keeps the invariant. -/
theorem taskStep (wakeful : session.Wakeful) (sound : session.Sound)
    (found : session.tasks[index]? = some task)
    (move : InitialMove session task.place action after target)
    (change : Change session task.place after) (attended : action ≠ .spawned false) :
    (after.setPlace index task target).Wakeful := by
  have flagged := wakeful.flagged.taskStep sound found move change (wakeful.orderly found)
  refine ⟨flagged, ?_, ?_, ?_, ?_, ?_, ?_, ?_⟩
  · intro other member
    obtain ⟨position, there⟩ := List.getElem?_of_mem member
    obtain ⟨rfl, rfl⟩ | ⟨_, old, was, like⟩ := change.getElem? there
    · exact wakeful.attended_self found move attended
    · rw [like.role]
      exact wakeful.attended old (List.mem_of_getElem? was)
  · have vacant : after.owner = none → after.initial = .idle ∧ after.warm.error = none :=
      wakeful.vacant_step found move
    exact vacant
  · intro other member waits
    obtain ⟨position, there⟩ := List.getElem?_of_mem member
    have owned : after.owner ≠ none := by
      rw [move.owner]
      obtain ⟨rfl, rfl⟩ | ⟨_, old, was, like⟩ := change.getElem? there
      · exact wakeful.waiting_self found move waits
      · rw [like.role] at waits
        exact wakeful.waiting old (List.mem_of_getElem? was) waits
    exact owned
  · intro other member going
    obtain ⟨position, there⟩ := List.getElem?_of_mem member
    have clear : after.warm.error = none := by
      obtain ⟨rfl, rfl⟩ | ⟨apart, old, was, like⟩ := change.getElem? there
      · exact wakeful.going_self found move going
      · have mine : old.place.role = .going := like.role ▸ going
        have owes := old.place.owesNotify_of_role (.inl mine)
        rw [(wakeful.beside sound found move was owes apart).2.1]
        exact wakeful.going old (List.mem_of_getElem? was) mine
    exact clear
  · intro other member owes
    obtain ⟨position, there⟩ := List.getElem?_of_mem member
    have begun : after.warm.completed = false ∧ after.initial ≠ .finished := by
      obtain ⟨rfl, rfl⟩ | ⟨apart, old, was, like⟩ := change.getElem? there
      · exact wakeful.owing_self sound found move owes
      · obtain ⟨incomplete, _, going⟩ :=
          wakeful.beside sound found move was (like.owesNotify ▸ owes) apart
        exact ⟨incomplete, going⟩
    exact begun
  · have live : after.owner ≠ none → after.warm.Settled ∨
        (after.setPlace index task target).Owing :=
      wakeful.live_step move found change attended flagged
    exact live
  · intro other member parked
    obtain ⟨position, there⟩ := List.getElem?_of_mem member
    exact wakeful.parked_step move found change attended there parked

/-- A new task does not settle what the owner owes. -/
theorem owing_spawn (owing : session.Owing) (fresh : Task) : (session.spawn fresh).Owing := by
  obtain ⟨owner, worker, own, there, owes⟩ := owing
  refine ⟨owner, worker, own, ?_, owes⟩
  rw [Session.spawn, List.getElem?_append_left (List.getElem?_eq_some_iff.mp there).1]
  exact there

/-- A new task that does not claim the initial evaluation. -/
theorem spawn (wakeful : session.Wakeful) {fresh : Task}
    (role : fresh.place.role = .other ∨ fresh.place.role = .joining ∧ session.owner ≠ none) :
    (session.spawn fresh).Wakeful := by
  have unclaimed : fresh.place.role.isClaimed = false := by
    obtain other | ⟨joining, _⟩ := role
    · rw [other]; rfl
    · rw [joining]; rfl
  refine ⟨wakeful.flagged.spawn unclaimed, ?_, wakeful.vacant, ?_, ?_, ?_, ?_, ?_⟩
  · intro other member
    obtain old | rfl := mem_concat member
    · exact wakeful.attended other old
    · obtain role | ⟨role, _⟩ := role <;> rw [role] <;> exact ⟨nofun, nofun⟩
  · intro other member waits
    obtain old | rfl := mem_concat member
    · exact wakeful.waiting other old waits
    · obtain role | ⟨_, owned⟩ := role
      · simp [role] at waits
      · exact owned
  · intro other member going
    obtain old | rfl := mem_concat member
    · exact wakeful.going other old going
    · rw [going] at unclaimed
      cases unclaimed
  · intro other member owes
    obtain old | rfl := mem_concat member
    · exact wakeful.owing other old owes
    · rw [Place.claimed_of_owesNotify owes] at unclaimed
      cases unclaimed
  · intro owned
    obtain settled | owing := wakeful.live owned
    · exact .inl settled
    · exact .inr (owing_spawn owing fresh)
  · intro other member parked
    obtain old | rfl := mem_concat member
    · exact owing_spawn (wakeful.parked other old parked) fresh
    · rw [parked] at role
      simp [Place.role] at role

/-- A new task that claims the initial evaluation. -/
theorem claim (wakeful : session.Wakeful) (sound : session.Sound) (idle : session.initial = .idle)
    (call : Call) : (session.startInitial.spawn ⟨call, .spawning true⟩).Wakeful := by
  have flagged := wakeful.flagged.claim sound idle call
  obtain ⟨vacant, incomplete⟩ := sound.idle idle
  rw [Session.startInitial_idle idle] at flagged ⊢
  have owing : ({ session with initial := .running, owner := some session.tasks.length }.spawn
      ⟨call, .spawning true⟩).Owing :=
    ⟨session.tasks.length, _, rfl, List.getElem?_concat_length, rfl⟩
  refine ⟨flagged, ?_, nofun, fun _ _ _ => nofun, fun _ _ _ => (wakeful.vacant vacant).2,
    fun _ _ _ => ⟨incomplete, nofun⟩, fun _ => .inr owing, fun _ _ _ => owing⟩
  · intro other member
    obtain old | rfl := mem_concat member
    · exact wakeful.attended other old
    · exact ⟨nofun, nofun⟩

/-- Waking the waiters keeps the invariant. -/
theorem notifyWaiters (wakeful : session.Wakeful) : session.notifyWaiters.Wakeful := by
  refine ⟨wakeful.flagged.notifyWaiters, ?_, wakeful.vacant, ?_, ?_, ?_, ?_, ?_⟩
  · intro other member
    obtain ⟨old, was, like⟩ := mem_notifyWaiters member
    rw [like.role]
    exact wakeful.attended old was
  · intro other member waits
    obtain ⟨old, was, like⟩ := mem_notifyWaiters member
    exact wakeful.waiting old was (like.role ▸ waits)
  · intro other member going
    obtain ⟨old, was, like⟩ := mem_notifyWaiters member
    exact wakeful.going old was (like.role ▸ going)
  · intro other member owes
    obtain ⟨old, was, like⟩ := mem_notifyWaiters member
    exact wakeful.owing old was (like.owesNotify ▸ owes)
  · intro owned
    obtain settled | ⟨owner, worker, own, there, owes⟩ := wakeful.live owned
    · exact .inl settled
    · refine .inr ⟨owner, worker.wake, own, ?_, ?_⟩
      · rw [Session.notifyWaiters, List.getElem?_map, there]
        rfl
      · rw [Task.Like.owesNotify (.inr rfl)]
        exact owes
  · intro other member parked
    obtain ⟨old, _, rfl⟩ := List.mem_map.mp member
    exact absurd parked old.wake_woken.1

/-- Every step inside a runtime keeps the invariant. -/
theorem step (wakeful : session.Wakeful) (sound : session.Sound) {action : SessionAction}
    (attended : Attended session action) (taken : sessionStep session action = some after) :
    after.Wakeful := by
  cases sessionStep_moves taken with
  | claim idle => exact wakeful.claim sound idle _
  | join claimed =>
    exact wakeful.spawn (.inr ⟨rfl, fun vacant => claimed (wakeful.vacant vacant).1⟩)
  | refuse | read => exact wakeful.spawn (.inl rfl)
  | cancel =>
    have orderly : session.Orderly .cancel := trivial
    have flagged := wakeful.flagged.step sound orderly rfl
    exact ⟨flagged, wakeful.attended, wakeful.vacant, wakeful.waiting, wakeful.going,
      wakeful.owing, wakeful.live, wakeful.parked⟩
  | wake => exact wakeful.notifyWaiters
  | task found stepped =>
    refine wakeful.taskStep sound found (taskStep_moves stepped) (taskStep_change stepped).1 ?_
    rintro rfl
    cases attended

end Session.Wakeful

/-- Every session reached inside a runtime. -/
theorem wakeful_reachable {session : Session}
    (reached : sessionMachine.Reachable Attended session) : session.Wakeful := by
  refine reached.invariant ?_ fun _ _ _ before wakeful attended taken =>
    wakeful.step (sound_reachable before) attended taken
  rintro _ rfl
  have empty : ∀ task, task ∉ Session.opened.tasks := fun _ => List.not_mem_nil
  exact {
    flagged := flagged_opened
    attended := fun task member => absurd member (empty task)
    vacant := fun _ => ⟨rfl, rfl⟩
    waiting := fun task member => absurd member (empty task)
    going := fun task member => absurd member (empty task)
    owing := fun task member => absurd member (empty task)
    live := fun owned => absurd rfl owned
    parked := fun task member => absurd member (empty task)
  }

/-- In every interleaving inside a runtime, a watch that is parked and not woken is woken by a task
of the initial evaluation that has not finished. -/
theorem no_lost_wakeup {session : Session}
    (reached : sessionMachine.Reachable Attended session) : session.Attentive := by
  have wakeful := wakeful_reachable reached
  refine ⟨wakeful.parked, ?_, ?_⟩
  · intro index task action after found owes attended taken
    simp only [sessionStep, found] at taken
    obtain ⟨⟨next, place⟩, stepped, rfl⟩ := Option.map_eq_some_iff.mp taken
    have change := (taskStep_change stepped).1
    have runtime : action ≠ .spawned false := by
      rintro rfl
      cases attended
    obtain still | ⟨woken, role⟩ := (taskStep_moves stepped).owes owes runtime
    · exact .inl ⟨_, change.getElem?_self place found, still⟩
    · refine .inr fun other member parked => ?_
      obtain ⟨position, there⟩ := List.getElem?_of_mem member
      by_cases same : position = index
      · subst same
        obtain rfl := Option.some.inj ((change.getElem?_self place found).symm.trans there)
        obtain rfl : place = .parked false := parked
        simp [Place.role] at role
      · rw [Session.setPlace, List.getElem?_set_ne (Ne.symm same), woken] at there
        obtain ⟨old, _, rfl⟩ := List.mem_map.mp (List.mem_of_getElem? there)
        exact old.wake_woken.1 parked
  · intro ended task member parked
    obtain ⟨owner, worker, _, there, owes⟩ := wakeful.parked task member parked
    obtain ⟨incomplete, going⟩ := wakeful.owing worker (List.mem_of_getElem? there) owes
    obtain completed | finished := ended
    · rw [incomplete] at completed
      cases completed
    · exact going finished

/-- A watch parks while the run of a stream goes on. -/
theorem no_lost_wakeup_parked : ∃ session : Session, session.Attentive ∧
    session.tasks.map Task.place = [.evaluatingInitial 0, .parked false] := by
  obtain ⟨session, reached, checked⟩ := Machine.reachable_of_execute sessionMachine Attended .opened
    [.call .stream false, .task 0 (.spawned true), .task 0 .proceed, .call .watch false,
      .task 1 (.spawned true), .task 1 .proceed, .task 1 .proceed, .task 1 .proceed]
    (fun session => session.tasks.map Task.place = [.evaluatingInitial 0, .parked false])
    rfl (by decide)
  exact ⟨session, no_lost_wakeup reached, of_decide_eq_true checked⟩

end Evix
