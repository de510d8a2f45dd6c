import Evix.Verif.SessionMoves

/-!
# The warm graph

One task claims the initial evaluation, and only what a completed evaluation has accumulated is
ever stored, graph and errors together. A session is complete from the first store on.
-/

namespace Evix

open Machines

/-- The warm state is what one completed evaluation has accumulated, or still empty. -/
def Session.WarmBacked (session : Session) : Prop :=
  if session.warm.completed then
    ∃ id, session.source = some id ∧ session.Backs id ⟨session.warm.graph, session.warm.errors⟩
  else session.warm.graph = ∅ ∧ session.warm.errors = [] ∧ session.base = ∅ ∧ session.stores = []

/-- The invariant of a session. -/
structure Session.Sound (session : Session) : Prop where
  /-- Only the owner is in the initial evaluation. -/
  owned : ∀ (index : Nat) (task : Task), session.tasks[index]? = some task →
    task.place.isInitial = true → session.owner = some index
  /-- Before a claim nothing is owned or complete. -/
  idle : session.initial = .idle → session.owner = none ∧ session.warm.completed = false
  /-- Nothing is started without an owner. -/
  unowned : session.owner = none → session.initials = []
  /-- Nothing is started before the owner starts it. -/
  unstarted : ∀ task ∈ session.tasks, task.place.isUnstarted = true → session.initials = []
  /-- One initial evaluation at most. -/
  single : session.initials.length ≤ 1
  /-- The initial evaluation is over when it is stored. -/
  incomplete : ∀ task ∈ session.tasks,
    task.place.isInitial = true → session.warm.completed = false
  /-- Re-evaluations follow a complete graph. -/
  complete : ∀ task ∈ session.tasks,
    task.place.isRound task.call = true → session.warm.completed = true
  /-- What a task is about to store is backed. -/
  backed : ∀ task ∈ session.tasks, task.place.Backed session
  /-- So is the warm state. -/
  warm : session.WarmBacked

/-! ## Tasks beside the one that moves -/

/-- The same task, woken or not. -/
def Task.Like (old other : Task) : Prop := other = old ∨ other = old.wake

namespace Task.Like

variable {old other : Task}

theorem isInitial (like : old.Like other) : other.place.isInitial = old.place.isInitial := by
  obtain rfl | rfl := like
  · rfl
  · unfold Task.wake
    split <;> simp_all [Place.isInitial]

theorem isUnstarted (like : old.Like other) :
    other.place.isUnstarted = old.place.isUnstarted := by
  obtain rfl | rfl := like
  · rfl
  · unfold Task.wake
    split <;> simp_all [Place.isUnstarted]

theorem isRound (like : old.Like other) :
    other.place.isRound other.call = old.place.isRound old.call := by
  obtain rfl | rfl := like
  · rfl
  · unfold Task.wake
    split <;> simp_all [Place.isRound]

theorem backed (like : old.Like other) {session : Session} (backed : old.place.Backed session) :
    other.place.Backed session := by
  obtain rfl | rfl := like
  · exact backed
  · unfold Task.wake
    split
    · trivial
    · trivial
    · exact backed

end Task.Like

section Changes

variable {session after : Session} {place : Place}

/-- Waking the waiters keeps the tasks alike. -/
theorem getElem?_notifyWaiters {position : Nat} {other : Task}
    (there : session.notifyWaiters.tasks[position]? = some other) :
    ∃ old, session.tasks[position]? = some old ∧ old.Like other := by
  rw [Session.notifyWaiters, List.getElem?_map] at there
  obtain ⟨old, was, rfl⟩ := Option.map_eq_some_iff.mp there
  exact ⟨old, was, .inr rfl⟩

/-- Waking the waiters makes every task from one that is alike. -/
theorem mem_notifyWaiters {other : Task} (member : other ∈ session.notifyWaiters.tasks) :
    ∃ old ∈ session.tasks, old.Like other := by
  obtain ⟨old, was, rfl⟩ := List.mem_map.mp member
  exact ⟨old, was, .inr rfl⟩

/-- A member of an extended list is an old one or the last. -/
theorem mem_concat {α : Type} {items : List α} {fresh other : α}
    (member : other ∈ items ++ [fresh]) : other ∈ items ∨ other = fresh :=
  (List.mem_append.mp member).imp id List.mem_singleton.mp

/-- A position of an extended list is an old one or the last. -/
theorem getElem?_concat {tasks : List Task} {fresh other : Task} {position : Nat}
    (there : (tasks ++ [fresh])[position]? = some other) :
    tasks[position]? = some other ∨ position = tasks.length ∧ other = fresh := by
  obtain inside | outside := Nat.lt_or_ge position tasks.length
  · rw [List.getElem?_append_left inside] at there
    exact .inl there
  · rw [List.getElem?_append_right outside] at there
    have last := (List.getElem?_eq_some_iff.mp there).1
    rw [List.length_singleton] at last
    have here : position - tasks.length = 0 := by omega
    rw [here] at there
    exact .inr ⟨by omega, (Option.some.inj there).symm⟩

/-- A change wakes tasks or leaves them alone. -/
theorem Change.tasks (change : Change session place after) :
    after.tasks = session.tasks ∨ after.tasks = session.tasks.map Task.wake := by
  cases change with
  | notified | storedInitial => exact .inr rfl
  | nothing | finished | failed | started | relaunched | evaluated | storedRound => exact .inl rfl

/-- A task after a change is the one that moved, or one of before. -/
theorem Change.getElem? (change : Change session place after) {index position : Nat}
    {task other : Task} {target : Place}
    (found : (after.setPlace index task target).tasks[position]? = some other) :
    (position = index ∧ other = { task with place := target }) ∨
      position ≠ index ∧ ∃ old, session.tasks[position]? = some old ∧ old.Like other := by
  by_cases same : position = index
  · subst same
    have inside : position < after.tasks.length := by
      have bound := (List.getElem?_eq_some_iff.mp found).1
      rw [Session.setPlace, List.length_set] at bound
      exact bound
    rw [Session.setPlace, List.getElem?_set_self inside] at found
    exact .inl ⟨rfl, (Option.some.inj found).symm⟩
  · rw [Session.setPlace, List.getElem?_set_ne (Ne.symm same)] at found
    obtain kept | woken := change.tasks
    · rw [kept] at found
      exact .inr ⟨same, other, found, .inl rfl⟩
    · rw [woken, List.getElem?_map] at found
      obtain ⟨old, there, rfl⟩ := Option.map_eq_some_iff.mp found
      exact .inr ⟨same, old, there, .inr rfl⟩

/-- The task that moved is where it moved to. -/
theorem Change.getElem?_self (change : Change session place after) {index : Nat} {task : Task}
    (target : Place) (found : session.tasks[index]? = some task) :
    (after.setPlace index task target).tasks[index]? = some { task with place := target } := by
  have inside := (List.getElem?_eq_some_iff.mp found).1
  refine List.getElem?_set_self ?_
  obtain kept | woken := change.tasks
  · rw [kept]
    exact inside
  · rw [woken, List.length_map]
    exact inside

/-- The other tasks are still there. -/
theorem Change.getElem?_other (change : Change session place after) {index position : Nat}
    {task old : Task} (target : Place) (was : session.tasks[position]? = some old)
    (apart : position ≠ index) :
    ∃ other, (after.setPlace index task target).tasks[position]? = some other ∧
      old.Like other := by
  rw [Session.setPlace, List.getElem?_set_ne apart.symm]
  obtain kept | woken := change.tasks
  · rw [kept]
    exact ⟨old, was, .inl rfl⟩
  · rw [woken, List.getElem?_map, was]
    exact ⟨old.wake, rfl, .inr rfl⟩

/-- A change keeps what completed evaluations have accumulated. -/
theorem Change.backs (change : Change session place after) {id : Nat}
    {accumulator : EvalAccumulator} (backs : session.Backs id accumulator) :
    after.Backs id accumulator := by
  obtain ⟨evaluation, found, completed, same⟩ := backs
  have grown : ∀ fresh, (session.evaluations ++ [fresh])[id]? = some evaluation := fun fresh => by
    rw [List.getElem?_append_left (List.getElem?_eq_some_iff.mp found).1]
    exact found
  cases change with
  | started | relaunched => exact ⟨evaluation, grown _, completed, same⟩
  | @evaluated running next other action there stepped =>
    refine ⟨evaluation, ?_, completed, same⟩
    -- an evaluation that has ended takes no step
    have apart : other ≠ id := by
      rintro rfl
      obtain rfl := Option.some.inj (found.symm.trans there)
      simp [evaluationStep, show evaluation.ended = some (.ok .completed) from completed]
        at stepped
    show (session.evaluations.set other next)[id]? = _
    rw [List.getElem?_set_ne apart]
    exact found
  | nothing | notified | finished | failed | storedInitial | storedRound =>
    exact ⟨evaluation, found, completed, same⟩

/-- A change keeps what is backed. -/
theorem Change.backed (change : Change session place after) {other : Place}
    (backed : other.Backed session) : other.Backed after := by
  unfold Place.Backed at backed ⊢
  split
  · exact change.backs backed
  · exact ⟨change.backs backed.1, backed.2⟩
  · trivial

/-- The owner does not change, and the claim is not given back. -/
theorem Change.owner (change : Change session place after) :
    after.owner = session.owner ∧
      (after.initial = session.initial ∨ after.initial = .finished) := by
  cases change with
  | finished => exact ⟨rfl, .inr rfl⟩
  | nothing | notified | failed | started | relaunched | evaluated | storedInitial | storedRound =>
    exact ⟨rfl, .inl rfl⟩

/-- An initial evaluation is started from one place only. -/
theorem Change.initials (change : Change session place after) :
    after.initials = session.initials ∨
      place = .starting ∧ after.initials.length = session.initials.length + 1 := by
  cases change with
  | started here => exact .inr ⟨here, List.length_append⟩
  | nothing | notified | finished | failed | relaunched | evaluated | storedInitial | storedRound =>
    exact .inl rfl

/-- The graph, the errors, the flag and the history of stores. -/
def Session.graphs (session : Session) :
    EvalGraph × List EvalError × Bool × Option Nat × EvalGraph × List Store :=
  (session.warm.graph, session.warm.errors, session.warm.completed, session.source, session.base,
    session.stores)

/-- A change leaves the warm graph alone, or stores a result. -/
theorem Change.graphs (change : Change session place after) :
    after.graphs = session.graphs ∨
      (∃ id accumulator, place = .storingInitial id accumulator ∧
        after = session.storeInitial id accumulator) ∨
      ∃ previous id accumulator diff, place = .storing previous id accumulator diff ∧
        after = session.storeRound id accumulator diff := by
  cases change with
  | storedInitial id accumulator here => exact .inr (.inl ⟨id, accumulator, here, rfl⟩)
  | storedRound previous id accumulator diff here =>
    exact .inr (.inr ⟨previous, id, accumulator, diff, here, rfl⟩)
  | nothing | notified | finished | failed | started | relaunched | evaluated => exact .inl rfl

end Changes

/-- A task that has not started the initial evaluation is in it. -/
theorem Place.isInitial_of_isUnstarted {place : Place} (unstarted : place.isUnstarted = true) :
    place.isInitial = true := by
  unfold Place.isUnstarted at unstarted
  split at unstarted
  · rfl
  · rfl
  · cases unstarted

/-! ## Every step keeps the invariant -/

namespace Session.Sound

variable {session after : Session} {index : Nat} {task : Task} {target : Place}

/-- One task at most is in the initial evaluation. -/
theorem alone (sound : session.Sound) {position : Nat} {other : Task}
    (there : session.tasks[position]? = some other) (second : other.place.isInitial = true)
    (found : session.tasks[index]? = some task) (initial : task.place.isInitial = true) :
    position = index := by
  have mine := sound.owned index task found initial
  have other := sound.owned position other there second
  exact Option.some.inj (other.symm.trans mine)

/-- A graph is complete after a change if it was, or if the initial evaluation is stored. -/
theorem completed (sound : session.Sound) (found : session.tasks[index]? = some task)
    (change : Change session task.place after) :
    after.warm.completed = session.warm.completed ∨
      (∃ id accumulator, task.place = .storingInitial id accumulator) ∧
        after.warm.completed = true := by
  obtain same | ⟨id, accumulator, here, rfl⟩ | ⟨previous, id, accumulator, diff, here, rfl⟩ :=
    change.graphs
  · exact .inl (congrArg (fun graphs => graphs.2.2.1) same)
  · exact .inr ⟨⟨id, accumulator, here⟩, rfl⟩
  · have round : task.place.isRound task.call = true := by
      rw [here]
      rfl
    exact .inl (sound.complete task (List.mem_of_getElem? found) round).symm

/-- What a step of a task leaves of the warm graph. -/
theorem warmBacked (sound : session.Sound) (found : session.tasks[index]? = some task)
    (change : Change session task.place after) : after.WarmBacked := by
  have backed := sound.backed task (List.mem_of_getElem? found)
  obtain same | ⟨id, accumulator, here, rfl⟩ | ⟨previous, id, accumulator, diff, here, rfl⟩ :=
    change.graphs
  · simp only [Session.graphs, Prod.mk.injEq] at same
    obtain ⟨graph, errors, completed, source, base, stores⟩ := same
    have warm := sound.warm
    unfold WarmBacked at warm ⊢
    rw [completed, graph, errors, base, stores, source]
    split at warm
    · rename_i complete
      rw [if_pos complete]
      obtain ⟨id, from_, backs⟩ := warm
      exact ⟨id, from_, change.backs backs⟩
    · rename_i incomplete
      rw [if_neg incomplete]
      exact warm
  · rw [here] at backed
    exact ⟨id, rfl, backed⟩
  · rw [here] at backed
    exact ⟨id, rfl, backed.1⟩

/-- The task in the initial evaluation is the one that claimed it. -/
theorem owned_step (sound : session.Sound) (found : session.tasks[index]? = some task)
    (change : Change session task.place after) (lands : Lands session task after target)
    {position : Nat} {other : Task}
    (there : (after.setPlace index task target).tasks[position]? = some other)
    (initial : other.place.isInitial = true) : after.owner = some position := by
  rw [change.owner.1]
  obtain ⟨rfl, rfl⟩ | ⟨apart, old, was, like⟩ := change.getElem? there
  · exact sound.owned position task found (lands.initial initial).1
  · rw [like.isInitial] at initial
    exact sound.owned position old was initial

/-- An evaluation that can still be claimed is neither claimed nor stored. -/
theorem idle_step (sound : session.Sound) (found : session.tasks[index]? = some task)
    (change : Change session task.place after) (idle : after.initial = .idle) :
    after.owner = none ∧ after.warm.completed = false := by
  obtain same | finished := change.owner.2
  · have before := sound.idle (same.symm.trans idle)
    refine ⟨change.owner.1.trans before.1, ?_⟩
    obtain kept | ⟨⟨id, accumulator, storing⟩, _⟩ := sound.completed found change
    · exact kept.trans before.2
    · have initial : task.place.isInitial = true := by
        rw [storing]
        rfl
      rw [sound.owned index task found initial] at before
      cases before.1
  · cases finished.symm.trans idle

/-- Without a claim no initial evaluation is started. -/
theorem unowned_step (sound : session.Sound) (found : session.tasks[index]? = some task)
    (change : Change session task.place after) (unowned : after.owner = none) :
    after.initials = [] := by
  rw [change.owner.1] at unowned
  obtain same | ⟨starting, _⟩ := change.initials
  · exact same.trans (sound.unowned unowned)
  · have initial : task.place.isInitial = true := by
      rw [starting]
      rfl
    rw [sound.owned index task found initial] at unowned
    cases unowned

/-- A task that has yet to start the initial evaluation is alone with it. -/
theorem unstarted_step (sound : session.Sound) (found : session.tasks[index]? = some task)
    (change : Change session task.place after) (lands : Lands session task after target)
    {position : Nat} {other : Task}
    (there : (after.setPlace index task target).tasks[position]? = some other)
    (unstarted : other.place.isUnstarted = true) : after.initials = [] := by
  obtain same | ⟨starting, _⟩ := change.initials
  · refine same.trans ?_
    obtain ⟨rfl, rfl⟩ | ⟨apart, old, was, like⟩ := change.getElem? there
    · refine sound.unstarted task (List.mem_of_getElem? found) ?_
      rw [lands.unstarted unstarted]
      rfl
    · rw [like.isUnstarted] at unstarted
      exact sound.unstarted old (List.mem_of_getElem? was) unstarted
  -- the owner has just started it, and no other task is at its place
  · obtain ⟨rfl, rfl⟩ | ⟨apart, old, was, like⟩ := change.getElem? there
    · rw [lands.unstarted unstarted] at starting
      cases starting
    · rw [like.isUnstarted] at unstarted
      exact absurd (sound.alone was (Place.isInitial_of_isUnstarted unstarted) found
        (by rw [starting]; rfl)) apart

/-- A second initial evaluation is not started. -/
theorem single_step (sound : session.Sound) (found : session.tasks[index]? = some task)
    (change : Change session task.place after) : after.initials.length ≤ 1 := by
  obtain same | ⟨starting, grown⟩ := change.initials
  · exact (congrArg List.length same).trans_le sound.single
  · have none := sound.unstarted task (List.mem_of_getElem? found) (by rw [starting]; rfl)
    rw [grown, none]
    exact Nat.le_refl 1

/-- A task in the initial evaluation has not stored it. -/
theorem incomplete_step (sound : session.Sound) (found : session.tasks[index]? = some task)
    (change : Change session task.place after) (lands : Lands session task after target)
    {position : Nat} {other : Task}
    (there : (after.setPlace index task target).tasks[position]? = some other)
    (initial : other.place.isInitial = true) : after.warm.completed = false := by
  obtain kept | ⟨⟨id, accumulator, storing⟩, _⟩ := sound.completed found change
  · refine kept.trans ?_
    obtain ⟨rfl, rfl⟩ | ⟨apart, old, was, like⟩ := change.getElem? there
    · exact sound.incomplete task (List.mem_of_getElem? found) (lands.initial initial).1
    · rw [like.isInitial] at initial
      exact sound.incomplete old (List.mem_of_getElem? was) initial
  · obtain ⟨rfl, rfl⟩ | ⟨apart, old, was, like⟩ := change.getElem? there
    · exact absurd storing ((lands.initial initial).2 id accumulator)
    · rw [like.isInitial] at initial
      exact absurd (sound.alone was initial found (by rw [storing]; rfl)) apart

/-- A task in a round has a complete graph before it. -/
theorem complete_step (sound : session.Sound) (found : session.tasks[index]? = some task)
    (change : Change session task.place after) (lands : Lands session task after target)
    {position : Nat} {other : Task}
    (there : (after.setPlace index task target).tasks[position]? = some other)
    (round : other.place.isRound other.call = true) : after.warm.completed = true := by
  have before : session.warm.completed = true := by
    obtain ⟨rfl, rfl⟩ | ⟨apart, old, was, like⟩ := change.getElem? there
    · exact (lands.round round).elim (sound.complete task (List.mem_of_getElem? found)) id
    · rw [like.isRound] at round
      exact sound.complete old (List.mem_of_getElem? was) round
  obtain kept | ⟨_, stored⟩ := sound.completed found change
  · exact kept.trans before
  · exact stored

/-- What a task is about to store stays backed. -/
theorem backed_step (sound : session.Sound) (change : Change session task.place after)
    (lands : Lands session task after target) {position : Nat} {other : Task}
    (there : (after.setPlace index task target).tasks[position]? = some other) :
    other.place.Backed after := by
  obtain ⟨rfl, rfl⟩ | ⟨apart, old, was, like⟩ := change.getElem? there
  · exact lands.backed
  · exact like.backed (change.backed (sound.backed old (List.mem_of_getElem? was)))

/-- A step of a task keeps the invariant. -/
theorem taskStep (sound : session.Sound) (found : session.tasks[index]? = some task)
    (change : Change session task.place after) (lands : Lands session task after target) :
    (after.setPlace index task target).Sound where
  owned := by
    intro position other there initial
    exact sound.owned_step found change lands there initial
  idle := by
    have idle : after.initial = .idle → after.owner = none ∧ after.warm.completed = false :=
      sound.idle_step found change
    exact idle
  unowned := by
    have unowned : after.owner = none → after.initials = [] := sound.unowned_step found change
    exact unowned
  unstarted := by
    intro other member unstarted
    obtain ⟨position, there⟩ := List.getElem?_of_mem member
    have none : after.initials = [] := sound.unstarted_step found change lands there unstarted
    exact none
  single := by
    have single : after.initials.length ≤ 1 := sound.single_step found change
    exact single
  incomplete := by
    intro other member initial
    obtain ⟨position, there⟩ := List.getElem?_of_mem member
    have incomplete : after.warm.completed = false :=
      sound.incomplete_step found change lands there initial
    exact incomplete
  complete := by
    intro other member round
    obtain ⟨position, there⟩ := List.getElem?_of_mem member
    have complete : after.warm.completed = true :=
      sound.complete_step found change lands there round
    exact complete
  backed := by
    intro other member
    obtain ⟨position, there⟩ := List.getElem?_of_mem member
    have backed : other.place.Backed after := sound.backed_step change lands there
    exact backed
  warm := by
    have warm : after.WarmBacked := sound.warmBacked found change
    exact warm

/-- A new task that does not claim the initial evaluation. -/
theorem spawn (sound : session.Sound) {fresh : Task} (initial : fresh.place.isInitial = false)
    (round : fresh.place.isRound fresh.call = false) (backed : fresh.place.Backed session) :
    (session.spawn fresh).Sound where
  owned := by
    intro position other there claimed
    obtain was | ⟨rfl, rfl⟩ := getElem?_concat there
    · exact sound.owned position other was claimed
    · rw [initial] at claimed
      cases claimed
  idle := sound.idle
  unowned := sound.unowned
  unstarted := by
    intro other member claimed
    obtain old | rfl := mem_concat member
    · exact sound.unstarted other old claimed
    · rw [Place.isInitial_of_isUnstarted claimed] at initial
      cases initial
  single := sound.single
  incomplete := by
    intro other member claimed
    obtain old | rfl := mem_concat member
    · exact sound.incomplete other old claimed
    · rw [initial] at claimed
      cases claimed
  complete := by
    intro other member within
    obtain old | rfl := mem_concat member
    · exact sound.complete other old within
    · rw [round] at within
      cases within
  backed := by
    intro other member
    obtain old | rfl := mem_concat member
    · exact sound.backed other old
    · exact backed
  warm := sound.warm

/-- A new task that claims the initial evaluation. -/
theorem claim (sound : session.Sound) (idle : session.initial = .idle) (call : Call) :
    (session.startInitial.spawn ⟨call, .spawning true⟩).Sound := by
  have free := sound.idle idle
  rw [Session.startInitial_idle idle]
  have unclaimed : ∀ other ∈ session.tasks, other.place.isInitial = true → False := by
    intro other member initial
    obtain ⟨position, was⟩ := List.getElem?_of_mem member
    have owner := sound.owned position other was initial
    rw [free.1] at owner
    cases owner
  refine ⟨?_, nofun, nofun, fun _ _ _ => sound.unowned free.1, sound.single, fun _ _ _ => free.2,
    ?_, ?_, sound.warm⟩
  · intro position other there initial
    obtain was | ⟨rfl, rfl⟩ := getElem?_concat there
    · exact (unclaimed other (List.mem_of_getElem? was) initial).elim
    · rfl
  · intro other member within
    obtain old | rfl := mem_concat member
    · exact sound.complete other old within
    · cases within
  · intro other member
    obtain old | rfl := mem_concat member
    · exact sound.backed other old
    · trivial

/-- Waking the waiters keeps the invariant. -/
theorem notifyWaiters (sound : session.Sound) : session.notifyWaiters.Sound := by
  refine ⟨?_, sound.idle, sound.unowned, ?_, sound.single, ?_, ?_, ?_, sound.warm⟩
  · intro position other there initial
    obtain ⟨old, before, like⟩ := getElem?_notifyWaiters there
    exact sound.owned position old before (like.isInitial ▸ initial)
  · intro other member unstarted
    obtain ⟨old, before, like⟩ := mem_notifyWaiters member
    exact sound.unstarted old before (like.isUnstarted ▸ unstarted)
  · intro other member initial
    obtain ⟨old, before, like⟩ := mem_notifyWaiters member
    exact sound.incomplete old before (like.isInitial ▸ initial)
  · intro other member round
    obtain ⟨old, before, like⟩ := mem_notifyWaiters member
    exact sound.complete old before (like.isRound ▸ round)
  · intro other member
    obtain ⟨old, before, like⟩ := mem_notifyWaiters member
    exact like.backed (sound.backed old before)

/-- Every step keeps the invariant. -/
theorem step (sound : session.Sound) {action : SessionAction}
    (taken : sessionStep session action = some after) : after.Sound := by
  cases sessionStep_moves taken with
  | claim idle => exact sound.claim idle _
  | join | refuse | read => exact sound.spawn rfl rfl trivial
  | cancel =>
    exact ⟨sound.owned, sound.idle, sound.unowned, sound.unstarted, sound.single,
      sound.incomplete, sound.complete, sound.backed, sound.warm⟩
  | wake => exact sound.notifyWaiters
  | task found stepped =>
    obtain ⟨change, lands⟩ := taskStep_change stepped
    exact sound.taskStep found change lands

end Session.Sound

/-- Every reachable session is sound. -/
theorem sound_reachable {legal : Session → SessionAction → Prop} {session : Session}
    (reached : sessionMachine.Reachable legal session) : session.Sound := by
  refine reached.invariant ?_ fun _ _ _ _ sound _ taken => sound.step taken
  rintro _ rfl
  have empty : ∀ task, task ∉ Session.opened.tasks := fun _ => List.not_mem_nil
  exact {
    owned := fun position task there => by cases there
    idle := fun _ => ⟨rfl, rfl⟩
    unowned := fun _ => rfl
    unstarted := fun task member => absurd member (empty task)
    single := Nat.zero_le 1
    incomplete := fun task member => absurd member (empty task)
    complete := fun task member => absurd member (empty task)
    backed := fun task member => absurd member (empty task)
    warm := ⟨rfl, rfl, rfl, rfl⟩
  }

/-! ## The warm graph is whole -/

/-- The warm graph and errors are the pair one completed evaluation has accumulated. -/
def Session.IsFrom (session : Session) (id : Nat) : Prop :=
  ∃ evaluation, session.evaluations[id]? = some evaluation ∧ evaluation.Completed ∧
    session.warm.graph = (EvalAccumulator.recordAll evaluation.events).graph ∧
      session.warm.errors = (EvalAccumulator.recordAll evaluation.events).errors

/-- The graph, the errors and the flag of the warm state. -/
def WarmState.content (warm : WarmState) : EvalGraph × List EvalError × Bool :=
  (warm.graph, warm.errors, warm.completed)

/-- The evaluation a task is about to store. -/
def Place.storing? : Place → Option Nat
  | .storingInitial id _ | .storing _ id _ _ => some id
  | _ => none

/-- What the calls of a session may rely on. -/
structure Session.Whole (session : Session) : Prop where
  /-- At most one initial evaluation is started. -/
  single : session.initials.length ≤ 1
  /-- A complete warm state is that of one completed evaluation. -/
  complete : session.warm.completed = true →
    ∃ id, session.source = some id ∧ session.IsFrom id
  /-- A query answers from a complete graph only. -/
  query : ∀ filter drvs, querySnapshot session.warm filter = .ok drvs →
    ∃ evaluation ∈ session.evaluations, evaluation.Completed ∧
      drvs = ((EvalAccumulator.recordAll evaluation.events).graph.entries.map Sigma.snd).filter
        fun drv => matchesFilter drv filter
  /-- In every continuation a complete warm state stays complete. -/
  stays : ∀ actions after, sessionMachine.Run (fun _ _ => True) session actions after →
    session.warm.completed = true → after.warm.completed = true
  /-- A step keeps the warm state, unless a task stores its own evaluation, which has completed:
  one that fails or is cancelled leaves the warm state as it was. -/
  stores : ∀ action after, sessionStep session action = some after →
    after.warm.content = session.warm.content ∧ after.source = session.source ∨
      ∃ index move task id, action = .task index move ∧ session.tasks[index]? = some task ∧
        task.place.storing? = some id ∧ after.source = some id ∧ after.IsFrom id ∧
          after.warm.completed = true

section Whole

variable {session after : Session}

theorem Session.isFrom_of_backs {id : Nat}
    (backs : session.Backs id ⟨session.warm.graph, session.warm.errors⟩) : session.IsFrom id := by
  obtain ⟨evaluation, found, completed, same⟩ := backs
  have whole := evaluation.recorded
  rw [same] at whole
  exact ⟨evaluation, found, completed, congrArg EvalAccumulator.graph whole,
    congrArg EvalAccumulator.errors whole⟩

/-- A complete warm state of a sound session is that of one completed evaluation. -/
theorem Session.Sound.isFrom (sound : session.Sound) (completed : session.warm.completed = true) :
    ∃ id, session.source = some id ∧ session.IsFrom id := by
  have warm := sound.warm
  unfold Session.WarmBacked at warm
  rw [if_pos completed] at warm
  obtain ⟨id, source, backs⟩ := warm
  exact ⟨id, source, Session.isFrom_of_backs backs⟩

/-- A step keeps the warm state and its history, or stores. -/
theorem sessionStep_graphs {action : SessionAction}
    (taken : sessionStep session action = some after) :
    after.graphs = session.graphs ∨
      ∃ index move task id, action = .task index move ∧ session.tasks[index]? = some task ∧
        task.place.storing? = some id ∧ after.source = some id ∧ after.warm.completed = true := by
  cases sessionStep_moves taken with
  | claim =>
    refine .inl ?_
    unfold Session.startInitial
    split <;> rfl
  | join | refuse | read | cancel | wake => exact .inl rfl
  | @task index action task next place found stepped =>
    obtain same | ⟨id, accumulator, here, rfl⟩ | ⟨previous, id, accumulator, diff, here, rfl⟩ :=
      (taskStep_change stepped).1.graphs
    · exact .inl same
    · exact .inr ⟨index, action, task, id, rfl, found, by rw [here]; rfl, rfl, rfl⟩
    · exact .inr ⟨index, action, task, id, rfl, found, by rw [here]; rfl, rfl, rfl⟩

/-- A step keeps a complete warm state complete. -/
theorem sessionStep_completed {action : SessionAction}
    (taken : sessionStep session action = some after) (completed : session.warm.completed = true) :
    after.warm.completed = true := by
  obtain same | ⟨_, _, _, _, _, _, _, _, stored⟩ := sessionStep_graphs taken
  · have flag := congrArg (fun graphs => graphs.2.2.1) same
    exact flag.trans completed
  · exact stored

/-- In every interleaving of the calls of a session and of the ends of their evaluations, the warm
graph is whole. -/
theorem session_whole (reached : sessionMachine.Reachable (fun _ _ => True) session) :
    session.Whole where
  single := (sound_reachable reached).single
  complete := (sound_reachable reached).isFrom
  query := by
    intro filter drvs answered
    unfold querySnapshot at answered
    split at answered
    · cases answered
    · rename_i granted
      obtain ⟨id, _, evaluation, found, completed, graph, _⟩ :=
        (sound_reachable reached).isFrom (completed_of_refusal granted)
      refine ⟨evaluation, List.mem_of_getElem? found, completed, ?_⟩
      rw [← graph]
      exact (Except.ok.inj answered).symm
  stays := by
    intro actions after run completed
    exact run.preserves reached
      (fun _ _ _ _ before _ taken => sessionStep_completed taken before) completed
  stores := by
    intro action after taken
    obtain same | ⟨index, move, task, id, moved, found, here, source, stored⟩ :=
      sessionStep_graphs taken
    · simp only [Session.graphs, Prod.mk.injEq] at same
      obtain ⟨graph, errors, completed, source, _, _⟩ := same
      exact .inl ⟨by rw [WarmState.content, WarmState.content, graph, errors, completed], source⟩
    · obtain ⟨other, same, whole⟩ := ((sound_reachable reached).step taken).isFrom stored
      obtain rfl := Option.some.inj (source.symm.trans same)
      exact .inr ⟨index, move, task, id, moved, found, here, source, whole, stored⟩

end Whole

/-- The derivation of a job. -/
def jobDrv (name drvPath : String) : Derivation :=
  { (default : Derivation) with
    attr := name, attrPath := [name], name, system := "x86_64-linux", drvPath }

/-- The initial evaluation of a stream, from the call to the end of its task. -/
def streams (index : Nat) (events : List Event) : List SessionAction :=
  [.call .stream false, .task index (.spawned true), .task index .proceed] ++
    events.map (fun event => .task index (.evaluation (.event event))) ++
    [.task index (.evaluation (.returned (.ok .completed))), .task index .proceed,
      .task index .proceed]

/-- A re-evaluation that is cancelled after its first event leaves the warm graph as it was. -/
theorem session_whole_cancelled : ∃ session : Session, session.Whole ∧
    session.warm.graph.entries.map (fun entry => entry.2.drvPath) = ["/nix/store/a.drv"] ∧
      session.evaluations.length = 2 ∧ session.cancel = true := by
  obtain ⟨session, reached, checked⟩ := Machine.reachable_of_execute sessionMachine
    (fun _ _ => True) .opened
    (streams 0 [.derivation (jobDrv "a" "/nix/store/a.drv")] ++
      [.call .diff false, .task 1 .proceed, .task 1 .proceed,
        .task 1 (.evaluation (.event (.derivation (jobDrv "b" "/nix/store/b.drv")))), .cancel,
        .task 1 (.evaluation (.returned (.ok .cancelled)))])
    (fun session =>
      session.warm.graph.entries.map (fun entry => entry.2.drvPath) = ["/nix/store/a.drv"] ∧
        session.evaluations.length = 2 ∧ session.cancel = true) rfl (by decide)
  exact ⟨session, session_whole reached, of_decide_eq_true checked⟩

end Evix
