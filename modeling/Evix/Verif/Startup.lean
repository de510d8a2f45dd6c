import Evix.Daemon.Startup
import Mathlib.Data.List.Basic

/-!
# Starting daemons on one socket

A daemon removes the socket it finds after its connection was refused. Whether anybody listens may
change between the two: another daemon may put its own socket there, or a daemon that had bound the
socket may begin to listen.
-/

namespace Evix

open Machines

/-! ## What must not happen -/

/-- The socket file of a daemon that has bound it and is still starting. -/
def StartupPlace.startsOn : StartupPlace → Option Nat
  | .listening id | .permitting id | .announcing id | .retracting id _ | .installing id => some id
  | .creating | .checking | .probing | .removing | .binding | .serving _ | .closing .. | .over _
  | .killed => none

/-- The socket file of a daemon that has bound it and has not closed it. -/
def StartupPlace.bound : StartupPlace → Option Nat
  | .serving id => some id
  | place => place.startsOn

/-- A daemon that starts and is about to remove the path. -/
def StartupPlace.Unlinks : StartupPlace → Prop
  | .removing | .retracting .. => True
  | .creating | .checking | .probing | .binding | .listening _ | .permitting _ | .announcing _
  | .installing _ | .serving _ | .closing .. | .over _ | .killed => False

/-- A daemon that starts is about to remove the socket on which another one listens. -/
def StartupWorld.Steals (world : StartupWorld) (index : Nat) : Prop :=
  ∃ place, world.daemons[index]? = some place ∧ place.Unlinks ∧
    ∃ id, world.entry = some (.socket id) ∧ ∃ other owner, other ≠ index ∧
      world.daemons[other]? = some owner ∧ owner.listens = some id

/-- A daemon whose next call succeeds does not bind the path while another one is about to remove
it, does not probe a socket before its daemon listens on it, and does not remove the socket of a
daemon that is starting when it ends. -/
def StartupWorld.OrderlyCall (world : StartupWorld) (place : StartupPlace) : Prop :=
  match place, world.entry with
  | .binding, none => .removing ∉ world.daemons
  | .probing, some (.socket id) => .listening id ∉ world.daemons
  | .closing .., some (.socket id) => ∀ owner ∈ world.daemons, owner.startsOn ≠ some id
  | _, _ => True

instance StartupWorld.decidableOrderlyCall (world : StartupWorld) (place : StartupPlace) :
    Decidable (world.OrderlyCall place) := by
  unfold StartupWorld.OrderlyCall
  split <;> infer_instance

/-- An action of daemons that start one after the other where it matters. -/
def StartupWorld.Orderly (world : StartupWorld) : StartupAction → Prop
  | .call index (.ok ()) => ∀ place ∈ world.daemons[index]?, world.OrderlyCall place
  | .call _ (.error _) | .start | .kill _ => True

instance StartupWorld.decidableOrderly (world : StartupWorld) (action : StartupAction) :
    Decidable (world.Orderly action) :=
  match action with
  | .call index (.ok ()) =>
    inferInstanceAs (Decidable (∀ place ∈ world.daemons[index]?, world.OrderlyCall place))
  | .call _ (.error _) | .start | .kill _ => isTrue trivial

/-! ## What a call does -/

/-- What the call of a daemon may do to the path. -/
inductive StartupWorld.Passage (world : StartupWorld) (outcome : Except String Unit)
    (place : StartupPlace) : Option PathEntry → Nat → StartupPlace → Prop where
  /-- The daemon goes where it has no socket. -/
  | idle (entry : Option PathEntry) (next : StartupPlace) : entry = world.entry →
    next.bound = none → next ≠ .removing → Passage world outcome place entry world.created next
  /-- Its connection is refused. -/
  | refused : outcome = .ok () → place = .probing →
    (∀ id, world.entry = some (.socket id) → world.isListening id = false) →
    Passage world outcome place world.entry world.created .removing
  /-- It removes what was there. -/
  | removed : place = .removing → Passage world outcome place none world.created .binding
  /-- It binds a socket of its own. -/
  | binds : outcome = .ok () → place = .binding → world.entry = none →
    Passage world outcome place (some (.socket world.created)) (world.created + 1)
      (.listening world.created)
  /-- It goes on with its socket. -/
  | continues (id : Nat) (next : StartupPlace) : place.bound = some id → next.bound = some id →
    (next.startsOn = some id → place.startsOn = some id) → next ≠ .removing →
    Passage world outcome place world.entry world.created next
  /-- It removes its socket, or what is there, because its start failed. -/
  | retracted (id : Nat) (error : String) : place = .retracting id error →
    Passage world outcome place none world.created (.fails error)
  /-- It removes its socket, or what is there, because it ends. -/
  | cleaned (id : Nat) (result : Except String Unit) : outcome = .ok () →
    place = .closing id result → Passage world outcome place none world.created (.over result)

section Calls

variable {path : SocketPath} {world : StartupWorld} {place next : StartupPlace}
  {outcome : Except String Unit} {entry : Option PathEntry} {created : Nat}

/-- What the call of a daemon does. -/
theorem startupCall_passage
    (taken : startupCall path world outcome place = some (entry, created, next)) :
    world.Passage outcome place entry created next := by
  cases place with
  | creating =>
    simp only [startupCall] at taken
    split at taken <;> cases taken <;> exact .idle _ _ rfl rfl nofun
  | checking =>
    simp only [startupCall] at taken
    split at taken
    · cases taken
      exact .idle _ _ rfl rfl nofun
    · rename_i absent
      cases taken
      exact .idle _ _ absent.symm rfl nofun
    · cases taken
      exact .idle _ _ rfl rfl nofun
    · cases taken
      exact .idle _ _ rfl rfl nofun
  | probing =>
    simp only [startupCall] at taken
    split at taken
    · cases taken
      exact .idle _ _ rfl rfl nofun
    · rename_i absent
      cases taken
      exact .idle _ _ absent.symm rfl nofun
    · rename_i other
      cases taken
      refine .refused rfl rfl fun id socket => ?_
      cases other.symm.trans socket
    · rename_i id socket
      split at taken
      · cases taken
        exact .idle _ _ rfl rfl nofun
      · rename_i dead
        cases taken
        refine .refused rfl rfl fun own named => ?_
        obtain rfl := PathEntry.socket.inj (Option.some.inj (socket.symm.trans named))
        exact Bool.eq_false_iff.mpr dead
  | removing =>
    simp only [startupCall] at taken
    split at taken
    · cases taken
      exact .removed rfl
    all_goals
      cases taken
      exact .idle _ _ rfl rfl nofun
  | binding =>
    simp only [startupCall] at taken
    split at taken
    · rename_i absent
      cases taken
      exact .binds rfl rfl absent
    all_goals
      cases taken
      exact .idle _ _ rfl rfl nofun
  | listening id =>
    simp only [startupCall] at taken
    split at taken
    · cases taken
      exact .continues id _ rfl rfl (fun _ => rfl) nofun
    · cases taken
      exact .idle _ _ rfl rfl nofun
  | permitting id =>
    simp only [startupCall] at taken
    split at taken <;> cases taken <;> exact .continues id _ rfl rfl (fun _ => rfl) nofun
  | announcing id =>
    simp only [startupCall] at taken
    split at taken <;> cases taken <;> exact .continues id _ rfl rfl (fun _ => rfl) nofun
  | retracting id error =>
    simp only [startupCall] at taken
    split at taken
    · cases taken
      exact .retracted id error rfl
    · cases taken
      exact .idle _ _ rfl rfl nofun
  | installing id =>
    simp only [startupCall] at taken
    split at taken <;> cases taken <;> exact .continues id _ rfl rfl (fun _ => rfl) nofun
  | serving id =>
    cases taken
    exact .idle _ _ rfl rfl nofun
  | closing id result =>
    simp only [startupCall] at taken
    split at taken
    · cases taken
      exact .cleaned id result rfl rfl
    · cases taken
      exact .idle _ _ rfl rfl nofun
  | «over» | killed => cases taken

/-- A daemon that is starting on a socket has it. -/
theorem StartupPlace.bound_of_startsOn {id : Nat} (starts : place.startsOn = some id) :
    place.bound = some id := by
  cases place <;> first | exact starts | cases starts

/-- A daemon that listens has a socket. -/
theorem StartupPlace.bound_of_listens {id : Nat} (listens : place.listens = some id) :
    place.bound = some id := by
  cases place <;> first | exact listens | cases listens

/-- A daemon that has a socket listens, or has not begun to. -/
theorem StartupPlace.listens_of_bound {id : Nat} (bound : place.bound = some id) :
    place.listens = some id ∨ place = .listening id := by
  cases place with
  | listening own => exact .inr (congrArg _ (Option.some.inj bound))
  | permitting | announcing | retracting | installing | serving => exact .inl bound
  | creating | checking | probing | removing | binding | closing | «over» | killed => cases bound

end Calls

/-! ## The invariant -/

/-- The invariant of daemons that start in order. -/
structure StartupWorld.Settled (world : StartupWorld) : Prop where
  /-- A socket file was made. -/
  entry : ∀ id, world.entry = some (.socket id) → id < world.created
  /-- So was the socket file of a daemon. -/
  fresh : ∀ place ∈ world.daemons, ∀ id, place.bound = some id → id < world.created
  /-- No two daemons have one socket. -/
  apart : ∀ (index other : Nat) (first second : StartupPlace) (id : Nat),
    world.daemons[index]? = some first → world.daemons[other]? = some second →
    first.bound = some id → second.bound = some id → index = other
  /-- The path names the socket of a daemon that is starting on it. -/
  owned : ∀ place ∈ world.daemons, ∀ id, place.startsOn = some id →
    world.entry = some (.socket id)
  /-- Nobody has the socket that a daemon is about to remove. -/
  dead : .removing ∈ world.daemons → ∀ id, world.entry = some (.socket id) →
    ∀ place ∈ world.daemons, place.bound ≠ some id

namespace StartupWorld

variable {path : SocketPath} {world after : StartupWorld} {place next : StartupPlace}
  {index : Nat} {outcome : Except String Unit} {entry : Option PathEntry} {created : Nat}

/-- No two daemons have one socket after one of them has moved to a place without one, or with the
socket it had, or with a new one. -/
theorem Settled.apart_set (settled : world.Settled) (present : world.daemons[index]? = some place)
    (kept : ∀ id, next.bound = some id → place.bound = some id ∨ id = world.created) :
    ∀ (one other : Nat) (first second : StartupPlace) (id : Nat),
      (world.daemons.set index next)[one]? = some first →
      (world.daemons.set index next)[other]? = some second → first.bound = some id →
      second.bound = some id → one = other := by
  -- whoever else has the socket had it before
  have rest : ∀ (other : Nat) (second : StartupPlace) (id : Nat), other ≠ index →
      (world.daemons.set index next)[other]? = some second → next.bound = some id →
      second.bound = some id → False := by
    intro other second id different found moved bound
    rw [List.getElem?_set_ne (Ne.symm different)] at found
    obtain before | new := kept id moved
    · exact different (settled.apart _ _ _ _ _ found present bound before)
    · have inside := settled.fresh second (List.mem_of_getElem? found) id bound
      exact absurd new (Nat.ne_of_lt inside)
  have own : ∀ moved, (world.daemons.set index next)[index]? = some moved → moved = next := by
    intro moved found
    rw [List.getElem?_set_self (List.getElem?_eq_some_iff.mp present).1] at found
    exact (Option.some.inj found).symm
  intro one other first second id here there bound again
  by_cases self : one = index
  · subst self
    by_cases same : other = one
    · exact same.symm
    · rw [own first here] at bound
      exact (rest other second id same there bound again).elim
  · by_cases same : other = index
    · subst same
      rw [own second there] at again
      exact (rest one first id self here again bound).elim
    · rw [List.getElem?_set_ne (Ne.symm self)] at here
      rw [List.getElem?_set_ne (Ne.symm same)] at there
      exact settled.apart _ _ _ _ _ here there bound again

/-- The invariant after a daemon has moved where it has no socket, and has checked that nobody has
the one it is going to remove. -/
theorem Settled.idle (settled : world.Settled) (present : world.daemons[index]? = some place)
    (unbound : next.bound = none)
    (checked : next = .removing → ∀ id, world.entry = some (.socket id) →
      ∀ other ∈ world.daemons, other.bound ≠ some id) :
    Settled { world with daemons := world.daemons.set index next } := by
  have bare : ∀ id, next.bound ≠ some id := fun id bound => nomatch unbound.symm.trans bound
  refine ⟨settled.entry, fun other listed id bound => ?_, ?_, fun other listed id starts => ?_,
    fun removing id named other listed bound => ?_⟩
  · obtain old | rfl := List.mem_or_eq_of_mem_set listed
    · exact settled.fresh other old id bound
    · exact absurd bound (bare id)
  · exact settled.apart_set present fun id bound => absurd bound (bare id)
  · obtain old | rfl := List.mem_or_eq_of_mem_set listed
    · exact settled.owned other old id starts
    · exact absurd (StartupPlace.bound_of_startsOn starts) (bare id)
  · obtain old | rfl := List.mem_or_eq_of_mem_set listed
    · obtain before | same := List.mem_or_eq_of_mem_set removing
      · exact settled.dead before id named other old bound
      · exact checked same.symm id named other old bound
    · exact bare id bound

/-- The invariant after a daemon has removed what the path named, when nobody is starting on it. -/
theorem Settled.removed (settled : world.Settled) (present : world.daemons[index]? = some place)
    (unbound : next.bound = none)
    (unowned : ∀ other owner id, other ≠ index → world.daemons[other]? = some owner →
      owner.startsOn ≠ some id) :
    Settled ⟨none, world.created, world.daemons.set index next⟩ := by
  have bare : ∀ id, next.bound ≠ some id := fun id bound => nomatch unbound.symm.trans bound
  refine ⟨nofun, fun other listed id bound => ?_, ?_, fun other listed id starts => ?_,
    fun _ id named => nomatch named⟩
  · obtain old | rfl := List.mem_or_eq_of_mem_set listed
    · exact settled.fresh other old id bound
    · exact absurd bound (bare id)
  · exact settled.apart_set present fun id bound => absurd bound (bare id)
  · obtain ⟨position, found⟩ := List.getElem?_of_mem listed
    by_cases self : position = index
    · subst self
      rw [List.getElem?_set_self (List.getElem?_eq_some_iff.mp present).1] at found
      obtain rfl := Option.some.inj found
      exact absurd (StartupPlace.bound_of_startsOn starts) (bare id)
    · rw [List.getElem?_set_ne (Ne.symm self)] at found
      exact absurd starts (unowned position other id self found)

/-- Every orderly call keeps the invariant. -/
theorem Settled.call (settled : world.Settled) (present : world.daemons[index]? = some place)
    (orderly : outcome = .ok () → world.OrderlyCall place)
    (passage : world.Passage outcome place entry created next) :
    Settled ⟨entry, created, world.daemons.set index next⟩ := by
  have member := List.mem_of_getElem? present
  cases passage with
  | idle _ _ same unbound stays =>
    subst same
    exact settled.idle present unbound fun removing => absurd removing stays
  | refused success probing dead =>
    subst probing
    have apart := orderly success
    refine settled.idle present rfl fun _ id named other listed bound => ?_
    obtain listens | rfl := StartupPlace.listens_of_bound bound
    · have live : world.isListening id = true :=
        List.any_eq_true.mpr ⟨other, listed, beq_iff_eq.mpr listens⟩
      exact Bool.false_ne_true ((dead id named).symm.trans live)
    · simp only [OrderlyCall, named] at apart
      exact apart listed
  | removed removing =>
    subst removing
    refine settled.removed present rfl fun other owner id different found starts => ?_
    -- a daemon that is starting has the socket that is removed
    have named := settled.owned owner (List.mem_of_getElem? found) id starts
    exact settled.dead member id named owner (List.mem_of_getElem? found)
      (StartupPlace.bound_of_startsOn starts)
  | binds success binding absent =>
    subst binding
    have apart := orderly success
    simp only [OrderlyCall, absent] at apart
    refine ⟨fun id named => ?_, fun other listed id bound => ?_, ?_,
      fun other listed id starts => ?_, fun removing => ?_⟩
    · rw [← PathEntry.socket.inj (Option.some.inj named)]
      exact Nat.lt_succ_self _
    · obtain old | rfl := List.mem_or_eq_of_mem_set listed
      · exact Nat.lt_succ_of_lt (settled.fresh other old id bound)
      · exact Option.some.inj bound ▸ Nat.lt_succ_self _
    · exact settled.apart_set present fun id bound => .inr (Option.some.inj bound).symm
    · obtain old | rfl := List.mem_or_eq_of_mem_set listed
      · cases absent.symm.trans (settled.owned other old id starts)
      · exact congrArg (fun own => some (PathEntry.socket own)) (Option.some.inj starts)
    · obtain before | same := List.mem_or_eq_of_mem_set removing
      · exact absurd before apart
      · cases same
  | continues id _ bound kept starts stays =>
    refine ⟨settled.entry, fun other listed own has => ?_, ?_, fun other listed own begins => ?_,
      fun removing own named other listed has => ?_⟩
    · obtain old | rfl := List.mem_or_eq_of_mem_set listed
      · exact settled.fresh other old own has
      · exact settled.fresh place member own (bound.trans (kept.symm.trans has))
    · exact settled.apart_set present fun own has => .inl (bound.trans (kept.symm.trans has))
    · obtain old | rfl := List.mem_or_eq_of_mem_set listed
      · exact settled.owned other old own begins
      · have same := kept.symm.trans (StartupPlace.bound_of_startsOn begins)
        exact settled.owned place member own ((starts (begins.trans same.symm)).trans same)
    · obtain before | same := List.mem_or_eq_of_mem_set removing
      · obtain old | rfl := List.mem_or_eq_of_mem_set listed
        · exact settled.dead before own named other old has
        · exact settled.dead before own named place member (bound.trans (kept.symm.trans has))
      · exact stays same.symm
  | retracted id error retracting =>
    subst retracting
    refine settled.removed present rfl fun other owner own different found starts => ?_
    have named := settled.owned owner (List.mem_of_getElem? found) own starts
    have mine := settled.owned _ member id rfl
    obtain rfl := PathEntry.socket.inj (Option.some.inj (named.symm.trans mine))
    exact different (settled.apart _ _ _ _ _ found present
      (StartupPlace.bound_of_startsOn starts) rfl)
  | cleaned id result success closing =>
    subst closing
    have apart := orderly success
    refine settled.removed present rfl fun other owner own different found starts => ?_
    have named := settled.owned owner (List.mem_of_getElem? found) own starts
    simp only [OrderlyCall, named] at apart
    exact apart owner (List.mem_of_getElem? found) starts

/-- A daemon begins without a socket. -/
theorem first_idles (path : SocketPath) :
    StartupPlace.first path = .creating ∨ StartupPlace.first path = .checking := by
  unfold StartupPlace.first
  split
  · exact .inl rfl
  · exact .inr rfl

/-- The invariant after a daemon is started. -/
theorem Settled.start (settled : world.Settled) (path : SocketPath) :
    Settled { world with daemons := world.daemons ++ [.first path] } := by
  have bare : ∀ id, (StartupPlace.first path).bound ≠ some id := by
    intro id bound
    obtain first | first := first_idles path <;> rw [first] at bound <;> cases bound
  have listed : ∀ {place}, place ∈ world.daemons ++ [.first path] →
      place ∈ world.daemons ∨ place = .first path := by
    intro place member
    obtain old | new := List.mem_append.mp member
    · exact .inl old
    · exact .inr (List.mem_singleton.mp new)
  have before : ∀ (index : Nat) (place : StartupPlace) (id : Nat),
      (world.daemons ++ [.first path])[index]? = some place → place.bound = some id →
      world.daemons[index]? = some place := by
    intro index place id found bound
    rw [List.getElem?_append] at found
    split at found
    · exact found
    · obtain rfl := List.mem_singleton.mp (List.mem_of_getElem? found)
      exact absurd bound (bare id)
  refine ⟨settled.entry, fun place member id bound => ?_, ?_, fun place member id starts => ?_,
    fun removing id named place member bound => ?_⟩
  · obtain old | rfl := listed member
    · exact settled.fresh place old id bound
    · exact absurd bound (bare id)
  · intro index other first second id here there bound again
    exact settled.apart index other first second id (before _ _ _ here bound)
      (before _ _ _ there again) bound again
  · obtain old | rfl := listed member
    · exact settled.owned place old id starts
    · exact absurd (StartupPlace.bound_of_startsOn starts) (bare id)
  · obtain old | rfl := listed member
    · obtain was | first := listed removing
      · exact settled.dead was id named place old bound
      · obtain creating | checking := first_idles path
        · cases first.trans creating
        · cases first.trans checking
    · exact absurd bound (bare id)

/-- Every orderly step keeps the invariant. -/
theorem Settled.step (settled : world.Settled) {action : StartupAction}
    (orderly : world.Orderly action) (taken : startupStep path world action = some after) :
    after.Settled := by
  cases action with
  | start =>
    obtain rfl := Option.some.inj taken
    exact settled.start path
  | call index outcome =>
    simp only [startupStep] at taken
    split at taken
    · rename_i place present
      obtain ⟨⟨entry, created, next⟩, called, rfl⟩ := Option.map_eq_some_iff.mp taken
      refine settled.call present (fun success => ?_) (startupCall_passage called)
      subst success
      exact orderly place present
    · cases taken
  | kill index =>
    simp only [startupStep] at taken
    split at taken
    · rename_i inside
      obtain rfl := Option.some.inj taken
      exact settled.idle (List.getElem?_eq_getElem inside) rfl nofun
    · cases taken

/-- What every orderly run keeps. -/
theorem settled_reachable (reached : (startupMachine path).Reachable Orderly world) :
    world.Settled := by
  refine reached.invariant ?_ fun before action after _ settled orderly taken =>
    settled.step orderly taken
  rintro initial (rfl | rfl | rfl | rfl)
  · exact ⟨nofun, nofun, nofun, nofun, nofun⟩
  · exact ⟨nofun, nofun, nofun, nofun, nofun⟩
  · refine ⟨fun id named => ?_, nofun, nofun, nofun, nofun⟩
    rw [← PathEntry.socket.inj (Option.some.inj named)]
    exact Nat.one_pos
  · refine ⟨fun id named => ?_, fun place member id bound => ?_,
      fun index other first second id here there _ _ => ?_, fun place member id starts => ?_,
      fun removing => ?_⟩
    · rw [← PathEntry.socket.inj (Option.some.inj named)]
      exact Nat.one_pos
    · obtain rfl := List.mem_singleton.mp member
      exact Option.some.inj bound ▸ Nat.one_pos
    · have zero := Nat.lt_one_iff.mp (List.getElem?_eq_some_iff.mp here).1
      exact zero.trans (Nat.lt_one_iff.mp (List.getElem?_eq_some_iff.mp there).1).symm
    · obtain rfl := List.mem_singleton.mp member
      cases starts
    · cases List.mem_singleton.mp removing

/-- No daemon that starts is about to remove the socket on which another one listens. -/
theorem Settled.not_steals (settled : world.Settled) (index : Nat) : ¬ world.Steals index := by
  rintro ⟨place, present, unlinks, id, named, other, owner, different, found, listens⟩
  have member := List.mem_of_getElem? present
  have bound := StartupPlace.bound_of_listens listens
  cases place with
  | removing => exact settled.dead member id named owner (List.mem_of_getElem? found) bound
  | retracting own error =>
    have mine := settled.owned _ member own rfl
    obtain rfl := PathEntry.socket.inj (Option.some.inj (named.symm.trans mine))
    exact different (settled.apart _ _ _ _ _ found present bound rfl)
  | creating | checking | probing | binding | listening | permitting | announcing | installing
  | serving | closing | «over» | killed => exact unlinks

/-! ### Files that are no sockets -/

/-- A daemon that has found no socket. -/
def IsIdle : StartupPlace → Prop
  | .creating | .checking | .over _ | .killed => True
  | .probing | .removing | .binding | .listening _ | .permitting _ | .announcing _
  | .retracting .. | .installing _ | .serving _ | .closing .. => False

/-- No daemon has found a socket where there is another file. -/
def Refuses (world : StartupWorld) : Prop :=
  world.entry = some .other → ∀ place ∈ world.daemons, IsIdle place

/-- A daemon that has found no socket leaves another file alone. -/
theorem startupCall_other (named : world.entry = some .other) (idle : IsIdle place)
    (called : startupCall path world outcome place = some (entry, created, next)) :
    entry = some .other ∧ IsIdle next := by
  cases place with
  | creating =>
    simp only [startupCall] at called
    split at called <;> cases called <;> exact ⟨named, trivial⟩
  | checking =>
    simp only [startupCall, named] at called
    split at called
    · cases called
      exact ⟨rfl, trivial⟩
    · rename_i absent
      cases absent
    · cases called
      exact ⟨rfl, trivial⟩
    · rename_i socket
      cases socket
  | «over» | killed => cases called
  | probing | removing | binding | listening | permitting | announcing | retracting | installing
  | serving | closing => exact idle.elim

/-- No call makes a file that is no socket. -/
theorem Passage.other (passage : world.Passage outcome place entry created next)
    (named : entry = some .other) : world.entry = some .other := by
  cases passage with
  | idle _ _ same => exact same ▸ named
  | refused | continues => exact named
  | removed | binds | retracted | cleaned => cases named

/-- A step leaves a file that is no socket alone. -/
theorem Refuses.step (refuses : world.Refuses) {action : StartupAction}
    (taken : startupStep path world action = some after) :
    after.Refuses ∧ (world.entry = some .other → after.entry = some .other) := by
  cases action with
  | start =>
    obtain rfl := Option.some.inj taken
    refine ⟨fun named place member => ?_, id⟩
    obtain old | new := List.mem_append.mp member
    · exact refuses named place old
    · obtain rfl := List.mem_singleton.mp new
      obtain first | first := first_idles path <;> rw [first] <;> trivial
  | call index outcome =>
    simp only [startupStep] at taken
    split at taken
    · rename_i place present
      obtain ⟨⟨entry, created, next⟩, called, rfl⟩ := Option.map_eq_some_iff.mp taken
      have member := List.mem_of_getElem? present
      refine ⟨fun named other listed => ?_, fun named => ?_⟩
      · have before := (startupCall_passage called).other named
        obtain old | rfl := List.mem_or_eq_of_mem_set listed
        · exact refuses before other old
        · exact (startupCall_other before (refuses before place member) called).2
      · exact (startupCall_other named (refuses named place member) called).1
    · cases taken
  | kill index =>
    simp only [startupStep] at taken
    split at taken
    · obtain rfl := Option.some.inj taken
      refine ⟨fun named other listed => ?_, id⟩
      obtain old | rfl := List.mem_or_eq_of_mem_set listed
      · exact refuses named other old
      · trivial
    · cases taken

/-- What every run keeps of a file that is no socket. -/
theorem refuses_reachable
    (reached : (startupMachine path).Reachable (fun _ _ => True) world) : world.Refuses := by
  refine reached.invariant ?_ fun before action after _ refuses _ taken => (refuses.step taken).1
  rintro initial (rfl | rfl | rfl | rfl)
  · exact nofun
  · exact fun _ => nofun
  · exact nofun
  · exact nofun

/-! ### What a step out of order leads to -/

/-- A start-up can go on so that a daemon removes the socket on which another one listens. -/
def CanSteal (path : SocketPath) (world : StartupWorld) : Prop :=
  ∃ actions later index, (startupMachine path).Run (fun _ _ => True) world actions later ∧
    later.Steals index

/-- A daemon makes its next call. -/
theorem CanSteal.call (outcome : Except String Unit)
    (steals : CanSteal path ⟨entry, created, world.daemons.set index next⟩)
    (present : world.daemons[index]? = some place)
    (called : startupCall path world outcome place = some (entry, created, next)) :
    CanSteal path world := by
  obtain ⟨actions, later, thief, run, steals⟩ := steals
  refine ⟨.call index outcome :: actions, later, thief, .cons ⟨trivial, ?_⟩ run, steals⟩
  show startupStep path world (.call index outcome) = _
  simp only [startupStep, present, called, Option.map_some]

/-- A daemon is about to remove the socket on which another one listens. -/
theorem Steals.canSteal (index : Nat) (steals : world.Steals index) : CanSteal path world :=
  ⟨[], world, index, .nil world, steals⟩

/-- The place of the last daemon. -/
theorem set_concat (daemons : List StartupPlace) (place next : StartupPlace) :
    (daemons ++ [place]).set daemons.length next = daemons ++ [next] := by
  rw [List.set_append_right _ _ (Nat.le_refl _), Nat.sub_self, List.set_cons_zero]

/-- A daemon that is about to remove the path removes the socket of the next one to start. -/
theorem canSteal_retracting {daemons : List StartupPlace} (index id : Nat) (error : String)
    (present : daemons[index]? = some (.retracting id error)) :
    CanSteal path ⟨none, created, daemons⟩ := by
  have stays : ∀ place : StartupPlace,
      (daemons ++ [place])[index]? = some (.retracting id error) := by
    intro place
    rw [List.getElem?_append_left (List.getElem?_eq_some_iff.mp present).1]
    exact present
  have last : ∀ place : StartupPlace, (daemons ++ [place])[daemons.length]? = some place :=
    fun place => List.getElem?_concat_length
  have binds : CanSteal path ⟨none, created, daemons ++ [.binding]⟩ := by
    refine CanSteal.call (.ok ()) ?_ (last _) rfl
    rw [set_concat]
    refine CanSteal.call (.ok ()) ?_ (last _) rfl
    rw [set_concat]
    refine Steals.canSteal index ⟨_, stays _, trivial, created, rfl, daemons.length, _,
      fun same => ?_, last _, rfl⟩
    exact absurd (List.getElem?_eq_some_iff.mp present).1 (same ▸ Nat.lt_irrefl _)
  have checks : CanSteal path ⟨none, created, daemons ++ [.checking]⟩ := by
    refine CanSteal.call (.ok ()) ?_ (last _) rfl
    rw [set_concat]
    exact binds
  have first : CanSteal path ⟨none, created, daemons ++ [.first path]⟩ := by
    obtain creating | checking := first_idles path
    · rw [creating]
      refine CanSteal.call (.ok ()) ?_ (last _) rfl
      rw [set_concat]
      exact checks
    · rw [checking]
      exact checks
  obtain ⟨actions, later, thief, run, steals⟩ := first
  exact ⟨.start :: actions, later, thief, .cons ⟨trivial, rfl⟩ run, steals⟩

/-- A daemon whose socket is removed while it starts can fail and remove the path. -/
theorem canSteal_unlinked {daemons : List StartupPlace} {id : Nat}
    (present : daemons[index]? = some place) (starts : place.startsOn = some id) :
    CanSteal path ⟨none, created, daemons⟩ := by
  have inside := (List.getElem?_eq_some_iff.mp present).1
  have moves : ∀ {next : StartupPlace}, (daemons.set index next)[index]? = some next :=
    fun {_} => List.getElem?_set_self inside
  have permits : ∀ {daemons : List StartupPlace}, daemons[index]? = some (.permitting id) →
      CanSteal path ⟨none, created, daemons⟩ := by
    intro daemons present
    refine CanSteal.call (.ok ()) (canSteal_retracting index id
      s!"setting permissions on {path.display}" ?_) present rfl
    exact List.getElem?_set_self (List.getElem?_eq_some_iff.mp present).1
  cases place with
  | listening own =>
    obtain rfl := Option.some.inj starts
    exact CanSteal.call (.ok ()) (permits moves) present rfl
  | permitting own =>
    obtain rfl := Option.some.inj starts
    exact permits present
  | announcing own | installing own =>
    exact CanSteal.call (.error "") (canSteal_retracting index own _ moves) present rfl
  | retracting own error => exact canSteal_retracting index own error present
  | creating | checking | probing | removing | binding | serving | closing | «over» | killed =>
    cases starts

/-- After a step out of order a daemon can remove the socket on which another one listens. -/
theorem Settled.canSteal (settled : world.Settled) {action : StartupAction}
    (taken : startupStep path world action = some after) (disorderly : ¬ world.Orderly action) :
    CanSteal path after := by
  unfold Orderly at disorderly
  split at disorderly
  · rename_i index
    simp only [Option.mem_def, not_forall] at disorderly
    obtain ⟨place, present, disorderly⟩ := disorderly
    have inside := (List.getElem?_eq_some_iff.mp present).1
    simp only [startupStep, present] at taken
    obtain ⟨⟨entry, created, next⟩, called, rfl⟩ := Option.map_eq_some_iff.mp taken
    have moves : ∀ {next : StartupPlace}, (world.daemons.set index next)[index]? = some next :=
      fun {_} => List.getElem?_set_self inside
    have others : ∀ {other : Nat} {owner next : StartupPlace},
        world.daemons[other]? = some owner → owner ≠ place →
        other ≠ index ∧ (world.daemons.set index next)[other]? = some owner := by
      intro other owner next found different
      have apart : other ≠ index := by
        rintro rfl
        exact different (Option.some.inj (found.symm.trans present))
      rw [List.getElem?_set_ne (Ne.symm apart)]
      exact ⟨apart, found⟩
    unfold OrderlyCall at disorderly
    split at disorderly
    · -- a daemon binds while another one is about to remove
      rename_i absent
      obtain ⟨other, found⟩ := List.getElem?_of_mem (not_not.mp disorderly)
      simp only [startupCall, absent] at called
      cases called
      refine CanSteal.call (.ok ()) ?_ moves rfl
      rw [List.set_set]
      obtain ⟨apart, stays⟩ := others found nofun
      exact Steals.canSteal other ⟨_, stays, trivial, world.created, rfl, index, _,
        Ne.symm apart, moves, rfl⟩
    · -- a daemon is refused by a socket on which another one is going to listen
      rename_i id named
      obtain ⟨other, found⟩ := List.getElem?_of_mem (not_not.mp disorderly)
      have deaf : world.isListening id = false := by
        refine Bool.eq_false_iff.mpr fun live => ?_
        obtain ⟨owner, listed, listens⟩ := List.any_eq_true.mp live
        obtain ⟨position, there⟩ := List.getElem?_of_mem listed
        have same := settled.apart _ _ _ _ id there found
          (StartupPlace.bound_of_listens (beq_iff_eq.mp listens)) rfl
        subst same
        obtain rfl := Option.some.inj (there.symm.trans found)
        cases beq_iff_eq.mp listens
      simp only [startupCall, named, deaf] at called
      cases called
      obtain ⟨apart, stays⟩ := others found nofun
      refine CanSteal.call (.ok ()) ?_ stays rfl
      refine Steals.canSteal index ⟨.removing, ?_, trivial, id, rfl, other, _, apart,
        List.getElem?_set_self ?_, rfl⟩
      · rw [List.getElem?_set_ne apart]
        exact moves
      · exact (List.getElem?_eq_some_iff.mp stays).1
    · -- a daemon that ends removes the socket of one that starts
      rename_i own result id named
      simp only [not_forall, not_not] at disorderly
      obtain ⟨owner, listed, starts⟩ := disorderly
      obtain ⟨other, found⟩ := List.getElem?_of_mem listed
      cases called
      obtain ⟨_, stays⟩ := others found fun same => by rw [same] at starts; cases starts
      exact canSteal_unlinked stays starts
    · exact absurd trivial disorderly
  all_goals exact absurd trivial disorderly

end StartupWorld

/-- A file that is no socket stays whatever the daemons do. In every run whose steps are in order,
no daemon that starts is about to remove the socket on which another one listens; and after the
first step out of order the run can go on to where one is. -/
theorem startup_steals (path : SocketPath) :
    (∀ world, (startupMachine path).Reachable (fun _ _ => True) world →
      ∀ action after, startupStep path world action = some after →
      world.entry = some .other → after.entry = some .other) ∧
    ∀ world, (startupMachine path).Reachable StartupWorld.Orderly world →
      (∀ index, ¬ world.Steals index) ∧
      ∀ action after, startupStep path world action = some after → ¬ world.Orderly action →
        ∃ actions later index, (startupMachine path).Run (fun _ _ => True) after actions later ∧
          later.Steals index := by
  refine ⟨fun world reached action after taken => ?_, fun world reached => ?_⟩
  · exact ((StartupWorld.refuses_reachable reached).step taken).2
  · have settled := StartupWorld.settled_reachable reached
    exact ⟨settled.not_steals, fun action after taken disorderly =>
      settled.canSteal taken disorderly⟩

/-- A path for a socket in a directory. -/
def examplePath : SocketPath := ⟨"/run/user/1000/evix.sock", some "/run/user/1000"⟩

/-- A stale socket is replaced, and the next daemon finds that of the first one. -/
theorem startup_steals_stale : ∃ world : StartupWorld, (∀ index, ¬ world.Steals index) ∧
    world.entry = some (.socket 1) ∧ world.daemons =
      [.serving 1, .fails "live daemon socket already exists at /run/user/1000/evix.sock"] := by
  obtain ⟨world, reached, checked⟩ := Machine.reachable_of_execute (startupMachine examplePath)
    StartupWorld.Orderly ⟨some (.socket 0), 1, []⟩
    ([.start] ++ List.replicate 9 (.call 0 (.ok ())) ++ [.start] ++
      List.replicate 3 (.call 1 (.ok ())))
    (fun world => world.entry = some (.socket 1) ∧ world.daemons =
      [.serving 1, .fails "live daemon socket already exists at /run/user/1000/evix.sock"])
    (.inr (.inr (.inl rfl))) (by decide +kernel)
  exact ⟨world, ((startup_steals examplePath).2 world reached).1, of_decide_eq_true checked⟩

/-- Two daemons that find one stale socket: the second one has put its own there when the first one
removes what it has found. -/
theorem startup_steals_race : ∃ world : StartupWorld,
    (startupMachine examplePath).Reachable (fun _ _ => True) world ∧
      world = ⟨some (.socket 1), 2, [.removing, .serving 1]⟩ ∧ world.Steals 0 ∧
      startupStep examplePath world (.call 0 (.ok ())) =
        some ⟨none, 2, [.binding, .serving 1]⟩ := by
  obtain ⟨world, reached, checked⟩ := Machine.reachable_of_execute (startupMachine examplePath)
    (fun _ _ => True) ⟨some (.socket 0), 1, []⟩
    ([.start, .start] ++ List.replicate 3 (.call 0 (.ok ())) ++
      List.replicate 9 (.call 1 (.ok ())))
    (fun world => world = ⟨some (.socket 1), 2, [.removing, .serving 1]⟩)
    (.inr (.inr (.inl rfl))) (by decide +kernel)
  obtain rfl := of_decide_eq_true checked
  refine ⟨_, reached, rfl, ⟨.removing, rfl, trivial, 1, rfl, 1, .serving 1, ?_, rfl, rfl⟩, rfl⟩
  decide

end Evix
