import Mathlib.Algebra.Order.BigOperators.Group.List
import Mathlib.Algebra.Order.Group.Nat
import Evix.Fleet
import Evix.Library.Fallible
import Evix.Verif.Bookkeeping

/-!
# Fork slots

The descriptors of the master, of the workers it spawns and of the workers forked from the first
one. Each number a process has open names what is expected at its place in the start-up, so the
worker ends of a slot are open only where the slot is still claimed, and a slot is claimed once.
-/

namespace Evix

open Descriptors Machines

/-! ## What a process may hold -/

/-- The channel of a forked worker is its socket. -/
def ProcessPlace.rewired : ProcessPlace → Bool
  | .detaching | .announcing | .serving | .forking | .gone => true
  | _ => false

/-- The standard streams of a forked worker are its own. -/
def ProcessPlace.detached : ProcessPlace → Bool
  | .announcing | .serving | .forking | .gone => true
  | _ => false

/-- A forked worker has sent its pid. -/
def ProcessPlace.announced : ProcessPlace → Bool
  | .serving | .forking | .gone => true
  | _ => false

/-- A place only a process that runs `worker::run` from its start comes to. -/
def ProcessPlace.fresh : ProcessPlace → Bool
  | .executed | .opening | .preparing => true
  | _ => false

/-- The slot an endpoint is a worker end of. -/
def Endpoint.workerEnd : Endpoint → Option Nat
  | .socket slot .worker | .stderr slot .worker => some slot
  | _ => none

/-- What numbers may name when the worker ends of some slots come on top of others. -/
def slotExpected (slots : List Nat) (others : Number → Option Endpoint) : Number → Option Endpoint
  | .socket slot .worker => if slot ∈ slots then some (.socket slot .worker) else none
  | .stderr slot .worker => if slot ∈ slots then some (.stderr slot .worker) else none
  | number => others number

/-- The channel and the standard streams of a spawned process. -/
def processEnds (index : Nat) : Number → Option Endpoint
  | .standard stream => some (.stream index stream .worker)
  | .reader => some (.stream index .stdin .worker)
  | .writer => some (.stream index .stdout .worker)
  | _ => none

/-- The ends of the master. -/
def masterEnds : Number → Option Endpoint
  | .standard _ => some .terminal
  | .socket slot .master => some (.socket slot .master)
  | .stderr slot .master => some (.stderr slot .master)
  | .pipe process stream => some (.stream process stream .master)
  | _ => none

/-- What a standard stream of a forked process is replaced by. -/
def ownStream (slot : Nat) (stream : Stream) : Endpoint :=
  if stream = .stderr then .stderr slot .worker else .null

/-- What the numbers of a forked process may name. -/
def forkedExpected (parent slot : Nat) (place : ProcessPlace) : Number → Option Endpoint
  | .standard stream =>
    if place.detached then some (ownStream slot stream)
    else some (.stream parent stream .worker)
  | .reader => if place.rewired then none else some (.stream parent .stdin .worker)
  | .writer => if place.rewired then none else some (.stream parent .stdout .worker)
  | .clone => if place.rewired then some (.socket slot .worker) else none
  | .socket other .worker => if other = slot then some (.socket slot .worker) else none
  | .stderr other .worker => if other = slot then some (.stderr slot .worker) else none
  | _ => none

/-- What the numbers of a forked process may name while its channel is replaced: the clone of the
socket stands beside the inherited channel. -/
def rewiringExpected (parent slot : Nat) : Number → Option Endpoint
  | .clone => some (.socket slot .worker)
  | number => forkedExpected parent slot .connecting number

/-- What the numbers of a forked process may name while its standard streams are replaced one after
the other. -/
def detachingExpected (parent slot : Nat) (replaced : List Stream) : Number → Option Endpoint
  | .null => some .null
  | .standard stream =>
    if stream ∈ replaced then some (ownStream slot stream)
    else some (.stream parent stream .worker)
  | number => forkedExpected parent slot .detaching number

namespace LocalProcess

variable (process : LocalProcess) (index : Nat)

/-- What the numbers of a process may name. -/
def expected : Number → Option Endpoint :=
  match process.origin with
  | .spawned _ => slotExpected process.forker.slots (processEnds index)
  | .forked parent slot => forkedExpected parent slot process.place

/-- The slots a process has left, and the one it was handed. -/
def claims : List Nat := process.forker.slots ++ process.origin.handed.toList

/-- The process holds what is expected of it, and a forked one holds no slot it could fork. -/
structure Sound : Prop where
  /-- Its descriptors name what is expected. -/
  within : process.table.Within (process.expected index)
  /-- A forked process has no slots left. -/
  childless : process.origin.handed.isSome → process.forker.slots = []
  /-- A forked process does not run `worker::run` from its start. -/
  resumed : process.origin.handed.isSome → process.place.fresh = false
  /-- Nothing is open in a dead process. -/
  gone : process.place = .gone → process.table = []

end LocalProcess

/-- The descriptors of slots are their worker ends. -/
@[simp]
theorem mem_slotNumbers {slots : List Nat} {number : Number} :
    number ∈ slotNumbers slots ↔
      ∃ slot ∈ slots, number = .socket slot .worker ∨ number = .stderr slot .worker := by
  simp [slotNumbers]

/-- Once some slots are closed, the others are expected. -/
theorem slotExpected_of_drop {dropped slots : List Nat} {others : Number → Option Endpoint}
    {number : Number} {endpoint : Endpoint}
    (expected : slotExpected (dropped ++ slots) others number = some endpoint)
    (closed : number ∉ slotNumbers dropped) :
    slotExpected slots others number = some endpoint := by
  cases number with
  | socket other side | stderr other side =>
    cases side with
    | master => exact expected
    | worker =>
      have kept : other ∉ dropped := by simpa using closed
      simpa [slotExpected, kept] using expected
  | standard | reader | writer | clone | pipe | null => exact expected

/-- A child that closed the slots left holds what is expected just after the fork. -/
theorem forkedExpected_of_cleared {index slot : Nat} {slots : List Nat} {number : Number}
    {endpoint : Endpoint}
    (expected : slotExpected (slot :: slots) (processEnds index) number = some endpoint)
    (cleared : number ∉ slotNumbers slots) :
    forkedExpected index slot .forked number = some endpoint := by
  cases number with
  | socket other side | stderr other side =>
    cases side with
    | master => simp [slotExpected, processEnds] at expected
    | worker =>
      have named : other ∉ slots := by simpa using cleared
      by_cases same : other = slot
      · simpa [slotExpected, forkedExpected, same] using expected
      · simp [slotExpected, same, named] at expected
  | standard | reader | writer =>
    simpa [slotExpected, processEnds, forkedExpected, ProcessPlace.detached, ProcessPlace.rewired]
      using expected
  | clone | pipe | null => simp [slotExpected, processEnds] at expected

/-- Only slots on the list are expected, when the other ends are none of a slot. -/
theorem slotExpected_workerEnd {slots : List Nat} {others : Number → Option Endpoint}
    {number : Number} {endpoint : Endpoint} {slot : Nat}
    (apart : ∀ number endpoint, others number = some endpoint → endpoint.workerEnd = none)
    (expected : slotExpected slots others number = some endpoint)
    (ends : endpoint.workerEnd = some slot) : slot ∈ slots := by
  have elsewhere (found : others number = some endpoint) : slot ∈ slots := by
    rw [apart number endpoint found] at ends
    contradiction
  cases number with
  | socket other side | stderr other side =>
    cases side with
    | master => exact elsewhere expected
    | worker =>
      simp only [slotExpected, Option.ite_none_right_eq_some, Option.some.injEq] at expected
      obtain ⟨listed, rfl⟩ := expected
      exact Option.some.inj ends ▸ listed
  | standard | reader | writer | clone | pipe | null => exact elsewhere expected

/-- The channel and the streams of a process are none of a slot. -/
theorem processEnds_workerEnd (index : Nat) (number : Number) (endpoint : Endpoint)
    (expected : processEnds index number = some endpoint) : endpoint.workerEnd = none := by
  cases number with
  | standard | reader | writer => cases expected; rfl
  | clone | socket | stderr | pipe | null => contradiction

/-- The ends of the master are none of a worker. -/
theorem masterEnds_workerEnd (number : Number) (endpoint : Endpoint)
    (expected : masterEnds number = some endpoint) : endpoint.workerEnd = none := by
  cases number with
  | socket _ side | stderr _ side =>
    cases side with
    | master => cases expected; rfl
    | worker => contradiction
  | standard | pipe => cases expected; rfl
  | reader | writer | clone | null => contradiction

/-- A forked process may hold the worker ends of its own slot. -/
theorem forkedExpected_workerEnd {parent slot other : Nat} {place : ProcessPlace} {number : Number}
    {endpoint : Endpoint} (expected : forkedExpected parent slot place number = some endpoint)
    (ends : endpoint.workerEnd = some other) : other = slot := by
  cases number with
  | socket _ side | stderr _ side =>
    cases side with
    | master => contradiction
    | worker =>
      simp only [forkedExpected, Option.ite_none_right_eq_some, Option.some.injEq] at expected
      obtain ⟨_, rfl⟩ := expected
      exact (Option.some.inj ends).symm
  | standard stream =>
    simp only [forkedExpected] at expected
    split at expected
    · obtain rfl := Option.some.inj expected
      cases stream
      · contradiction
      · contradiction
      · exact (Option.some.inj ends).symm
    · obtain rfl := Option.some.inj expected
      contradiction
  | reader | writer =>
    simp only [forkedExpected, Option.ite_none_left_eq_some, Option.some.injEq] at expected
    obtain ⟨_, rfl⟩ := expected
    contradiction
  | clone =>
    simp only [forkedExpected, Option.ite_none_right_eq_some, Option.some.injEq] at expected
    obtain ⟨_, rfl⟩ := expected
    exact (Option.some.inj ends).symm
  | pipe | null => contradiction

/-- Once it has sent its pid, a forked process may hold the ends of its own slot and no others. -/
theorem forkedExpected_announced {parent slot : Nat} {place : ProcessPlace} {number : Number}
    {endpoint : Endpoint} (announced : place.announced)
    (expected : forkedExpected parent slot place number = some endpoint) :
    endpoint = .socket slot .worker ∨ endpoint = .stderr slot .worker ∨ endpoint = .null := by
  have detached : place.detached := by cases place <;> first | rfl | contradiction
  have rewired : place.rewired := by cases place <;> first | rfl | contradiction
  cases number with
  | socket _ side | stderr _ side =>
    cases side with
    | master => contradiction
    | worker =>
      simp only [forkedExpected, Option.ite_none_right_eq_some, Option.some.injEq] at expected
      simp [← expected.2]
  | standard stream =>
    simp only [forkedExpected, detached, ↓reduceIte, Option.some.injEq] at expected
    cases stream <;> simp [← expected, ownStream]
  | reader | writer => simp [forkedExpected, rewired] at expected
  | clone =>
    simp only [forkedExpected, rewired, ↓reduceIte, Option.some.injEq] at expected
    exact .inl expected.symm
  | pipe | null => contradiction

/-- `dup2` onto a standard stream replaces it. -/
theorem within_detaching {parent slot : Nat} {replaced : List Stream} {table next : FdTable}
    {source : Number} {stream : Stream}
    (before : Table.Within table (detachingExpected parent slot replaced))
    (done : table.duplicate source (.standard stream) false = some next)
    (same : ∀ endpoint, detachingExpected parent slot replaced source = some endpoint →
      endpoint = ownStream slot stream) :
    Table.Within next (detachingExpected parent slot (stream :: replaced)) := by
  refine before.duplicate done (fun endpoint found => ?_) fun number endpoint other found => ?_
  · simp [detachingExpected, same endpoint found]
  · cases number with
    | standard earlier =>
      have kept : earlier ≠ stream := fun equal => other (by rw [equal])
      simpa [detachingExpected, kept] using found
    | reader | writer | clone | socket | stderr | pipe | null => exact found

namespace LocalProcess

variable {process after : LocalProcess} {index : Nat}

/-- A spawned process may hold what its slots allow. -/
theorem expected_spawned {worker : Nat} (origin : process.origin = .spawned worker) :
    process.expected index = slotExpected process.forker.slots (processEnds index) := by
  simp only [expected, origin]

/-- A forked process may hold what its place allows. -/
theorem expected_forked {parent slot : Nat} (origin : process.origin = .forked parent slot) :
    process.expected index = forkedExpected parent slot process.place := by
  simp only [expected, origin]

/-- A step that leaves the place of a process and its slots alone, as far as the descriptors go,
leaves what it may hold. -/
theorem expected_congr (origin : after.origin = process.origin)
    (slots : after.forker.slots = process.forker.slots)
    (rewired : after.place.rewired = process.place.rewired)
    (detached : after.place.detached = process.place.detached) :
    after.expected index = process.expected index := by
  funext number
  unfold expected
  rw [origin]
  cases process.origin with
  | spawned => rw [slots]
  | forked parent slot =>
    cases number with
    | standard | reader | writer | clone => simp only [forkedExpected, rewired, detached]
    | socket _ side | stderr _ side => cases side <;> rfl
    | pipe | null => rfl

/-- A live spawned process that holds what its slots allow. -/
theorem sound_spawned {worker : Nat} (origin : process.origin = .spawned worker)
    (live : process.place ≠ .gone)
    (within : process.table.Within (slotExpected process.forker.slots (processEnds index))) :
    process.Sound index where
  within := by rwa [expected_spawned origin]
  childless := by simp [origin, Origin.handed]
  resumed := by simp [origin, Origin.handed]
  gone dead := absurd dead live

/-- A live forked process that holds what its place allows. -/
theorem sound_forked {parent slot : Nat} (origin : process.origin = .forked parent slot)
    (live : process.place ≠ .gone) (slots : process.forker.slots = [])
    (resumed : process.place.fresh = false)
    (within : process.table.Within (forkedExpected parent slot process.place)) :
    process.Sound index where
  within := by rwa [expected_forked origin]
  childless _ := slots
  resumed _ := resumed
  gone dead := absurd dead live

/-- A process at the start of `worker::run` is spawned. -/
theorem Sound.spawned (sound : process.Sound index) (fresh : process.place.fresh = true) :
    ∃ worker, process.origin = .spawned worker := by
  cases origin : process.origin with
  | spawned worker => exact ⟨worker, rfl⟩
  | forked parent slot =>
    have resumed := sound.resumed (by rw [origin]; rfl)
    rw [fresh] at resumed
    contradiction

/-- A step that leaves the descriptors alone and the place and the slots as far as they matter. -/
theorem Sound.congr (sound : process.Sound index) (origin : after.origin = process.origin)
    (slots : after.forker.slots = process.forker.slots) (table : after.table = process.table)
    (rewired : after.place.rewired = process.place.rewired)
    (detached : after.place.detached = process.place.detached)
    (resumed : process.origin.handed.isSome → after.place.fresh = false)
    (live : after.place ≠ .gone) : after.Sound index where
  within := by
    rw [table, expected_congr origin slots rewired detached]
    exact sound.within
  childless handed := by
    rw [origin] at handed
    rw [slots, sound.childless handed]
  resumed handed := by
    rw [origin] at handed
    exact resumed handed
  gone dead := absurd dead live

/-- `channel` clones the standard streams. -/
theorem Sound.channel (sound : process.Sound index)
    (taken : process.advance .channel = some after) : after.Sound index := by
  unfold advance at taken
  dsimp only at taken
  split at taken
  next place =>
    simp only [Option.bind_eq_bind, Option.bind_eq_some_iff, Option.some.injEq] at taken
    obtain ⟨read, first, table, second, rfl⟩ := taken
    obtain ⟨worker, origin⟩ := sound.spawned (by rw [place]; rfl)
    have within := sound.within
    rw [expected_spawned origin] at within
    have reading : Table.Within read (slotExpected process.forker.slots (processEnds index)) :=
      within.duplicate first (by simp [slotExpected, processEnds]) fun _ _ _ found => found
    have writing : Table.Within table (slotExpected process.forker.slots (processEnds index)) :=
      reading.duplicate second (by simp [slotExpected, processEnds]) fun _ _ _ found => found
    exact sound_spawned origin (by simp) writing
  next => simp at taken

/-- `from_env` marks the slots, and closes them without the Nix daemon. -/
theorem Sound.fromEnv (sound : process.Sound index) {daemonStore : Bool} {now : Nat}
    (taken : process.advance (.fromEnv daemonStore now) = some after) : after.Sound index := by
  unfold advance at taken
  dsimp only at taken
  split at taken
  next place =>
    obtain ⟨worker, origin⟩ := sound.spawned (by rw [place]; rfl)
    have within := sound.within
    rw [expected_spawned origin] at within
    have marked := within.setCloseOnExec (slotNumbers process.forker.slots) true
    cases daemonStore <;> simp only [Bool.false_eq_true, ↓reduceIte, Option.some.injEq] at taken
      <;> subst taken
    · refine sound_spawned origin (by simp) (marked.close fun number endpoint closed expected => ?_)
      rw [← List.append_nil process.forker.slots] at expected
      exact slotExpected_of_drop expected closed
    · exact sound_spawned origin (by simp) marked
  next => simp at taken

/-- `channel` of the socket drops the inherited channel. -/
theorem Sound.rewire (sound : process.Sound index)
    (taken : process.advance .rewire = some after) : after.Sound index := by
  unfold advance at taken
  dsimp only at taken
  split at taken
  next parent slot origin place =>
    simp only [Option.bind_eq_bind, Option.bind_eq_some_iff, Option.some.injEq] at taken
    obtain ⟨cloned, copied, rfl⟩ := taken
    have within := sound.within
    rw [expected_forked origin, place] at within
    have beside : Table.Within cloned (rewiringExpected parent slot) :=
      within.duplicate copied (by simp [rewiringExpected, forkedExpected])
        fun number endpoint other found => by
          cases number <;> first | exact found | contradiction
    refine sound_forked origin (by simp) (sound.childless (by rw [origin]; rfl)) rfl
      (beside.close fun number endpoint closed found => ?_)
    cases number with
    | reader | writer => simp at closed
    | socket _ side | stderr _ side => cases side <;> exact found
    | standard | clone | pipe | null => exact found
  next => simp at taken

/-- `detach_stdio` replaces the inherited standard streams. -/
theorem Sound.detachStdio (sound : process.Sound index)
    (taken : process.advance .detachStdio = some after) : after.Sound index := by
  unfold advance at taken
  dsimp only at taken
  split at taken
  next parent slot origin place =>
    simp only [Option.bind_eq_bind, Option.bind_eq_some_iff, Option.some.injEq] at taken
    obtain ⟨read, first, written, second, table, third, rfl⟩ := taken
    have within := sound.within
    rw [expected_forked origin, place] at within
    have opened : Table.Within (process.table.install .null .null true)
        (detachingExpected parent slot []) :=
      within.install rfl fun number endpoint other found => by
        cases number with
        | standard => simpa [detachingExpected, forkedExpected, ProcessPlace.detached] using found
        | null => contradiction
        | reader | writer | clone | socket | stderr | pipe => exact found
    have reading := within_detaching opened first (by simp [detachingExpected, ownStream])
    have writing := within_detaching reading second (by simp [detachingExpected, ownStream])
    have own := within_detaching writing third (by
      simp only [detachingExpected, forkedExpected]
      intro endpoint found
      simpa [ownStream] using found.symm)
    refine sound_forked origin (by simp) (sound.childless (by rw [origin]; rfl)) rfl
      (own.close fun number endpoint closed found => ?_)
    cases number with
    | standard stream => cases stream <;> exact found
    | null => simp at closed
    | socket _ side | stderr _ side => cases side <;> exact found
    | reader | writer | clone | pipe => exact found
  next => simp at taken

/-- Every step of a process keeps what is expected of it. -/
theorem Sound.advance (sound : process.Sound index) {step : Step}
    (taken : process.advance step = some after) : after.Sound index := by
  cases step with
  | channel => exact sound.channel taken
  | fromEnv daemonStore now => exact sound.fromEnv taken
  | rewire => exact sound.rewire taken
  | detachStdio => exact sound.detachStdio taken
  | startClock now =>
    simp only [LocalProcess.advance] at taken
    split at taken
    next place =>
      obtain rfl := Option.some.inj taken
      obtain ⟨worker, origin⟩ := sound.spawned (by rw [place]; rfl)
      have within := sound.within
      rw [expected_spawned origin] at within
      exact sound_spawned origin (by simp) within
    next => simp at taken
  | complete exited =>
    simp only [LocalProcess.advance] at taken
    split at taken
    next place =>
      obtain rfl := Option.some.inj taken
      exact sound.congr rfl rfl rfl (by rw [place]; rfl) (by rw [place]; rfl) (fun _ => rfl)
        (by simp)
    next => simp at taken
  | replaceDaemonConnections =>
    simp only [LocalProcess.advance] at taken
    split at taken
    next place =>
      obtain rfl := Option.some.inj taken
      exact sound.congr rfl rfl rfl (by rw [place]; rfl) (by rw [place]; rfl) (fun _ => rfl)
        (by simp)
    next => simp at taken
  | die =>
    simp only [LocalProcess.advance] at taken
    split at taken
    next => simp at taken
    next =>
      obtain rfl := Option.some.inj taken
      exact ⟨Table.within_nil, fun _ => rfl, fun _ => rfl, fun _ => rfl⟩

/-- A live process takes the step as the one it was, with the slots it had or none. -/
theorem advance_claims {step : Step} (taken : process.advance step = some after) :
    process.place ≠ .gone ∧ after.origin = process.origin ∧
      (after.forker.slots = process.forker.slots ∨ after.forker.slots = []) := by
  cases step with
  | channel =>
    simp only [advance] at taken
    split at taken
    next place =>
      simp only [Option.bind_eq_bind, Option.bind_eq_some_iff, Option.some.injEq] at taken
      obtain ⟨_, _, _, _, rfl⟩ := taken
      exact ⟨by simp [place], rfl, .inl rfl⟩
    next => contradiction
  | fromEnv daemonStore now =>
    simp only [advance] at taken
    split at taken
    next place =>
      obtain rfl := Option.some.inj taken
      refine ⟨by simp [place], rfl, ?_⟩
      cases daemonStore
      · exact .inr rfl
      · exact .inl rfl
    next => contradiction
  | startClock | complete | replaceDaemonConnections =>
    simp only [advance] at taken
    split at taken
    next place =>
      obtain rfl := Option.some.inj taken
      exact ⟨by simp [place], rfl, .inl rfl⟩
    next => contradiction
  | rewire =>
    simp only [advance] at taken
    split at taken
    next place =>
      simp only [Option.bind_eq_bind, Option.bind_eq_some_iff, Option.some.injEq] at taken
      obtain ⟨_, _, rfl⟩ := taken
      exact ⟨by simp [place], rfl, .inl rfl⟩
    next => contradiction
  | detachStdio =>
    simp only [advance] at taken
    split at taken
    next place =>
      simp only [Option.bind_eq_bind, Option.bind_eq_some_iff, Option.some.injEq] at taken
      obtain ⟨_, _, _, _, _, _, rfl⟩ := taken
      exact ⟨by simp [place], rfl, .inl rfl⟩
    next => contradiction
  | die =>
    simp only [advance] at taken
    split at taken
    next => contradiction
    next live =>
      obtain rfl := Option.some.inj taken
      exact ⟨live, rfl, .inr rfl⟩

/-- A process that drops slots it has keeps the others. -/
theorem Sound.drop (sound : process.Sound index) {forker : Forker} {dropped : List Nat}
    {place : ProcessPlace} (slots : process.forker.slots = dropped ++ forker.slots)
    (forking : process.place = .forking) (goes : place = .serving ∨ place = .forking) :
    (process.drop place forker dropped).Sound index := by
  have live : place ≠ .gone := by rintro rfl; simp at goes
  have within := sound.within
  cases origin : process.origin with
  | spawned worker =>
    rw [expected_spawned origin, slots] at within
    exact sound_spawned origin live (within.close fun _ _ closed expected =>
      slotExpected_of_drop expected closed)
  | forked parent slot =>
    have none := sound.childless (by rw [origin]; rfl)
    rw [slots, List.append_eq_nil_iff] at none
    rw [expected_forked origin, forking] at within
    refine sound_forked origin live none.2 (by obtain rfl | rfl := goes <;> rfl)
      (within.close fun number endpoint _ expected => ?_)
    obtain rfl | rfl := goes <;> cases number <;> exact expected

/-- A forked child holds what its parent did, without the slots left. -/
theorem Sound.child (sound : process.Sound index) {forker : Forker} {slot : Nat}
    (slots : process.forker.slots = slot :: forker.slots) (position : Nat) :
    (process.child index forker slot).Sound position := by
  have within := sound.within
  cases origin : process.origin with
  | spawned worker =>
    rw [expected_spawned origin, slots] at within
    exact sound_forked rfl (by simp [LocalProcess.child]) rfl rfl
      (within.close fun _ _ cleared expected => forkedExpected_of_cleared expected cleared)
  | forked parent own =>
    rw [sound.childless (by rw [origin]; rfl)] at slots
    contradiction

end LocalProcess

/-! ## The fleet -/

/-- The process a worker of the pool is attached to. -/
def WorkerPlace.attached : WorkerPlace → Option Nat
  | .greeting process _ | .connected process | .lost process => some process
  | .starting | .attaching | .over => none

section Sums

variable {α : Type} (weight : α → Nat) {elements : List α} {index : Nat} {element : α}

/-- Replacing an element trades its weight for that of the new one. -/
theorem sum_map_set (replacement : α) (found : elements[index]? = some element) :
    ((elements.set index replacement).map weight).sum + weight element =
      (elements.map weight).sum + weight replacement := by
  induction elements generalizing index with
  | nil => simp at found
  | cons first rest ih =>
    cases index with
    | zero =>
      obtain rfl : first = element := by simpa using found
      simp only [List.set_cons_zero, List.map_cons, List.sum_cons]
      omega
    | succ index =>
      have tail := ih (by simpa using found : rest[index]? = some element)
      simp only [List.set_cons_succ, List.map_cons, List.sum_cons]
      omega

/-- Elements at two positions weigh no more than all of them. -/
theorem add_le_sum_map {other : Nat} {second : α} (found : elements[index]? = some element)
    (elsewhere : elements[other]? = some second) (apart : index ≠ other) :
    weight element + weight second ≤ (elements.map weight).sum := by
  induction elements generalizing index other with
  | nil => simp at found
  | cons first rest ih =>
    have single {position : Nat} {chosen : α} (listed : rest[position]? = some chosen) :
        weight chosen ≤ (rest.map weight).sum :=
      List.le_sum_of_mem (List.mem_map_of_mem (List.mem_of_getElem? listed))
    simp only [List.map_cons, List.sum_cons]
    cases index with
    | zero =>
      cases other with
      | zero => exact absurd rfl apart
      | succ other =>
        obtain rfl : first = element := by simpa using found
        have := single (by simpa using elsewhere : rest[other]? = some second)
        omega
    | succ index =>
      cases other with
      | zero =>
        obtain rfl : first = second := by simpa using elsewhere
        have := single (by simpa using found : rest[index]? = some element)
        omega
      | succ other =>
        have := ih (by simpa using found : rest[index]? = some element)
          (by simpa using elsewhere : rest[other]? = some second) (by omega)
        omega

end Sums

namespace Fleet

/-- How the processes came to be. -/
def origins (fleet : Fleet) : List Origin := fleet.processes.map LocalProcess.origin

/-- How often a slot is claimed, by the master or a process. -/
def copies (fleet : Fleet) (slot : Nat) : Nat :=
  fleet.slots.count slot + (fleet.processes.map fun process => process.claims.count slot).sum

/-- Every slot has one owner, and nobody holds more than it owns. -/
structure Sound (fleet : Fleet) : Prop where
  /-- The master holds its own ends, and the worker ends of the slots it has. -/
  master : fleet.table.Within (slotExpected fleet.slots masterEnds)
  /-- A program the master executes inherits the standard streams only. -/
  sealed : ∀ descriptor ∈ fleet.table, descriptor.closeOnExec = false →
    ∃ stream, descriptor.number = .standard stream
  /-- Every process holds what is expected of it. -/
  process : ∀ index (process : LocalProcess), fleet.processes[index]? = some process →
    process.Sound index
  /-- A slot is claimed once. -/
  once : ∀ slot, fleet.copies slot ≤ 1
  /-- Forked processes are forked from spawned ones. -/
  parents : ∀ index parent slot : Nat, fleet.origins[index]? = some (.forked parent slot) →
    ∃ worker, fleet.origins[parent]? = some (.spawned worker)
  /-- A pid sent through a socket is that of a process forked for it. -/
  sent : ∀ slot, ∀ pid ∈ fleet.inbox slot,
    ∃ parent, fleet.origins[pid]? = some (.forked parent slot)
  /-- A worker is attached to a process started for it. -/
  held : ∀ worker (place : WorkerPlace) pid, fleet.workers[worker]? = some place →
    place.attached = some pid → ∃ origin, fleet.origins[pid]? = some origin ∧ origin.worker = worker

variable {fleet : Fleet}

/-- Closing descriptors of the master. -/
theorem Sound.close (sound : fleet.Sound) (numbers : List Number) :
    { fleet with table := fleet.table.close numbers }.Sound :=
  { sound with
    master := sound.master.close fun _ _ _ expected => expected
    sealed := fun descriptor member => sound.sealed descriptor (Table.mem_close.mp member).1 }

/-- Moving a worker to a place at which it is attached to a process of its own, if any. -/
theorem Sound.move (sound : fleet.Sound) {worker : Nat} {place : WorkerPlace}
    (own : ∀ pid, place.attached = some pid →
      ∃ origin, fleet.origins[pid]? = some origin ∧ origin.worker = worker) :
    { fleet with workers := fleet.workers.set worker place }.Sound := by
  refine { sound with held := fun other current pid found attached => ?_ }
  simp only [List.getElem?_set] at found
  by_cases same : worker = other
  · subst same
    rw [if_pos rfl] at found
    split at found
    · obtain rfl := Option.some.inj found
      exact own pid attached
    · contradiction
  · rw [if_neg same] at found
    exact sound.held other current pid found attached

/-- A process that goes on as the one it was came to be as it did. -/
theorem origins_replace {index : Nat} {process : LocalProcess} (after : LocalProcess)
    (found : fleet.processes[index]? = some process) (origin : after.origin = process.origin) :
    origins { fleet with processes := fleet.processes.set index after } = fleet.origins := by
  refine List.ext_getElem? fun position => ?_
  simp only [origins, List.map_set, List.getElem?_set, List.length_map]
  split
  next here =>
    obtain ⟨bound, _⟩ := List.getElem?_eq_some_iff.mp found
    rw [← here, if_pos bound, List.getElem?_map, found, Option.map_some, origin]
  next => rfl

/-- A process that goes on as the one it was. -/
theorem Sound.replace (sound : fleet.Sound) {index : Nat} {process : LocalProcess}
    (after : LocalProcess) (found : fleet.processes[index]? = some process)
    (origin : after.origin = process.origin)
    (kept : after.Sound index)
    (claims : ∀ slot, after.claims.count slot ≤ process.claims.count slot) :
    { fleet with processes := fleet.processes.set index after }.Sound := by
  refine ⟨sound.master, sound.sealed, fun position other lookup => ?_, fun slot => ?_, ?_, ?_, ?_⟩
  · simp only [List.getElem?_set] at lookup
    split at lookup
    next here =>
      subst here
      split at lookup
      · obtain rfl := Option.some.inj lookup
        exact kept
      · contradiction
    next => exact sound.process position other lookup
  · have traded := sum_map_set (fun process => process.claims.count slot) after found
    have fewer := claims slot
    have before := sound.once slot
    simp only [copies] at before ⊢
    omega
  all_goals rw [origins_replace after found origin]
  · exact sound.parents
  · exact sound.sent
  · exact sound.held

/-- What a list holds after one more element: what it held, or the element at its end. -/
theorem found_of_concat {α : Type} {elements : List α} {index : Nat} {last element : α}
    (found : (elements ++ [last])[index]? = some element) :
    elements[index]? = some element ∨ index = elements.length ∧ last = element := by
  by_cases before : index < elements.length
  · rw [List.getElem?_append_left before] at found
    exact .inl found
  · have bound := (List.getElem?_eq_some_iff.mp found).1
    rw [List.length_append, List.length_singleton] at bound
    obtain rfl : index = elements.length := by omega
    exact .inr ⟨rfl, by simpa using found⟩

/-- A process that is there stays when another is started. -/
theorem origins_append {index : Nat} {origin started : Origin} {origins : List Origin}
    (found : origins[index]? = some origin) : (origins ++ [started])[index]? = some origin := by
  rw [List.getElem?_append_left (List.getElem?_eq_some_iff.mp found).1, found]

/-- A new process, and the slots and descriptors of the master from then on. -/
theorem Sound.start (sound : fleet.Sound) (slots : List Nat) (table : FdTable)
    (process : LocalProcess) (master : table.Within (slotExpected slots masterEnds))
    (sealed : ∀ descriptor ∈ table, descriptor.closeOnExec = false →
      ∃ stream, descriptor.number = .standard stream)
    (kept : process.Sound fleet.processes.length)
    (once : ∀ slot, slots.count slot + (fleet.processes.map fun process =>
      process.claims.count slot).sum + process.claims.count slot ≤ 1)
    (parents : ∀ parent slot, process.origin = .forked parent slot →
      ∃ worker, fleet.origins[parent]? = some (.spawned worker)) :
    { fleet with table, slots, processes := fleet.processes ++ [process] }.Sound := by
  have grown : origins { fleet with table, slots, processes := fleet.processes ++ [process] } =
      fleet.origins ++ [process.origin] := by
    simp [origins]
  refine ⟨master, sealed, fun index other found => ?_, fun slot => ?_, ?_, ?_, ?_⟩
  · obtain before | ⟨rfl, rfl⟩ := found_of_concat found
    · exact sound.process index other before
    · exact kept
  · have single := once slot
    simp only [copies, List.map_append, List.sum_append, List.map_cons, List.map_nil, List.sum_cons,
      List.sum_nil]
    omega
  all_goals rw [grown]
  · intro index parent slot found
    obtain before | ⟨_, last⟩ := found_of_concat found
    · obtain ⟨worker, spawned⟩ := sound.parents index parent slot before
      exact ⟨worker, origins_append spawned⟩
    · obtain ⟨worker, spawned⟩ := parents parent slot last
      exact ⟨worker, origins_append spawned⟩
  · intro slot pid listed
    obtain ⟨parent, forked⟩ := sound.sent slot pid listed
    exact ⟨parent, origins_append forked⟩
  · intro worker place pid found attached
    obtain ⟨origin, present, own⟩ := sound.held worker place pid found attached
    exact ⟨origin, origins_append present, own⟩

/-- A spawned process starts with its pipes and the slots that were kept open for it. -/
theorem Sound.spawned (sound : fleet.Sound) {forkSlots : List Nat}
    (taken : ∀ slot ∈ forkSlots, slot ∈ fleet.slots) (process : Nat) :
    Table.Within ((fleet.piped process).setCloseOnExec (slotNumbers forkSlots) false).exec
      (slotExpected forkSlots (processEnds process)) := by
  intro descriptor member
  obtain ⟨marked, survives⟩ := Table.mem_exec.mp member
  obtain ⟨unmarked | before, old, present, number, endpoint⟩ := Table.mem_setCloseOnExec marked
  · -- A slot kept open: the master held its worker end under that number.
    obtain ⟨slot, listed, named⟩ := mem_slotNumbers.mp unmarked
    have opened : old ∈ fleet.table := by
      simp only [piped, Table.mem_install] at present
      obtain rfl | ⟨rfl | ⟨rfl | ⟨opened, _⟩, _⟩, _⟩ := present
      · obtain named | named := named <;> cases number.trans named
      · obtain named | named := named <;> cases number.trans named
      · obtain named | named := named <;> cases number.trans named
      · exact opened
    have expected := sound.master old opened
    rw [number, endpoint] at expected
    obtain named | named := named <;> rw [named] at expected ⊢ <;>
      simpa [slotExpected, listed, taken slot listed] using expected
  · -- Nothing else the master has survives but the pipes put in place of its streams.
    simp only [piped, Table.mem_install] at before
    obtain rfl | ⟨rfl | ⟨rfl | ⟨opened, notStdin⟩, notStdout⟩, notStderr⟩ := before
    · rfl
    · rfl
    · rfl
    · obtain ⟨stream, standard⟩ := sound.sealed descriptor opened survives
      cases stream
      · exact absurd standard notStdin
      · exact absurd standard notStdout
      · exact absurd standard notStderr

/-- Spawning a process with slots of the master, which then has the rest. -/
theorem Sound.spawnLocal (sound : fleet.Sound) (forkSlots rest : List Nat)
    (split : fleet.slots = forkSlots ++ rest) (worker : Nat) (previous : Option Nat)
    (spawned : Bool) :
    (spawnLocal { fleet with slots := rest } worker forkSlots previous spawned).Sound := by
  have master := sound.master
  rw [split] at master
  have dropped : (fleet.table.close (slotNumbers forkSlots)).Within
      (slotExpected rest masterEnds) :=
    master.close fun _ _ closed expected => slotExpected_of_drop expected closed
  have closed : ∀ descriptor ∈ fleet.table.close (slotNumbers forkSlots),
      descriptor.closeOnExec = false → ∃ stream, descriptor.number = .standard stream :=
    fun descriptor member => sound.sealed descriptor (Table.mem_close.mp member).1
  have counted (slot : Nat) :
      rest.count slot + (fleet.processes.map fun process => process.claims.count slot).sum +
        forkSlots.count slot ≤ 1 := by
    have once := sound.once slot
    rw [copies, split, List.count_append] at once
    omega
  cases spawned with
  | false =>
    have quiet : Sound { fleet with
        table := fleet.table.close (slotNumbers forkSlots), slots := rest } :=
      { sound with
        master := dropped
        sealed := closed
        once := fun slot => by
          have := counted slot
          simp only [copies]
          omega }
    exact (quiet.close _).move (by simp [WorkerPlace.attached])
  | true =>
    refine Sound.move (sound.start rest _ _
      (((dropped.opened rfl true).opened rfl true).opened rfl true)
      (fun descriptor member survives => ?_)
      (LocalProcess.sound_spawned rfl (by simp) (sound.spawned (fun slot listed => by
        rw [split]; exact List.mem_append_left _ listed) _)) (fun slot => ?_) (by simp)) ?_
    · simp only [Table.mem_install] at member
      obtain rfl | ⟨rfl | ⟨rfl | ⟨opened, _⟩, _⟩, _⟩ := member
      · contradiction
      · contradiction
      · contradiction
      · exact closed descriptor opened survives
    · simpa [LocalProcess.claims, Origin.handed] using counted slot
    · intro pid attached
      obtain rfl := Option.some.inj attached
      exact ⟨.spawned worker, by simp [origins], rfl⟩

/-- A process attached to a socket writes its pid there. -/
theorem Sound.announce (sound : fleet.Sound) {index parent slot : Nat} {process : LocalProcess}
    (found : fleet.processes[index]? = some process) (origin : process.origin = .forked parent slot)
    (place : process.place = .announcing) :
    Sound { fleet with
      processes := fleet.processes.set index { process with place := .serving }
      inbox := Function.update fleet.inbox slot (fleet.inbox slot ++ [index]) } := by
  have kept : LocalProcess.Sound { process with place := .serving } index :=
    (sound.process index process found).congr rfl rfl rfl (by rw [place]; rfl) (by rw [place]; rfl)
      (fun _ => rfl) (by simp)
  have replaced := sound.replace { process with place := .serving } found rfl kept
    fun _ => Nat.le_refl _
  refine { replaced with sent := fun other pid listed => ?_ }
  by_cases same : other = slot
  · subst same
    simp only [Function.update_self, List.mem_append, List.mem_singleton] at listed
    obtain listed | rfl := listed
    · exact replaced.sent other pid listed
    · obtain ⟨bound, _⟩ := List.getElem?_eq_some_iff.mp found
      exact ⟨parent, by simp [origins, bound, origin]⟩
  · simp only [Function.update_of_ne same] at listed
    exact replaced.sent other pid listed

/-- A pid is read, and its process greeted. -/
theorem Sound.readPid (sound : fleet.Sound) {worker pid : Nat} {rest : List Nat}
    (unread : fleet.inbox worker = pid :: rest) :
    Sound { fleet with
      workers := fleet.workers.set worker (.greeting pid none)
      inbox := Function.update fleet.inbox worker rest } := by
  obtain ⟨parent, forked⟩ := sound.sent worker pid (by rw [unread]; exact List.mem_cons_self)
  have own (other : Nat) (attached : WorkerPlace.attached (.greeting pid none) = some other) :
      ∃ origin, fleet.origins[other]? = some origin ∧ origin.worker = worker := by
    obtain rfl := Option.some.inj attached
    exact ⟨.forked parent worker, forked, rfl⟩
  have moved := sound.move own
  refine { moved with sent := fun other pid listed => ?_ }
  by_cases same : other = worker
  · subst same
    simp only [Function.update_self] at listed
    exact sound.sent other pid (by rw [unread]; exact List.mem_cons_of_mem _ listed)
  · simp only [Function.update_of_ne same] at listed
    exact sound.sent other pid listed

/-- A turn of `fork_due`. -/
theorem Sound.turn (sound : fleet.Sound) {index : Nat} {process : LocalProcess}
    (found : fleet.processes[index]? = some process) (place : process.place = .forking) (now : Nat)
    (outcome : ForkOutcome) : (fleet.turn index process now outcome).Sound := by
  have own := sound.process index process found
  unfold Fleet.turn
  cases turned : process.forker.forkTurn now process.completed outcome with
  | done forker dropped =>
    have slots := process.forker.forkTurn_done now process.completed turned
    refine sound.replace _ found rfl (own.drop slots place (.inl rfl)) fun slot => ?_
    simp only [LocalProcess.drop, LocalProcess.claims, slots, List.count_append]
    omega
  | forked forker slot =>
    have slots := process.forker.forkTurn_forked now process.completed turned
    have replaced := sound.replace (process.drop .forking forker [slot]) found rfl
      (own.drop slots place (.inr rfl)) fun other => by
        simp only [LocalProcess.drop, LocalProcess.claims, slots, List.cons_append]
        exact List.count_le_count_cons
    have started := replaced.start fleet.slots fleet.table (process.child index forker slot)
      sound.master sound.sealed (own.child slots _)
    refine started (fun other => ?_) fun parent handed origin => ?_
    · have traded := sum_map_set (fun process => process.claims.count other)
        (process.drop .forking forker [slot]) found
      have once := sound.once other
      have parentClaims : process.claims.count other =
          (process.drop .forking forker [slot]).claims.count other + [slot].count other := by
        simp only [LocalProcess.claims, LocalProcess.drop, slots, List.cons_append,
          List.count_cons, List.count_nil]
        omega
      have childClaims : (process.child index forker slot).claims = [slot] := rfl
      simp only [copies, childClaims] at once ⊢
      omega
    · -- The parent has a slot to hand out, so it was not forked itself.
      obtain ⟨rfl, rfl⟩ : index = parent ∧ slot = handed := by
        simpa [LocalProcess.child] using origin
      cases parentOrigin : process.origin with
      | spawned worker =>
        refine ⟨worker, ?_⟩
        obtain ⟨bound, _⟩ := List.getElem?_eq_some_iff.mp found
        simp [origins, LocalProcess.drop, bound, parentOrigin]
      | forked ancestor handed =>
        have none := own.childless (by rw [parentOrigin]; rfl)
        rw [slots] at none
        contradiction

/-- Connecting a local worker awaits a forked process, or spawns one with slots of the master. -/
theorem connect_cases (fleet : Fleet) (fork : LocalFork) (worker : Nat) (previous : Option Nat)
    (spawned : Bool) :
    fleet.connect fork worker previous spawned =
        { fleet with workers := fleet.workers.set worker .attaching } ∨
      ∃ forkSlots rest, fleet.slots = forkSlots ++ rest ∧
        fleet.connect fork worker previous spawned =
          { fleet with slots := rest }.spawnLocal worker forkSlots previous spawned := by
  cases fork with
  | none => exact .inr ⟨[], fleet.slots, rfl, rfl⟩
  | parent slots => exact .inr ⟨fleet.slots, [], (List.append_nil _).symm, rfl⟩
  | child slot =>
    cases previous with
    | none => exact .inl rfl
    | some process => exact .inr ⟨[], fleet.slots, rfl, rfl⟩

/-- Connecting a local worker. -/
theorem Sound.connect (sound : fleet.Sound) (fork : LocalFork) (worker : Nat)
    (previous : Option Nat) (spawned : Bool) :
    (fleet.connect fork worker previous spawned).Sound := by
  obtain awaits | ⟨forkSlots, rest, split, spawns⟩ :=
    connect_cases fleet fork worker previous spawned
  · rw [awaits]
    exact sound.move (by simp [WorkerPlace.attached])
  · rw [spawns]
    exact sound.spawnLocal forkSlots rest split worker previous spawned

/-! ## What a step of the fleet can do -/

/-- A step of the fleet, by what it comes to. -/
inductive Move (fleet : Fleet) : Fleet → Prop where
  /-- A worker of the pool is connected. -/
  | connected (fork : LocalFork) (worker : Nat) (previous : Option Nat) (spawned : Bool) :
      Move fleet (fleet.connect fork worker previous spawned)
  /-- A pid is read. -/
  | greeted {worker pid : Nat} {rest : List Nat} (unread : fleet.inbox worker = pid :: rest) :
      Move fleet { fleet with
        workers := fleet.workers.set worker (.greeting pid none)
        inbox := Function.update fleet.inbox worker rest }
  /-- End-of-file is read. -/
  | ended (worker : Nat) (spawned : Bool) : Move fleet ({ fleet with
      table := fleet.table.close (WorkerPlace.attaching.numbers worker)
      }.spawnLocal worker [] none spawned)
  /-- A worker stays with its process or leaves it. -/
  | left {worker : Nat} {place after : WorkerPlace} (found : fleet.workers[worker]? = some place)
      (same : ∀ pid, after.attached = some pid → place.attached = some pid)
      (table : FdTable)
      (closed : table = fleet.table ∨ ∃ numbers, table = fleet.table.close numbers) :
      Move fleet { fleet with table, workers := fleet.workers.set worker after }
  /-- A process takes a step of its own. -/
  | advanced {index : Nat} {process after : LocalProcess} {step : LocalProcess.Step}
      (found : fleet.processes[index]? = some process) (taken : process.advance step = some after) :
      Move fleet { fleet with processes := fleet.processes.set index after }
  /-- A process takes a turn of `fork_due`. -/
  | turned {index : Nat} {process : LocalProcess} (found : fleet.processes[index]? = some process)
      (place : process.place = .forking) (now : Nat) (outcome : ForkOutcome) :
      Move fleet (fleet.turn index process now outcome)
  /-- A forked process writes its pid. -/
  | announced {index parent slot : Nat} {process : LocalProcess}
      (found : fleet.processes[index]? = some process)
      (origin : process.origin = .forked parent slot) (place : process.place = .announcing) :
      Move fleet { fleet with
        processes := fleet.processes.set index { process with place := .serving }
        inbox := Function.update fleet.inbox slot (fleet.inbox slot ++ [index]) }

variable {specs : List WorkerSpec} {after : Fleet} {action : FleetAction}

/-- Every step is one of the moves. -/
theorem step_move (taken : Fleet.step specs fleet action = some after) : fleet.Move after := by
  cases action with
  | connect worker spawned =>
    simp only [Fleet.step] at taken
    split at taken
    next => exact Option.some.inj taken ▸ .connected _ _ _ _
    next => exact Option.some.inj taken ▸ .connected _ _ _ _
    next => contradiction
  | readPid worker =>
    simp only [Fleet.step] at taken
    split at taken
    next unread => exact Option.some.inj taken ▸ .greeted unread
    next => contradiction
  | readEnd worker spawned =>
    simp only [Fleet.step] at taken
    split at taken
    next => exact Option.some.inj taken ▸ .ended _ _
    next => contradiction
  | readReady worker =>
    simp only [Fleet.step] at taken
    split at taken
    next found =>
      obtain rfl := Option.some.inj taken
      refine .left found (fun _ attached => ?_) _ (.inr ⟨_, rfl⟩)
      exact attached
    next => contradiction
  | lose worker =>
    simp only [Fleet.step] at taken
    split at taken
    next found =>
      obtain rfl := Option.some.inj taken
      refine .left found (fun _ attached => ?_) _ (.inl rfl)
      exact attached
    next => contradiction
  | stop worker =>
    obtain ⟨place, found, rfl⟩ := Option.map_eq_some_iff.mp taken
    exact .left found (by simp [WorkerPlace.attached]) _ (.inr ⟨_, rfl⟩)
  | advance index step =>
    simp only [Fleet.step, Option.bind_eq_bind, Option.bind_eq_some_iff, Option.some.injEq] at taken
    obtain ⟨process, found, next, stepped, rfl⟩ := taken
    exact .advanced found stepped
  | turn index now outcome =>
    simp only [Fleet.step, Option.bind_eq_bind, Option.bind_eq_some_iff] at taken
    obtain ⟨process, found, turned⟩ := taken
    split at turned
    next place => exact Option.some.inj turned ▸ .turned found place now outcome
    next => contradiction
  | announce index =>
    simp only [Fleet.step, Option.bind_eq_bind, Option.bind_eq_some_iff] at taken
    obtain ⟨process, found, announced⟩ := taken
    split at announced
    next origin place =>
      split at announced
      next => exact Option.some.inj announced ▸ .announced found origin place
      next => contradiction
    next => contradiction

/-- Every move keeps one owner for every slot. -/
theorem Sound.next (sound : fleet.Sound) (move : fleet.Move after) : after.Sound := by
  cases move with
  | connected fork worker previous spawned => exact sound.connect fork worker previous spawned
  | greeted unread => exact sound.readPid unread
  | ended worker spawned =>
    exact (sound.close _).spawnLocal [] fleet.slots rfl worker none spawned
  | left found same table closed =>
    have own := fun pid attached => sound.held _ _ pid found (same pid attached)
    obtain rfl | ⟨numbers, rfl⟩ := closed
    · exact sound.move own
    · exact (sound.close numbers).move own
  | advanced found taken =>
    obtain ⟨live, origin, slots⟩ := LocalProcess.advance_claims taken
    refine sound.replace _ found origin ((sound.process _ _ found).advance taken) fun slot => ?_
    obtain same | none := slots
    · rw [LocalProcess.claims, LocalProcess.claims, same, origin]
    · rw [LocalProcess.claims, LocalProcess.claims, none, origin, List.count_append]
      simp
  | turned found place now outcome => exact sound.turn found place now outcome
  | announced found origin place => exact sound.announce found origin place

/-- A new run is sound. -/
theorem sound_initial (specs : List WorkerSpec) : (Fleet.initial specs).Sound where
  master descriptor member := by
    simp only [Fleet.initial, List.mem_append, List.mem_cons, List.mem_flatMap, List.not_mem_nil,
      or_false] at member
    obtain (rfl | rfl | rfl) | ⟨slot, created, rfl | rfl | rfl | rfl⟩ := member <;>
      simp [slotExpected, masterEnds, Fleet.initial, *]
  sealed descriptor member survives := by
    simp only [Fleet.initial, List.mem_append, List.mem_cons, List.mem_flatMap, List.not_mem_nil,
      or_false] at member
    obtain (rfl | rfl | rfl) | ⟨slot, created, rfl | rfl | rfl | rfl⟩ := member
    all_goals first | exact ⟨_, rfl⟩ | contradiction
  process index process found := by simp [Fleet.initial] at found
  once slot := by
    have single : (createdSlots specs).Nodup := List.nodup_range.filter _
    simpa [copies, Fleet.initial] using List.nodup_iff_count_le_one.mp single slot
  parents index parent slot found := by simp [origins, Fleet.initial] at found
  sent slot pid listed := by simp [Fleet.initial] at listed
  held worker place pid found attached := by
    simp only [Fleet.initial, List.getElem?_map, Option.map_eq_some_iff] at found
    obtain ⟨_, _, rfl⟩ := found
    contradiction

/-- In every run every slot has one owner. -/
theorem sound_reachable (reached : (fleetMachine specs).Reachable (fun _ _ => True) fleet) :
    fleet.Sound :=
  reached.invariant (fun _ initial => initial ▸ sound_initial specs)
    fun _ _ _ _ sound _ taken => sound.next (step_move taken)

/-! ## Who keeps a slot -/

/-- Somebody alive has the slot: the master before it is taken, a process that could fork it, or the
process it was handed to. -/
def Keeps (fleet : Fleet) (slot : Nat) : Prop :=
  slot ∈ fleet.slots ∨
    ∃ process ∈ fleet.processes, process.place ≠ .gone ∧ slot ∈ process.claims

/-- A process that goes on as the one it was keeps no new slot. -/
theorem keeps_replace {index slot : Nat} {process : LocalProcess} (next : LocalProcess)
    (found : fleet.processes[index]? = some process) (live : process.place ≠ .gone)
    (claims : ∀ slot ∈ next.claims, slot ∈ process.claims)
    (keeps : Keeps { fleet with processes := fleet.processes.set index next } slot) :
    fleet.Keeps slot := by
  obtain kept | ⟨other, member, alive, claimed⟩ := keeps
  · exact .inl kept
  · obtain member | rfl := List.mem_or_eq_of_mem_set member
    · exact .inr ⟨other, member, alive, claimed⟩
    · exact .inr ⟨process, List.mem_of_getElem? found, live, claims slot claimed⟩

/-- A spawned process keeps the slots it is spawned with. -/
theorem keeps_spawnLocal {forkSlots : List Nat} {worker slot : Nat} {previous : Option Nat}
    {spawned : Bool} (keeps : (fleet.spawnLocal worker forkSlots previous spawned).Keeps slot) :
    fleet.Keeps slot ∨ slot ∈ forkSlots := by
  cases spawned with
  | false => exact .inl keeps
  | true =>
    obtain kept | ⟨process, member, alive, claimed⟩ := keeps
    · exact .inl (.inl kept)
    · obtain member | member := List.mem_append.mp member
      · exact .inl (.inr ⟨process, member, alive, claimed⟩)
      · obtain rfl := List.mem_singleton.mp member
        exact .inr (by simpa [LocalProcess.claims, Origin.handed] using claimed)

/-- Nobody comes to keep a slot that nobody kept. -/
theorem Move.keeps (move : fleet.Move after) {slot : Nat} (keeps : after.Keeps slot) :
    fleet.Keeps slot := by
  cases move with
  | connected fork worker previous spawned =>
    obtain awaits | ⟨forkSlots, rest, split, spawns⟩ :=
      connect_cases fleet fork worker previous spawned
    · rw [awaits] at keeps
      exact keeps
    · rw [spawns] at keeps
      obtain (kept | kept) | taken := keeps_spawnLocal keeps
      · exact .inl (by rw [split]; exact List.mem_append_right _ kept)
      · exact .inr kept
      · exact .inl (by rw [split]; exact List.mem_append_left _ taken)
  | greeted => exact keeps
  | ended worker spawned => exact (keeps_spawnLocal keeps).resolve_right List.not_mem_nil
  | left => exact keeps
  | advanced found taken =>
    obtain ⟨live, origin, slots⟩ := LocalProcess.advance_claims taken
    refine keeps_replace _ found live (fun slot claimed => ?_) keeps
    rw [LocalProcess.claims, origin] at claimed
    rw [LocalProcess.claims]
    obtain same | none := slots
    · rwa [same] at claimed
    · rw [none] at claimed
      exact List.mem_append_right _ claimed
  | @turned index process found place now outcome =>
    have live : process.place ≠ .gone := by simp [place]
    unfold Fleet.turn at keeps
    cases turned : process.forker.forkTurn now process.completed outcome with
    | done forker dropped =>
      have slots := process.forker.forkTurn_done now process.completed turned
      simp only [turned] at keeps
      refine keeps_replace _ found live (fun slot claimed => ?_) keeps
      simp only [LocalProcess.drop, LocalProcess.claims, List.mem_append] at claimed ⊢
      rw [slots, List.mem_append]
      exact claimed.imp_left .inr
    | forked forker handed =>
      have slots := process.forker.forkTurn_forked now process.completed turned
      simp only [turned] at keeps
      obtain kept | ⟨other, member, alive, claimed⟩ := keeps
      · exact .inl kept
      · obtain member | member := List.mem_append.mp member
        · refine keeps_replace _ found live (fun slot claimed => ?_)
            (.inr ⟨other, member, alive, claimed⟩)
          simp only [LocalProcess.drop, LocalProcess.claims, List.mem_append] at claimed ⊢
          rw [slots]
          exact claimed.imp_left (List.mem_cons_of_mem _)
        · obtain rfl := List.mem_singleton.mp member
          obtain rfl : slot = handed := List.mem_singleton.mp claimed
          refine .inr ⟨process, List.mem_of_getElem? found, live, List.mem_append_left _ ?_⟩
          rw [slots]
          exact List.mem_cons_self
  | @announced index parent own process found origin place =>
    exact keeps_replace { process with place := .serving } found (by simp [place])
      (fun _ claimed => claimed) keeps

/-! ## What holds in every run -/

/-- What every run keeps true of the slots. -/
structure Safe (specs : List WorkerSpec) (fleet : Fleet) : Prop where
  /-- A slot is handed to one process. -/
  handed : ∀ (index other slot : Nat) (process second : LocalProcess),
    fleet.processes[index]? = some process → fleet.processes[other]? = some second →
    process.origin.handed = some slot → second.origin.handed = some slot → index = other
  /-- A slot is claimed by one process, or by the master before it is taken. -/
  owner : ∀ (index slot : Nat) (process : LocalProcess), fleet.processes[index]? = some process →
    slot ∈ process.claims → slot ∉ fleet.slots ∧ ∀ (other : Nat) (second : LocalProcess),
      fleet.processes[other]? = some second → slot ∈ second.claims → index = other
  /-- A forked process has no other slot, to fork or open. -/
  alone : ∀ process ∈ fleet.processes, ∀ slot, process.origin.handed = some slot →
    process.forker.slots = [] ∧ ∀ other endpoint, endpoint.workerEnd = some other →
      process.table.Holds endpoint → other = slot
  /-- A forked process has forked none. -/
  childless : ∀ (index : Nat) (process : LocalProcess), fleet.processes[index]? = some process →
    process.origin.handed.isSome → ∀ child ∈ fleet.processes, ∀ slot,
      child.origin ≠ .forked index slot
  /-- A forked process that sent its pid holds the ends of its own slot, and no others. -/
  clean : ∀ process ∈ fleet.processes, ∀ slot, process.origin.handed = some slot →
    process.place.announced → ∀ endpoint, process.table.Holds endpoint →
      endpoint = .socket slot .worker ∨ endpoint = .stderr slot .worker ∨ endpoint = .null
  /-- Nobody holds the worker ends of a slot that nobody keeps. -/
  released : ∀ slot, ¬ fleet.Keeps slot → ∀ endpoint, endpoint.workerEnd = some slot →
    ¬ fleet.table.Holds endpoint ∧ ∀ process ∈ fleet.processes, ¬ process.table.Holds endpoint
  /-- Nothing is sent through the socket of a slot that was not handed out. -/
  silent : ∀ slot, (∀ process ∈ fleet.processes, process.origin.handed ≠ some slot) →
    fleet.inbox slot = []
  /-- A worker that awaits a pid for a slot that nobody keeps reads end-of-file, and spawns a
  process of its own. -/
  spawns : ∀ worker, fleet.workers[worker]? = some .attaching → ¬ fleet.Keeps worker →
    fleet.inbox worker = [] → ∃ after,
      Fleet.step specs fleet (.readEnd worker true) = some after ∧
      after.workers[worker]? = some (.greeting fleet.processes.length none) ∧
      after.origins = fleet.origins ++ [.spawned worker]

/-- A process that holds a worker end of a slot is alive and claims it. -/
theorem Sound.claimed (sound : fleet.Sound) {process : LocalProcess}
    (member : process ∈ fleet.processes) {slot : Nat} {endpoint : Endpoint}
    (ends : endpoint.workerEnd = some slot) (holds : process.table.Holds endpoint) :
    process.place ≠ .gone ∧ slot ∈ process.claims := by
  obtain ⟨index, found⟩ := List.getElem?_of_mem member
  have own := sound.process index process found
  refine ⟨fun dead => ?_, ?_⟩
  · obtain ⟨_, opened, _⟩ := holds
    rw [own.gone dead] at opened
    contradiction
  · obtain ⟨number, expected⟩ := own.within.of_holds holds
    rw [LocalProcess.claims, List.mem_append]
    cases origin : process.origin with
    | spawned worker =>
      rw [LocalProcess.expected_spawned origin] at expected
      exact .inl (slotExpected_workerEnd (processEnds_workerEnd index) expected ends)
    | forked parent handed =>
      rw [LocalProcess.expected_forked origin] at expected
      exact .inr (List.mem_singleton.mpr (forkedExpected_workerEnd expected ends))

/-- Nobody holds the worker ends of a slot that nobody keeps. -/
theorem Sound.released (sound : fleet.Sound) {slot : Nat} (free : ¬ fleet.Keeps slot)
    {endpoint : Endpoint} (ends : endpoint.workerEnd = some slot) :
    ¬ fleet.table.Holds endpoint ∧ ∀ process ∈ fleet.processes, ¬ process.table.Holds endpoint := by
  refine ⟨fun holds => ?_, fun process member holds => ?_⟩
  · obtain ⟨number, expected⟩ := sound.master.of_holds holds
    exact free (.inl (slotExpected_workerEnd masterEnds_workerEnd expected ends))
  · obtain ⟨alive, claimed⟩ := sound.claimed member ends holds
    exact free (.inr ⟨process, member, alive, claimed⟩)

/-- A slot is claimed by one process, or by the master before it is taken. -/
theorem Sound.owner (sound : fleet.Sound) {index slot : Nat} {process : LocalProcess}
    (found : fleet.processes[index]? = some process) (claimed : slot ∈ process.claims) :
    slot ∉ fleet.slots ∧ ∀ (other : Nat) (second : LocalProcess),
      fleet.processes[other]? = some second → slot ∈ second.claims → index = other := by
  have once := sound.once slot
  have here := List.one_le_count_iff.mpr claimed
  simp only [copies] at once
  refine ⟨fun taken => ?_, fun other second elsewhere again => ?_⟩
  · have there := List.one_le_count_iff.mpr taken
    have part : process.claims.count slot ≤
        (fleet.processes.map fun process => process.claims.count slot).sum :=
      List.le_sum_of_mem (List.mem_map_of_mem (List.mem_of_getElem? found))
    omega
  · by_contra apart
    have there := List.one_le_count_iff.mpr again
    have both := add_le_sum_map (fun process => process.claims.count slot) found elsewhere apart
    omega

/-- A slot that was handed to a process is claimed by it. -/
theorem claims_of_handed {process : LocalProcess} {slot : Nat}
    (handed : process.origin.handed = some slot) : slot ∈ process.claims := by
  simp [LocalProcess.claims, handed]

/-- The origin of a process. -/
theorem origins_of_found {index : Nat} {process : LocalProcess}
    (found : fleet.processes[index]? = some process) :
    fleet.origins[index]? = some process.origin := by
  rw [origins, List.getElem?_map, found, Option.map_some]

/-- A process that was handed a slot was forked. -/
theorem origin_of_handed {origin : Origin} {slot : Nat} (handed : origin.handed = some slot) :
    ∃ parent, origin = .forked parent slot := by
  cases origin with
  | spawned => contradiction
  | forked parent own => exact ⟨parent, by rw [Option.some.inj handed]⟩

/-- One owner for every slot is what the claims about slots rest on. -/
theorem Sound.safe (sound : fleet.Sound) (specs : List WorkerSpec) : fleet.Safe specs where
  handed _ other _ _ second found elsewhere first again :=
    (sound.owner found (claims_of_handed first)).2 other second elsewhere (claims_of_handed again)
  owner _ _ _ found claimed := sound.owner found claimed
  alone process member slot handed := by
    obtain ⟨index, found⟩ := List.getElem?_of_mem member
    have slots := (sound.process index process found).childless (by rw [handed]; rfl)
    refine ⟨slots, fun other endpoint ends holds => ?_⟩
    have claimed := (sound.claimed member ends holds).2
    simpa [LocalProcess.claims, slots, handed] using claimed
  childless index process found handed child member slot forked := by
    obtain ⟨position, listed⟩ := List.getElem?_of_mem member
    obtain ⟨worker, spawned⟩ := sound.parents position index slot (by
      rw [origins_of_found listed, forked])
    rw [origins_of_found found, Option.some.injEq] at spawned
    rw [spawned] at handed
    contradiction
  clean process member slot handed announced endpoint holds := by
    obtain ⟨index, found⟩ := List.getElem?_of_mem member
    obtain ⟨parent, origin⟩ := origin_of_handed handed
    obtain ⟨number, expected⟩ := (sound.process index process found).within.of_holds holds
    rw [LocalProcess.expected_forked origin] at expected
    exact forkedExpected_announced announced expected
  released _ free _ ends := sound.released free ends
  silent slot kept := by
    cases inbox : fleet.inbox slot with
    | nil => rfl
    | cons pid rest =>
      obtain ⟨parent, forked⟩ := sound.sent slot pid (by rw [inbox]; exact List.mem_cons_self)
      obtain ⟨process, found, origin⟩ := List.getElem?_map .. ▸ forked |> Option.map_eq_some_iff.mp
      exact absurd (by rw [origin]; rfl) (kept process (List.mem_of_getElem? found))
  spawns worker found free unsent := by
    have ends : fleet.EndOfFile worker := ⟨unsent, sound.released free rfl⟩
    refine ⟨_, if_pos ⟨found, ends⟩, ?_, by simp [origins, Fleet.spawnLocal]⟩
    have bound := (List.getElem?_eq_some_iff.mp found).1
    simp [Fleet.spawnLocal, bound]

/-- Spawning starts one process at most. -/
theorem origins_spawnLocal (fleet : Fleet) (worker : Nat) (forkSlots : List Nat)
    (previous : Option Nat) (spawned : Bool) :
    fleet.origins <+: (fleet.spawnLocal worker forkSlots previous spawned).origins := by
  cases spawned
  · exact List.prefix_rfl
  · exact ⟨[.spawned worker], by simp [origins, spawnLocal]⟩

/-- Processes that were started stay what they were. -/
theorem Move.origins (move : fleet.Move after) : fleet.origins <+: after.origins := by
  cases move with
  | connected fork worker previous started =>
    obtain awaits | ⟨forkSlots, rest, _, spawns⟩ :=
      connect_cases fleet fork worker previous started
    · rw [awaits]
      exact List.prefix_rfl
    · rw [spawns]
      exact origins_spawnLocal { fleet with slots := rest } worker forkSlots previous started
  | greeted => exact List.prefix_rfl
  | ended worker started => exact origins_spawnLocal { fleet with
      table := fleet.table.close (WorkerPlace.attaching.numbers worker) } worker [] none started
  | left => exact List.prefix_rfl
  | advanced found taken =>
    have same := origins_replace _ found (LocalProcess.advance_claims taken).2.1
    exact same ▸ List.prefix_rfl
  | @turned index process found place now outcome =>
    unfold Fleet.turn
    split
    next forker dropped _ =>
      have same := origins_replace (process.drop .serving forker dropped) found rfl
      exact same ▸ List.prefix_rfl
    next forker slot _ =>
      refine ⟨[.forked index slot], ?_⟩
      have same := origins_replace (process.drop .forking forker [slot]) found rfl
      simp only [Fleet.origins] at same ⊢
      rw [← same, List.map_append]
      rfl
  | @announced index parent slot process found origin place =>
    have same := origins_replace { process with place := .serving } found rfl
    exact same ▸ List.prefix_rfl

/-- What the states of a run keep from an earlier one. -/
structure Follows (fleet later : Fleet) : Prop where
  /-- Nobody comes to keep a slot that nobody kept. -/
  released : ∀ slot, ¬ fleet.Keeps slot → ¬ later.Keeps slot
  /-- Two workers of the pool are never attached to the same process, at different times either. -/
  attached : ∀ (worker other pid : Nat) (place second : WorkerPlace),
    fleet.workers[worker]? = some place → later.workers[other]? = some second →
    place.attached = some pid → second.attached = some pid → worker = other

/-- A run keeps dropped slots dropped, and processes what they were. -/
theorem keeps_of_run {actions : List FleetAction} {later : Fleet}
    (run : (fleetMachine specs).Run (fun _ _ => True) fleet actions later) :
    (∀ slot, later.Keeps slot → fleet.Keeps slot) ∧ fleet.origins <+: later.origins := by
  induction run with
  | nil => exact ⟨fun _ keeps => keeps, List.prefix_rfl⟩
  | cons first _ ih =>
    have move := step_move first.taken
    exact ⟨fun slot keeps => move.keeps (ih.1 slot keeps), move.origins.trans ih.2⟩

/-- Every later state of a run follows a sound one. -/
theorem Sound.follows (sound : fleet.Sound) {actions : List FleetAction} {later : Fleet}
    (run : (fleetMachine specs).Run (fun _ _ => True) fleet actions later) (after : later.Sound) :
    fleet.Follows later where
  released slot free keeps := free ((keeps_of_run run).1 slot keeps)
  attached worker other pid place second found elsewhere first again := by
    obtain ⟨origin, present, own⟩ := sound.held worker place pid found first
    obtain ⟨same, there, theirs⟩ := after.held other second pid elsewhere again
    obtain ⟨bound, named⟩ := List.getElem?_eq_some_iff.mp present
    have kept := List.prefix_iff_getElem?.mp (keeps_of_run run).2 pid bound
    rw [named, there, Option.some.injEq] at kept
    rw [← own, ← theirs, kept]

end Fleet

/-! ## The slots of a pool -/

section Pool

variable {openSlot : Nat → Except String ForkSlot} {config : Config} {specs : List WorkerSpec}

/-- The kind of a worker of a numbered pool. -/
theorem numbered_kind (entries : List (String × WorkerKind)) (index : Nat) :
    (numbered entries)[index]?.map WorkerSpec.kind = entries[index]?.map Prod.snd := by
  simp only [numbered, List.getElem?_mapIdx, Option.map_map]
  rfl

/-- How a pool hands out the slots it creates. -/
structure Offers (config : Config) (specs : List WorkerSpec) : Prop where
  /-- Every local worker after the first has a slot. -/
  created : createdSlots specs = (List.range (localWorkers config - 1)).map (· + 1)
  /-- The first worker may fork them, in order. -/
  roles : ∃ slots : List ForkSlot, slots.length = localWorkers config - 1 ∧
    (slots ≠ [] → specs[0]?.map WorkerSpec.kind = some (.local config.workerExe (.parent slots))) ∧
    ∀ (index : Nat) (slot : ForkSlot), slots[index]? = some slot →
      specs[index + 1]?.map WorkerSpec.kind = some (.local config.workerExe (.child slot))

/-- The role of a local worker. -/
theorem localEntries_kind {forks : List LocalFork} {index : Nat}
    (bound : index < localWorkers config) (remotes : List (String × WorkerKind)) :
    (numbered (localEntries config forks ++ remotes))[index]?.map WorkerSpec.kind =
      some (.local config.workerExe (forks[index]?.getD .none)) := by
  have short : index < (localEntries config forks).length := by simpa [localEntries] using bound
  rw [numbered_kind, List.getElem?_append_left short]
  simp [localEntries, bound]

/-- The kind of a worker decides whether it is forked. -/
theorem isForked_iff {index : Nat} : specs[index]?.any WorkerSpec.isForked = true ↔
    ∃ workerExe slot,
      specs[index]?.map WorkerSpec.kind = some (.local workerExe (.child slot)) := by
  cases specs[index]? with
  | none => simp
  | some spec =>
    rcases kind : spec.kind with ⟨workerExe, _ | _ | slot⟩ | remote <;>
      simp [WorkerSpec.isForked, kind]

/-- Remote workers are not forked. -/
theorem remoteEntries_kind {entry : String × WorkerKind} (member : entry ∈ remoteEntries config) :
    ∃ remote, entry.2 = .remote remote := by
  obtain ⟨remote, _, listed⟩ := List.mem_flatMap.mp member
  obtain ⟨_, _, rfl⟩ := List.mem_map.mp listed
  exact ⟨remote, rfl⟩

/-- The positive numbers below a bound, among those below a later one. -/
theorem filter_range_between (bound more : Nat) :
    (List.range (bound + more)).filter (fun index => decide (0 < index ∧ index < bound)) =
      (List.range (bound - 1)).map (· + 1) := by
  induction more with
  | zero =>
    cases bound with
    | zero => rfl
    | succ others =>
      rw [Nat.add_zero, List.range_succ_eq_map, List.filter_cons_of_neg (by simp)]
      refine List.filter_eq_self.mpr fun index member => ?_
      obtain ⟨other, below, rfl⟩ := List.mem_map.mp member
      simpa using below
  | succ more ih =>
    rw [← Nat.add_assoc, List.range_succ, List.filter_append, ih,
      List.filter_cons_of_neg (by simp), List.filter_nil, List.append_nil]

/-- `worker_specs` offers one slot for each local worker after the first. -/
theorem workerSpecs_offers (built : workerSpecs openSlot config = .ok specs) :
    Offers config specs := by
  unfold workerSpecs at built
  obtain ⟨slots, opened, rest⟩ := Fallible.bind_eq_ok built
  obtain rfl := Except.ok.inj rest
  have count : slots.length = localWorkers config - 1 := by
    rw [Fallible.mapM_length opened, List.length_range]
  have child {index : Nat} {slot : ForkSlot} (found : slots[index]? = some slot) :
      (localForks slots)[index + 1]? = some (.child slot) := by
    have present : slots.isEmpty = false := by
      cases slots with
      | nil => simp at found
      | cons => rfl
    simp [localForks, present, found]
  have first (present : slots ≠ []) : (localForks slots)[0]? = some (.parent slots) := by
    simp [localForks, present]
  refine ⟨?_, slots, count, fun present => ?_, fun index slot found => ?_⟩
  · rw [← filter_range_between (localWorkers config) (remoteEntries config).length, createdSlots]
    have length : (numbered (localEntries config (localForks slots) ++ remoteEntries config)).length
        = localWorkers config + (remoteEntries config).length := by
      simp [numbered, localEntries]
    rw [length]
    refine List.filter_congr fun index _ => ?_
    rw [Bool.eq_iff_iff, isForked_iff, decide_eq_true_iff]
    constructor
    · rintro ⟨workerExe, slot, kind⟩
      by_cases bound : index < localWorkers config
      · refine ⟨Nat.pos_of_ne_zero fun zero => ?_, bound⟩
        subst zero
        rw [localEntries_kind bound] at kind
        cases slots with
        | nil => simp [localForks] at kind
        | cons => simp [localForks] at kind
      · rw [numbered_kind, List.getElem?_append_right (by simpa [localEntries] using bound)] at kind
        obtain ⟨entry, found, child⟩ := Option.map_eq_some_iff.mp kind
        obtain ⟨remote, isRemote⟩ := remoteEntries_kind (List.mem_of_getElem? found)
        rw [isRemote] at child
        contradiction
    · rintro ⟨positive, bound⟩
      obtain ⟨previous, rfl⟩ := Nat.exists_eq_succ_of_ne_zero (Nat.ne_of_gt positive)
      have below : previous < slots.length := by omega
      refine ⟨config.workerExe, slots[previous], ?_⟩
      rw [localEntries_kind bound, child (List.getElem?_eq_getElem below), Option.getD_some]
  · have bound : 0 < localWorkers config := by
      have := List.length_pos_iff.mpr present
      omega
    rw [localEntries_kind bound, first present, Option.getD_some]
  · have below := (List.getElem?_eq_some_iff.mp found).1
    rw [localEntries_kind (by omega), child found, Option.getD_some]

/-- Fork slots: in every run of the local workers of a pool, in any order of connections, items,
forks that are due, refused or fail, deaths and reconnections, each slot that `worker_specs` creates
is handed to one process at most, which holds no other slot and forks none; no two workers are ever
attached to one process; a forked process that sent its pid holds the ends of its own slot only; and
a slot that nobody keeps is held by nobody, from then on, so that the worker that awaits it reads
end-of-file and spawns its own process. -/
theorem forkSlots_owned (built : workerSpecs openSlot config = .ok specs) :
    Offers config specs ∧
    ∀ fleet, (fleetMachine specs).Reachable (fun _ _ => True) fleet →
      fleet.Safe specs ∧
      ∀ actions later, (fleetMachine specs).Run (fun _ _ => True) fleet actions later →
        fleet.Follows later := by
  refine ⟨workerSpecs_offers built, fun fleet reached => ?_⟩
  have sound := Fleet.sound_reachable reached
  exact ⟨sound.safe specs, fun actions later run =>
    sound.follows run (Fleet.sound_reachable (run.reachable reached))⟩

end Pool

/-- Three local workers. -/
def forkPool : Config := { Config.default with workers := 3 }

/-- The workers of `forkPool`. -/
def forkPoolSpecs : List WorkerSpec :=
  numbered (localEntries forkPool (localForks [⟨0, 1⟩, ⟨2, 3⟩]))

/-- The first worker forks the second, which attaches, and dies with the slot of the third. -/
def orphaningRun : List FleetAction :=
  [.connect 0 true, .connect 1 true, .connect 2 true, .advance 0 .channel,
    .advance 0 (.fromEnv true 0), .advance 0 (.startClock 0), .readReady 0,
    .advance 0 (.complete []), .turn 0 timePerFork .child, .turn 0 timePerFork .child,
    .advance 1 .replaceDaemonConnections, .advance 1 .rewire, .advance 1 .detachStdio,
    .announce 1, .readPid 1, .readReady 1, .advance 0 .die, .readEnd 2 true]

/-- The third worker then spawns a process of its own. -/
theorem forkSlots_owned_orphan :
    workerSpecs (fun index => .ok ⟨2 * index, 2 * index + 1⟩) forkPool = .ok forkPoolSpecs ∧
    ∃ fleet, (fleetMachine forkPoolSpecs).Reachable (fun _ _ => True) fleet ∧
      fleet.workers = [.connected 0, .connected 1, .greeting 2 none] ∧
      fleet.origins = [.spawned 0, .forked 0 1, .spawned 2] ∧ fleet.Safe forkPoolSpecs := by
  have built : workerSpecs (fun index => .ok ⟨2 * index, 2 * index + 1⟩) forkPool =
      .ok forkPoolSpecs := rfl
  obtain ⟨fleet, reached, checked⟩ := Machine.reachable_of_execute (fleetMachine forkPoolSpecs)
    (fun _ _ => True) (Fleet.initial forkPoolSpecs) orphaningRun
    (fun fleet => fleet.workers = [.connected 0, .connected 1, .greeting 2 none] ∧
      fleet.origins = [.spawned 0, .forked 0 1, .spawned 2]) rfl (by decide +kernel)
  obtain ⟨workers, origins⟩ := of_decide_eq_true checked
  exact ⟨built, fleet, reached, workers, origins, ((forkSlots_owned built).2 fleet reached).1⟩

end Evix
