import Mathlib.Algebra.GroupWithZero.Nat
import Evix.Config

/-!
# Worker pool and scheduler

The pure part of `async_master`: the worker pool `worker_specs` builds from a configuration,
and the shared work queue with its two transitions, `next_for` and `complete`. Descriptor
pairs come from the operating system, so the pool takes them as a parameter that may fail. The
worker counts of the remotes are added up as natural numbers, where the program adds `usize`.
-/

namespace Evix

/-- A queued attribute path. -/
structure WorkItem where
  /-- The path from the root. -/
  path : List String
  deriving DecidableEq, Repr

/-- A socket pair and a stderr pipe for one forked worker, each named by its identity. -/
structure ForkSlot where
  /-- The socket pair. -/
  socket : Nat
  /-- The stderr pipe. -/
  stderr : Nat
  deriving DecidableEq, Repr

/-- How a local worker takes part in forking. -/
inductive LocalFork where
  /-- The only local worker. -/
  | none
  /-- The first local worker, with the slots it may fork. -/
  | parent (slots : List ForkSlot)
  /-- A worker to be forked into its slot. -/
  | child (slot : ForkSlot)
  deriving DecidableEq, Repr

/-- `WorkerKind`. -/
inductive WorkerKind where
  /-- A local worker process. -/
  | local (workerExe : Option PathBuf) (fork : LocalFork)
  /-- A connection to a remote service. -/
  | remote (remote : Remote)
  deriving DecidableEq, Repr

/-- `WorkerSpec`. -/
structure WorkerSpec where
  /-- Position in the pool. -/
  id : Nat
  /-- Name in messages. -/
  label : String
  /-- Local or remote. -/
  kind : WorkerKind
  deriving DecidableEq, Repr

/-- `WorkerSpec::is_forked`. -/
def WorkerSpec.isForked (spec : WorkerSpec) : Bool :=
  match spec.kind with
  | .local _ (.child _) => true
  | _ => false

/-- The number of local workers `worker_specs` starts. -/
def localWorkers (config : Config) : Nat :=
  if config.workers = 0 ∧ 0 < (config.remotes.map Remote.workers).sum then 0
  else max config.workers 1

/-- The fork role of each local worker: the first may fork the others. -/
def localForks (slots : List ForkSlot) : List LocalFork :=
  if slots.isEmpty then [] else .parent slots :: slots.map .child

/-- Label and kind of the local workers. -/
def localEntries (config : Config) (forks : List LocalFork) : List (String × WorkerKind) :=
  (List.range (localWorkers config)).map fun index =>
    ("local", .local config.workerExe (forks[index]?.getD .none))

/-- Label and kind of the remote workers. -/
def remoteEntries (config : Config) : List (String × WorkerKind) :=
  config.remotes.flatMap fun remote => (List.range remote.workers).map fun index =>
    (s!"remote:{remote.endpoint}#{index}", .remote remote)

/-- Each pushed spec gets the current length as its id. -/
def numbered (entries : List (String × WorkerKind)) : List WorkerSpec :=
  entries.mapIdx fun id entry => ⟨id, entry.1, entry.2⟩

/-- `worker_specs`: one slot for each local worker after the first, then the local and the
remote workers in order. -/
def workerSpecs (openSlot : Nat → Except String ForkSlot) (config : Config) :
    Except String (List WorkerSpec) := do
  let slots ← (List.range (localWorkers config - 1)).mapM openSlot
  pure (numbered (localEntries config (localForks slots) ++ remoteEntries config))

/-! ## Scheduler -/

/-- `Scheduler`. -/
structure Scheduler where
  /-- Paths to dispatch, first to last. -/
  todo : List WorkItem
  /-- Dispatched paths not completed. -/
  active : Nat
  /-- The fatal error, once there is one. -/
  error : Option String
  deriving DecidableEq, Repr

/-- The scheduler a run starts with: the root is queued. -/
def Scheduler.initial : Scheduler := ⟨[⟨[]⟩], 0, none⟩

/-- `NextWork`. -/
inductive NextWork where
  /-- Send this item. -/
  | dispatch (item : WorkItem)
  /-- Nothing to send yet. -/
  | wait
  /-- Nothing is left. -/
  | done
  /-- The run has failed. -/
  | fatal (error : String)
  deriving DecidableEq, Repr

/-- `CompletedWork`. -/
structure CompletedWork where
  /-- Whether the event goes to the sink. -/
  emit : Bool
  /-- The error that ends the run. -/
  fatalError : Option String
  deriving DecidableEq, Repr

/-- `display_attr`. -/
def displayAttr (path : List String) : String :=
  if path.isEmpty then "<root>" else ".".intercalate path

/-- `remote_accepts_system`. -/
def remoteAcceptsSystem (remote : Remote) (system : String) : Bool :=
  remote.systems.isEmpty || remote.systems.any (· == system)

/-- `worker_accepts_system`. -/
def workerAcceptsSystem (worker : WorkerSpec) (system : String) : Bool :=
  match worker.kind with
  | .local .. => true
  | .remote remote => remoteAcceptsSystem remote system

/-- Whether a spec is a remote worker. -/
def WorkerSpec.isRemote (spec : WorkerSpec) : Bool :=
  match spec.kind with
  | .remote _ => true
  | .local .. => false

/-- `EventDisposition`. -/
inductive EventDisposition where
  /-- Pass the event on. -/
  | emit
  /-- No worker owns the derivation's system. -/
  | unowned (system : String)
  deriving DecidableEq, Repr

/-- `event_disposition`. -/
def eventDisposition (spec : WorkerSpec) (workers : List WorkerSpec) (event : Event) :
    EventDisposition :=
  if !spec.isRemote then .emit
  else
    match event with
    | .derivation drv =>
      if workers.any fun worker => workerAcceptsSystem worker drv.system then .emit
      else .unowned drv.system
    | .attrSet .. | .error _ => .emit

/-- The pool lets every event pass except a remote derivation whose system nobody accepts. -/
theorem eventDisposition_emit {spec : WorkerSpec} {workers : List WorkerSpec} {event : Event} :
    eventDisposition spec workers event = .emit ↔
      ∀ drv, event = .derivation drv → spec.isRemote = true →
        ∃ worker ∈ workers, workerAcceptsSystem worker drv.system = true := by
  cases event with
  | attrSet | error => simp [eventDisposition]
  | derivation drv =>
    by_cases remote : spec.isRemote = true
    · by_cases owned : ∃ worker ∈ workers, workerAcceptsSystem worker drv.system = true
      · simp [eventDisposition, remote, owned]
      · simp [eventDisposition, remote, owned]
    · simp [eventDisposition, remote]

/-- The message for a derivation no worker owns. -/
def unownedError (attr system : String) : String :=
  s!"no worker accepted derivation at {attr} for system {system}"

/-- `worker_failure_event`; `report` is the failure as text. -/
def workerFailureEvent (spec : WorkerSpec) (item : WorkItem) (report : String) : Event :=
  .error {
    attr := displayAttr item.path
    attrPath := item.path
    error := s!"worker {spec.label} failed: {report}"
    fatal := false }

namespace Scheduler

/-- `Scheduler::is_done`. -/
def isDone (scheduler : Scheduler) : Bool := scheduler.todo.isEmpty && scheduler.active == 0

/-- `Scheduler::has_active_work`. -/
def hasActiveWork (scheduler : Scheduler) : Bool := decide (0 < scheduler.active)

/-- `Scheduler::next_for`. -/
def nextFor (scheduler : Scheduler) (_workerId : Nat) : NextWork × Scheduler :=
  match scheduler.error with
  | some error => (.fatal error, scheduler)
  | none =>
    match scheduler.todo with
    | item :: rest =>
      (.dispatch item, { scheduler with todo := rest, active := scheduler.active + 1 })
    | [] => if scheduler.active = 0 then (.done, scheduler) else (.wait, scheduler)

/-- The items an attribute set queues. -/
def childItems (item : WorkItem) (attrs : List String) : List WorkItem :=
  attrs.map fun name => ⟨item.path ++ [name]⟩

/-- `Scheduler::complete`. -/
def complete (scheduler : Scheduler) (spec : WorkerSpec) (workers : List WorkerSpec)
    (item : WorkItem) (event : Event) : CompletedWork × Scheduler :=
  let scheduler := { scheduler with active := scheduler.active - 1 }
  match event with
  | .attrSet _ _ attrs =>
    (⟨true, none⟩, { scheduler with todo := scheduler.todo ++ childItems item attrs })
  | .error failure =>
    if failure.fatal then
      (⟨true, some failure.error⟩, { scheduler with error := some failure.error })
    else (⟨true, none⟩, scheduler)
  | .derivation _ =>
    match eventDisposition spec workers event with
    | .emit => (⟨true, none⟩, scheduler)
    | .unowned system =>
      let error := unownedError (displayAttr item.path) system
      (⟨false, some error⟩, { scheduler with error := some error })

variable (scheduler : Scheduler) (spec : WorkerSpec) (workers : List WorkerSpec)
  (item : WorkItem) (event : Event)

/-- A failed scheduler answers with its error. -/
theorem nextFor_fatal {error : String} (workerId : Nat) (failed : scheduler.error = some error) :
    scheduler.nextFor workerId = (.fatal error, scheduler) := by
  simp [nextFor, failed]

/-- A queued item is dispatched. -/
theorem nextFor_dispatch {item : WorkItem} {todo : List WorkItem} (workerId : Nat)
    (clean : scheduler.error = none) (queued : scheduler.todo = item :: todo) :
    scheduler.nextFor workerId =
      (.dispatch item, { scheduler with todo, active := scheduler.active + 1 }) := by
  simp [nextFor, clean, queued]

/-- An exhausted scheduler is done. -/
theorem nextFor_done (workerId : Nat) (clean : scheduler.error = none)
    (empty : scheduler.todo = []) (none : scheduler.active = 0) :
    scheduler.nextFor workerId = (.done, scheduler) := by
  simp [nextFor, clean, empty, none]

/-- A scheduler that only has active work waits. -/
theorem nextFor_wait (workerId : Nat) (clean : scheduler.error = none)
    (empty : scheduler.todo = []) (busy : scheduler.active ≠ 0) :
    scheduler.nextFor workerId = (.wait, scheduler) := by
  simp [nextFor, clean, empty, busy]

/-- Completing an item takes one from the active count. -/
@[simp]
theorem complete_active :
    (scheduler.complete spec workers item event).2.active = scheduler.active - 1 := by
  unfold complete
  split
  · rfl
  · split <;> rfl
  · split <;> rfl

/-- Completing an item queues exactly the children its event lists, at the back. -/
@[simp]
theorem complete_todo : (scheduler.complete spec workers item event).2.todo =
    scheduler.todo ++ childItems item event.listed := by
  unfold complete
  split
  · rfl
  · split <;> simp [Event.listed, childItems]
  · split <;> simp [Event.listed, childItems]

/-- The scheduler keeps an error exactly when completing the item reports one. -/
theorem complete_error (clean : scheduler.error = none) :
    (scheduler.complete spec workers item event).2.error =
      (scheduler.complete spec workers item event).1.fatalError := by
  unfold complete
  split
  · exact clean
  · split
    · rfl
    · exact clean
  · split
    · exact clean
    · rfl

/-- An event is emitted exactly when the pool lets it pass. -/
theorem complete_emit : (scheduler.complete spec workers item event).1.emit =
    decide (eventDisposition spec workers event = .emit) := by
  cases event with
  | attrSet attr attrPath attrs => simp [complete, eventDisposition]
  | error failure =>
    by_cases fatal : failure.fatal = true <;> simp [complete, eventDisposition, fatal]
  | derivation drv =>
    cases disposed : eventDisposition spec workers (.derivation drv) <;> simp [complete, disposed]

/-- Completing an item reports an error exactly when its event is refused or fatal. -/
theorem complete_fatalError : (scheduler.complete spec workers item event).1.fatalError = none ↔
    eventDisposition spec workers event = .emit ∧ event.isFatal = false := by
  cases event with
  | attrSet attr attrPath attrs => simp [complete, eventDisposition, Event.isFatal]
  | error failure =>
    by_cases fatal : failure.fatal = true <;>
      simp [complete, eventDisposition, Event.isFatal, fatal]
  | derivation drv =>
    cases disposed : eventDisposition spec workers (.derivation drv) <;>
      simp [complete, disposed, Event.isFatal]

end Scheduler

/-! ## The pool -/

variable {openSlot : Nat → Except String ForkSlot} {config : Config} {specs : List WorkerSpec}

/-- A pool is a numbered list of local entries followed by remote ones. -/
theorem workerSpecs_eq (built : workerSpecs openSlot config = .ok specs) :
    ∃ slots : List ForkSlot,
      specs = numbered (localEntries config (localForks slots) ++ remoteEntries config) := by
  unfold workerSpecs at built
  cases opened : (List.range (localWorkers config - 1)).mapM openSlot with
  | error message => simp [opened, bind, Except.bind] at built
  | ok slots =>
    simp only [opened, bind, Except.bind, pure, Except.pure, Except.ok.injEq] at built
    exact ⟨slots, built.symm⟩

/-- Every pool has a first worker, and it is not forked. -/
theorem workerSpecs_first (built : workerSpecs openSlot config = .ok specs) :
    ∃ spec, specs[0]? = some spec ∧ spec.isForked = false := by
  obtain ⟨slots, rfl⟩ := workerSpecs_eq built
  cases count : localWorkers config with
  | succ others =>
    refine ⟨_, by simp [numbered, localEntries, count, List.range_succ_eq_map]; rfl, ?_⟩
    cases slots <;> rfl
  | zero =>
    -- Without local workers some remote has a positive count, and no remote is forked.
    unfold localWorkers at count
    split at count
    · rename_i guard
      cases entries : remoteEntries config with
      | nil =>
        obtain ⟨count, member, positive⟩ := List.sum_pos_iff_exists_pos_nat.mp guard.2
        obtain ⟨remote, listed, rfl⟩ := List.mem_map.mp member
        have empty := List.flatMap_eq_nil_iff.mp entries remote listed
        rw [List.map_eq_nil_iff, List.range_eq_nil] at empty
        omega
      | cons entry rest =>
        refine ⟨⟨0, entry.1, entry.2⟩, ?_, ?_⟩
        · simp [numbered, localEntries, localWorkers, guard]
        · have member : entry ∈ remoteEntries config := by rw [entries]; exact List.mem_cons_self
          obtain ⟨remote, _, listed⟩ := List.mem_flatMap.mp member
          obtain ⟨index, _, rfl⟩ := List.mem_map.mp listed
          rfl
    · omega

end Evix
