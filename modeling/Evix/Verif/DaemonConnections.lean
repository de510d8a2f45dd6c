import Evix.DaemonConnections
import Mathlib.Data.List.Nodup
import Mathlib.Data.Set.Operations

/-!
# A forked worker shares no daemon connection

When every store that is opened adds one fresh connection, all inherited connections to the daemon
are replaced, each by one of its own, and nothing else is changed.
-/

namespace Evix

open Descriptors

section Connections

variable {ι : Type} {opens : StoreOpens ι} {table : SocketTable ι}

/-- The numbers of the connections to a path. -/
def connectionsTo (path : PathBuf) (table : SocketTable ι) : List Nat :=
  ((unixPeers table).filter fun peer => decide (peer.2 = path)).map (·.1)

/-- Every opened store adds exactly one connection, to the daemon's path. -/
def StoreOpens.OpensOne (opens : StoreOpens ι) (daemon : PathBuf) (sockets : Nat → ι) : Prop :=
  ∀ round table, ∃ opened number flag, opens.added round table = .ok opened ∧
    ⟨number, ⟨sockets round, some daemon⟩, flag⟩ ∈ opened ∧ unixPeers opened = [(number, daemon)]

/-- The connections to the daemon in a table are replaced by connections of its own. -/
structure IsReplaced (daemon : PathBuf) (sockets : Nat → ι) (table : SocketTable ι)
    (final : Replacement ι) : Prop where
  /-- It succeeds. -/
  returned : final.returned = some (.ok ())
  /-- There were as many replacements as connections. -/
  count : final.round = (connectionsTo daemon table).length
  /-- A number refers to one thing. -/
  distinct : final.table.numbers.Nodup
  /-- Each of the connections has a socket of its own, opened after the fork. -/
  fresh : ∃ socketOf : Nat → ι,
    Set.InjOn socketOf {number | number ∈ connectionsTo daemon table} ∧
    ∀ number ∈ connectionsTo daemon table,
      (∃ flag, ⟨number, ⟨socketOf number, some daemon⟩, flag⟩ ∈ final.table) ∧
      (∃ round, socketOf number = sockets round) ∧
      ∀ inherited ∈ table, inherited.endpoint.identity ≠ socketOf number
  /-- Every other descriptor is as it was. -/
  others : ∀ descriptor ∈ table, descriptor.number ∉ connectionsTo daemon table →
    descriptor ∈ final.table
  /-- Every connection to the daemon was opened after the fork. -/
  separate : ∀ descriptor ∈ final.table, descriptor.endpoint.peer = some daemon →
    ∃ round, descriptor.endpoint.identity = sockets round

/-! ## Connections of a table -/

/-- The connections of two tables. -/
theorem unixPeers_append (first second : SocketTable ι) :
    unixPeers (first ++ second) = unixPeers first ++ unixPeers second :=
  List.filterMap_append

/-- A connection has a number of its table. -/
theorem mem_numbers_of_unixPeers {peer : Nat × PathBuf} (listed : peer ∈ unixPeers table) :
    peer.1 ∈ table.numbers := by
  obtain ⟨descriptor, opened, found⟩ := List.mem_filterMap.mp listed
  obtain ⟨path, _, rfl⟩ := Option.map_eq_some_iff.mp found
  exact List.mem_map_of_mem opened

/-- A connection of a table is one of its connections to the path. -/
theorem mem_connectionsTo {descriptor : Descriptor Nat (Socket ι)} {path : PathBuf}
    (opened : descriptor ∈ table) (peer : descriptor.endpoint.peer = some path) :
    descriptor.number ∈ connectionsTo path table := by
  have listed : (descriptor.number, path) ∈ unixPeers table :=
    List.mem_filterMap.mpr ⟨descriptor, opened, by rw [peer]; rfl⟩
  exact List.mem_map_of_mem (List.mem_filter.mpr ⟨listed, decide_eq_true rfl⟩)

/-- What was opened is what is found to be new. -/
theorem freshPeers_eq {opened : SocketTable ι}
    (unused : (SocketTable.numbers (table ++ opened)).Nodup) :
    Replacement.freshPeers table opened = unixPeers opened := by
  have apart : ∀ number ∈ table.numbers, number ∉ opened.numbers := by
    rw [SocketTable.numbers, List.map_append, List.nodup_append] at unused
    intro number old new
    exact unused.2.2 number old number new rfl
  rw [Replacement.freshPeers, unixPeers_append, List.filter_append]
  have old : (unixPeers table).filter (fun peer =>
      (unixPeers table).all fun old => decide (old.1 ≠ peer.1)) = [] := by
    refine List.filter_eq_nil_iff.mpr fun peer listed => ?_
    simp only [List.all_eq_true, decide_eq_true_eq, not_forall, not_not]
    exact ⟨peer, listed, rfl⟩
  have new : (unixPeers opened).filter (fun peer =>
      (unixPeers table).all fun old => decide (old.1 ≠ peer.1)) = unixPeers opened := by
    refine List.filter_eq_self.mpr fun peer listed => ?_
    simp only [List.all_eq_true, decide_eq_true_eq]
    intro other before same
    refine apart _ (mem_numbers_of_unixPeers before) ?_
    rw [same]
    exact mem_numbers_of_unixPeers listed
  rw [old, new, List.nil_append]

/-! ## A pass of the loop -/

namespace Replacement

variable {state : Replacement ι} {daemon : PathBuf} {sockets : Nat → ι}

/-- The numbers that a pass chooses from. -/
def targets (daemon : PathBuf) (state : Replacement ι) : List Nat :=
  state.pending.getD (connectionsTo daemon state.table)

/-- Nothing happens after the return. -/
theorem pass_returned (done : state.returned.isSome) : pass opens state = state := if_pos done

/-- Nothing happens after the return, in any number of passes. -/
theorem passes_returned (done : state.returned.isSome) (passes : Nat) :
    (pass opens)^[passes] state = state :=
  Function.iterate_fixed (pass_returned done) passes

/-- What a pass goes on with when a store adds one connection. -/
theorem pass_one (one : opens.OpensOne daemon sockets) (running : state.returned = none)
    (distinct : state.table.numbers.Nodup) :
    ∃ opened : SocketTable ι, (SocketTable.numbers (state.table ++ opened)).Nodup ∧
      (∀ descriptor ∈ opened, descriptor.endpoint.peer = none ∨
        descriptor.endpoint = ⟨sockets state.round, some daemon⟩) ∧
      pass opens state =
        match (state.targets daemon).getLast? with
        | none => { state with pending := some (state.targets daemon), returned := some (.ok ()) }
        | some target =>
          { table := Table.install (state.table ++ opened) target
              ⟨sockets state.round, some daemon⟩ false
            pending := some (state.targets daemon).dropLast
            round := state.round + 1
            returned := none } := by
  obtain ⟨opened, number, flag, added, listed, peers⟩ := one state.round state.table
  have unused := opens.unused _ _ _ added distinct
  have copied := fun target =>
    Table.duplicate_eq unused (List.mem_append_right _ listed) target false
  refine ⟨opened, unused, fun descriptor member => ?_, ?_⟩
  · cases peer : descriptor.endpoint.peer with
    | none => exact .inl rfl
    | some path =>
      have found : (descriptor.number, path) ∈ unixPeers opened :=
        List.mem_filterMap.mpr ⟨descriptor, member, by rw [peer]; rfl⟩
      rw [peers, List.mem_singleton, Prod.mk.injEq] at found
      have same := List.inj_on_of_nodup_map unused (List.mem_append_right _ member)
        (List.mem_append_right _ listed) found.1
      exact .inr (congrArg (·.endpoint) same)
  have fresh := (freshPeers_eq unused).trans peers
  unfold pass
  simp only [running, Option.isSome_none, Bool.false_eq_true, if_false, added, fresh]
  rw [← connectionsTo, ← targets]
  cases (state.targets daemon).getLast? with
  | none => rfl
  | some target =>
    dsimp only
    rw [copied]

/-! ## All passes -/

/-- What is known between two passes: which numbers were replaced, in order, and that nothing else
has changed. -/
structure Progress (daemon : PathBuf) (sockets : Nat → ι) (table : SocketTable ι)
    (state : Replacement ι) (done : List Nat) : Prop where
  /-- The loop goes on. -/
  running : state.returned = none
  /-- There was a pass for each of them. -/
  round : state.round = done.length
  /-- Numbers are distinct. -/
  distinct : state.table.numbers.Nodup
  /-- The other connections are still to be replaced. -/
  remaining : state.targets daemon ++ done.reverse = connectionsTo daemon table
  /-- Each of them has the socket that was opened in its pass. -/
  fresh : ∀ (index number : Nat), done[index]? = some number →
    ∃ flag, ⟨number, ⟨sockets index, some daemon⟩, flag⟩ ∈ state.table
  /-- Every other descriptor is as it was. -/
  others : ∀ descriptor ∈ table, descriptor.number ∉ done → descriptor ∈ state.table
  /-- A connection is one of the others or was opened in a pass. -/
  separate : ∀ descriptor ∈ state.table, descriptor.endpoint.peer = none ∨
    (descriptor ∈ table ∧ descriptor.number ∉ done) ∨
    ∃ round, descriptor.endpoint = ⟨sockets round, some daemon⟩

/-- The connections are listed in the order of the table. -/
theorem unixPeers_sublist (table : SocketTable ι) :
    ((unixPeers table).map (·.1)).Sublist table.numbers := by
  induction table with
  | nil => exact List.Sublist.refl _
  | cons descriptor table ih =>
    cases peer : descriptor.endpoint.peer with
    | none =>
      have skipped : unixPeers (descriptor :: table) = unixPeers table :=
        List.filterMap_cons_none (by rw [peer]; rfl)
      rw [skipped]
      exact ih.cons _
    | some path =>
      have found : unixPeers (descriptor :: table) = (descriptor.number, path) :: unixPeers table :=
        List.filterMap_cons_some (by rw [peer]; rfl)
      rw [found]
      exact ih.cons_cons _

/-- A connection is listed once. -/
theorem nodup_connectionsTo (distinct : table.numbers.Nodup) (path : PathBuf) :
    (connectionsTo path table).Nodup :=
  distinct.sublist ((List.filter_sublist.map _).trans (unixPeers_sublist table))

/-- There are no more connections than descriptors. -/
theorem length_connectionsTo (path : PathBuf) :
    (connectionsTo path table).length ≤ table.length := by
  rw [connectionsTo, List.length_map]
  exact (List.length_filter_le _ _).trans (List.length_filterMap_le _ _)

/-- A connection that is left was not replaced. -/
theorem Progress.unreplaced {done : List Nat} {target : Nat}
    (progress : Progress daemon sockets table state done) (distinct : table.numbers.Nodup)
    (left : target ∈ state.targets daemon) : target ∉ done := by
  have once := nodup_connectionsTo distinct daemon
  rw [← progress.remaining, List.nodup_append] at once
  intro replaced
  exact once.2.2 target left target (List.mem_reverse.mpr replaced) rfl

/-- A pass replaces the last of the connections that are left. -/
theorem Progress.step {done : List Nat} {target : Nat} (one : opens.OpensOne daemon sockets)
    (distinct : table.numbers.Nodup) (progress : Progress daemon sockets table state done)
    (last : (state.targets daemon).getLast? = some target) :
    Progress daemon sockets table (pass opens state) (done ++ [target]) ∧
      ((pass opens state).targets daemon).length + 1 = (state.targets daemon).length := by
  obtain ⟨opened, unused, origin, passed⟩ :=
    pass_one one progress.running progress.distinct
  rw [last] at passed
  dsimp only at passed
  have parts : (state.targets daemon).dropLast ++ [target] = state.targets daemon :=
    List.dropLast_append_getLast? target last
  have whole : (state.targets daemon).dropLast ++ (done ++ [target]).reverse =
      connectionsTo daemon table := by
    rw [← progress.remaining, List.reverse_append, List.reverse_singleton, ← List.append_assoc,
      parts]
  have new : target ∉ done := progress.unreplaced distinct (List.mem_of_getLast? last)
  rw [passed]
  refine ⟨⟨rfl, ?_, Table.nodup_install unused _ _ _, whole, ?_, ?_, ?_⟩, ?_⟩
  · rw [List.length_append, progress.round]
    rfl
  · intro index number at_index
    rcases Nat.lt_or_ge index done.length with earlier | later
    · rw [List.getElem?_append_left earlier] at at_index
      obtain ⟨flag, there⟩ := progress.fresh index number at_index
      refine ⟨flag, Table.mem_install.mpr (.inr ⟨List.mem_append_left _ there, ?_⟩)⟩
      rintro rfl
      exact new (List.mem_of_getElem? at_index)
    · rw [List.getElem?_append_right later, List.getElem?_singleton] at at_index
      split at at_index
      case isTrue first =>
        obtain rfl : index = done.length := by omega
        obtain rfl := Option.some.inj at_index
        exact ⟨false, Table.mem_install.mpr (.inl (by rw [progress.round]))⟩
      case isFalse => cases at_index
  · intro descriptor inherited other
    rw [List.mem_append, not_or, List.mem_singleton] at other
    have there := progress.others descriptor inherited other.1
    exact Table.mem_install.mpr (.inr ⟨List.mem_append_left _ there, other.2⟩)
  · intro descriptor member
    obtain rfl | ⟨held, other⟩ := Table.mem_install.mp member
    · exact .inr (.inr ⟨_, rfl⟩)
    rcases List.mem_append.mp held with before | added
    · rcases progress.separate descriptor before with plain | ⟨inherited, kept⟩ | renewed
      · exact .inl plain
      · exact .inr (.inl ⟨inherited, by simp [kept, other]⟩)
      · exact .inr (.inr renewed)
    · exact (origin descriptor added).imp_right fun opened => .inr ⟨_, opened⟩
  · have lengths := congrArg List.length parts
    rw [List.length_append] at lengths
    exact lengths

/-- What is known when no connection is left. -/
theorem Progress.finish {done : List Nat} (progress : Progress daemon sockets table state done)
    (injective : Function.Injective sockets)
    (uninherited : ∀ inherited ∈ table, ∀ round, inherited.endpoint.identity ≠ sockets round)
    (none_left : state.targets daemon = []) {final : Replacement ι}
    (same : final.table = state.table) (counted : final.round = state.round)
    (returned : final.returned = some (.ok ())) : IsReplaced daemon sockets table final := by
  have all : done.reverse = connectionsTo daemon table := by
    rw [← progress.remaining, none_left, List.nil_append]
  have listed : ∀ number, number ∈ connectionsTo daemon table ↔ number ∈ done := fun number => by
    rw [← all, List.mem_reverse]
  refine ⟨returned, ?_, same ▸ progress.distinct,
    ⟨fun number => sockets (done.idxOf number), ?_, ?_⟩, ?_, ?_⟩
  · rw [counted, progress.round, ← all, List.length_reverse]
  · intro first at_first second _ shared
    exact (List.idxOf_inj ((listed first).mp at_first)).mp (injective shared)
  · intro number connected
    have at_index := List.getElem?_idxOf ((listed number).mp connected)
    refine ⟨?_, ⟨_, rfl⟩, fun inherited opened => uninherited inherited opened _⟩
    rw [same]
    exact progress.fresh _ number at_index
  · intro descriptor inherited other
    rw [same]
    exact progress.others descriptor inherited fun replaced => other ((listed _).mpr replaced)
  · intro descriptor member peer
    rw [same] at member
    rcases progress.separate descriptor member with plain | ⟨inherited, kept⟩ | ⟨round, opened⟩
    · cases plain.symm.trans peer
    · exact absurd ((listed _).mp (mem_connectionsTo inherited peer)) kept
    · exact ⟨round, congrArg (·.identity) opened⟩

/-- Passes enough for the connections that are left replace all of them. -/
theorem Progress.passes {passes : Nat} {done : List Nat} (one : opens.OpensOne daemon sockets)
    (distinct : table.numbers.Nodup) (injective : Function.Injective sockets)
    (uninherited : ∀ inherited ∈ table, ∀ round, inherited.endpoint.identity ≠ sockets round)
    (progress : Progress daemon sockets table state done)
    (enough : (state.targets daemon).length < passes) :
    IsReplaced daemon sockets table ((pass opens)^[passes] state) := by
  induction passes generalizing state done with
  | zero => exact absurd enough (Nat.not_lt_zero _)
  | succ passes ih =>
    rw [Function.iterate_succ_apply]
    cases last : (state.targets daemon).getLast? with
    | none =>
      obtain ⟨_, _, _, passed⟩ := pass_one one progress.running progress.distinct
      rw [last] at passed
      rw [passed, passes_returned rfl]
      exact progress.finish injective uninherited (List.getLast?_eq_none_iff.mp last) rfl rfl rfl
    | some target =>
      obtain ⟨next, shorter⟩ := progress.step one distinct last
      exact ih next (by omega)

/-- What is known before the first pass. -/
theorem progress_start (distinct : table.numbers.Nodup) :
    Progress daemon sockets table (.start table) [] where
  running := rfl
  round := rfl
  distinct := distinct
  remaining := List.append_nil _
  fresh := fun index number at_index => by simp at at_index
  others := fun _ inherited _ => inherited
  separate := fun _ inherited => .inr (.inl ⟨inherited, List.not_mem_nil⟩)

/-! ## Any stores -/

/-- How many connections may be left. -/
def left (state : Replacement ι) : Nat :=
  match state.pending with
  | some targets => targets.length
  | none => state.table.length

/-- A pass chooses from no more. -/
theorem length_targets (path : PathBuf) (state : Replacement ι) :
    (state.targets path).length ≤ left state := by
  unfold targets left
  cases state.pending with
  | none => exact length_connectionsTo path
  | some targets => exact Nat.le_refl _

/-- A pass returns, or replaces one of the connections. -/
theorem pass_progress (opens : StoreOpens ι) (state : Replacement ι) :
    ((pass opens state).returned.isSome ∧ (pass opens state).table = state.table) ∨
    (left (pass opens state) < left state ∧
      ∃ opened source target, opens.added state.round state.table = .ok opened ∧
        Table.duplicate (state.table ++ opened) source target false =
          some (pass opens state).table) := by
  unfold pass
  split
  case isTrue done => exact .inl ⟨done, rfl⟩
  split
  case h_1 => exact .inl ⟨rfl, rfl⟩
  case h_2 opened added =>
    split
    case h_2 => exact .inl ⟨rfl, rfl⟩
    case h_1 source peer _ =>
      dsimp only
      split
      case h_1 => exact .inl ⟨rfl, rfl⟩
      case h_2 target last =>
        split
        case h_1 => exact .inl ⟨rfl, rfl⟩
        case h_2 copied duplicated =>
          refine .inr ⟨?_, opened, source, target, added, duplicated⟩
          have some_left := List.length_pos_of_mem (List.mem_of_getLast? last)
          have bounded := length_targets peer state
          show (state.targets peer).dropLast.length < left state
          rw [List.length_dropLast]
          exact Nat.lt_of_lt_of_le (Nat.sub_lt some_left Nat.one_pos) bounded

/-- Numbers stay distinct. -/
theorem pass_distinct (distinct : state.table.numbers.Nodup) :
    (pass opens state).table.numbers.Nodup := by
  obtain ⟨_, same⟩ | ⟨_, opened, source, target, added, copied⟩ := pass_progress opens state
  · exact same ▸ distinct
  · exact Table.nodup_duplicate (opens.unused _ _ _ added distinct) copied

/-- Numbers stay distinct in any number of passes. -/
theorem passes_distinct (distinct : state.table.numbers.Nodup) (passes : Nat) :
    ((pass opens)^[passes] state).table.numbers.Nodup := by
  induction passes with
  | zero => exact distinct
  | succ passes ih =>
    rw [Function.iterate_succ_apply']
    exact pass_distinct ih

/-- Passes enough for the connections that are left return. -/
theorem passes_return {passes : Nat} (enough : left state < passes) :
    ((pass opens)^[passes] state).returned.isSome := by
  induction passes generalizing state with
  | zero => exact absurd enough (Nat.not_lt_zero _)
  | succ passes ih =>
    rw [Function.iterate_succ_apply]
    obtain ⟨done, _⟩ | ⟨fewer, _⟩ := pass_progress opens state
    · rw [passes_returned done]
      exact done
    · exact ih (by omega)

/-- A pass whose store adds no connection or several returns an error. -/
theorem pass_other {opened : SocketTable ι} (running : state.returned = none)
    (distinct : state.table.numbers.Nodup)
    (added : opens.added state.round state.table = .ok opened)
    (other : (unixPeers opened).length ≠ 1) :
    (pass opens state).returned = some (.error
      s!"expected one new daemon connection, found {(unixPeers opened).length}") := by
  have fresh := freshPeers_eq (opens.unused _ _ _ added distinct)
  unfold pass
  simp only [running, Option.isSome_none, Bool.false_eq_true, if_false, added, fresh]
  split
  case h_1 single =>
    rw [single] at other
    exact absurd rfl other
  case h_2 => rfl

end Replacement

open Replacement

/-- What is returned after some passes is what `replace_daemon_connections` returns. -/
theorem replaceDaemonConnections_returned (passes : Nat) {result : Except String Unit}
    (returned : ((pass opens)^[passes] (.start table)).returned = some result) :
    (replaceDaemonConnections opens table).returned = some result := by
  have ends : (replaceDaemonConnections opens table).returned.isSome :=
    passes_return (Nat.lt_succ_self _)
  have ended : ((pass opens)^[passes] (.start table)).returned.isSome := by rw [returned]; rfl
  rw [replaceDaemonConnections] at ends ⊢
  generalize table.length + 1 = enough at ends ⊢
  rcases Nat.le_total passes enough with fewer | more
  · obtain ⟨extra, rfl⟩ := Nat.exists_eq_add_of_le' fewer
    rw [Function.iterate_add_apply, passes_returned ended]
    exact returned
  · obtain ⟨extra, rfl⟩ := Nat.exists_eq_add_of_le' more
    rw [Function.iterate_add_apply, passes_returned ends] at returned
    exact returned

/-- **A forked worker shares no daemon connection with its parent.** When every store adds one
connection to the daemon, the inherited ones are replaced, each by one of its own, and nothing else
is changed; a store that adds none or several leads to an error. -/
theorem replaceDaemonConnections_fresh (opens : StoreOpens ι) {table : SocketTable ι}
    (distinct : table.numbers.Nodup) :
    (∀ daemon sockets, opens.OpensOne daemon sockets → Function.Injective sockets →
      (∀ inherited ∈ table, ∀ round, inherited.endpoint.identity ≠ sockets round) →
      IsReplaced daemon sockets table (replaceDaemonConnections opens table)) ∧
    ∀ passes opened, ((pass opens)^[passes] (.start table)).returned = none →
      opens.added ((pass opens)^[passes] (.start table)).round
        ((pass opens)^[passes] (.start table)).table = .ok opened →
      (unixPeers opened).length ≠ 1 →
      (replaceDaemonConnections opens table).returned = some (.error
        s!"expected one new daemon connection, found {(unixPeers opened).length}") := by
  constructor
  · intro daemon sockets one injective uninherited
    refine (progress_start distinct).passes one distinct injective uninherited ?_
    exact Nat.lt_succ_of_le (length_connectionsTo daemon)
  · intro passes opened running added other
    refine replaceDaemonConnections_returned (passes + 1) ?_
    rw [Function.iterate_succ_apply']
    exact pass_other running (passes_distinct distinct passes) added other

end Connections

/-! ## A worker with two connections -/

/-- The socket of a daemon. -/
def exampleDaemon : PathBuf := ⟨"/nix/daemon".toUTF8.data.toList⟩

/-- A number that is not in use. -/
def unusedNumber (table : SocketTable Nat) : Nat := table.numbers.foldr max 0 + 1

/-- It is above all that are. -/
theorem lt_unusedNumber {table : SocketTable Nat} {number : Nat} (used : number ∈ table.numbers) :
    number < unusedNumber table := by
  unfold unusedNumber
  generalize table.numbers = numbers at used ⊢
  induction numbers with
  | nil => cases used
  | cons first numbers ih =>
    rw [List.foldr_cons]
    rcases List.mem_cons.mp used with rfl | later
    · omega
    · have below := ih later
      omega

/-- Stores that add one connection each. -/
def exampleOpens : StoreOpens Nat where
  added round table :=
    .ok [⟨unusedNumber table, ⟨100 + round, some exampleDaemon⟩, true⟩]
  unused round table opened added distinct := by
    obtain rfl := Except.ok.inj added
    rw [SocketTable.numbers, List.map_append, List.nodup_append]
    refine ⟨distinct, List.nodup_singleton _, ?_⟩
    intro number old new listed same
    have above := lt_unusedNumber old
    rw [same, List.mem_singleton.mp listed] at above
    exact absurd above (Nat.lt_irrefl _)

/-- A table with two connections to the daemon among others. -/
def exampleTable : SocketTable Nat :=
  [⟨0, ⟨0, none⟩, false⟩, ⟨3, ⟨1, some exampleDaemon⟩, true⟩, ⟨4, ⟨2, some ⟨[47]⟩⟩, false⟩,
    ⟨7, ⟨3, some exampleDaemon⟩, true⟩]

/-- Both connections are replaced. -/
theorem replaceDaemonConnections_fresh_two :
    IsReplaced exampleDaemon (100 + ·) exampleTable
      (replaceDaemonConnections exampleOpens exampleTable) := by
  have distinct : exampleTable.numbers.Nodup := by decide
  have one : exampleOpens.OpensOne exampleDaemon (100 + ·) := fun round table =>
    ⟨_, unusedNumber table, true, rfl, List.mem_singleton_self _, rfl⟩
  have injective : Function.Injective fun round : Nat => 100 + round := fun _ _ same =>
    Nat.add_left_cancel same
  have small : ∀ inherited ∈ exampleTable, inherited.endpoint.identity < 100 := by decide
  refine (replaceDaemonConnections_fresh exampleOpens distinct).1 _ _ one injective ?_
  intro inherited opened round
  have bound := small inherited opened
  omega

end Evix
