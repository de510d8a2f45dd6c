import Evix.Library.Descriptors
import Evix.Protocol
import Mathlib.Logic.Function.Iterate

/-!
# Daemon connections of a forked worker

A worker that is forked inherits the connections of its parent to the Nix daemon. Before it does
anything else it opens new ones and puts them under the numbers of those it inherited.
-/

namespace Evix

open Descriptors

/-- What a descriptor refers to. -/
structure Socket (ι : Type) where
  /-- Which one it is. -/
  identity : ι
  /-- The path of its peer, for a connected socket of this machine. -/
  peer : Option PathBuf
  deriving DecidableEq

/-- The descriptors of a process. -/
abbrev SocketTable (ι : Type) := Table Nat (Socket ι)

section Replacement

variable {ι : Type}

/-- The open numbers. -/
def SocketTable.numbers (table : SocketTable ι) : List Nat := table.map (·.number)

/-- `unix_peers`, with `unix_peer` of each descriptor. -/
def unixPeers (table : SocketTable ι) : List (Nat × PathBuf) :=
  table.filterMap fun descriptor => descriptor.endpoint.peer.map (descriptor.number, ·)

/-- What `Store::open` and the connection to the daemon add to a table, each time. -/
structure StoreOpens (ι : Type) where
  /-- The descriptors that are added, or an error. -/
  added : Nat → SocketTable ι → Except String (SocketTable ι)
  /-- A new descriptor has a number that was not in use. -/
  unused : ∀ round table opened, added round table = .ok opened → table.numbers.Nodup →
    (SocketTable.numbers (table ++ opened)).Nodup

/-- `replace_daemon_connections` between two passes of its loop. -/
structure Replacement (ι : Type) where
  /-- The descriptors. -/
  table : SocketTable ι
  /-- The numbers that are still to be replaced, once they are known. -/
  pending : Option (List Nat)
  /-- How many passes there were. -/
  round : Nat
  /-- What it has returned. -/
  returned : Option (Except String Unit)

namespace Replacement

/-- What `replace_daemon_connections` starts from. -/
def start (table : SocketTable ι) : Replacement ι := ⟨table, none, 0, none⟩

/-- The connections that were not there before. -/
def freshPeers (table opened : SocketTable ι) : List (Nat × PathBuf) :=
  (unixPeers (table ++ opened)).filter fun peer =>
    (unixPeers table).all fun old => decide (old.1 ≠ peer.1)

/-- One pass of the loop. A store that is not leaked is dropped with what it has added. -/
def pass (opens : StoreOpens ι) (state : Replacement ι) : Replacement ι :=
  if state.returned.isSome then state
  else
    match opens.added state.round state.table with
    | .error error => { state with returned := some (.error error) }
    | .ok opened =>
      match freshPeers state.table opened with
      | [(freshFd, peer)] =>
        let targets := state.pending.getD
          (((unixPeers state.table).filter fun old => decide (old.2 = peer)).map (·.1))
        match targets.getLast? with
        | none => { state with pending := some targets, returned := some (.ok ()) }
        | some target =>
          match Table.duplicate (state.table ++ opened) freshFd target false with
          | none => { state with
              pending := some targets.dropLast
              returned := some (.error "replacing an inherited daemon connection") }
          | some table =>
            { table
              pending := some targets.dropLast
              round := state.round + 1
              returned := none }
      | fresh => { state with returned := some (.error
          s!"expected one new daemon connection, found {fresh.length}") }

end Replacement

/-- `replace_daemon_connections`: a pass that does not return has replaced one of the descriptors,
so one pass more than there are descriptors is enough. -/
def replaceDaemonConnections (opens : StoreOpens ι) (table : SocketTable ι) : Replacement ι :=
  (Replacement.pass opens)^[table.length + 1] (.start table)

end Replacement

end Evix
