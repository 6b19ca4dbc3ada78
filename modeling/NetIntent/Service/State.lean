import NetIntent.Config.Basic
import NetIntent.Load.Board
import NetIntent.Policy.Group
import NetIntent.Procedure
import NetIntent.Store.Indexes

/-!
What the services hold while they run: both stores, the addresses last written to the shared group
and the collector's counters. A start loads both stores from their listings, whose answers come in any
order, and takes the addresses it then holds as the ones already written.
-/

namespace NetIntent

/-- How many stale ports a collector handled, removed and failed to remove, each modulo `2 ^ 64`. -/
structure Counters where
  total : UInt64 := 0
  removed : UInt64 := 0
  failed : UInt64 := 0
  deriving DecidableEq

namespace Counters

def begin (c : Counters) : Counters := { c with total := c.total + 1 }

def conclude (removed : Bool) (c : Counters) : Counters :=
  if removed then { c with removed := c.removed + 1 } else { c with failed := c.failed + 1 }

end Counters

structure State where
  servers : Store VirtualServer
  /-- The addresses last written to the shared group. -/
  published : AddressSet
  ports : Store SubnetPort
  counters : Counters := {}

namespace State

/-- The addresses of a store's servers, without empty ones. -/
def addressesOf (servers : Store VirtualServer) : AddressSet :=
  .ofList ((servers.list.filterMap (·.address)).filter (· ≠ ""))

def addresses (s : State) : AddressSet := addressesOf s.servers

def ofStores (servers : Store VirtualServer) (ports : Store SubnetPort) : State :=
  ⟨servers, addressesOf servers, ports, {}⟩

def withServers (f : Store VirtualServer → Store VirtualServer) (s : State) : State :=
  { s with servers := f s.servers }

def withPorts (f : Store SubnetPort → Store SubnetPort) (s : State) : State :=
  { s with ports := f s.ports }

def withCounters (f : Counters → Counters) (s : State) : State :=
  { s with counters := f s.counters }

/-- The loads of both stores from two listings, before any answer has come. -/
def loads (servers : List (Load.Reply VirtualServer)) (ports : List (Load.Reply SubnetPort)) :
    Load.Board :=
  .start [⟨VirtualServer, inferInstance, .start VirtualServer.emptyStore, servers⟩,
    ⟨SubnetPort, inferInstance, .start SubnetPort.emptyStore, ports⟩]

/-- A start after some moves of its loads: none until these have ended, and then both stores or the
failure that was looked at first. -/
def start (servers : List (Load.Reply VirtualServer)) (ports : List (Load.Reply SubnetPort))
    (moves : List Load.Board.Move) : Option (Except Failure State) :=
  let loaded := (loads servers ports).run moves
  have records : loaded.tasks.map Load.Task.Record = [VirtualServer, SubnetPort] := by
    rw [Load.Board.run_records, loads, Load.Board.start_tasks]
    rfl
  loaded.outcome.map fun result => result.map fun _ =>
    ofStores (loaded.storeAt 0 (by rw [records]; rfl)) (loaded.storeAt 1 (by rw [records]; rfl))

end State

/-- The order in which the records found for a request are visited. -/
structure VisitOrder (α : Type) where
  arrange : List α → List α
  perm : ∀ items, (arrange items).Perm items

/-- The order in which the records are held. -/
def VisitOrder.held (α : Type) : VisitOrder α := ⟨id, fun _ => .refl _⟩

end NetIntent
