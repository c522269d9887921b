import DiscoveryGraph.Graph.Update

/-! A graph behind a lock for reading and writing. A writer that gives up midway poisons the
lock, and from then on neither readers nor writers get through. -/
namespace DiscoveryGraph

/-- A graph and whether its lock is lost. -/
structure Guarded where
  graph : Graph := ∅
  poisoned : Bool := false

namespace Guarded

/-- Passes unless the lock is lost. -/
def pass (guarded : Guarded) (lock : String) : Except StorageError Unit :=
  if guarded.poisoned then .error (.backend (poisonedLock lock)) else .ok ()

/-- Runs a reader. -/
def read {α : Type} (guarded : Guarded) (f : Graph → α) : Except StorageError α :=
  (guarded.pass "graph.read").map fun _ => f guarded.graph

/-- Runs a writer to its end; what it changed stays, also when it fails. -/
def write {ε α : Type} (guarded : Guarded) (update : Update ε α) :
    Except StorageError (Except ε α × Guarded) :=
  (guarded.pass "graph.write").map fun _ =>
    match update guarded.graph with
    | .ok a graph => (.ok a, { guarded with graph })
    | .error e graph => (.error e, { guarded with graph })

/-- Replaces the graph. -/
def restore (guarded : Guarded) (graph : Graph) : Except StorageError Guarded :=
  (guarded.pass "graph.write").map fun _ => { guarded with graph }

/-- A reader that gives up leaves nothing behind; tells whether it got as far as reading. -/
def abandonRead (guarded : Guarded) : Bool := !guarded.poisoned

/-- A writer that gives up before its first change; tells whether it got as far as writing. -/
def abandonWrite (guarded : Guarded) : Bool × Guarded :=
  (!guarded.poisoned, { guarded with poisoned := true })

end Guarded
end DiscoveryGraph
