import DiscoveryGraph.Graph.Update
import DiscoveryGraph.Lifecycle.Transition

/-! Activation: an entity that appears revives what it depends on, as far as that is inactive.
The entities still to be visited form a stack. Every visit leads from a kind to kinds it
sustains, and no chain of those is longer than endpoint, participant, process, user, host. -/
namespace DiscoveryGraph

namespace Graph

/-- Sets a flag and reports the change, if there was one. -/
def flag (id : EntityId) (active : Bool) : Update StorageError (List StateChange) := do
  if ← setActive id active then
    let entity ← Update.read (·.lookup id)
    return [⟨id, entity.kind, active⟩]
  else
    return []

/-- The neighbors that an entity of this kind keeps alive. -/
def sustained (g : Graph) (id : EntityId) (kind : EntityKind) : List EntityId :=
  kind.sustains.flatMap fun target => (g.neighbors id target).toList

/-- Keeps the inactive ones of `ids`, all of which have to exist. -/
def inactiveOf (g : Graph) : List EntityId → Except StorageError (List EntityId)
  | [] => .ok []
  | id :: ids => do
    let active ← g.isActive id
    let rest ← g.inactiveOf ids
    return if active then rest else id :: rest

end Graph

/-- An activation under way: what is left to visit, next one first, and what has changed. -/
structure Activation where
  pending : List EntityId
  changes : List StateChange := []

namespace Activation

/-- Visits the next entity: a domain is passed over, anything else becomes active and its
inactive supports are visited before the rest, the last of them first. -/
def visit (run : Activation) : Update StorageError Activation :=
  match run.pending with
  | [] => pure run
  | id :: rest => do
    let kind := (← Update.read (·.lookup id)).kind
    if kind = .domain then
      return { run with pending := rest }
    else
      let changed ← Graph.flag id true
      let found ← Update.read fun g => g.inactiveOf (g.sustained id kind)
      return { pending := found.reverse ++ rest, changes := run.changes ++ changed }

/-- Visits until nothing is pending, at most `n` times. -/
def visits : Nat → Activation → Update StorageError Activation
  | 0, run => pure run
  | n + 1, run => if run.pending.isEmpty then pure run else run.visit >>= visits n

/-- The length of the longest chain of kinds that sustain one another. -/
def chainLength : Nat := 5

/-- The sizes of some entities together. -/
def total (size : EntityId → Nat) : List EntityId → Nat
  | [] => 0
  | id :: ids => size id + total size ids

/-- The number of entities on the chains of at most `n` entities that `id` starts. -/
def chainSize (g : Graph) : Nat → EntityId → Nat
  | 0, _ => 0
  | n + 1, id =>
    match g.entity? id with
    | none => 1
    | some entity => 1 + total (chainSize g n) (g.sustained id entity.kind)

end Activation

/-- Activates an entity and, along it, the inactive entities it keeps alive. -/
def Graph.activate (id : EntityId) : Update StorageError (List StateChange) := do
  let bound := Activation.chainSize (← get) Activation.chainLength id
  let run ← Activation.visits bound { pending := [id] }
  return run.changes

end DiscoveryGraph
