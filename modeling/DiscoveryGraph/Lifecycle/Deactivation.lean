import DiscoveryGraph.Lifecycle.Activation

/-! Deactivation: a participant takes its endpoints along, and an entity that is derived from
others goes once the last of them has gone. No cascade is longer than participant, process,
user, host. -/
namespace DiscoveryGraph.Graph

/-- Tells whether one of `ids`, all of which have to exist up to it, is active. -/
def anyActive (g : Graph) : List EntityId → Except StorageError Bool
  | [] => .ok false
  | id :: ids => do if ← g.isActive id then return true else g.anyActive ids

/-- The entities that the activity of an entity, taken as one of `kind`, is derived from. -/
def children (g : Graph) (id : EntityId) (kind : EntityKind) : List EntityId :=
  kind.derivedFrom.flatMap fun child => (g.neighbors id child).toList

def hasActiveChild (g : Graph) (id : EntityId) (kind : EntityKind) : Except StorageError Bool :=
  g.anyActive (g.children id kind)

/-- The endpoints of a participant, writers first. -/
def endpointsOf (g : Graph) (id : EntityId) : List EntityId :=
  EntityKind.endpoints.flatMap fun kind => (g.neighbors id kind).toList

/-- Applies `deactivate` to the active dependents of an entity that have no active child left. -/
def refreshDependents (deactivate : EntityId → Update StorageError (List StateChange))
    (id : EntityId) (kind : EntityKind) : Update StorageError (List StateChange) :=
  kind.dependents |> Update.gather fun parentKind => do
    let parents := (← get).neighbors id parentKind
    parents.toList |> Update.gather fun parent => do
      if ← Update.read (·.isActive parent) then
        if ← Update.read (·.hasActiveChild parent parentKind) then return [] else deactivate parent
      else
        return []

/-- Deactivates an entity and what follows from it, through at most `n` entities in a row. -/
def deactivateWithin : Nat → EntityId → Update StorageError (List StateChange)
  | 0, _ => pure []
  | n + 1, id => do
    let kind := (← Update.read (·.lookup id)).kind
    match ← flag id false with
    | [] => return []
    | changed =>
      let g ← get
      let owned := if kind = .participant then g.endpointsOf id else []
      let below ← Update.gather (deactivateWithin n) owned
      let above ← refreshDependents (deactivateWithin n) id kind
      return changed ++ below ++ above

/-- The length of the longest cascade of deactivations. -/
def cascadeLength : Nat := 4

/-- Deactivates an entity and what follows from it. -/
def deactivate (id : EntityId) : Update StorageError (List StateChange) :=
  deactivateWithin cascadeLength id

end DiscoveryGraph.Graph
