import DiscoveryGraph.Entity.Basic

/-! Requested transitions between active and inactive, the changes they cause, and which kinds
depend on which. -/
namespace DiscoveryGraph

/-- A transition requested by discovery or by monitor control. -/
inductive Transition where
  /-- The entity was discovered, or discovered again. -/
  | appeared (id : EntityId)
  /-- Discovery reported the entity gone. -/
  | disappeared (id : EntityId)
  /-- The monitor of the domain was stopped. -/
  | domainStopped (domain : EntityId)
  deriving DecidableEq, Repr

/-- One flag that changed, with its new value. -/
structure StateChange where
  id : EntityId
  kind : EntityKind
  active : Bool
  deriving DecidableEq, Repr

/-- What a change adds to a count of live entities. -/
def StateChange.delta (change : StateChange) : Int := if change.active then 1 else -1

namespace EntityKind

/-- The kinds that an entity of this kind keeps alive. -/
def sustains : EntityKind → List EntityKind
  | participant => [process]
  | process => [user]
  | user => [host]
  | dataWriter | dataReader => [participant, topic, locator]
  | _ => []

/-- The kinds whose activity follows from entities of this kind. -/
def dependents : EntityKind → List EntityKind
  | participant => [process]
  | process => [user]
  | user => [host]
  | dataWriter | dataReader => [topic, locator]
  | _ => []

/-- The kinds an entity of this kind derives its activity from. -/
def derivedFrom : EntityKind → List EntityKind
  | host => [user]
  | user => [process]
  | process => [participant]
  | topic | locator => endpoints
  | _ => []

/-- Activity follows from a kind exactly if that kind is derived from it. -/
theorem mem_dependents_iff (child parent : EntityKind) :
    parent ∈ child.dependents ↔ child ∈ parent.derivedFrom := by
  cases child <;> cases parent <;> simp [dependents, derivedFrom, endpoints]

end EntityKind
end DiscoveryGraph
