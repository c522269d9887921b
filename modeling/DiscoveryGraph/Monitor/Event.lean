import DiscoveryGraph.Lifecycle.Transition

/-! Events for listeners: the changes of state that count, addressed to a monitored domain. -/
namespace DiscoveryGraph

/-- A counted change of state. -/
structure Event where
  domain : EntityId
  entity : EntityId
  kind : EntityKind
  delta : Int64
  deriving DecidableEq, Repr

namespace Event

def ofChange (domain : EntityId) (change : StateChange) : Event where
  domain
  entity := change.id
  kind := change.kind
  delta := if change.active then 1 else -1

/-- The events of a run of changes: those of participants, topics and endpoints. -/
def ofChanges (domain : EntityId) (changes : List StateChange) : List Event :=
  (changes.filter (·.kind.isDiscoverable)).map (ofChange domain)

/-- What events add to the count together. -/
def total : List Event → Int
  | [] => 0
  | event :: events => event.delta.toInt + total events

theorem toInt_delta_ofChange (domain : EntityId) (change : StateChange) :
    (ofChange domain change).delta.toInt = change.delta := by
  unfold ofChange StateChange.delta
  cases change.active <;> rfl

end Event
end DiscoveryGraph
