import DiscoveryGraph.Entity.Basic
import DiscoveryGraph.Time.Timestamp

/-! Entities with the times of their discovery and of their last change of state. -/
namespace DiscoveryGraph

/-- An entity and when it was discovered and last changed. -/
structure EntityRecord where
  entity : Entity
  discoveredAt : Timestamp
  lastChange : Timestamp
  deriving DecidableEq, Repr

namespace EntityRecord

/-- Discovery counts as a change. -/
def discovered (entity : Entity) (now : Timestamp) : EntityRecord := ⟨entity, now, now⟩

/-- Sets the active flag, and the time of the last change if the flag did change. -/
def setActive (record : EntityRecord) (active : Bool) (now : Timestamp) : Bool × EntityRecord :=
  if record.entity.active = active then (false, record)
  else (true, { record with entity := { record.entity with active }, lastChange := now })

/-- Sets the active flag several times over and tells of each time whether it changed. -/
def setEach (record : EntityRecord) (now : Timestamp) : List Bool → List Bool × EntityRecord
  | [] => ([], record)
  | active :: flags =>
    let (changed, record) := record.setActive active now
    let (rest, record) := record.setEach now flags
    (changed :: rest, record)

end EntityRecord
end DiscoveryGraph
