import DiscoveryGraph.Entity.Id
import DiscoveryGraph.Entity.Kind
import DiscoveryGraph.Entity.Guid

/-! Monitored entities. Identity, kind, name and attributes never change; `active` does. The times of
discovery and of the last change go with `active` and nothing in the graph reads them: they are left out
of its entities and kept in `EntityRecord`. -/
namespace DiscoveryGraph

/-- What is known of an entity beside its name, according to its kind. -/
inductive Attributes where
  | plain
  | domain (domainNumber : UInt32)
  | process (pid : String)
  | participant (guid : Guid)
  | topic (dataType : String)
  | endpoint (guid : Guid)
  deriving DecidableEq, Repr

/-- One node of the graph. -/
structure Entity where
  id : EntityId
  kind : EntityKind
  name : String
  active : Bool
  attributes : Attributes
  deriving DecidableEq, Repr

namespace Entity

/-- A new entity is alive. -/
def discovered (id : EntityId) (kind : EntityKind) (name : String) (attributes : Attributes) :
    Entity :=
  { id, kind, name, active := true, attributes }

/-- The GUID of a participant or endpoint. -/
def guid? (entity : Entity) : Option Guid :=
  match entity.attributes with
  | .participant guid | .endpoint guid => some guid
  | _ => none

end Entity
end DiscoveryGraph
