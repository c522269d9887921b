import DiscoveryGraph.Monitor.Service
import DiscoveryGraph.Text.Quoted

/-! What can be asked of a service without changing it. -/
namespace DiscoveryGraph

/-- A summary of an entity, or of the whole graph for the universal root. -/
inductive Summary where
  /-- The number of entities of every kind and the discovery count. -/
  | overview (entities : List (EntityKind × Nat)) (count : Int)
  /-- An entity and how many entities of each other kind are related to it, as far as any are. -/
  | detail (entity : Entity) (related : List (EntityKind × Nat))
  deriving DecidableEq, Repr

namespace Graph

/-- How many entities of each of the kinds are related to an origin, as far as any are. -/
def relatedCounts (g : Graph) (origin : EntityId) :
    List EntityKind → Except ValidationError (List (EntityKind × Nat))
  | [] => .ok []
  | kind :: kinds => do
    let first ← g.related kind origin
    let rest ← g.relatedCounts origin kinds
    return if first.isEmpty then rest else (kind, first.size) :: rest

/-- The entities of a set, all of which have to exist, by ascending identifier. -/
def lookupAll (g : Graph) (ids : IdSet) : Except StorageError (List Entity) :=
  ids.toList.mapM g.lookup

end Graph

namespace Service

/-- The identifiers of the entities of a kind that are related to an origin. -/
def ids (service : Service) (filter : ActivityFilter) (kind : EntityKind) (origin : EntityId) :
    Except GraphError IdSet :=
  (service.graph.relatedBy filter kind origin).mapError .validation

/-- The entities of a kind that are related to an origin. -/
def entities (service : Service) (kind : EntityKind) (origin : EntityId) :
    Except GraphError (List Entity) := do
  let ids ← (service.graph.related kind origin).mapError .validation
  (service.graph.lookupAll ids).mapError .storage

def isActive (service : Service) (id : EntityId) : Except GraphError Bool :=
  (service.graph.isActive id).mapError .storage

def entity (service : Service) (id : EntityId) : Except GraphError Entity :=
  (service.graph.lookup id).mapError .storage

def discoveryCount (service : Service) : Except GraphError Int := service.counter.lock

/-- Sums up an entity, or the whole graph for the universal root. -/
def summary (service : Service) (id : EntityId) : Except GraphError Summary :=
  let g := service.graph
  if id.isAll then do
    let count ← service.discoveryCount
    return .overview (EntityKind.valid.map fun kind => (kind, (g.ofKind kind).size)) count
  else do
    let entity ← service.entity id
    let others := EntityKind.valid.filter (· ≠ entity.kind)
    let related ← (g.relatedCounts id others).mapError .validation
    return .detail entity related

/-- The service as it is shown for inspection. -/
def inspect (service : Service) : String :=
  "MonitorBackend \x7b config: BackendConfig \x7b discovery_queue_capacity: " ++
    toString service.config.queueCapacity.toNat ++ ", worker_thread_name: " ++
    Text.Quoted.ofText service.config.workerName ++ " \x7d, rejected_notifications: " ++
    toString service.rejected ++ ", .. \x7d"

end Service
end DiscoveryGraph
