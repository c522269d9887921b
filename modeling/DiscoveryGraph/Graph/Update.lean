import DiscoveryGraph.Graph.Basic

/-! Changes of a graph. An `Update` may fail, and what it had changed by then stays changed,
so that an operation leaves the graph alone on failure only if it checks before it acts. -/
namespace DiscoveryGraph

/-- A computation on a graph that can fail and keeps its changes either way. -/
abbrev Update (ε α : Type) := EStateM ε Graph α

namespace Update

instance : MonadLift (Update StorageError) (Update GraphError) := ⟨EStateM.adaptExcept .storage⟩

instance : MonadLift (Update ValidationError) (Update GraphError) :=
  ⟨EStateM.adaptExcept .validation⟩

/-- Reads from the graph, which may fail. -/
def read {ε α : Type} (f : Graph → Except ε α) : Update ε α := fun g =>
  match f g with
  | .ok a => .ok a g
  | .error e => .error e g

/-- Runs `f` on each element in turn and joins what it reports. -/
def gather {ε α β : Type} (f : α → Update ε (List β)) : List α → Update ε (List β)
  | [] => pure []
  | a :: as => do
    let first ← f a
    let rest ← gather f as
    return first ++ rest

end Update

namespace Graph

/-- Files a new entity, which becomes the last one named. -/
def add (g : Graph) (entity : Entity) : Graph where
  entities := g.entities.insert entity.id entity
  byKind := g.byKind.insert entity.kind entity.id
  byName := g.byName.insert ⟨entity.kind, entity.name⟩ entity.id
  byGuid := match entity.guid? with
    | some guid => g.byGuid.insert guid entity.id
    | none => g.byGuid
  relations := g.relations
  lastId := entity.id

/-- Files an edge at both ends. -/
def link (g : Graph) (edge : Edge) : Graph :=
  let { rule, parent, child } := edge
  { g with relations := (g.relations.insert ⟨parent, rule.child⟩ child).insert ⟨child, rule.parent⟩ parent }

/-- Takes `other`, which has kind `kind`, off the neighbors of `id`. The half at `other` stays. -/
def detach (g : Graph) (id other : EntityId) (kind : EntityKind) : Graph :=
  { g with relations := g.relations.erase ⟨id, kind⟩ other }

/-- Takes an edge away at both ends. -/
def unlink (g : Graph) (edge : Edge) : Graph :=
  let { rule, parent, child } := edge
  (g.detach parent child rule.child).detach child parent rule.parent

/-- Every neighbor of an entity, kind by kind. -/
def allNeighbors (g : Graph) (id : EntityId) : List EntityId :=
  EntityKind.valid.flatMap fun kind => (g.neighbors id kind).toList

/-- Takes every edge of an entity away, at both ends. -/
def isolate (g : Graph) (id : EntityId) (kind : EntityKind) : Graph :=
  let cleared := EntityKind.valid.foldl (fun relations k => relations.drop ⟨id, k⟩) g.relations
  { g with relations :=
      (g.allNeighbors id).foldl (fun relations other => relations.erase ⟨other, kind⟩ id) cleared }

/-- Removes an entity from the graph, its indexes and its neighbors. -/
def forget (g : Graph) (entity : Entity) : Graph :=
  let g := g.isolate entity.id entity.kind
  { g with
    entities := g.entities.erase entity.id
    byKind := g.byKind.erase entity.kind entity.id
    byName := g.byName.erase ⟨entity.kind, entity.name⟩ entity.id
    byGuid := match entity.guid? with
      | some guid => g.byGuid.erase guid entity.id
      | none => g.byGuid }

/-- Creates an active entity under the next identifier. -/
def create (kind : EntityKind) (name : String) (attributes : Attributes) :
    Update StorageError EntityId := do
  if kind = .invalid then
    throw (.inconsistent (.uncreatable kind))
  else
    match (← get).lastId.next? with
    | none => throw .idSpaceExhausted
    | some id =>
      modify (·.add (Entity.discovered id kind name attributes))
      return id

/-- Sets the active flag and tells whether it changed. -/
def setActive (id : EntityId) (active : Bool) : Update StorageError Bool := do
  let entity ← Update.read (·.lookup id)
  if entity.active = active then
    return false
  else
    modify fun g => { g with entities := g.entities.insert id { entity with active } }
    return true

/-- Removes an entity with all its relations and returns it as it was. -/
def remove (id : EntityId) : Update StorageError Entity := do
  let entity ← Update.read (·.lookup id)
  modify (·.forget entity)
  return entity

/-- The edge that two entities, given in either order, may share. -/
def edgeBetween (g : Graph) (a b : EntityId) : Except StorageError Edge := do
  let first ← g.kindOf a
  let second ← g.kindOf b
  match edgeRule? first second with
  | none => throw (.inconsistent (.unrelated first second))
  | some (rule, true) => return ⟨rule, a, b⟩
  | some (rule, false) => return ⟨rule, b, a⟩

/-- The parent that keeps `child` from getting another one. -/
def holder? (g : Graph) (rule : EdgeRule) (child : EntityId) : Option EntityId :=
  if rule.kind.isSingleParent then g.parent? child rule.parent else none

/-- Adds the edge between two entities, given in either order, and tells whether it is new.
A child keeps the parent it has. -/
def bind (a b : EntityId) : Update StorageError Bool := do
  let edge ← Update.read (·.edgeBetween a b)
  let g ← get
  if (g.neighbors edge.child edge.rule.parent).contains edge.parent then
    return false
  else
    match g.holder? edge.rule edge.child with
    | some existing =>
      throw (.inconsistent (.secondParent edge.rule edge.child existing edge.parent))
    | none =>
      set (g.link edge)
      return true

/-- Takes the edge between two entities away, at the first one's end and then at the other's, and
tells whether the first one had it. -/
def unbind (a b : EntityId) : Update StorageError Bool := do
  let first ← Update.read (·.kindOf a)
  let second ← Update.read (·.kindOf b)
  match edgeRule? first second with
  | none => throw (.inconsistent (.unrelated first second))
  | some (rule, _) =>
    if rule.kind.isRemovable then
      let g ← get
      set ((g.detach a b second).detach b a first)
      return (g.neighbors a second).contains b
    else
      throw (.inconsistent (.immutable rule))

end Graph
end DiscoveryGraph
