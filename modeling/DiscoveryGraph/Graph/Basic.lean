import DiscoveryGraph.Error
import DiscoveryGraph.Graph.Index

/-! The graph of monitored entities: the entities by identifier, indexes of them by kind, by
name and by GUID, and their relations, stored from both ends. -/
namespace DiscoveryGraph

/-- The entities of one kind that bear one name. -/
structure NameKey where
  kind : EntityKind
  name : String
  deriving DecidableEq, Repr

/-- The neighbors of one kind that one entity has. -/
structure NeighborKey where
  owner : EntityId
  kind : EntityKind
  deriving DecidableEq, Repr

namespace NameKey

instance : Ord NameKey := ⟨compareLex (compareOn kind) (compareOn name)⟩

instance : Std.TransOrd NameKey :=
  inferInstanceAs (Std.TransCmp (compareLex (compareOn kind) (compareOn name)))

instance : Std.LawfulEqOrd NameKey where
  eq_of_compare {a b} h := by
    have h : compareLex (compareOn kind) (compareOn name) a b = .eq := h
    rw [compareLex_eq_eq] at h
    have hk : a.kind = b.kind := Std.LawfulEqOrd.eq_of_compare h.1
    have hn : a.name = b.name := Std.LawfulEqOrd.eq_of_compare h.2
    cases a; cases b; simp_all

end NameKey

namespace NeighborKey

instance : Ord NeighborKey := ⟨compareLex (compareOn owner) (compareOn kind)⟩

instance : Std.TransOrd NeighborKey :=
  inferInstanceAs (Std.TransCmp (compareLex (compareOn owner) (compareOn kind)))

instance : Std.LawfulEqOrd NeighborKey where
  eq_of_compare {a b} h := by
    have h : compareLex (compareOn owner) (compareOn kind) a b = .eq := h
    rw [compareLex_eq_eq] at h
    have ho : a.owner = b.owner := Std.LawfulEqOrd.eq_of_compare h.1
    have hk : a.kind = b.kind := Std.LawfulEqOrd.eq_of_compare h.2
    cases a; cases b; simp_all

end NeighborKey

/-- An edge as it is stored: a rule and the entities at its two ends. -/
structure Edge where
  rule : EdgeRule
  parent : EntityId
  child : EntityId
  deriving DecidableEq, Repr

/-- Entities, their indexes and their relations. `lastId` is the identifier handed out last;
none is handed out twice, whatever is removed. -/
structure Graph where
  entities : Std.ExtTreeMap EntityId Entity := ∅
  byKind : Index EntityKind := ∅
  byName : Index NameKey := ∅
  byGuid : Index Guid := ∅
  relations : Index NeighborKey := ∅
  lastId : EntityId := .all
  deriving DecidableEq

namespace Graph

instance : EmptyCollection Graph := ⟨{}⟩

instance : Inhabited Graph := ⟨∅⟩

def entity? (g : Graph) (id : EntityId) : Option Entity := g.entities[id]?

/-- The entity with an identifier, which has to exist. -/
def lookup (g : Graph) (id : EntityId) : Except StorageError Entity :=
  match g.entity? id with
  | some entity => .ok entity
  | none => .error (.entityNotFound id)

def kindOf (g : Graph) (id : EntityId) : Except StorageError EntityKind :=
  (g.lookup id).map (·.kind)

def contains (g : Graph) (id : EntityId) : Bool := g.entities.contains id

def isActive (g : Graph) (id : EntityId) : Except StorageError Bool :=
  (g.lookup id).map (·.active)

def size (g : Graph) : Nat := g.entities.size

/-- All entities, by ascending identifier. -/
def list (g : Graph) : List Entity := g.entities.values

/-- The entities of a kind, alive or not. -/
def ofKind (g : Graph) (kind : EntityKind) : IdSet := g.byKind.find kind

/-- The entities of a kind with exactly this name. -/
def named (g : Graph) (kind : EntityKind) (name : String) : IdSet := g.byName.find ⟨kind, name⟩

/-- The entities that carry a GUID. -/
def withGuid (g : Graph) (guid : Guid) : IdSet := g.byGuid.find guid

/-- The entities of a kind that share an edge with `id`. -/
def neighbors (g : Graph) (id : EntityId) (kind : EntityKind) : IdSet := g.relations.find ⟨id, kind⟩

/-- The first neighbor of a kind: the parent, where an entity has at most one. -/
def parent? (g : Graph) (id : EntityId) (kind : EntityKind) : Option EntityId :=
  (g.neighbors id kind).first?

end Graph
end DiscoveryGraph
