import DiscoveryGraph.Entity.Kind

/-! Legal edges of the entity graph. Every edge that can be stored is listed with its parent
side, its child side and its meaning. The match between writers and readers goes through
their topic and is not an edge. -/
namespace DiscoveryGraph

/-- What a stored edge means. -/
inductive EdgeKind where
  | containment
  | domainMembership
  | ownership
  | topicBinding
  | locatorBinding
  deriving DecidableEq, Repr

namespace EdgeKind

/-- The name used in messages. -/
def title : EdgeKind → String
  | containment => "Containment"
  | domainMembership => "DomainMembership"
  | ownership => "Ownership"
  | topicBinding => "TopicBinding"
  | locatorBinding => "LocatorBinding"

/-- A child has at most one parent through the edge. -/
def isSingleParent (kind : EdgeKind) : Bool := kind != locatorBinding

/-- The edge may be taken away again. -/
def isRemovable (kind : EdgeKind) : Bool := kind == locatorBinding

end EdgeKind

/-- One legal edge. -/
structure EdgeRule where
  parent : EntityKind
  child : EntityKind
  kind : EdgeKind
  deriving DecidableEq, Repr

open EntityKind EdgeKind in
/-- All legal edges. -/
def edgeRules : List EdgeRule :=
  [⟨host, user, containment⟩,
    ⟨user, process, containment⟩,
    ⟨process, participant, containment⟩,
    ⟨domain, participant, domainMembership⟩,
    ⟨domain, topic, domainMembership⟩,
    ⟨participant, dataWriter, ownership⟩,
    ⟨participant, dataReader, ownership⟩,
    ⟨topic, dataWriter, topicBinding⟩,
    ⟨topic, dataReader, topicBinding⟩,
    ⟨dataWriter, locator, locatorBinding⟩,
    ⟨dataReader, locator, locatorBinding⟩]

/-- The rule for a pair of kinds in either order, and whether the first is the parent. -/
def edgeRule? (a b : EntityKind) : Option (EdgeRule × Bool) :=
  edgeRules.findSome? fun rule =>
    if rule.parent = a ∧ rule.child = b then some (rule, true)
    else if rule.parent = b ∧ rule.child = a then some (rule, false)
    else none

end DiscoveryGraph
