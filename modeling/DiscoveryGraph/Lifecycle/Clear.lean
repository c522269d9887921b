import DiscoveryGraph.Lifecycle.Basic

/-! Clearing a domain: it is removed with everything it owns, and so are the locators,
processes, users and hosts that are left without a child. -/
namespace DiscoveryGraph.Graph

/-- Adds the candidates whose children are all owned or orphans. -/
def addOrphans (g : Graph) (kind : EntityKind) (owned candidates orphans : IdSet) : IdSet :=
  candidates.toList.foldl
    (fun orphans id =>
      if (g.children id kind).all fun child => owned.contains child || orphans.contains child then
        orphans.insert id
      else
        orphans)
    orphans

/-- Takes the kinds in turn and adds their orphans, each kind seeing the verdict on the ones
before it. -/
def orphaned (g : Graph) (domain : EntityId) (owned orphans : IdSet) :
    List EntityKind → Except ValidationError IdSet
  | [] => .ok orphans
  | kind :: kinds => do
    let candidates ← g.related kind domain
    g.orphaned domain owned (g.addOrphans kind owned candidates orphans) kinds

/-- What a domain owns, itself included. -/
def owned (g : Graph) (domain : EntityId) : Except ValidationError IdSet :=
  (g.relatedOfKinds domain [.participant, .topic, .dataWriter, .dataReader]).map (·.insert domain)

/-- What clearing a domain removes, in the order of removal: what it owns, then what nothing
else holds, each in ascending order. Kinds are taken children first. -/
def clearance (g : Graph) (domain : EntityId) : Except ValidationError (List EntityId) := do
  let owned ← g.owned domain
  let orphans ← g.orphaned domain owned ∅ [.locator, .process, .user, .host]
  return owned.toList ++ orphans.toList

/-- Removes a domain and what it leaves without a child, and returns all of it as it was. -/
def clearDomain (domain : EntityId) : Update GraphError (List Entity) := do
  Update.read (ε := StorageError) (·.expectDomain domain)
  let ids ← Update.read (ε := ValidationError) (·.clearance domain)
  Update.gather (fun id => return [← remove id]) ids

end DiscoveryGraph.Graph
