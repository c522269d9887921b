import DiscoveryGraph.Lifecycle.Deactivation
import DiscoveryGraph.Query.Basic

/-! Transitions of entities between active and inactive. Relations are never touched: an active
entity keeps what it depends on active, what is derived from others goes with the last of
them, and a stopped domain takes along everything it owns. -/
namespace DiscoveryGraph.Graph

def expectDomain (g : Graph) (id : EntityId) : Except StorageError Unit := do
  let kind := (← g.lookup id).kind
  if kind = .domain then return () else throw (.inconsistent (.notADomain id kind))

/-- Discovery drives every kind but domains, which their monitor starts and stops. -/
def expectDiscovered (g : Graph) (id : EntityId) : Except StorageError Unit := do
  if (← g.lookup id).kind = .domain then throw (.inconsistent (.monitorDriven id)) else return ()

/-- The entities of any of the kinds that are related to an origin, as one set. -/
def relatedOfKinds (g : Graph) (origin : EntityId) : List EntityKind → Except ValidationError IdSet
  | [] => .ok ∅
  | kind :: kinds => do
    let first ← g.related kind origin
    let rest ← g.relatedOfKinds origin kinds
    return first ∪ rest

/-- Deactivates a domain with its participants, topics, endpoints and locators, and then what
depends on the participants. -/
def stopDomain (domain : EntityId) : Update GraphError (List StateChange) := do
  Update.read (ε := StorageError) (·.expectDomain domain)
  let participants ← Update.read (ε := ValidationError) (·.related .participant domain)
  let owned ← Update.read (ε := ValidationError) fun g =>
    g.relatedOfKinds domain [.topic, .dataWriter, .dataReader, .locator]
  let changed ← Update.gather (flag · false) (domain :: participants.toList ++ owned.toList)
  let above ← Update.gather (refreshDependents deactivate · .participant) participants.toList
  return changed ++ above

/-- Carries out a transition and reports every flag that changed, in the order of the changes. -/
def apply : Transition → Update GraphError (List StateChange)
  | .appeared id => do
    Update.read (ε := StorageError) (·.expectDiscovered id)
    activate id
  | .disappeared id => do
    Update.read (ε := StorageError) (·.expectDiscovered id)
    deactivate id
  | .domainStopped domain => stopDomain domain

/-- Sets each locator active exactly if an endpoint bound to it is. The locators are taken in
ascending order, and one that does not exist ends the run with the earlier ones already set. -/
def rederiveLocators (locators : IdSet) : Update StorageError (List StateChange) :=
  locators.toList |> Update.gather fun locator => do
    let active ← Update.read (·.hasActiveChild locator .locator)
    flag locator active

end DiscoveryGraph.Graph
