import DiscoveryGraph.Discovery.Validation
import DiscoveryGraph.Lifecycle.Basic

/-! Applying a notification: it is checked first, then what it mentions is found or created,
its locators are brought up to date, and the announced entity changes state. -/
namespace DiscoveryGraph.Graph

/-- An entity that was found or created, with the changes that creating it made. -/
structure Resolved where
  id : EntityId
  changes : List StateChange

/-- Creates an entity; its creation counts as its activation. -/
def introduce (kind : EntityKind) (name : String) (attributes : Attributes) :
    Update StorageError Resolved := do
  let id ← create kind name attributes
  return ⟨id, [⟨id, kind, true⟩]⟩

/-- Finds or creates an entity that is known by its name alone. -/
def resolveGlobal (kind : EntityKind) (name : String) : Update StorageError Resolved := do
  match (← get).findGlobal kind name with
  | some id => return ⟨id, []⟩
  | none => introduce kind name .plain

/-- Finds or creates an entity that its parent knows by its name. -/
def resolveChild (parent : EntityId) (kind : EntityKind) (name : String) (attributes : Attributes) :
    Update StorageError Resolved := do
  match (← get).findChild parent kind name with
  | some id => return ⟨id, []⟩
  | none =>
    let child ← introduce kind name attributes
    let _ ← bind parent child.id
    return child

/-- Finds or creates a participant, with its host, user and process. -/
def resolveParticipant (domain : EntityId) (info : ParticipantInfo) :
    Update StorageError Resolved := do
  match (← get).findByGuid [.participant] info.guid with
  | some (id, _) => return ⟨id, []⟩
  | none =>
    let host ← resolveGlobal .host info.host
    let user ← resolveChild host.id .user info.user .plain
    let process ← resolveChild user.id .process info.process (.process (info.pid.getD ""))
    let participant ← introduce .participant info.name (.participant info.guid)
    let _ ← bind process.id participant.id
    let _ ← bind domain participant.id
    return ⟨participant.id, host.changes ++ user.changes ++ process.changes ++ participant.changes⟩

/-- Finds or creates a topic of a domain. -/
def resolveTopic (domain : EntityId) (info : TopicInfo) : Update StorageError Resolved := do
  match (← get).findTopic domain info with
  | some id => return ⟨id, []⟩
  | none =>
    let topic ← introduce .topic info.name (.topic info.dataType)
    let _ ← bind domain topic.id
    return topic

/-- Creates an endpoint below its participant and its topic. -/
def createEndpoint (domain : EntityId) (kind : EntityKind) (info : EndpointInfo) :
    Update StorageError Resolved := do
  let participant ← resolveParticipant domain info.participant
  let topic ← resolveTopic domain info.topic
  let endpoint ← introduce kind info.name (.endpoint info.guid)
  let _ ← bind participant.id endpoint.id
  let _ ← bind topic.id endpoint.id
  return ⟨endpoint.id, participant.changes ++ topic.changes ++ endpoint.changes⟩

/-- Creates the announced entity with whatever it depends on. -/
def createAnnounced (domain : EntityId) : Announcement → Update StorageError Resolved
  | .participant info => resolveParticipant domain info
  | .topic info => resolveTopic domain info
  | .reader info => createEndpoint domain .dataReader info
  | .writer info => createEndpoint domain .dataWriter info

/-- Locators that were found or created, with the changes that creating them made. -/
structure ResolvedLocators where
  ids : IdSet
  changes : List StateChange

/-- Finds or creates the locators with the given addresses. -/
def resolveLocators : List String → Update StorageError ResolvedLocators
  | [] => return ⟨∅, []⟩
  | address :: addresses => do
    let first ← resolveGlobal .locator address
    let rest ← resolveLocators addresses
    return ⟨rest.ids.insert first.id, first.changes ++ rest.changes⟩

/-- Binds an endpoint to exactly the locators with the given addresses. Returns the changes and
the locators that it was bound to or released from. -/
def rebindLocators (endpoint : EntityId) (addresses : List String) :
    Update StorageError ResolvedLocators := do
  let wanted ← resolveLocators addresses
  let current := (← get).neighbors endpoint .locator
  let stale := current \ wanted.ids
  let fresh := wanted.ids \ current
  stale.toList.forM fun locator => discard (unbind endpoint locator)
  fresh.toList.forM fun locator => discard (bind endpoint locator)
  return ⟨stale ∪ fresh, wanted.changes⟩

/-- Brings the bindings of an announced endpoint up to date; other entities have none. -/
def refreshBindings (id : EntityId) : Announcement → Update StorageError ResolvedLocators
  | .reader info | .writer info => rebindLocators id info.locators
  | .participant _ | .topic _ => return ⟨∅, []⟩

/-- Applies a checked announcement of something that is there. -/
def ingestPresent (notification : Notification) (existing : Option EntityId) :
    Update GraphError (List StateChange) := do
  let { domain, status, entity } := notification
  let announced ← match existing with
    | some id => pure ⟨id, []⟩
    | none => createAnnounced domain entity
  let touched ← refreshBindings announced.id entity
  let appeared ←
    if existing = none ∨ status = .discovered then apply (.appeared announced.id) else pure []
  let rederived ← rederiveLocators touched.ids
  return announced.changes ++ touched.changes ++ appeared ++ rederived

/-- Applies a checked announcement of something that has gone. -/
def ingestRemoval (notification : Notification) (existing : Option EntityId) :
    Update GraphError (List StateChange) :=
  match existing with
  | some id => apply (.disappeared id)
  | none =>
    throw (.validation (.rejectedNotification
      (.neverDiscovered notification.entity.kind notification.entity.name)))

/-- Checks and applies a notification, and reports every change in order. -/
def ingest (notification : Notification) : Update GraphError (List StateChange) := do
  Update.read (ε := ValidationError) (·.checkDomain notification.domain)
  let existing ← Update.read (ε := ValidationError) fun g =>
    g.validate notification.domain notification.entity
  if notification.status = .removed then ingestRemoval notification existing
  else ingestPresent notification existing

end DiscoveryGraph.Graph
