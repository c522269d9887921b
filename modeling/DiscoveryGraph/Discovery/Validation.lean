import DiscoveryGraph.Discovery.Notification
import DiscoveryGraph.Graph.Basic
import DiscoveryGraph.Text.Blank

/-! What an announcement refers to in a graph, and whether it agrees with it. Nothing here
changes the graph, and nothing here looks at an active flag. -/
namespace DiscoveryGraph.Graph

/-- The first entity of one of the kinds that carries a GUID, with its kind. -/
def findByGuid (g : Graph) (kinds : List EntityKind) (guid : Guid) :
    Option (EntityId × EntityKind) :=
  (g.withGuid guid).toList.findSome? fun id =>
    match g.entity? id with
    | some entity => if entity.kind ∈ kinds then some (id, entity.kind) else none
    | none => none

/-- The first entity of a kind with this name, wherever it is. -/
def findGlobal (g : Graph) (kind : EntityKind) (name : String) : Option EntityId :=
  (g.named kind name).first?

/-- The name of an entity, if it exists. -/
def nameOf? (g : Graph) (id : EntityId) : Option String := (g.entity? id).map (·.name)

/-- The first child of a kind with this name. -/
def findChild (g : Graph) (parent : EntityId) (kind : EntityKind) (name : String) :
    Option EntityId :=
  (g.neighbors parent kind).toList.find? fun id => g.nameOf? id = some name

/-- The first topic of a domain with this name and data type. -/
def findTopic (g : Graph) (domain : EntityId) (info : TopicInfo) : Option EntityId :=
  (g.named .topic info.name).toList.find? fun id =>
    (g.neighbors id .domain).contains domain &&
      (g.entity? id).any fun entity => entity.attributes = .topic info.dataType

/-- The names of the host, user and process that hold a participant, as far as they exist. -/
def context (g : Graph) (participant : EntityId) : Option String × Option String × Option String :=
  let process := g.parent? participant .process
  let user := process.bind (g.parent? · .user)
  let host := user.bind (g.parent? · .host)
  (host.bind g.nameOf?, user.bind g.nameOf?, process.bind g.nameOf?)

def rejected {α : Type} (rejection : Rejection) : Except ValidationError α :=
  .error (.rejectedNotification rejection)

def checkDomain (g : Graph) (domain : EntityId) : Except ValidationError Unit :=
  match g.entity? domain with
  | some entity => if entity.kind = .domain then .ok () else .error (.unknownDomain domain)
  | none => .error (.unknownDomain domain)

/-- The name that an announcement gives for an entity of a kind must not be blank. -/
def checkName (kind : EntityKind) (name : String) : Except ValidationError Unit :=
  if Text.isBlank name then rejected (.blankName kind) else .ok ()

/-- Checks the announced participant and finds it if it is known. A known one stays in its
domain and in its process. -/
def validateParticipant (g : Graph) (domain : EntityId) (info : ParticipantInfo) :
    Except ValidationError (Option EntityId) := do
  checkName .host info.host
  checkName .user info.user
  checkName .process info.process
  match g.findByGuid [.participant] info.guid with
  | none => return none
  | some (id, _) =>
    if g.parent? id .domain ≠ some domain then
      rejected (.foreignParticipant info.guid)
    else if g.context id ≠ (some info.host, some info.user, some info.process) then
      rejected (.movedParticipant info.guid info.host info.user info.process)
    else
      return some id

/-- Checks the announced endpoint and finds it if it is known. A known one keeps its kind, its
participant and its topic. -/
def validateEndpoint (g : Graph) (domain : EntityId) (kind : EntityKind) (info : EndpointInfo) :
    Except ValidationError (Option EntityId) := do
  checkName .topic info.topic.name
  if info.locators.any Text.isBlank then
    rejected (.blankLocator kind info.guid)
  else
    let participant ← g.validateParticipant domain info.participant
    match g.findByGuid EntityKind.endpoints info.guid with
    | none => return none
    | some (id, found) =>
      if found ≠ kind then
        rejected (.guidTaken info.guid found kind)
      else if participant = none ∨ g.parent? id .participant ≠ participant then
        rejected (.movedEndpoint kind info.guid info.participant.guid)
      else if g.parent? id .topic ≠ g.findTopic domain info.topic then
        rejected (.reboundEndpoint kind info.guid info.topic.name)
      else
        return some id

/-- Checks an announcement and finds the announced entity if it is known. -/
def validate (g : Graph) (domain : EntityId) :
    Announcement → Except ValidationError (Option EntityId)
  | .participant info => g.validateParticipant domain info
  | .topic info => do
    checkName .topic info.name
    return g.findTopic domain info
  | .reader info => g.validateEndpoint domain .dataReader info
  | .writer info => g.validateEndpoint domain .dataWriter info

end DiscoveryGraph.Graph
