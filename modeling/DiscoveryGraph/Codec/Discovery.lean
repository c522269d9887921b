import DiscoveryGraph.Codec.Entity
import DiscoveryGraph.Discovery.Notification
import DiscoveryGraph.Json.Reader
import DiscoveryGraph.Lifecycle.Transition
import DiscoveryGraph.Monitor.Config
import DiscoveryGraph.Monitor.Event

/-! Documents of notifications, transitions, changes, events and configurations. -/
namespace DiscoveryGraph

/-! ### Transitions and changes -/

def Transition.toJson : Transition → Json
  | appeared id => .object [("type", .string "discovery_appeared"), ("id", id.toJson)]
  | disappeared id => .object [("type", .string "discovery_disappeared"), ("id", id.toJson)]
  | domainStopped id => .object [("type", .string "domain_stopped"), ("id", id.toJson)]

def Transition.ofJson? (value : Json) : Option Transition := do
  let (type, id) ← value.tagged? "type" "id"
  let id ← EntityId.ofJson? id
  match type with
  | "discovery_appeared" => return .appeared id
  | "discovery_disappeared" => return .disappeared id
  | "domain_stopped" => return .domainStopped id
  | _ => none

def StateChange.toJson (change : StateChange) : Json :=
  .object
    [("id", change.id.toJson), ("kind", change.kind.toJson), ("active", .bool change.active)]

def StateChange.ofJson? (value : Json) : Option StateChange := do
  let fields ← value.fields? ["id", "kind", "active"]
  let id ← Json.required? fields "id" EntityId.ofJson?
  let kind ← Json.required? fields "kind" EntityKind.ofJson?
  let active ← Json.required? fields "active" Json.bool?
  return { id, kind, active }

def Event.toJson (event : Event) : Json :=
  .object
    [("domain", event.domain.toJson), ("entity", event.entity.toJson), ("kind", event.kind.toJson),
      ("count_delta", .int event.delta.toInt)]

def Event.ofJson? (value : Json) : Option Event := do
  let fields ← value.fields? ["domain", "entity", "kind", "count_delta"]
  let domain ← Json.required? fields "domain" EntityId.ofJson?
  let entity ← Json.required? fields "entity" EntityId.ofJson?
  let kind ← Json.required? fields "kind" EntityKind.ofJson?
  let delta ← Json.required? fields "count_delta" Json.int64?
  return { domain, entity, kind, delta }

/-! ### Notifications -/

def Status.symbol : Status → String
  | discovered => "discovered"
  | updated => "updated"
  | removed => "removed"

def Status.toJson (status : Status) : Json := .string status.symbol

def Status.ofJson? : Json → Option Status :=
  memberWith? [.discovered, .updated, .removed] Status.symbol

def ParticipantInfo.toJson (info : ParticipantInfo) : Json :=
  .object
    [("guid", info.guid.toJson), ("name", .string info.name), ("host", .string info.host),
      ("user", .string info.user), ("process", .string info.process),
      ("pid", .ofOption .string info.pid)]

def ParticipantInfo.ofJson? (value : Json) : Option ParticipantInfo := do
  let fields ← value.fields? ["guid", "name", "host", "user", "process", "pid"]
  let guid ← Json.required? fields "guid" Guid.ofJson?
  let name ← Json.required? fields "name" Json.string?
  let host ← Json.required? fields "host" Json.string?
  let user ← Json.required? fields "user" Json.string?
  let process ← Json.required? fields "process" Json.string?
  let pid ← Json.optional? fields "pid" (Json.nullable? Json.string?) none
  return { guid, name, host, user, process, pid }

def TopicInfo.toJson (info : TopicInfo) : Json :=
  .object [("name", .string info.name), ("data_type", .string info.dataType)]

def TopicInfo.ofJson? (value : Json) : Option TopicInfo := do
  let fields ← value.fields? ["name", "data_type"]
  let name ← Json.required? fields "name" Json.string?
  let dataType ← Json.required? fields "data_type" Json.string?
  return { name, dataType }

def EndpointInfo.toJson (info : EndpointInfo) : Json :=
  .object
    [("guid", info.guid.toJson), ("name", .string info.name),
      ("participant", info.participant.toJson), ("topic", info.topic.toJson),
      ("locators", .array (info.locators.map .string))]

def EndpointInfo.ofJson? (value : Json) : Option EndpointInfo := do
  let fields ← value.fields? ["guid", "name", "participant", "topic", "locators"]
  let guid ← Json.required? fields "guid" Guid.ofJson?
  let name ← Json.required? fields "name" Json.string?
  let participant ← Json.required? fields "participant" ParticipantInfo.ofJson?
  let topic ← Json.required? fields "topic" TopicInfo.ofJson?
  let locators ← Json.optional? fields "locators" (Json.list? Json.string?) []
  return { guid, name, participant, topic, locators }

def Announcement.toJson : Announcement → Json
  | participant info => .object [("kind", .string "participant"), ("info", info.toJson)]
  | topic info => .object [("kind", .string "topic"), ("info", info.toJson)]
  | reader info => .object [("kind", .string "reader"), ("info", info.toJson)]
  | writer info => .object [("kind", .string "writer"), ("info", info.toJson)]

def Announcement.ofJson? (value : Json) : Option Announcement := do
  let (kind, info) ← value.tagged? "kind" "info"
  match kind with
  | "participant" => (ParticipantInfo.ofJson? info).map .participant
  | "topic" => (TopicInfo.ofJson? info).map .topic
  | "reader" => (EndpointInfo.ofJson? info).map .reader
  | "writer" => (EndpointInfo.ofJson? info).map .writer
  | _ => none

def Notification.toJson (notification : Notification) : Json :=
  .object
    [("domain", notification.domain.toJson), ("status", notification.status.toJson),
      ("entity", notification.entity.toJson)]

def Notification.ofJson? (value : Json) : Option Notification := do
  let fields ← value.fields? ["domain", "status", "entity"]
  let domain ← Json.required? fields "domain" EntityId.ofJson?
  let status ← Json.required? fields "status" Status.ofJson?
  let entity ← Json.required? fields "entity" Announcement.ofJson?
  return { domain, status, entity }

/-! ### Configurations -/

def Config.toJson (config : Config) : Json :=
  .object
    [("discovery_queue_capacity", .nat config.queueCapacity.toNat),
      ("worker_thread_name", .string config.workerName)]

/-- Every field has a default, and there are no others. -/
def Config.ofJson? (value : Json) : Option Config := do
  let standard : Config := {}
  let fields ← value.onlyFields? ["discovery_queue_capacity", "worker_thread_name"]
  let queueCapacity ←
    Json.optional? fields "discovery_queue_capacity" Json.uint64? standard.queueCapacity
  let workerName ← Json.optional? fields "worker_thread_name" Json.string? standard.workerName
  return { queueCapacity, workerName }

/-- Reads a configuration that a service can run with. -/
def Config.read (text : String) : Except ValidationError Config :=
  match Json.parse? text >>= Config.ofJson? with
  | none => .error (.invalidConfig .malformed)
  | some config => config.validate.map fun _ => config

end DiscoveryGraph
