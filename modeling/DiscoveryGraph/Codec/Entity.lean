import DiscoveryGraph.Codec.Fields
import DiscoveryGraph.Entity.Record
import DiscoveryGraph.Graph.Edge
import DiscoveryGraph.Query.Basic

/-! Documents of identifiers, kinds, attributes and entities. -/
namespace DiscoveryGraph

/-! ### Identifiers -/

def EntityId.toJson (id : EntityId) : Json := .nat id.value.toNat

def EntityId.ofJson? (value : Json) : Option EntityId := value.uint64?.map (⟨·⟩)

def Guid.toJson (guid : Guid) : Json := .string guid.hyphenated

def Guid.ofJson? (value : Json) : Option Guid := value.string? >>= Guid.ofText?

/-! ### Symbols -/

/-- The name of a kind in documents. -/
def EntityKind.symbol : EntityKind → String
  | host => "host"
  | user => "user"
  | process => "process"
  | domain => "domain"
  | participant => "participant"
  | topic => "topic"
  | dataWriter => "data_writer"
  | dataReader => "data_reader"
  | locator => "locator"
  | invalid => "invalid"

/-- The member of a list that has a symbol. -/
def memberWith? {α : Type} (members : List α) (symbol : α → String) (value : Json) : Option α := do
  let name ← value.symbol?
  members.find? fun member => symbol member = name

def EntityKind.toJson (kind : EntityKind) : Json := .string kind.symbol

def EntityKind.ofJson? : Json → Option EntityKind :=
  memberWith? (EntityKind.valid ++ [.invalid]) EntityKind.symbol

def EdgeKind.symbol : EdgeKind → String
  | containment => "containment"
  | domainMembership => "domain_membership"
  | ownership => "ownership"
  | topicBinding => "topic_binding"
  | locatorBinding => "locator_binding"

def EdgeKind.toJson (kind : EdgeKind) : Json := .string kind.symbol

def EdgeKind.ofJson? : Json → Option EdgeKind :=
  memberWith? [.containment, .domainMembership, .ownership, .topicBinding, .locatorBinding]
    EdgeKind.symbol

def ActivityFilter.symbol : ActivityFilter → String
  | all => "all"
  | active => "active"
  | inactive => "inactive"

def ActivityFilter.toJson (filter : ActivityFilter) : Json := .string filter.symbol

def ActivityFilter.ofJson? : Json → Option ActivityFilter :=
  memberWith? [.all, .active, .inactive] ActivityFilter.symbol

/-! ### Entities -/

/-- Attributes carry their tag among their fields. -/
def Attributes.toJson : Attributes → Json
  | plain => .object [("type", .string "none")]
  | domain number =>
    .object [("type", .string "domain"), ("domain_number", .nat number.toNat)]
  | process pid => .object [("type", .string "process"), ("pid", .string pid)]
  | participant guid => .object [("type", .string "participant"), ("guid", guid.toJson)]
  | topic dataType => .object [("type", .string "topic"), ("data_type", .string dataType)]
  | endpoint guid => .object [("type", .string "endpoint"), ("guid", guid.toJson)]

def Attributes.ofJson? (value : Json) : Option Attributes := do
  let (tag, rest) ← value.untag? "type"
  match ← tag.string? with
  | "none" => (rest.fields? []).map fun _ => plain
  | "domain" => (rest.field? "domain_number" Json.uint32?).map domain
  | "process" => (rest.field? "pid" Json.string?).map process
  | "participant" => (rest.field? "guid" Guid.ofJson?).map participant
  | "topic" => (rest.field? "data_type" Json.string?).map topic
  | "endpoint" => (rest.field? "guid" Guid.ofJson?).map endpoint
  | _ => none

/-- An entity without its times. -/
def Entity.toJson (entity : Entity) : Json :=
  .object
    [("id", entity.id.toJson), ("kind", entity.kind.toJson), ("name", .string entity.name),
      ("active", .bool entity.active), ("attributes", entity.attributes.toJson)]

def Timestamp.toJson (time : Timestamp) : Json := .string time.text

def Timestamp.ofJson? (value : Json) : Option Timestamp := value.string? >>= Timestamp.ofText?

def EntityRecord.toJson (record : EntityRecord) : Json :=
  let entity := record.entity
  .object
    [("id", entity.id.toJson), ("kind", entity.kind.toJson), ("name", .string entity.name),
      ("active", .bool entity.active), ("discovered_at", record.discoveredAt.toJson),
      ("last_change", record.lastChange.toJson), ("attributes", entity.attributes.toJson)]

def EntityRecord.ofJson? (value : Json) : Option EntityRecord := do
  let fields ← value.fields?
    ["id", "kind", "name", "active", "discovered_at", "last_change", "attributes"]
  let id ← Json.required? fields "id" EntityId.ofJson?
  let kind ← Json.required? fields "kind" EntityKind.ofJson?
  let name ← Json.required? fields "name" Json.string?
  let active ← Json.required? fields "active" Json.bool?
  let discoveredAt ← Json.required? fields "discovered_at" Timestamp.ofJson?
  let lastChange ← Json.required? fields "last_change" Timestamp.ofJson?
  let attributes ← Json.required? fields "attributes" Attributes.ofJson?
  return { entity := { id, kind, name, active, attributes }, discoveredAt, lastChange }

end DiscoveryGraph
