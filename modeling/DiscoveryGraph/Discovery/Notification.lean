import DiscoveryGraph.Entity.Basic

/-! Announcements of the discovery protocol: one per participant, topic or endpoint seen to
appear, change or disappear, with enough context to build what it depends on. -/
namespace DiscoveryGraph

/-- What happened to the announced entity. -/
inductive Status where
  | discovered
  | updated
  | removed
  deriving DecidableEq, Repr

/-- What a status adds to the discovery count by itself. -/
def Status.delta : Status → Int
  | discovered => 1
  | updated => 0
  | removed => -1

/-- A participant and the physical context it runs in. -/
structure ParticipantInfo where
  guid : Guid
  name : String
  host : String
  user : String
  process : String
  pid : Option String
  deriving DecidableEq, Repr

/-- A topic, which its domain knows by name and data type. -/
structure TopicInfo where
  name : String
  dataType : String
  deriving DecidableEq, Repr

/-- A writer or reader with its participant, its topic and all its locators. -/
structure EndpointInfo where
  guid : Guid
  name : String
  participant : ParticipantInfo
  topic : TopicInfo
  locators : List String
  deriving DecidableEq, Repr

/-- The announced entity. -/
inductive Announcement where
  | participant (info : ParticipantInfo)
  | topic (info : TopicInfo)
  | reader (info : EndpointInfo)
  | writer (info : EndpointInfo)
  deriving DecidableEq, Repr

namespace Announcement

def kind : Announcement → EntityKind
  | participant _ => .participant
  | topic _ => .topic
  | reader _ => .dataReader
  | writer _ => .dataWriter

def name : Announcement → String
  | participant info => info.name
  | topic info => info.name
  | reader info | writer info => info.name

end Announcement

/-- An announcement addressed to a monitored domain. -/
structure Notification where
  domain : EntityId
  status : Status
  entity : Announcement
  deriving DecidableEq, Repr

end DiscoveryGraph
