import DiscoveryGraph.Entity.Basic
import DiscoveryGraph.Graph.Edge

/-! Failures, grouped by what a caller can do about them: bad parameters, waits and queues that
did not come through, and changes that would have broken the graph. Each carries its cause;
the wording is in one function per type. -/
namespace DiscoveryGraph

/-- Why a change of the graph was refused. -/
inductive Inconsistency where
  | uncreatable (kind : EntityKind)
  | unrelated (a b : EntityKind)
  | secondParent (rule : EdgeRule) (child existing refused : EntityId)
  | immutable (rule : EdgeRule)
  | notADomain (id : EntityId) (kind : EntityKind)
  | monitorDriven (domain : EntityId)
  | stated (reason : String)
  deriving DecidableEq, Repr

/-- What an announcement contradicts. -/
inductive Rejection where
  | blankName (kind : EntityKind)
  | blankLocator (kind : EntityKind) (guid : Guid)
  | foreignParticipant (guid : Guid)
  | movedParticipant (guid : Guid) (host user process : String)
  | guidTaken (guid : Guid) (found announced : EntityKind)
  | movedEndpoint (kind : EntityKind) (guid participant : Guid)
  | reboundEndpoint (kind : EntityKind) (guid : Guid) (topic : String)
  | neverDiscovered (kind : EntityKind) (name : String)
  | stated (reason : String)
  deriving DecidableEq, Repr

/-- What is wrong with a configuration. -/
inductive ConfigFault where
  | noCapacity
  | blankWorkerName
  | malformed
  | stated (reason : String)
  deriving DecidableEq, Repr

/-- A refused argument. -/
inductive ValidationError where
  | invalidKind (kind : EntityKind)
  | unknownOrigin (id : EntityId)
  | unknownDomain (id : EntityId)
  | monitorAlreadyRunning (domainNumber : UInt32) (id : EntityId)
  | rejectedNotification (rejection : Rejection)
  | invalidConfig (fault : ConfigFault)
  deriving DecidableEq, Repr

/-- A wait or a queue that did not come through. -/
inductive ExecutionError where
  | timeout (milliseconds : UInt64)
  | cancelled
  | queueFull (queue : String) (capacity : UInt64)
  | disconnected (queue : String)
  deriving DecidableEq, Repr

/-- A missed lookup or a refused change of the graph. -/
inductive StorageError where
  | entityNotFound (id : EntityId)
  | idSpaceExhausted
  | inconsistent (cause : Inconsistency)
  | backend (reason : String)
  deriving DecidableEq, Repr

/-- Any failure of the library. -/
inductive GraphError where
  | validation (error : ValidationError)
  | execution (error : ExecutionError)
  | storage (error : StorageError)
  | internal (reason : String)
  deriving DecidableEq, Repr

def Inconsistency.message : Inconsistency → String
  | uncreatable kind => s!"cannot create an entity of kind '{kind.name}'"
  | unrelated a b => s!"no relation between {a.name} and {b.name}"
  | secondParent rule child existing refused =>
    s!"{rule.child.name} {child.display} already belongs to {rule.parent.name} {existing.display}, refusing {refused.display}"
  | immutable rule =>
    s!"{rule.kind.title} edges between {rule.parent.name} and {rule.child.name} are immutable"
  | notADomain id kind => s!"entity {id.display} is a {kind.name}, not a domain"
  | monitorDriven domain => s!"domain {domain.display} is not driven by discovery"
  | stated reason => reason

def Rejection.message : Rejection → String
  | blankName kind => s!"{kind.name} name must not be empty"
  | blankLocator kind guid => s!"{kind.name} {guid.display} announces an empty locator"
  | foreignParticipant guid => s!"participant {guid.display} already belongs to another domain"
  | movedParticipant guid host user process =>
    s!"participant {guid.display} cannot move to {host}/{user}/{process}"
  | guidTaken guid found announced =>
    s!"guid {guid.display} already names a {found.name}, not a {announced.name}"
  | movedEndpoint kind guid participant =>
    s!"{kind.name} {guid.display} cannot move to participant {participant.display}"
  | reboundEndpoint kind guid topic => s!"{kind.name} {guid.display} cannot move to topic '{topic}'"
  | neverDiscovered kind name => s!"{kind.name} '{name}' was never discovered"
  | stated reason => reason

def ConfigFault.message : ConfigFault → String
  | noCapacity => "discovery_queue_capacity must be at least 1"
  | blankWorkerName => "worker_thread_name must not be empty"
  | malformed => "malformed document"
  | stated reason => reason

def ValidationError.message : ValidationError → String
  | invalidKind kind => s!"Entity kind '{kind.name}' cannot be queried"
  | unknownOrigin id => s!"Origin entity {id.display} does not exist"
  | unknownDomain id => s!"Entity {id.display} is not a monitored domain"
  | monitorAlreadyRunning domainNumber id =>
    s!"A monitor for domain {domainNumber.toNat} is already running as entity {id.display}"
  | rejectedNotification rejection => s!"Notification rejected: {rejection.message}"
  | invalidConfig fault => s!"Invalid configuration: {fault.message}"

def ExecutionError.message : ExecutionError → String
  | timeout milliseconds => s!"Operation timed out after {milliseconds.toNat}ms"
  | cancelled => "Wait cancelled"
  | queueFull queue capacity => s!"Queue '{queue}' is full (capacity {capacity.toNat})"
  | disconnected queue => s!"Queue '{queue}' is disconnected"

def StorageError.message : StorageError → String
  | entityNotFound id => s!"Entity not found: {id.display}"
  | idSpaceExhausted => "Entity id space exhausted"
  | inconsistent cause => s!"Inconsistent graph mutation: {cause.message}"
  | backend reason => s!"Storage backend error: {reason}"

/-- Everything but a missed lookup is beyond recovery. -/
def StorageError.isFatal : StorageError → Bool
  | entityNotFound _ => false
  | _ => true

/-- The complaint about a lock whose holder gave up midway. -/
def poisonedLock (lock : String) : String := s!"poisoned lock: {lock}"

namespace GraphError

def message : GraphError → String
  | validation error => s!"Validation error: {error.message}"
  | execution error => s!"Execution error: {error.message}"
  | storage error => s!"Storage error: {error.message}"
  | internal reason => s!"Internal error: {reason}"

/-- The caller passed a bad argument. -/
def isBadParameter : GraphError → Bool
  | validation _ => true
  | _ => false

/-- A direct lookup missed. -/
def isNotFound : GraphError → Bool
  | storage (.entityNotFound _) => true
  | _ => false

/-- Nothing the caller does can help. -/
def isFatal : GraphError → Bool
  | storage error => error.isFatal
  | internal _ => true
  | _ => false

/-- The same call may succeed later. -/
def isRetryable : GraphError → Bool
  | execution (.timeout _) | execution (.queueFull ..) => true
  | _ => false

end GraphError
end DiscoveryGraph
