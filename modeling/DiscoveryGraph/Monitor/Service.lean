import DiscoveryGraph.Discovery.Ingest
import DiscoveryGraph.Lifecycle.Clear
import DiscoveryGraph.Monitor.Config
import DiscoveryGraph.Monitor.Counter
import DiscoveryGraph.Monitor.Event
import DiscoveryGraph.Monitor.Queue

/-! The monitoring service: monitors are started per domain number, each with a domain entity
that notifications address. What a call changes in the graph is counted along with it and
delivered later, and a call that fails keeps what it has done by then. -/
namespace DiscoveryGraph

/-- A started monitor. -/
structure Monitor where
  domainNumber : UInt32
  listener : Option Nat
  deriving DecidableEq, Repr

/-- An event that a listener received. -/
structure Delivery where
  listener : Nat
  event : Event
  deriving DecidableEq, Repr

/-- The service at one moment. `delivered` is everything listeners ever received, in order;
`answered` counts the barriers that the worker came to, and `issued` those handed out.
`rejected` grows by one for a message that was served, so it cannot reach `2 ^ 64`, where the
word that holds it would wrap, before as many messages have gone through the queue. -/
structure Service where
  config : Config
  graph : Graph := ∅
  counter : Counter := {}
  monitors : Std.ExtTreeMap EntityId Monitor := ∅
  queue : Queue := ⟨config.queueCapacity, []⟩
  rejected : Nat := 0
  delivered : List Delivery := []
  issued : Nat := 0
  answered : Nat := 0

/-- A call on the service, which can fail and keeps its changes either way. -/
abbrev Call (α : Type) := EStateM GraphError Service α

namespace Service

/-- A service with a valid configuration. -/
def new (config : Config) : Except ValidationError Service :=
  config.validate.map fun _ => { config }

/-- Changes the graph. -/
def onGraph {α : Type} (update : Update GraphError α) : Call α := fun service =>
  match update service.graph with
  | .ok a graph => .ok a { service with graph }
  | .error e graph => .error e { service with graph }

/-- Reads from the service. -/
def read {α : Type} (f : Service → Except GraphError α) : Call α := fun service =>
  match f service with
  | .ok a => .ok a service
  | .error e => .error e service

/-- Adds what a run of changes amounts to to the count, and returns its events. -/
def count (domain : EntityId) (changes : List StateChange) : Call (List Event) := do
  let events := Event.ofChanges domain changes
  let counter ← read (·.counter.add (Event.total events))
  modify fun service => { service with counter }
  return events

/-- Hands events to a listener, one by one. A listener is no more than the log of what it was
told: listeners that call back into the service, block or give up midway are left out. -/
def deliver (listener : Option Nat) (events : List Event) : Call Unit :=
  match listener with
  | none => pure ()
  | some listener =>
    modify fun service =>
      { service with delivered := service.delivered ++ events.map (⟨listener, ·⟩) }

def listenerOf (service : Service) (domain : EntityId) : Option Nat :=
  service.monitors[domain]? >>= (·.listener)

/-- The monitor of a started domain. -/
def monitor (service : Service) (domain : EntityId) : Except GraphError Monitor :=
  match service.monitors[domain]? with
  | some monitor => .ok monitor
  | none => .error (.validation (.unknownDomain domain))

/-- Refuses a number whose monitor, one of the given, is running. -/
def expectFree (graph : Graph) (number : UInt32) : List (EntityId × Monitor) → Except GraphError Unit
  | [] => .ok ()
  | (id, monitor) :: monitors =>
    if monitor.domainNumber = number then
      match graph.isActive id with
      | .error e => .error (.storage e)
      | .ok true => .error (.validation (.monitorAlreadyRunning number id))
      | .ok false => expectFree graph number monitors
    else expectFree graph number monitors

/-! ### What calls do to the graph

Each of these runs under the write guard of the graph, which covers the count. Whatever else a
call does, it does before it takes the guard or after it has given it back. -/

/-- Creates the domain entity of a new monitor. -/
def enter (number : UInt32) : Call EntityId := do
  read fun service => expectFree service.graph number service.monitors.toList
  onGraph (Graph.create .domain (toString number.toNat) (.domain number))

/-- Lets a domain and everything it owns become inactive. -/
def halt (domain : EntityId) : Call (List Event) := do
  let changes ← onGraph (Graph.apply (.domainStopped domain))
  count domain changes

/-- Removes a domain and everything it owns. What was still active when it was removed leaves
the count. -/
def wipe (domain : EntityId) : Call (List Event) := do
  let removed ← onGraph (Graph.clearDomain domain)
  let changes := (removed.filter (·.active)).map fun entity => ⟨entity.id, entity.kind, false⟩
  count domain changes

/-- Records what a notification announces. -/
def record (notification : Notification) : Call (List Event) := do
  let changes ← onGraph (Graph.ingest notification)
  count notification.domain changes

/-! ### Calls -/

/-- Starts monitoring a domain number and returns its new domain entity. A stopped monitor of
the same number is no obstacle. -/
def start (number : UInt32) (listener : Option Nat) : Call EntityId := do
  let id ← enter number
  modify fun service =>
    { service with monitors := service.monitors.insert id ⟨number, listener⟩ }
  return id

/-- Stops a monitor. -/
def stop (domain : EntityId) : Call Unit := do
  let monitor ← read (·.monitor domain)
  let events ← halt domain
  deliver monitor.listener events

/-- Clears a monitored domain and forgets the monitor. -/
def clear (domain : EntityId) : Call Unit := do
  let monitor ← read (·.monitor domain)
  let events ← wipe domain
  modify fun service => { service with monitors := service.monitors.erase domain }
  deliver monitor.listener events

/-- Applies a notification and returns the events it caused. -/
def apply (notification : Notification) : Call (List Event) := do
  let events ← record notification
  let listener := (← get).listenerOf notification.domain
  deliver listener events
  return events

/-! ### The queue and its worker -/

/-- Takes down that a notification failed. -/
def reject (service : Service) : Service := { service with rejected := service.rejected + 1 }

/-- Takes down that a barrier was answered. -/
def answer (service : Service) : Service := { service with answered := service.answered + 1 }

/-- Serves a message: a notification that fails is counted as rejected. -/
def serve (service : Service) : Message → Service
  | .barrier _ => service.answer
  | .notify notification =>
    match apply notification service with
    | .ok _ service => service
    | .error _ service => service.reject

/-- One turn of the worker. -/
def work (service : Service) : Service :=
  match service.queue.pop? with
  | none => service
  | some (message, queue) => { service with queue }.serve message

/-- Lets the worker take `n` turns. -/
def worked : Nat → Service → Service
  | 0, service => service
  | n + 1, service => worked n service.work

/-- Hands a message to the worker, which makes room first if there is none. -/
def hand (service : Service) (message : Message) : Service :=
  let service := if service.queue.isFull then service.work else service
  { service with queue := service.queue.push message }

/-- Hands a notification to the worker, waiting for room. -/
def submit (service : Service) (notification : Notification) : Service :=
  service.hand (.notify notification)

/-- Hands a notification to the worker if there is room. -/
def trySubmit (service : Service) (notification : Notification) :
    Except ExecutionError Service :=
  (service.queue.tryPush (.notify notification)).map fun queue => { service with queue }

/-- Offers notifications in turn and tells of each whether there was room for it. -/
def offer (service : Service) : List Notification → List (Except ExecutionError Unit) × Service
  | [] => ([], service)
  | notification :: notifications =>
    match service.trySubmit notification with
    | .ok service =>
      let (outcomes, service) := service.offer notifications
      (.ok () :: outcomes, service)
    | .error e =>
      let (outcomes, service) := service.offer notifications
      (.error e :: outcomes, service)

/-- Waits until everything handed over so far has been served. -/
def flush (service : Service) : Service :=
  let service := service.hand (.barrier service.issued)
  let service := { service with issued := service.issued + 1 }
  worked service.queue.pending.length service

/-- Hands notifications over in turn and waits until they have been served. -/
def submitAll (service : Service) (notifications : List Notification) : Service :=
  (notifications.foldl submit service).flush

end Service
end DiscoveryGraph
