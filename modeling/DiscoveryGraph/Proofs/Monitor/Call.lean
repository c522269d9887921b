import DiscoveryGraph.Monitor.Service
import DiscoveryGraph.Proofs.Lifecycle.Clearing

/-! What a call comes to. It changes the graph first and counts and delivers what was changed there,
so its outcome is that of the change of the graph, unless the lock of the count is lost. -/
namespace DiscoveryGraph

/-- The service a call leaves behind, whichever way it ends. -/
def Call.after {α : Type} (call : Call α) (service : Service) : Service :=
  match call service with
  | .ok _ service | .error _ service => service

namespace Service
open DiscoveryGraph.Graph
variable {d : EntityId} {service : Service}

/-- What a listener receives of some events. -/
def received (listener : Option Nat) (events : List Event) : List Delivery :=
  match listener with
  | none => []
  | some listener => events.map (⟨listener, ·⟩)

/-- The service once changes have been counted and delivered. -/
def settled (service : Service) (domain : EntityId) (listener : Option Nat)
    (changes : List StateChange) : Service :=
  let events := Event.ofChanges domain changes
  { service with
    counter := { service.counter with value := service.counter.value + Event.total events }
    delivered := service.delivered ++ received listener events }

theorem deliver_eq {listener : Option Nat} {events : List Event} : deliver listener events service =
    .ok () { service with delivered := service.delivered ++ received listener events } := by
  cases listener with
  | none => simp [deliver, received, pure, EStateM.pure]
  | some listener => rfl

theorem count_eq {changes : List StateChange} : count d changes service =
    if service.counter.poisoned then .error (.internal (poisonedLock "counter.value")) service
    else .ok (Event.ofChanges d changes)
      { service with counter :=
          { service.counter with
            value := service.counter.value + Event.total (Event.ofChanges d changes) } } := by
  simp only [count, read, Counter.add, Counter.lock, Bind.bind, EStateM.bind, Except.bind]
  cases service.counter.poisoned <;> rfl

theorem start_eq {number : UInt32} {listener : Option Nat} : start number listener service =
    match expectFree service.graph number service.monitors.toList with
    | .error e => .error e service
    | .ok _ =>
      match Graph.create .domain (toString number.toNat) (.domain number) service.graph with
      | .error e graph => .error (.storage e) { service with graph }
      | .ok id graph =>
        .ok id { service with graph, monitors := service.monitors.insert id ⟨number, listener⟩ } := by
  simp only [start, enter, read, Bind.bind, EStateM.bind, onGraph]
  cases expectFree service.graph number service.monitors.toList with
  | error e => rfl
  | ok free =>
    dsimp only [liftM, monadLift, MonadLift.monadLift, EStateM.adaptExcept]
    cases Graph.create .domain (toString number.toNat) (.domain number) service.graph <;> rfl

theorem apply_eq {n : Notification} : apply n service =
    match Graph.ingest n service.graph with
    | .error e graph => .error e { service with graph }
    | .ok changes graph =>
      if service.counter.poisoned then .error (.internal (poisonedLock "counter.value")) { service with graph }
      else .ok (Event.ofChanges n.domain changes)
        ({ service with graph }.settled n.domain (service.listenerOf n.domain) changes) := by
  simp only [apply, record, Bind.bind, EStateM.bind, onGraph, count_eq, deliver_eq]
  cases Graph.ingest n service.graph with
  | error e graph => rfl
  | ok changes graph => obtain ⟨_, _, ⟨_, _ | _⟩, _⟩ := service <;> rfl

theorem stop_eq : stop d service =
    match service.monitors[d]? with
    | none => .error (.validation (.unknownDomain d)) service
    | some monitor =>
      match Graph.apply (.domainStopped d) service.graph with
      | .error e graph => .error e { service with graph }
      | .ok changes graph =>
        if service.counter.poisoned then .error (.internal (poisonedLock "counter.value")) { service with graph }
        else .ok () ({ service with graph }.settled d monitor.listener changes) := by
  simp only [stop, halt, read, monitor, Bind.bind, EStateM.bind, onGraph, count_eq, deliver_eq]
  cases service.monitors[d]? with
  | none => rfl
  | some monitor =>
    dsimp only
    cases Graph.apply (.domainStopped d) service.graph with
    | error e graph => rfl
    | ok changes graph => obtain ⟨_, _, ⟨_, _ | _⟩, _⟩ := service <;> rfl

theorem clear_eq : clear d service =
    match service.monitors[d]? with
    | none => .error (.validation (.unknownDomain d)) service
    | some monitor =>
      match Graph.clearDomain d service.graph with
      | .error e graph => .error e { service with graph }
      | .ok removed graph =>
        if service.counter.poisoned then .error (.internal (poisonedLock "counter.value")) { service with graph }
        else .ok () { ({ service with graph }.settled d monitor.listener (StateChange.lost removed)) with
          monitors := service.monitors.erase d } := by
  simp only [clear, wipe, read, monitor, Bind.bind, EStateM.bind, onGraph, count_eq, deliver_eq]
  cases service.monitors[d]? with
  | none => rfl
  | some monitor =>
    dsimp only
    cases Graph.clearDomain d service.graph with
    | error e graph => rfl
    | ok removed graph => obtain ⟨_, _, ⟨_, _ | _⟩, _⟩ := service <;> rfl

end Service
end DiscoveryGraph
