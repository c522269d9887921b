import DiscoveryGraph.Proofs.Discovery.Demand
import DiscoveryGraph.Proofs.Monitor.Request

/-! How many identifiers requests take. A start takes one, a notification at most one for each entity
that it names, and a stop and a clearing take none. So the identifiers last for all requests that do
not name more entities together than there are identifiers left. -/
namespace DiscoveryGraph
namespace Service
open DiscoveryGraph.Graph Update
variable {service : Service} {request : Request}

/-- The most identifiers that a request takes. -/
def Request.demand : Request → Nat
  | start .. => 1
  | apply n => n.entity.demand
  | stop _ | clear _ => 0

/-- The most identifiers that some requests take together. -/
def Request.demands : List Request → Nat
  | [] => 0
  | request :: requests => request.demand + demands requests

theorem Request.within_act : Within request.demand service.graph (request.act service).graph := by
  cases request with
  | start number listener =>
    rw [act, Call.after, start_eq]
    cases expectFree service.graph number service.monitors.toList with
    | error e => exact .refl
    | ok free =>
      dsimp only
      cases run : Graph.create .domain (toString number.toNat) (.domain number) service.graph with
      | error e g => exact create_allots.of_error run
      | ok id g => exact create_allots.of_ok run
  | apply n =>
    rw [act, Call.after, apply_eq]
    cases run : Graph.ingest n service.graph with
    | error e g => exact ingest_allots.of_error run
    | ok changes g =>
      dsimp only
      cases service.counter.poisoned <;> exact ingest_allots.of_ok run
  | stop d =>
    rw [act, Call.after, stop_eq]
    cases service.monitors[d]? with
    | none => exact .refl
    | some monitor =>
      dsimp only
      cases run : Graph.apply (.domainStopped d) service.graph with
      | error e g => exact apply_allots.of_error run
      | ok changes g =>
        dsimp only
        cases service.counter.poisoned <;> exact apply_allots.of_ok run
  | clear d =>
    rw [act, Call.after, clear_eq]
    cases service.monitors[d]? with
    | none => exact .refl
    | some monitor =>
      dsimp only
      cases run : Graph.clearDomain d service.graph with
      | error e g => exact clearDomain_allots.of_error run
      | ok removed g =>
        dsimp only
        cases service.counter.poisoned <;> exact clearDomain_allots.of_ok run

/-- Identifiers only run out where the last one has been handed out. -/
theorem next?_of_exhausts (sound : service.Sound) (out : request.exhausts service = true) :
    (request.act service).graph.lastId.next? = none := by
  cases request with
  | start | stop | clear => cases out
  | apply n =>
    rw [Request.exhausts, apply_eq] at out
    rw [Request.act, Call.after, apply_eq]
    have ends := ingest_ends (n := n) sound.regular.wellFormed
    cases run : Graph.ingest n service.graph with
    | error e g =>
      obtain ⟨refusal, -⟩ | ⟨-, cause, rfl, ranOut⟩ := ends.of_error run
      · obtain ⟨cause, rfl, -⟩ := refusal
        rw [run] at out
        cases out
      · exact ranOut.2.1
    | ok changes g =>
      rw [run, sound.unlocked] at out
      cases out

/-- The identifiers last for requests that take fewer of them than there are left. -/
theorem lasts_of_demand (sound : service.Sound) {requests : List Request}
    (room : service.graph.lastId.value.toNat + Request.demands requests + 1 <
      EntityId.invalid.value.toNat) : service.lasts requests := by
  induction requests generalizing service with
  | nil => rfl
  | cons request requests ih =>
    rw [Request.demands] at room
    have near : Within request.demand service.graph (request.act service).graph := request.within_act
    unfold Within at near
    have left : (request.act service).graph.lastId.next? ≠ none := by
      rw [Ne, EntityId.next?_eq_none_iff]
      omega
    have here : request.exhausts service = false :=
      Bool.eq_false_iff.mpr fun out => left (next?_of_exhausts sound out)
    have rest : (request.act service).lasts requests := ih ((steps_act sound).sound sound) (by omega)
    rw [lasts, here, rest]
    rfl

end Service
end DiscoveryGraph
