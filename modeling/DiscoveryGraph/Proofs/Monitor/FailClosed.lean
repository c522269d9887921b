import DiscoveryGraph.Proofs.Discovery.Operation
import DiscoveryGraph.Proofs.Monitor.Call

/-! Ingestion fails closed. Whatever public operations a graph was built by, and however they ended,
a notification is either carried out or refused without a trace, unless the identifiers run out. -/
namespace DiscoveryGraph

namespace Service
open DiscoveryGraph.Graph
variable {n : Notification} {service service' : Service} {e : GraphError}

/-- A call that is refused was refused by the graph, and nothing was counted or delivered. -/
theorem ingest_of_apply_eq_error (fails : Service.apply n service = .error e service')
    (refusal : Refusal n.domain e) :
    ∃ g, Graph.ingest n service.graph = .error e g ∧ service' = { service with graph := g } := by
  rw [apply_eq] at fails
  cases run : Graph.ingest n service.graph with
  | error e' g =>
    rw [run] at fails
    cases fails
    exact ⟨g, rfl, rfl⟩
  | ok changes g =>
    rw [run] at fails
    dsimp only at fails
    split at fails
    · cases fails
      obtain ⟨cause, other, -⟩ := refusal
      cases other
    · cases fails

end Service

namespace Graph
open Update

theorem ingest_eq_error {g g' : Graph} {n : Notification} {e : GraphError} (wf : g.WellFormed)
    (fails : ingest n g = .error e g') (room : e ≠ .storage .idSpaceExhausted) :
    Refusal n.domain e ∧ g' = g := by
  obtain ⟨refusal, same⟩ | ⟨-, cause, rfl, out⟩ := (ingest_ends wf).of_error fails
  · exact ⟨refusal, same⟩
  · rw [out.1] at room
    exact absurd rfl room

/-- A notification that is not carried out is refused for its domain or for what it says, and the
graph is as it was, unless the identifiers ran out. A service that applies it is as it was, too. -/
theorem ingest_fails_closed {g : Graph} (built : g.Built) (n : Notification) :
    (∀ e g', ingest n g = .error e g' → e ≠ .storage .idSpaceExhausted → Refusal n.domain e ∧ g' = g) ∧
      ∀ service e service', service.graph = g → Service.apply n service = .error e service' →
        Refusal n.domain e →
        service' = service := by
  have wf := built.wellFormed
  refine ⟨fun e g' => ingest_eq_error wf, ?_⟩
  rintro service e service' rfl fails refusal
  obtain ⟨g, run, rfl⟩ := Service.ingest_of_apply_eq_error fails refusal
  have room : e ≠ .storage .idSpaceExhausted := by
    intro same
    subst same
    obtain ⟨cause, other, -⟩ := refusal
    cases other
  rw [(ingest_eq_error wf run room).2]

/-- A domain that never had a topic refuses to let it go. -/
theorem ingest_fails_closed_removal :
    let g := (Operation.create .domain "0" (.domain 0)).act ∅
    ∃ e, ingest ⟨⟨1⟩, .removed, .topic ⟨"square", "ShapeType"⟩⟩ g = .error e g ∧ Refusal ⟨1⟩ e := by
  intro g
  have closed := (ingest_fails_closed (.step (.create .domain "0" (.domain 0)) .empty)
    ⟨⟨1⟩, .removed, .topic ⟨"square", "ShapeType"⟩⟩).1
  have outcome : (match ingest ⟨⟨1⟩, .removed, .topic ⟨"square", "ShapeType"⟩⟩ g with
      | .ok _ _ => false
      | .error e _ => decide (e ≠ .storage .idSpaceExhausted)) = true := by decide +kernel
  cases run : ingest ⟨⟨1⟩, .removed, .topic ⟨"square", "ShapeType"⟩⟩ g with
  | ok changes g' =>
    rw [run] at outcome
    cases outcome
  | error e g' =>
    rw [run] at outcome
    obtain ⟨refusal, rfl⟩ := closed e g' run (of_decide_eq_true outcome)
    exact ⟨e, rfl, refusal⟩

end Graph
end DiscoveryGraph
