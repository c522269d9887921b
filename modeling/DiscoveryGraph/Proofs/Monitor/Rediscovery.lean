import DiscoveryGraph.Proofs.Discovery.Rediscovery
import DiscoveryGraph.Proofs.Monitor.Accounting
import DiscoveryGraph.Proofs.Monitor.Repetition

/-! An endpoint that is discovered, removed and discovered again. The service is then as it was after the first
discovery, but for what listeners have received in between. -/
namespace DiscoveryGraph

/-- A notification that is carried out reports what it adds to the count. -/
theorem Graph.liveCount_of_ingest {g h : Graph} {n : Notification} {changes : List StateChange} (wf : g.WellFormed)
    (done : Graph.ingest n g = .ok changes h) : (h.liveCount : Int) = g.liveCount + StateChange.tally changes := by
  obtain ⟨-, ingests⟩ := (Graph.ingest_ends wf).of_ok done
  exact ingests.run.liveCount_eq wf

namespace Service
open DiscoveryGraph.Graph
variable {service after : Service} {n : Notification} {d : EntityId} {entity : Announcement} {events : List Event}
    {changes : List StateChange} {g : Graph}

/-- A service that can count carries out what its graph does. -/
theorem apply_of_ingest (service : Service) (unlocked : service.counter.poisoned = false)
    (done : Graph.ingest n service.graph = .ok changes g) :
    Service.apply n service = .ok (Event.ofChanges n.domain changes)
      ({ service with graph := g }.settled n.domain (service.listenerOf n.domain) changes) := by
  rw [apply_eq, done]
  simp only [unlocked, Bool.false_eq_true, if_false]

/-- In every state that requests lead to, an endpoint that was just discovered may be removed and discovered
again: both notifications are accepted, the endpoint goes and comes back, and the service is as it was, its graph
and its discovery count included, but for the deliveries to listeners. -/
theorem endpoint_returns (reachable : service.Reachable) (isEndpoint : entity.kind.isEndpoint)
    (accepted : Service.apply ⟨d, .discovered, entity⟩ service = .ok events after) :
    ∃ lost between back again, Service.apply ⟨d, .removed, entity⟩ after = .ok lost between ∧
      Service.apply ⟨d, .discovered, entity⟩ between = .ok back again ∧
      again.graph = after.graph ∧ again.discoveryCount = after.discoveryCount ∧
      again = { after with delivered := again.delivered } ∧
      ∃ e, after.graph.validate d entity = .ok (some e) ∧
        after.graph.alive e = true ∧ between.graph.alive e = false := by
  have wf := reachable.sound.regular.wellFormed
  obtain ⟨changes, done, unlocked⟩ := ingest_of_apply_eq_ok accepted
  obtain ⟨domain, ingests⟩ := (ingest_ends wf).of_ok done
  have wf₁ := ingests.run.wellFormed wf
  cases ingests with
  | removal _ removed => cases removed
  | present valid present presents run =>
    obtain ⟨e, reflects⟩ := presents.reflects wf domain run valid
    obtain ⟨lost, h, back, goes, gone, returns⟩ := reflects.returns wf₁ isEndpoint rfl
    have goes' := apply_of_ingest after unlocked goes
    have returns' := apply_of_ingest ({ after with graph := h }.settled d (after.listenerOf d) lost) unlocked returns
    have wf₂ := ((ingest_ends wf₁).of_ok goes).2.run.wellFormed wf₁
    -- What goes and what comes back add up to nothing, since the graph is the same again.
    have value : after.counter.value + StateChange.tally lost + StateChange.tally back = after.counter.value := by
      have down := liveCount_of_ingest wf₁ goes
      have up := liveCount_of_ingest wf₂ returns
      omega
    refine ⟨_, _, _, _, goes', returns', rfl, ?_, ?_, e, reflects.valid, (reflects.alive rfl).1, gone⟩
    · simp only [discoveryCount, settled, Event.total_ofChanges, value]
    · simp only [settled, Event.total_ofChanges, value]

/-- Reader 9 shares its topic and one of its locators with reader 7. Its removal takes down the locator that is
its own, and its return raises it. -/
theorem endpoint_returns_shared :
    let reader (byte : UInt8) (locators : List String) : Announcement := .reader ⟨⟨.replicate 16 byte⟩, "reader",
      ⟨⟨.replicate 16 1⟩, "node", "host", "user", "process", none⟩, ⟨"square", "ShapeType"⟩, locators⟩
    let service : Service := run { config := {} } [.start 0 none, .apply ⟨⟨1⟩, .discovered, reader 2 ["udp:1"]⟩]
    let two := reader 3 ["udp:1", "udp:2"]
    service.Reachable ∧ ∃ events after lost between back again,
      Service.apply ⟨⟨1⟩, .discovered, two⟩ service = .ok events after ∧
      Service.apply ⟨⟨1⟩, .removed, two⟩ after = .ok lost between ∧
      (between.graph.alive ⟨6⟩ = true ∧ between.graph.alive ⟨8⟩ = true ∧ between.graph.alive ⟨10⟩ = false) ∧
      Service.apply ⟨⟨1⟩, .discovered, two⟩ between = .ok back again ∧
      again.graph = after.graph ∧ again.discoveryCount = after.discoveryCount := by
  intro reader service two
  have reachable : service.Reachable := (Reachable.new new_default).run
  have answers : (Update.answer? (Graph.ingest ⟨⟨1⟩, .discovered, two⟩) service.graph).isSome = true := by
    decide +kernel
  have unlocked : service.counter.poisoned = false := rfl
  have leaves :
      let between := (Service.apply ⟨⟨1⟩, .removed, two⟩).after ((Service.apply ⟨⟨1⟩, .discovered, two⟩).after service)
      between.graph.alive ⟨6⟩ = true ∧ between.graph.alive ⟨8⟩ = true ∧ between.graph.alive ⟨10⟩ = false := by
    decide +kernel
  have isEndpoint : two.kind.isEndpoint := rfl
  clear_value service two
  cases ingests : Graph.ingest ⟨⟨1⟩, .discovered, two⟩ service.graph with
  | error => simp [Update.answer?, ingests] at answers
  | ok changes g =>
    have run := apply_of_ingest service unlocked ingests
    obtain ⟨lost, between, back, again, goes, returns, graph, count, -⟩ := endpoint_returns reachable isEndpoint run
    simp only [Call.after, run, goes] at leaves
    exact ⟨reachable, _, _, lost, between, back, again, run, goes, leaves, returns, graph, count⟩

end Service
end DiscoveryGraph
