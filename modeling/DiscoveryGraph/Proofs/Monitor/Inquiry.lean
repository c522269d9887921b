import DiscoveryGraph.Monitor.Inspection
import DiscoveryGraph.Proofs.Monitor.Request
import DiscoveryGraph.Proofs.Query.Trail

/-! Inquiries. A service reads off its graph what a query finds there. The graphs of services are built
by operations, and in a graph that was built everything that a query finds can be read, so an inquiry is
refused as a query is, or answered. -/
namespace DiscoveryGraph

/-- Entities that are there are read as they are stored, in the order of their identifiers. -/
theorem Graph.lookupAll_eq_ok {g : Graph} {ids : IdSet} (wf : g.WellFormed)
    (known : ∀ x ∈ ids, ∃ k, g.kind? x = some k) :
    ∃ entities, g.lookupAll ids = .ok entities ∧ entities.map (·.id) = ids.toList ∧
      ∀ entity ∈ entities, g.entity? entity.id = some entity := by
  have each : ∀ xs : List EntityId, (∀ x ∈ xs, ∃ k, g.kind? x = some k) →
      ∃ entities, xs.mapM g.lookup = .ok entities ∧ entities.map (·.id) = xs ∧
        ∀ entity ∈ entities, g.entity? entity.id = some entity := by
    intro xs known
    induction xs with
    | nil => exact ⟨[], rfl, rfl, by simp⟩
    | cons x xs ih =>
      obtain ⟨k, here⟩ := known x (by simp)
      obtain ⟨entity, there, -⟩ := kind?_eq_some.mp here
      obtain ⟨entities, read, rfl, stored⟩ := ih fun y mem => known y (by simp [mem])
      obtain rfl := wf.keyed there
      refine ⟨entity :: entities, ?_, rfl, ?_⟩
      · rw [List.mapM_cons, lookup_eq_ok.mpr there, read]
        rfl
      · simpa using ⟨there, stored⟩
  exact each ids.toList fun x mem => known x (Std.ExtTreeSet.mem_toList.mp mem)

namespace Service
open DiscoveryGraph.Graph
variable {service : Service} {request : Request}

/-- How a service answers for the entities of a kind that are related to an origin. -/
structure Inquires (service : Service) : Prop where
  found : ∀ o k found, service.graph.related k o = .ok found → ∃ entities,
    service.entities k o = .ok entities ∧ entities.map (·.id) = found.toList ∧
      ∀ entity ∈ entities, service.graph.entity? entity.id = some entity
  refused : ∀ o k e, service.graph.related k o = .error e → service.entities k o = .error (.validation e)
  /-- The store never fails. -/
  sound : ∀ o k e, service.entities k o ≠ .error (.storage e)

/-- A start creates a domain, if the number is free. -/
theorem graph_start {number : UInt32} {listener : Option Nat} :
    (Request.act service (.start number listener)).graph = service.graph ∨
      (Request.act service (.start number listener)).graph =
        (Graph.create .domain (toString number.toNat) (.domain number)).after service.graph := by
  rw [Request.act, Call.after, start_eq]
  cases expectFree service.graph number service.monitors.toList with
  | error e => exact .inl rfl
  | ok free =>
    rw [Update.after]
    cases Graph.create .domain (toString number.toNat) (.domain number) service.graph <;> exact .inr rfl

/-- The graph after a notification is the graph that ingesting it leaves. -/
theorem graph_apply {n : Notification} :
    (Request.act service (.apply n)).graph = (Graph.ingest n).after service.graph := by
  rw [Request.act, Call.after, apply_eq, Update.after]
  cases Graph.ingest n service.graph with
  | error e g => rfl
  | ok changes g => cases service.counter.poisoned <;> rfl

/-- A stop stops the domain, if it is monitored. -/
theorem graph_stop {d : EntityId} : (Request.act service (.stop d)).graph =
    if d ∈ service.monitors then (Graph.apply (.domainStopped d)).after service.graph else service.graph := by
  rw [Request.act, Call.after, stop_eq]
  cases found : service.monitors[d]? with
  | none => rw [if_neg (by simp [Std.ExtTreeMap.mem_iff_isSome_getElem?, found])]
  | some monitor =>
    rw [if_pos (by simp [Std.ExtTreeMap.mem_iff_isSome_getElem?, found]), Update.after]
    dsimp only
    cases Graph.apply (.domainStopped d) service.graph with
    | error e g => rfl
    | ok changes g => cases service.counter.poisoned <;> rfl

/-- A clearing clears the domain, if it is monitored. -/
theorem graph_clear {d : EntityId} : (Request.act service (.clear d)).graph =
    if d ∈ service.monitors then (Graph.clearDomain d).after service.graph else service.graph := by
  rw [Request.act, Call.after, clear_eq]
  cases found : service.monitors[d]? with
  | none => rw [if_neg (by simp [Std.ExtTreeMap.mem_iff_isSome_getElem?, found])]
  | some monitor =>
    rw [if_pos (by simp [Std.ExtTreeMap.mem_iff_isSome_getElem?, found]), Update.after]
    dsimp only
    cases Graph.clearDomain d service.graph with
    | error e g => rfl
    | ok removed g => cases service.counter.poisoned <;> rfl

/-- A request changes the graph by one operation at most. -/
theorem graph_act : (request.act service).graph = service.graph ∨
    ∃ operation : Operation, (request.act service).graph = operation.act service.graph := by
  cases request with
  | start => exact graph_start.imp (fun same => same) fun created => ⟨.create .., created⟩
  | apply n => exact .inr ⟨.ingest n, graph_apply⟩
  | stop d =>
    rw [graph_stop]
    split
    · exact .inr ⟨.apply (.domainStopped d), rfl⟩
    · exact .inl rfl
  | clear d =>
    rw [graph_clear]
    split
    · exact .inr ⟨.clearDomain d, rfl⟩
    · exact .inl rfl

/-- Services have graphs that operations built. -/
theorem Reachable.built (reachable : service.Reachable) : service.graph.Built := by
  induction reachable with
  | new new => exact eq_of_new new ▸ .empty
  | @step service request _ ih =>
    obtain same | ⟨operation, done⟩ := @graph_act service request
    · rwa [same]
    · rw [done]
      exact .step operation ih

theorem inquires_of_wellFormed (wf : service.graph.WellFormed) : service.Inquires := by
  have found : ∀ o k found, service.graph.related k o = .ok found → ∃ entities,
      service.entities k o = .ok entities ∧ entities.map (·.id) = found.toList ∧
        ∀ entity ∈ entities, service.graph.entity? entity.id = some entity := by
    intro o k found answer
    obtain ⟨entities, read, listed, stored⟩ :=
      lookupAll_eq_ok wf fun x mem => ⟨k, kind?_of_mem_related wf answer mem⟩
    have looks : service.entities k o = (service.graph.lookupAll found).mapError .storage := by
      rw [Service.entities, answer]
      rfl
    refine ⟨entities, ?_, listed, stored⟩
    rw [looks, read]
    rfl
  have refused : ∀ o k e, service.graph.related k o = .error e →
      service.entities k o = .error (.validation e) := by
    intro o k e fails
    rw [Service.entities, fails]
    rfl
  refine ⟨found, refused, fun o k e => ?_⟩
  cases answer : service.graph.related k o with
  | ok ids =>
    obtain ⟨entities, read, -⟩ := found o k ids answer
    simp [read]
  | error cause => simp [refused o k cause answer]

/-- In every graph that was built, a query finds exactly the ends of the trails along its route, all of the
kind that was asked for, and the filters split them by their flags. A service with this graph hands them
out, and never fails on its store. -/
theorem queries_exact {g : Graph} (built : g.Built) :
    g.Answering ∧ ∀ service : Service, service.graph = g → service.Inquires := by
  refine ⟨built.wellFormed.answering, fun service same => ?_⟩
  subst same
  exact inquires_of_wellFormed built.wellFormed

/-- Two readers of one process, in two domains, the first of which was stopped. The host finds the locators
of both, the first two among them as inactive ones, and the service hands all of them out. -/
theorem queries_exact_stopped :
    let endpoint (byte : UInt8) (locators : List String) : Announcement :=
      .reader ⟨⟨.replicate 16 byte⟩, "reader",
        ⟨⟨.replicate 16 (byte + 1)⟩, "node", "host", "user", "process", none⟩, ⟨"topic", "type"⟩, locators⟩
    let service : Service := run { config := {} } [.start 0 none,
      .apply ⟨⟨1⟩, .discovered, endpoint 1 ["udp:1", "udp:2"]⟩, .start 1 none,
      .apply ⟨⟨10⟩, .discovered, endpoint 3 ["udp:3"]⟩, .stop ⟨1⟩]
    service.graph.Built ∧ service.graph.Answering ∧ service.Inquires ∧
      (service.entities .locator ⟨2⟩).toOption.map (·.map (·.id)) = some [⟨8⟩, ⟨9⟩, ⟨14⟩] ∧
      (service.ids .inactive .locator ⟨2⟩).toOption.map (·.toList) = some [⟨8⟩, ⟨9⟩] := by
  intro endpoint service
  have reachable : service.Reachable := (Reachable.new new_default).run
  have found : (service.entities .locator ⟨2⟩).toOption.map (·.map (·.id)) = some [⟨8⟩, ⟨9⟩, ⟨14⟩] := by
    decide +kernel
  have inactive : (service.ids .inactive .locator ⟨2⟩).toOption.map (·.toList) = some [⟨8⟩, ⟨9⟩] := by
    decide +kernel
  clear_value service
  obtain ⟨answering, inquires⟩ := queries_exact reachable.built
  exact ⟨reachable.built, answering, inquires service rfl, found, inactive⟩

end Service
end DiscoveryGraph
