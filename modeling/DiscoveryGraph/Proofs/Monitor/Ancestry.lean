import DiscoveryGraph.Proofs.Monitor.Support

/-! Ancestry along a run of requests. Every entity has each of its parents once, the two ways from an
endpoint to a domain end at the same one, and no host, user or process is there without a child. -/
namespace DiscoveryGraph
namespace Graph
variable {g : Graph} {d e x p t : EntityId} {k : EntityKind} {rule : EdgeRule}

/-- Where an entity has one parent of a kind at most, it has exactly one. -/
theorem Regular.exists_parent (regular : g.Regular) (legal : rule ∈ edgeRules)
    (single : rule.kind ≠ .locatorBinding) (known : g.kind? x = some rule.child) :
    ∃ y, ∀ z, z ∈ g.neighbors x rule.parent ↔ z = y := by
  have parent : rule.parent ∈ rule.child.parents := by
    rw [EntityKind.mem_parents_of_mem_edgeRules rule legal, EdgeKind.isSingleParent, bne_iff_ne]
    exact single
  obtain ⟨y, near⟩ := regular.rooted x rule.child known rule.parent parent
  refine ⟨y, fun z => ⟨fun mem => regular.wellFormed.single known parent mem near, fun same => ?_⟩⟩
  rwa [same]

/-- The participant and the topic of an endpoint have the same domain. -/
theorem Regular.domain_eq (regular : g.Regular) (known : g.kind? x = some k) (isEndpoint : k.isEndpoint)
    (nearp : p ∈ g.neighbors x .participant) (neart : t ∈ g.neighbors x .topic) :
    g.neighbors p .domain = g.neighbors t .domain := by
  have wf := regular.wellFormed
  obtain ⟨d, member⟩ := regular.rooted p .participant (wf.kind?_of_mem nearp) .domain (by decide)
  have member' := regular.square x k p t d known isEndpoint nearp neart member
  apply Std.ExtTreeSet.ext_mem
  intro e
  constructor
  · exact regular.square x k p t e known isEndpoint nearp neart
  · intro mem
    rwa [wf.single (wf.kind?_of_mem neart) (by decide) mem member']

theorem Populated.exists_child (populated : g.Populated) (legal : rule ∈ edgeRules)
    (contains : rule.kind = .containment) (known : g.kind? x = some rule.parent) :
    ∃ y, y ∈ g.neighbors x rule.child := by
  obtain ⟨physical, only, -⟩ := EntityKind.derivedFrom_of_containment rule legal contains
  obtain ⟨y, child⟩ := populated x rule.parent known physical
  exact ⟨y, by simpa [Graph.children, only] using child⟩

end Graph

namespace Service
open DiscoveryGraph.Graph
variable {service : Service}

/-- Every endpoint has exactly one participant and one topic, every participant one process and one
domain, every topic one domain, every process one user and every user one host; the participant and the
topic of an endpoint lie in one domain; and as long as the identifiers last, every process has a
participant, every user a process and every host a user. -/
theorem complete_ancestry {config : Config} (new : Service.new config = .ok service)
    (requests : List Request) :
    let g := (service.run requests).graph
    (∀ rule ∈ edgeRules, rule.kind ≠ .locatorBinding → ∀ x, g.kind? x = some rule.child →
        ∃ y, ∀ z, z ∈ g.neighbors x rule.parent ↔ z = y) ∧
      (∀ x k, g.kind? x = some k → k.isEndpoint →
        ∀ p ∈ g.neighbors x .participant, ∀ t ∈ g.neighbors x .topic,
          g.neighbors p .domain = g.neighbors t .domain) ∧
      (service.lasts requests → ∀ rule ∈ edgeRules, rule.kind = .containment →
        ∀ x, g.kind? x = some rule.parent → ∃ y, y ∈ g.neighbors x rule.child) := by
  intro g
  have reachable : (service.run requests).Reachable := (Reachable.new new).run
  have regular : g.Regular := reachable.sound.regular
  refine ⟨fun rule legal single x known => ?_, fun x k known isEndpoint p nearp t neart => ?_,
    fun lasting rule legal contains x known => ?_⟩
  · exact regular.exists_parent legal single known
  · exact regular.domain_eq known isEndpoint nearp neart
  · exact (populated_run new lasting).exists_child legal contains known

/-- A writer shares its process with a participant of another domain. When its own domain is cleared, the
user of this process still has one. -/
theorem complete_ancestry_clear :
    let participant (byte : UInt8) : ParticipantInfo :=
      ⟨⟨.replicate 16 byte⟩, "node", "host", "user", "process", none⟩
    let writer : EndpointInfo :=
      ⟨⟨.replicate 16 3⟩, "writer", participant 1, ⟨"square", "ShapeType"⟩, ["udp"]⟩
    let service : Service := run { config := {} } [.start 0 none, .start 1 none,
      .apply ⟨⟨1⟩, .discovered, .writer writer⟩,
      .apply ⟨⟨2⟩, .discovered, .participant (participant 2)⟩]
    service.graph.kind? ⟨8⟩ = some .dataWriter ∧
      let g := (service.run [.clear ⟨1⟩]).graph
      g.kind? ⟨8⟩ = none ∧ ∃ y, y ∈ g.neighbors ⟨4⟩ .process := by
  intro participant writer service
  have ancestry := complete_ancestry new_default [.start 0 none, .start 1 none,
    .apply ⟨⟨1⟩, .discovered, .writer writer⟩,
    .apply ⟨⟨2⟩, .discovered, .participant (participant 2)⟩, .clear ⟨1⟩]
  have children := ancestry.2.2 (lasts_of_demand (sound_new new_default) (by decide))
  exact ⟨by decide +kernel, by decide +kernel,
    children ⟨.user, .process, .containment⟩ (by decide) rfl ⟨4⟩ (by decide +kernel)⟩

end Service
end DiscoveryGraph
