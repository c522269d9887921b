import DiscoveryGraph.Proofs.Monitor.Request

/-! Identity. Whatever is requested, in whatever order, every entity but a domain has a key, and no
two entities share one: what is there is found by its key before a second entity with that key could
be created, and clearing removes nothing from above what it leaves. -/
namespace DiscoveryGraph
namespace Graph
variable {g h : Graph} {d x : EntityId} {key : Key}

theorem Alike.hasKey_iff (alike : g.Alike h) : h.HasKey x key ↔ g.HasKey x key :=
  hasKey_congr (alike.profile x) fun _ _ _ _ => alike.neighbors

theorem Identified.of_alike (identified : g.Identified) (alike : g.Alike h) : h.Identified :=
  identified.congr (fun _ => alike.kind?) fun _ _ => alike.hasKey_iff

/-- Where whatever stays keeps its parents, no key is lost and none is shared. -/
theorem Identified.without {s : EntityId → Prop} (identified : g.Identified) (without : g.Without s h)
    (parents : ∀ x kind, ¬ s x → g.kind? x = some kind → ∀ k ∈ kind.parents, ∀ y ∈ g.neighbors x k, ¬ s y) :
    h.Identified := by
  have profile : ∀ x, ¬ s x → h.profile? x = g.profile? x := fun x stays => by
    rw [profile?, without.kept x stays, profile?]
  refine ⟨fun x kind known other => ?_, fun x y key hasx hasy => ?_⟩
  · obtain ⟨stays, known⟩ := without.kind?.mp known
    obtain ⟨key, has⟩ := identified.known x kind known other
    refine ⟨key, has.congr (profile x stays) fun kind' known' k parent y near => ?_⟩
    exact (without.edges x k y).mpr ⟨stays, parents x kind' stays known' k parent y near, near⟩
  · have old : ∀ {z}, h.HasKey z key → g.HasKey z key := by
      intro z has
      obtain ⟨kind, known⟩ := has.known
      have stays := (without.kind?.mp known).1
      exact has.congr (profile z stays).symm fun _ _ k _ y near => ((without.edges z k y).mp near).2.2
    exact identified.unique x y key (old hasx) (old hasy)

theorem Ingests.identified {n : Notification} {changes : List StateChange} (ingests : Ingests g n changes h)
    (wf : g.WellFormed) (identified : g.Identified) : h.Identified := by
  cases ingests with
  | present _ _ _ run => exact run.identified wf identified
  | removal _ _ removes => exact identified.of_alike removes.lowered.alike

end Graph

namespace Service
open DiscoveryGraph.Graph
variable {service service' : Service} {request : Request}

/-- Every request keeps keys apart. -/
theorem Steps.identified (steps : Steps service request service') (sound : service.Sound)
    (identified : service.graph.Identified) : service'.graph.Identified := by
  have regular := sound.regular
  have wf := regular.wellFormed
  cases steps with
  | declined | refused => exact identified
  | exhausted out _ =>
    obtain ⟨-, -, changes, run⟩ := out
    exact run.identified wf identified
  | started kind enabled => exact identified.born_domain wf kind enabled
  | applied _ ingests => exact ingests.identified wf identified
  | stopped _ lowered => exact identified.of_alike lowered.run.alike
  | cleared domain clearing _ without =>
    refine identified.without without fun x kind stays known k parent y near mem => stays ?_
    exact clearing.mem_of_parent regular domain known parent near mem

theorem Reachable.identified (reachable : service.Reachable) : service.graph.Identified := by
  induction reachable with
  | new new =>
    obtain rfl := eq_of_new new
    exact identified_empty
  | step request reached ih => exact reached.steps.identified reached.sound ih

/-- In every reachable state every entity but a domain has a key, and no two entities share one: hosts
are told apart by their names, users by host and name, processes by user and name, participants by
GUID, endpoints by GUID, topics by domain, name and data type, and locators by address. -/
theorem keys_unique (reachable : service.Reachable) :
    (∀ x kind, service.graph.kind? x = some kind → kind ≠ .domain → ∃ key, service.graph.HasKey x key) ∧
      ∀ x y key, service.graph.HasKey x key → service.graph.HasKey y key → x = y :=
  ⟨reachable.identified.known, reachable.identified.unique⟩

/-- A writer that names one address twice, seen again after its domain was cleared. -/
theorem keys_unique_rediscovered :
    let info : EndpointInfo := ⟨⟨.replicate 16 2⟩, "writer",
      ⟨⟨.replicate 16 1⟩, "node", "host", "user", "process", none⟩, ⟨"square", "ShapeType"⟩, ["udp", "udp"]⟩
    let service : Service := run { config := {} } [.start 0 none, .apply ⟨⟨1⟩, .discovered, .writer info⟩,
      .clear ⟨1⟩, .start 0 none, .apply ⟨⟨9⟩, .discovered, .writer info⟩]
    ∀ x, service.graph.HasKey x (.locator "udp") ↔ x = ⟨16⟩ := by
  intro info service x
  have reachable : service.Reachable := (Reachable.new new_default).run
  have bound : service.graph.entity? ⟨16⟩ = some ⟨⟨16⟩, .locator, "udp", true, .plain⟩ := by decide +kernel
  have has : service.graph.HasKey ⟨16⟩ (.locator "udp") :=
    ⟨_, bound, ⟨rfl, rfl⟩, by simp [Key.parent?]⟩
  constructor
  · exact fun has' => (keys_unique reachable).2 x ⟨16⟩ _ has' has
  · rintro rfl
    exact has

end Service
end DiscoveryGraph
