import DiscoveryGraph.Proofs.Discovery.Acceptance
import DiscoveryGraph.Proofs.Monitor.Identity

/-! Which notifications the service accepts. In every state that requests lead to, a notification is carried
out if it is acceptable, unless the identifiers run out midway, and refused otherwise; whatever is active
has no part in it. -/
namespace DiscoveryGraph.Service
open DiscoveryGraph.Graph Update
variable {service : Service} {n : Notification} {e : GraphError}

theorem apply_ok_iff (unlocked : service.counter.poisoned = false) :
    (∃ events after, apply n service = .ok events after) ↔
      ∃ changes g, Graph.ingest n service.graph = .ok changes g := by
  rw [apply_eq]
  cases Graph.ingest n service.graph <;> simp [unlocked]

theorem apply_error_iff (unlocked : service.counter.poisoned = false) :
    (∃ after, apply n service = .error e after) ↔ ∃ g, Graph.ingest n service.graph = .error e g := by
  rw [apply_eq]
  cases Graph.ingest n service.graph <;> simp [unlocked]

/-- How the service decides on a notification. -/
structure Judges (service : Service) (n : Notification) : Prop where
  accepts : (∃ events after, apply n service = .ok events after) ↔
    service.graph.Acceptable n ∧ ¬ ∃ after, apply n service = .error (.storage .idSpaceExhausted) after
  unknown : (∃ after, apply n service = .error (.validation (.unknownDomain n.domain)) after) ↔
    service.graph.kind? n.domain ≠ some .domain
  rejects : (∃ rejection after, apply n service = .error (.validation (.rejectedNotification rejection)) after) ↔
    service.graph.kind? n.domain = some .domain ∧ ¬ service.graph.Acceptable n
  /-- There are not enough identifiers left for what the notification mentions. -/
  exhausts : (∃ after, apply n service = .error (.storage .idSpaceExhausted) after) →
    service.graph.Acceptable n ∧
      EntityId.invalid.value.toNat ≤ service.graph.lastId.value.toNat + n.entity.demand + 1
  /-- With any flags set otherwise the decision is the same. -/
  blind : ∀ g, service.graph.UpToFlags g →
    ((∃ events after, apply n { service with graph := g } = .ok events after) ↔
      ∃ events after, apply n service = .ok events after) ∧
    ∀ e, (∃ after, apply n { service with graph := g } = .error e after) ↔
      ∃ after, apply n service = .error e after

/-- Flags have no part in a decision. -/
theorem apply_blind {g : Graph} (unlocked : service.counter.poisoned = false) (wf : service.graph.WellFormed)
    (upTo : service.graph.UpToFlags g) :
    ((∃ events after, apply n { service with graph := g } = .ok events after) ↔
      ∃ events after, apply n service = .ok events after) ∧
    ∀ e, (∃ after, apply n { service with graph := g } = .error e after) ↔
      ∃ after, apply n service = .error e after := by
  have unlocked' : { service with graph := g }.counter.poisoned = false := unlocked
  have abreast := ingest_abreast (n := n) upTo wf
  simp only [apply_ok_iff unlocked, apply_error_iff unlocked, apply_ok_iff unlocked', apply_error_iff unlocked']
  unfold Abreast at abreast
  revert abreast
  cases Graph.ingest n service.graph <;> cases Graph.ingest n g <;> simp +contextual

/-- In every state that requests lead to, the service decides by what a notification says and by who has the keys
that it carries. -/
theorem Reachable.judges (reachable : service.Reachable) (n : Notification) : service.Judges n := by
  have regular := reachable.sound.regular
  have unlocked := reachable.sound.unlocked
  have ends := ingest_accepts (n := n) regular reachable.identified
  constructor
  case exhausts =>
    rw [apply_error_iff unlocked]
    intro out
    obtain ⟨g, run⟩ := out
    have near : Within n.entity.demand service.graph g := ingest_allots.of_error run
    obtain ⟨other, -⟩ | ⟨⟨_, other⟩, -⟩ | ⟨-, acceptable, none⟩ := ends.of_error run
    · cases other
    · cases other
    · have last := EntityId.next?_eq_none_iff.mp none
      unfold Within at near
      exact ⟨acceptable, by omega⟩
  case blind => exact fun g upTo => apply_blind unlocked regular.wellFormed upTo
  -- Each way in which the notification may end settles the other three.
  all_goals
    simp only [apply_ok_iff unlocked, apply_error_iff unlocked]
    cases run : Graph.ingest n service.graph with
    | ok changes g =>
      have acceptable := ends.of_ok run
      simp [acceptable, acceptable.domain]
    | error e g =>
      obtain ⟨rfl, other⟩ | ⟨⟨_, rfl⟩, domain, other⟩ | ⟨rfl, acceptable, -⟩ := ends.of_error run
      · simp [other, mt Acceptable.domain other]
      · simp [domain, other]
      · simp [acceptable, acceptable.domain]

/-- A reader of the first domain is announced in the second one. Its participant is known elsewhere, so that is
refused, and it still is when the participant is inactive. -/
theorem Reachable.judges_foreign :
    let reader (domain : EntityId) : Notification := ⟨domain, .discovered, .reader ⟨⟨.replicate 16 1⟩, "reader",
      ⟨⟨.replicate 16 2⟩, "node", "host", "user", "process", none⟩, ⟨"square", "ShapeType"⟩, ["udp:1"]⟩⟩
    let service := Service.run { config := {} } [.start 0 none, .start 1 none, .apply (reader ⟨1⟩)]
    service.Reachable ∧ service.Judges (reader ⟨2⟩) ∧ service.graph.alive ⟨6⟩ = true ∧
      ∀ active, ∃ rejection after, apply (reader ⟨2⟩) { service with graph := service.graph.reflag ⟨6⟩ active } =
        .error (.validation (.rejectedNotification rejection)) after := by
  intro reader service
  have reachable : service.Reachable := (Reachable.new new_default).run
  have judges := reachable.judges (reader ⟨2⟩)
  have domain : service.graph.kind? ⟨2⟩ = some .domain := by decide +kernel
  have bound : service.graph.entity? ⟨6⟩ =
      some ⟨⟨6⟩, .participant, "node", true, .participant ⟨.replicate 16 2⟩⟩ := by decide +kernel
  have elsewhere : ⟨2⟩ ∉ service.graph.neighbors ⟨6⟩ .domain := by decide +kernel
  have has : service.graph.HasKey ⟨6⟩ (.participant ⟨.replicate 16 2⟩) := ⟨_, bound, ⟨rfl, rfl⟩, by simp⟩
  obtain ⟨rejection, refused⟩ := judges.rejects.mpr
    ⟨domain, fun acceptable => elsewhere (acceptable.admits.1 ⟨6⟩ has).1⟩
  refine ⟨reachable, judges, alive_of_entity? bound, fun active => ⟨rejection, ?_⟩⟩
  exact ((judges.blind _ .reflag).2 _).mpr refused

end DiscoveryGraph.Service
