import DiscoveryGraph.Monitor.Inspection
import DiscoveryGraph.Proofs.Monitor.Request

/-! Domains are isolated from one another. Hosts, users, processes and locators may serve several
domains at once, but a request to one domain changes nothing that another one owns, nor what is
found from it: every route from a domain stays among what it owns until it climbs from there to the
parents of shared entities, and parents are kept. -/
namespace DiscoveryGraph

namespace EntityKind

/-- Every hop of a route from this kind leads to parents. -/
def climbs (kind : EntityKind) : Route → Bool
  | [] => true
  | hop :: route => hop.all fun k => decide (k ∈ kind.parents) && k.climbs route

/-- A route from this kind stays among kinds that are owned, until it ends or climbs. -/
def stays (kind : EntityKind) : Route → Bool
  | [] => true
  | hop :: route => hop.all fun k =>
    if k.isShared then route.isEmpty || decide (k ∈ kind.parents) && k.climbs route else k.stays route

theorem stays_of_domain : ∀ rule ∈ queryRules, rule.origin = .domain → domain.stays rule.route := by decide

end EntityKind

namespace Graph
variable {g h : Graph} {d e x y : EntityId} {k kind : EntityKind} {hop : Hop} {route : Route}
    {changes : List StateChange}

/-- What a domain owns, and the parents this has. -/
inductive Carried (g : Graph) (e : EntityId) : EntityId → Prop
  | owned {x : EntityId} : g.Owned e x → Carried g e x
  | above {x y : EntityId} {kind k : EntityKind} : Carried g e x → g.kind? x = some kind → k ∈ kind.parents →
      y ∈ g.neighbors x k → Carried g e y

/-- The second graph leaves a domain of the first one as it was: what it owns, with its relations,
and the parents of whatever carries it. -/
structure Spares (g : Graph) (e : EntityId) (h : Graph) : Prop where
  entity : ∀ x, g.Owned e x → h.entity? x = g.entity? x
  neighbors : ∀ x, g.Owned e x → ∀ k, h.neighbors x k = g.neighbors x k
  parents : ∀ x kind, g.Carried e x → g.kind? x = some kind → ∀ k ∈ kind.parents,
    h.neighbors x k = g.neighbors x k

theorem Spares.refl : g.Spares e g := ⟨fun _ _ => rfl, fun _ _ _ => rfl, fun _ _ _ _ _ _ => rfl⟩

/-! ### What is spared is found as before -/

theorem path_cons_congr (same : ∀ k ∈ hop, h.neighbors x k = g.neighbors x k)
    (rest : ∀ k ∈ hop, ∀ z ∈ g.neighbors x k, h.Path route z y ↔ g.Path route z y) :
    h.Path (hop :: route) x y ↔ g.Path (hop :: route) x y := by
  constructor
  · intro ⟨k, mem, z, near, path⟩
    rw [same k mem] at near
    exact ⟨k, mem, z, near, (rest k mem z near).mp path⟩
  · intro ⟨k, mem, z, near, path⟩
    exact ⟨k, mem, z, by rwa [same k mem], (rest k mem z near).mpr path⟩

theorem Spares.path_of_climbs (spares : g.Spares e h) (wf : g.WellFormed) (carried : g.Carried e x)
    (known : g.kind? x = some kind) (climbs : kind.climbs route) : h.Path route x y ↔ g.Path route x y := by
  induction route generalizing x kind with
  | nil => exact Iff.rfl
  | cons hop route ih =>
    simp only [EntityKind.climbs, List.all_eq_true, Bool.and_eq_true, decide_eq_true_eq] at climbs
    refine path_cons_congr (fun k mem => spares.parents x kind carried known k (climbs k mem).1)
      fun k mem z near => ?_
    exact ih (carried.above known (climbs k mem).1 near) (wf.kind?_of_mem near) (climbs k mem).2

theorem Spares.path_of_stays (spares : g.Spares e h) (regular : g.Regular) (owned : g.Owned e x)
    (known : g.kind? x = some kind) (stays : kind.stays route) : h.Path route x y ↔ g.Path route x y := by
  have wf := regular.wellFormed
  induction route generalizing x kind with
  | nil => exact Iff.rfl
  | cons hop route ih =>
    simp only [EntityKind.stays, List.all_eq_true] at stays
    refine path_cons_congr (fun k _ => spares.neighbors x owned k) fun k mem z near => ?_
    have here := wf.kind?_of_mem near
    have next := stays k mem
    split at next
    · simp only [Bool.or_eq_true, List.isEmpty_iff, Bool.and_eq_true, decide_eq_true_eq] at next
      obtain rfl | ⟨parent, climbs⟩ := next
      · exact Iff.rfl
      · exact spares.path_of_climbs wf (.above (.owned owned) known parent near) here climbs
    · rename_i unshared
      obtain owned' | ⟨k', here', shared⟩ := owned.near regular near
      · exact ih owned' here next
      · rw [here, Option.some_inj] at here'
        exact absurd (here' ▸ shared) unshared

/-- The domain finds the same as before. -/
theorem Spares.related_eq (spares : g.Spares e h) (regular : g.Regular) (domain : g.kind? e = some .domain) :
    h.related k e = g.related k e := by
  have wf := regular.wellFormed
  obtain ⟨entity, found, isDomain⟩ := kind?_eq_some.mp domain
  have found' : h.entity? e = some entity := by rw [spares.entity e (.self domain), found]
  have same : h.reach k entity = g.reach k entity := by
    apply Std.ExtTreeSet.ext_mem
    intro y
    rw [mem_reach, mem_reach, isDomain, wf.keyed found]
    unfold Finds
    cases strategy : strategyFor .domain k with
    | reflexive | unrelated => exact Iff.rfl
    | walk manner route =>
      obtain ⟨rule, mem, origin, -, rfl⟩ := exists_rule_of_walk strategy
      exact spares.path_of_stays regular (.self domain) domain (EntityKind.stays_of_domain rule mem origin)
  rw [related, related, wf.not_isAll domain, found, found']
  simp only [same, Bool.false_eq_true, if_false]

/-! ### What spares a domain -/

theorem spares_of_local (run : Run (Action.Local d) g changes h) (regular : g.Regular) (other : e ≠ d) :
    g.Spares e h := by
  have frame : ∀ x, g.Owned e x → h.entity? x = g.entity? x ∧ ∀ k, h.neighbors x k = g.neighbors x k :=
    fun x owned => run.frame regular.wellFormed owned other
  refine ⟨fun x owned => (frame x owned).1, fun x owned => (frame x owned).2, ?_⟩
  intro x kind _ known k parent
  exact run.neighbors_parent regular.wellFormed known parent

theorem Clearing.spares {gone : IdSet} (clearing : g.Clearing d gone) (regular : g.Regular)
    (domain : g.kind? d = some .domain)
    (without : g.Without (· ∈ gone) h) (other : e ≠ d) : g.Spares e h := by
  have stays : ∀ x, g.Owned e x → x ∉ gone ∧ ∀ k, ∀ y ∈ g.neighbors x k, y ∉ gone :=
    fun x owned => clearing.not_mem regular domain owned other
  have carried : ∀ x, g.Carried e x → x ∉ gone := by
    intro x carried
    induction carried with
    | owned owned => exact (stays _ owned).1
    | above _ known parent near ih =>
      exact fun mem => ih (clearing.mem_of_parent regular domain known parent near mem)
  have kept : ∀ x k, x ∉ gone → (∀ y ∈ g.neighbors x k, y ∉ gone) → h.neighbors x k = g.neighbors x k := by
    intro x k here there
    apply Std.ExtTreeSet.ext_mem
    intro y
    rw [without.edges]
    exact ⟨fun near => near.2.2, fun near => ⟨here, there y near, near⟩⟩
  refine ⟨fun x owned => without.kept x (stays x owned).1, fun x owned k => ?_,
    fun x kind held known k parent => ?_⟩
  · exact kept x k (stays x owned).1 ((stays x owned).2 k)
  · exact kept x k (carried x held) fun y near => carried y (held.above known parent near)

end Graph

namespace Service
open DiscoveryGraph.Graph
variable {service service' : Service} {request : Request} {d e x : EntityId} {k : EntityKind}

/-- A request spares every domain but the one it addresses. -/
theorem Steps.spares (steps : Steps service request service') (sound : service.Sound)
    (addressed : request.domain? = some d) (other : e ≠ d) : service.graph.Spares e service'.graph := by
  have regular := sound.regular
  cases steps with
  | declined | refused => exact .refl
  | exhausted out _ =>
    cases addressed
    obtain ⟨-, -, changes, run⟩ := out
    exact spares_of_local run.local_of_discovers regular other
  | started => cases addressed
  | applied _ ingests =>
    cases addressed
    exact spares_of_local (ingests.local regular) regular other
  | stopped domain lowered =>
    cases addressed
    have run := lowered.run.marks.local_of_marks regular.wellFormed fun x stops => stops.local regular domain
    exact spares_of_local run regular other
  | cleared domain clearing _ without =>
    cases addressed
    exact clearing.spares regular domain without other

theorem ids_all_eq (service : Service) :
    service.ids .all k e = (service.graph.related k e).mapError .validation := by
  rw [ids, relatedBy]
  cases service.graph.related k e <;> rfl

/-- What a domain answers to a query for one of these kinds it owns. -/
theorem owned_of_mem_ids (sound : service.Sound) (domain : service.graph.kind? e = some .domain)
    (listed : k ∈ [EntityKind.participant, .topic, .dataWriter, .dataReader]) {ids : IdSet}
    (found : service.ids .all k e = .ok ids) (mem : x ∈ ids) : service.graph.Owned e x := by
  have wf := sound.regular.wellFormed
  have valid : k ≠ .invalid := by
    intro same
    subst same
    simp at listed
  obtain ⟨answer, eq, iff⟩ := related_eq_ok wf domain valid
  rw [ids_all_eq, eq] at found
  cases found
  exact owned_of_finds wf domain listed ((iff x).mp mem)

/-- Whatever is asked of one domain, another one stays as it was: it and its participants, topics,
writers and readers keep their attributes, flags and relations, and it finds the same as before. -/
theorem other_domain_unchanged (reachable : service.Reachable) (apart : d ≠ e)
    (domain : service.graph.kind? e = some .domain) (addressed : request.domain? = some d) :
    let after := request.act service
    (∀ x, (x = e ∨ ∃ k ∈ [EntityKind.participant, .topic, .dataWriter, .dataReader],
        ∃ ids, service.ids .all k e = .ok ids ∧ x ∈ ids) →
      (∃ entity, service.graph.entity? x = some entity ∧ after.graph.entity? x = some entity) ∧
        ∀ k, after.graph.neighbors x k = service.graph.neighbors x k) ∧
      ∀ k, after.ids .all k e = service.ids .all k e := by
  intro after
  have sound := reachable.sound
  have spares : service.graph.Spares e after.graph := reachable.steps.spares sound addressed apart.symm
  constructor
  · intro x answered
    have owned : service.graph.Owned e x := by
      obtain rfl | ⟨k, listed, ids, found, mem⟩ := answered
      · exact .self domain
      · exact owned_of_mem_ids sound domain listed found mem
    obtain ⟨kind, known, -⟩ := owned.kind? sound.regular.wellFormed
    obtain ⟨entity, found, -⟩ := kind?_eq_some.mp known
    exact ⟨⟨entity, found, by rw [spares.entity x owned, found]⟩, spares.neighbors x owned⟩
  · intro k
    rw [ids_all_eq, ids_all_eq, spares.related_eq sound.regular domain]

/-- Two domains with a participant each in one process: when the first domain is cleared, the second
one still finds the host that both shared. -/
theorem other_domain_unchanged_clear :
    let participant (byte : UInt8) : Announcement := .participant ⟨⟨.replicate 16 byte⟩, "node", "host", "user", "process", none⟩
    let service : Service := run { config := {} } [.start 0 none, .start 1 none,
      .apply ⟨⟨1⟩, .discovered, participant 1⟩, .apply ⟨⟨2⟩, .discovered, participant 2⟩]
    ((Request.clear ⟨1⟩).act service).ids .all .host ⟨2⟩ = service.ids .all .host ⟨2⟩ ∧
      (service.ids .all .host ⟨2⟩).toOption.map (·.toList) = some [⟨3⟩] := by
  intro participant service
  have reachable : service.Reachable := (Reachable.new new_default).run
  have unchanged := other_domain_unchanged reachable (d := ⟨1⟩) (e := ⟨2⟩) (by decide) (by decide +kernel)
    (show (Request.clear ⟨1⟩).domain? = some ⟨1⟩ from rfl)
  exact ⟨unchanged.2 .host, by decide +kernel⟩

end Service
end DiscoveryGraph
