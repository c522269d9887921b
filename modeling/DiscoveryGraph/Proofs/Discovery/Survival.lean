import DiscoveryGraph.Proofs.Discovery.Support

/-! What survives the clearing of a domain. An entity stays exactly if another domain finds it, so what
is left is populated and its endpoints belong to active participants as before. The flags stay as they
are, and whether they are still backed depends on whether an active child of each survivor stays. -/
namespace DiscoveryGraph

namespace EntityKind

/-- What holds of a kind as soon as it holds of the kinds it is derived from holds of every kind. -/
@[elab_as_elim]
theorem derived_induction {motive : EntityKind → Prop}
    (step : ∀ k, (∀ kind ∈ k.derivedFrom, motive kind) → motive k) (k : EntityKind) : motive k := by
  -- The kinds that a kind is derived from start longer cascades.
  induction rest : Graph.cascadeLength - k.cascade using Nat.strongRecOn generalizing k with
  | _ n ih =>
    refine step k fun kind derived => ih _ ?_ kind rfl
    have longer := cascade_lt (.inl ((mem_dependents_iff kind k).mpr derived))
    have bound := kind.cascade_le
    omega

theorem ne_domain_of_mem_derivedFrom {kind k : EntityKind} (mem : kind ∈ k.derivedFrom) : kind ≠ domain := by
  revert mem
  cases k <;> cases kind <;> decide

/-- The shared kinds among those that a kind is derived from have children themselves. -/
theorem isPhysical_of_mem_derivedFrom {kind k : EntityKind} (mem : kind ∈ k.derivedFrom)
    (shared : kind.isShared) : kind.isPhysical := by
  revert mem shared
  cases k <;> cases kind <;> decide

theorem mem_orphan_kinds {k : EntityKind} (shared : k.isShared) :
    k ∈ [locator, process, user, host] := by
  revert shared
  cases k <;> decide

/-- What is not shared is owned. -/
theorem mem_owned_kinds {k : EntityKind} (unshared : k.isShared = false) (other : k ≠ domain)
    (valid : k ≠ invalid) : k ∈ [participant, topic, dataWriter, dataReader] := by
  revert unshared other valid
  cases k <;> decide

end EntityKind

namespace Graph
variable {g h : Graph} {d e x y : EntityId} {k kind : EntityKind} {gone : IdSet}

/-- Every entity that nobody shares has an owner. -/
theorem exists_owner (regular : g.Regular) (known : g.kind? x = some k) (unshared : k.isShared = false)
    (other : k ≠ .domain) : ∃ e, g.Owned e x := by
  obtain ⟨wf, rooted, -⟩ := regular
  have cases : k.isEndpoint ∨ .domain ∈ k.parents := by
    have listed := EntityKind.mem_owned_kinds unshared other (wf.valid known)
    revert listed
    cases k <;> decide
  obtain isEndpoint | parent := cases
  · obtain ⟨p, near⟩ := rooted x k known .participant (EntityKind.participant_mem_parents isEndpoint)
    obtain ⟨e, member⟩ := rooted p .participant (wf.kind?_of_mem near) .domain (by decide)
    exact ⟨e, .endpoint known isEndpoint near member⟩
  · obtain ⟨e, member⟩ := rooted x k known .domain parent
    exact ⟨e, .member member⟩

/-- A domain other than the given one finds the entity. -/
def FoundElsewhere (g : Graph) (d x : EntityId) : Prop :=
  ∃ e k, e ≠ d ∧ g.kind? e = some .domain ∧ g.kind? x = some k ∧ g.Finds .domain k e x

/-- A shared entity is found wherever one of its children is found. -/
theorem foundElsewhere_iff (wf : g.WellFormed) (known : g.kind? x = some k) (shared : k.isShared) :
    g.FoundElsewhere d x ↔ ∃ y ∈ g.children x k, g.FoundElsewhere d y := by
  constructor
  · intro found
    obtain ⟨e, k', other, domain, known', finds⟩ := found
    obtain rfl := kind_unique known known'
    obtain ⟨kind, derived, y, finds, near⟩ := (finds_shared shared).mp finds
    have here := finds.kind? wf domain
    exact ⟨y, mem_children.mpr ⟨kind, derived, wf.mem_symm near here⟩, e, kind, other, domain, here, finds⟩
  · intro held
    obtain ⟨y, child, e, kind, other, domain, here, finds⟩ := held
    obtain ⟨kind', derived, near⟩ := mem_children.mp child
    obtain rfl := kind_unique here (wf.kind?_of_mem near)
    exact ⟨e, k, other, domain, known, (finds_shared shared).mpr ⟨_, derived, y, finds, wf.mem_symm near known⟩⟩

/-- What another domain finds is not cleared. -/
theorem Clearing.not_mem_of_foundElsewhere (clearing : g.Clearing d gone) (regular : g.Regular)
    (domain : g.kind? d = some .domain) (known : g.kind? x = some k) (other : k ≠ .domain)
    (found : g.FoundElsewhere d x) : x ∉ gone := by
  have wf := regular.wellFormed
  induction k using EntityKind.derived_induction generalizing x with
  | step k ih =>
    cases shared : k.isShared with
    | false =>
      obtain ⟨e, k', apart, domain', known', finds⟩ := found
      obtain rfl := kind_unique known known'
      have listed := EntityKind.mem_owned_kinds shared other (wf.valid known)
      exact (clearing.not_mem regular domain (owned_of_finds wf domain' listed finds) apart).1
    | true =>
      obtain ⟨y, child, found⟩ := (foundElsewhere_iff wf known shared).mp found
      obtain ⟨kind, derived, near⟩ := mem_children.mp child
      have stays :=
        ih kind derived (wf.kind?_of_mem near) (EntityKind.ne_domain_of_mem_derivedFrom derived) found
      intro mem
      obtain owned | ⟨k', known', -, all⟩ := clearing.owned_or_orphan wf domain mem
      · obtain ⟨k', known', unshared, -⟩ := owned.kind? wf
        rw [kind_unique known known', unshared] at shared
        cases shared
      · obtain rfl := kind_unique known known'
        exact stays (all y child)

/-- A shared entity that stays keeps one of its children, if it has any. -/
theorem Cleared.exists_child (cleared : g.Cleared d gone) (wf : g.WellFormed)
    (domain : g.kind? d = some .domain) (known : g.kind? x = some k) (shared : k.isShared)
    (child : y ∈ g.children x k) (stays : x ∉ gone) :
    ∃ z ∈ g.children x k, z ∉ gone := by
  by_cases mem : y ∈ gone
  · -- The domain finds the child that goes, and so it finds the entity.
    obtain ⟨kind, derived, near⟩ := mem_children.mp child
    have here := wf.kind?_of_mem near
    have finds : g.Finds .domain kind d y := by
      obtain rfl | ⟨k', -, finds⟩ | ⟨k', -, finds, -⟩ := cleared.only y mem
      · exact absurd (kind_unique here domain) (EntityKind.ne_domain_of_mem_derivedFrom derived)
      · rwa [kind_unique here (finds.kind? wf domain)]
      · rwa [kind_unique here (finds.kind? wf domain)]
    have found : g.Finds .domain k d x :=
      (finds_shared shared).mpr ⟨kind, derived, y, finds, wf.mem_symm near known⟩
    refine Classical.byContradiction fun none => stays ?_
    refine cleared.orphans k (EntityKind.mem_orphan_kinds shared) x found fun z child => ?_
    exact Decidable.byContradiction fun left => none ⟨z, child, left⟩
  · exact ⟨y, child, mem⟩

/-- What stays is found from another domain, childless locators apart. -/
theorem Cleared.foundElsewhere (cleared : g.Cleared d gone) (regular : g.Regular)
    (domain : g.kind? d = some .domain) (populated : g.Populated) (known : g.kind? x = some k)
    (other : k ≠ .domain) (child : k.isShared → ∃ y, y ∈ g.children x k) (stays : x ∉ gone) :
    g.FoundElsewhere d x := by
  have wf := regular.wellFormed
  induction k using EntityKind.derived_induction generalizing x with
  | step k ih =>
    cases shared : k.isShared with
    | false =>
      obtain ⟨e, owned⟩ := exists_owner regular known shared other
      exact ⟨e, k, fun same => stays (cleared.mem_of_owned wf (same ▸ owned)), owned.domain wf, known,
        owned.finds wf known other⟩
    | true =>
      obtain ⟨y, mem⟩ := child shared
      obtain ⟨z, mem, left⟩ := cleared.exists_child wf domain known shared mem stays
      obtain ⟨kind, derived, near⟩ := mem_children.mp mem
      have here := wf.kind?_of_mem near
      refine (foundElsewhere_iff wf known shared).mpr ⟨z, mem, ?_⟩
      refine ih kind derived here (EntityKind.ne_domain_of_mem_derivedFrom derived) (fun shared => ?_) left
      exact populated z kind here (EntityKind.isPhysical_of_mem_derivedFrom derived shared)

/-! ### What is left -/

theorem Attached.without (attached : g.Attached) (without : g.Without (· ∈ gone) h) : h.Attached :=
  fun x y k exposed known => attached x y k (without.exposed_before exposed) (without.kind?.mp known).2

/-- Nothing that had a child is left without one. -/
theorem Cleared.populated (cleared : g.Cleared d gone) (wf : g.WellFormed) (domain : g.kind? d = some .domain)
    (without : g.Without (· ∈ gone) h) (populated : g.Populated) : h.Populated := by
  intro x k known physical
  obtain ⟨stays, known⟩ := without.kind?.mp known
  obtain ⟨y, child⟩ := populated x k known physical
  obtain ⟨z, child, left⟩ :=
    cleared.exists_child wf domain known (EntityKind.isShared_of_isPhysical physical).1 child stays
  exact ⟨z, (without.mem_children stays).mpr ⟨left, child⟩⟩

/-- Hosts, users, processes and locators stay backed exactly if each one that another domain finds
while it is active has an active child that another domain finds as well. -/
theorem Cleared.supported_iff (cleared : g.Cleared d gone) (regular : g.Regular)
    (domain : g.kind? d = some .domain) (without : g.Without (· ∈ gone) h) (populated : g.Populated)
    (supported : g.Supported) : h.Supported ↔
      ∀ x k, g.kind? x = some k → k.isShared → g.alive x = true → g.FoundElsewhere d x →
        ∃ y ∈ g.children x k, g.alive y = true ∧ g.FoundElsewhere d y := by
  have wf := regular.wellFormed
  have clearing := cleared.toClearing
  constructor
  · intro held x k known shared active found
    have stays := clearing.not_mem_of_foundElsewhere regular domain known (by rintro rfl; cases shared) found
    have backed : h.Backed x := by
      refine held x k (without.kind?.mpr ⟨stays, known⟩) shared ?_
      rw [without.alive stays, active]
    obtain ⟨k', known', y, child, active'⟩ := backed
    obtain rfl := kind_unique known (without.kind?.mp known').2
    obtain ⟨left, child⟩ := (without.mem_children stays).mp child
    rw [without.alive left] at active'
    refine ⟨y, child, active', ?_⟩
    obtain ⟨kind, derived, near⟩ := Graph.mem_children.mp child
    have here := wf.kind?_of_mem near
    refine cleared.foundElsewhere regular domain populated here
      (EntityKind.ne_domain_of_mem_derivedFrom derived) (fun shared => ?_) left
    exact populated y kind here (EntityKind.isPhysical_of_mem_derivedFrom derived shared)
  · intro held x k known shared active
    obtain ⟨stays, known⟩ := without.kind?.mp known
    rw [without.alive stays] at active
    obtain ⟨k', known', y, child, -⟩ := supported x k known shared active
    obtain rfl := kind_unique known known'
    have found := cleared.foundElsewhere regular domain populated known (by rintro rfl; cases shared)
      (fun _ => ⟨y, child⟩) stays
    obtain ⟨z, child, alive, found⟩ := held x k known shared active found
    obtain ⟨kind, derived, near⟩ := Graph.mem_children.mp child
    have left := clearing.not_mem_of_foundElsewhere regular domain (wf.kind?_of_mem near)
      (EntityKind.ne_domain_of_mem_derivedFrom derived) found
    exact ⟨k, without.kind?.mpr ⟨stays, known⟩, z, (without.mem_children stays).mpr ⟨left, child⟩,
      by rw [without.alive left, alive]⟩

end Graph
end DiscoveryGraph
