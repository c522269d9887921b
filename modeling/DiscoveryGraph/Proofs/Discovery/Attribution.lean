import DiscoveryGraph.Proofs.Discovery.Survival

/-! Attribution. The participants, topics and endpoints that an operation on a domain changes are
entities of that domain, in the graph before or in the one after, and an entity that is in both has
the same owner in both. So every change may be told to the listener of the domain alone. -/
namespace DiscoveryGraph

namespace EntityKind

theorem isShared_of_isDiscoverable {kind : EntityKind} (discoverable : kind.isDiscoverable) :
    kind.isShared = false ∧ kind ≠ domain := by
  revert discoverable
  cases kind <;> decide

/-- Members of a domain and endpoints are what is discovered. -/
theorem of_isDiscoverable {kind : EntityKind} (discoverable : kind.isDiscoverable) :
    domain ∈ kind.parents ∨ kind.isEndpoint ∧ participant ∈ kind.parents := by
  revert discoverable
  cases kind <;> decide

end EntityKind

namespace Graph
variable {g h : Graph} {d e x y : EntityId} {k : EntityKind}

/-- A domain owns no other domain. -/
theorem Local.eq_of_domain (wf : g.WellFormed) (near : g.Local d y) (known : g.kind? y = some .domain) :
    y = d := by
  obtain owned | ⟨k, known', shared⟩ := near
  · exact owned.unique wf (.self known) ▸ rfl
  · obtain rfl := kind_unique known known'
    cases shared

/-- Where one graph says of an entity what the other one says, they say the same: it has one owner. -/
theorem Regular.owned_iff (regular : g.Regular) (wf : h.WellFormed) (known : g.kind? x = some k)
    (known' : h.kind? x = some k) (keeps : ∀ e, g.Owned e x → h.Owned e x) : h.Owned e x ↔ g.Owned e x := by
  refine ⟨fun owned => ?_, keeps e⟩
  obtain ⟨k', known'', unshared, -⟩ := owned.kind? wf
  obtain rfl := kind_unique known' known''
  have owner : ∃ e, g.Owned e x := by
    by_cases domain : k = .domain
    · exact ⟨x, .self (domain ▸ known)⟩
    · exact exists_owner regular known unshared domain
  obtain ⟨e', owned'⟩ := owner
  exact (keeps e' owned').unique wf owned ▸ owned'

/-- What changes of participants, topics and endpoints belongs to one domain, and nothing changes its
owner. -/
structure Attributed (g : Graph) (d : EntityId) (changes : List StateChange) (h : Graph) : Prop where
  mine : ∀ change ∈ changes, change.kind.isDiscoverable →
    ∃ i, (i = g ∨ i = h) ∧ i.kind? change.id = some change.kind ∧ i.Owned d change.id
  owned_iff : ∀ x k, g.kind? x = some k → ∀ k', h.kind? x = some k' → ∀ e, h.Owned e x ↔ g.Owned e x

end Graph

/-! ### Local runs -/

namespace Action
open DiscoveryGraph.Graph
variable {g : Graph} {a : Action} {d : EntityId} {change : StateChange}

theorem Local.owned_of_change (loc : a.Local d g) (wf : g.WellFormed) (enabled : a.Enabled g)
    (mem : change ∈ a.changes) (discoverable : change.kind.isDiscoverable) :
    (a.act g).kind? change.id = some change.kind ∧ (a.act g).Owned d change.id := by
  cases a with
  | born entity edges =>
    obtain rfl := List.mem_singleton.mp mem
    have known : ((born entity edges).act g).kind? entity.id = some entity.kind := by
      rw [kind?_born, if_pos rfl]
    -- The new entity lies below the domain itself, or below a participant of it.
    have above : ∀ k ∈ entity.kind.parents, ∃ y, g.Local d y ∧ g.kind? y = some k ∧
        y ∈ ((born entity edges).act g).neighbors entity.id k := by
      intro k parent
      obtain ⟨edge, listed, rfl⟩ := loc.2.1 k parent
      exact ⟨edge.parent, loc.2.2 edge listed, enabled.2.2.2.parent edge listed,
        (mem_neighbors_born wf enabled).mpr ⟨edge, listed, rfl, rfl⟩⟩
    refine ⟨known, ?_⟩
    obtain parent | ⟨isEndpoint, parent⟩ := EntityKind.of_isDiscoverable discoverable
    · obtain ⟨y, near, here, edge⟩ := above .domain parent
      exact .member (near.eq_of_domain wf here ▸ edge)
    · obtain ⟨p, near, here, edge⟩ := above .participant parent
      exact .endpoint known isEndpoint edge
        (loc.mem_parent enabled here (by decide) (near.mem_domain wf here (.inl rfl)))
  | flagged id kind active =>
    obtain rfl := List.mem_singleton.mp mem
    have near : g.Local d id := loc
    refine ⟨kind?_act wf enabled (by simp) enabled.1, loc.owned wf enabled (near.resolve_right fun held => ?_)⟩
    obtain ⟨k, known, shared⟩ := held
    obtain rfl := kind_unique enabled.1 known
    rw [(EntityKind.isShared_of_isDiscoverable discoverable).1] at shared
    cases shared
  | linked | unlinked => cases mem
  | forgotten => exact loc.elim

end Action

namespace Run
open DiscoveryGraph.Graph
variable {g h : Graph} {d : EntityId} {s : EntityId → Prop} {changes : List StateChange}

theorem owned_of_change (run : Run (Action.Local d) g changes h) (wf : g.WellFormed) {change : StateChange}
    (mem : change ∈ changes) (discoverable : change.kind.isDiscoverable) :
    h.kind? change.id = some change.kind ∧ h.Owned d change.id := by
  induction run with
  | nil => cases mem
  | cons enabled loc rest ih =>
    have wf' := Action.wellFormed_act wf enabled
    obtain here | later := List.mem_append.mp mem
    · obtain ⟨known, owned⟩ := loc.owned_of_change wf enabled here discoverable
      exact ⟨rest.kind?_of_local wf' known, rest.owned_of_local wf' owned⟩
    · exact ih wf' later

theorem attributed (run : Run (Action.Local d) g changes h) (regular : g.Regular) : Attributed g d changes h := by
  have wf := regular.wellFormed
  refine ⟨fun change mem discoverable => ⟨h, .inr rfl, run.owned_of_change wf mem discoverable⟩,
    fun x k known k' known' e => ?_⟩
  exact regular.owned_iff (run.wellFormed wf) known (run.kind?_of_local wf known)
    fun e owned => run.owned_of_local wf owned

/-- What is forgotten is reported with its kind. -/
theorem mem_of_forgets (run : Run (Action.Forgets s) g changes h) {change : StateChange}
    (mem : change ∈ changes) : s change.id ∧ g.kind? change.id = some change.kind := by
  induction run with
  | nil => cases mem
  | cons enabled allowed _ ih =>
    obtain ⟨entity, rfl, mine⟩ := allowed
    obtain here | later := List.mem_append.mp mem
    · simp only [Action.changes, List.mem_ite_nil_right, List.mem_singleton] at here
      obtain ⟨-, rfl⟩ := here
      exact ⟨mine, kind?_of_entity? enabled⟩
    · obtain ⟨gone, known⟩ := ih later
      rw [Action.act, kind?_forget] at known
      split at known
      · cases known
      · exact ⟨gone, known⟩

end Run

/-! ### Clearing -/

namespace Graph
variable {g h : Graph} {d e x : EntityId} {gone : IdSet} {changes : List StateChange}

theorem Without.owned {s : EntityId → Prop} (without : g.Without s h) (owned : h.Owned e x) : g.Owned e x := by
  have old : ∀ {x k y}, y ∈ h.neighbors x k → y ∈ g.neighbors x k := fun {x k y} near =>
    ((without.edges x k y).mp near).2.2
  cases owned with
  | self known => exact .self (without.kind?.mp known).2
  | member near => exact .member (old near)
  | endpoint known isEndpoint near member =>
    exact .endpoint (without.kind?.mp known).2 isEndpoint (old near) (old member)

theorem Clearing.attributed (clearing : g.Clearing d gone) (regular : g.Regular)
    (domain : g.kind? d = some .domain) (run : Run (Action.Forgets (· ∈ gone)) g changes h)
    (without : g.Without (· ∈ gone) h) : Attributed g d changes h := by
  have wf := regular.wellFormed
  have regular' := clearing.regular regular domain (run.wellFormed wf) without
  refine ⟨fun change mem discoverable => ?_, fun x k _ k' known' e => ?_⟩
  · obtain ⟨out, known⟩ := run.mem_of_forgets mem
    refine ⟨g, .inl rfl, known, ?_⟩
    obtain owned | ⟨k, known', shared, -⟩ := clearing.owned_or_orphan wf domain out
    · exact owned
    · obtain rfl := kind_unique known known'
      rw [(EntityKind.isShared_of_isDiscoverable discoverable).1] at shared
      cases shared
  · exact (regular'.owned_iff wf known' (without.kind?.mp known').2 fun e => without.owned).symm

/-- A domain that is cleared owns nothing. -/
theorem Clearing.not_owned (clearing : g.Clearing d gone) (without : g.Without (· ∈ gone) h)
    (wf : h.WellFormed) : ¬ h.Owned d x := by
  intro owned
  exact (without.kind?.mp (owned.domain wf)).1 clearing.domain

end Graph
end DiscoveryGraph
