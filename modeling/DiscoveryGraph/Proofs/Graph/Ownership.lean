import DiscoveryGraph.Proofs.Graph.Action

/-! Ownership. In the graphs that discovery builds every entity has all its parents, and the topic
of an endpoint lies in the domain of its participant. What a domain owns then stays its own, and
a run whose actions stay local to one domain leaves everything alone that another domain owns. -/
namespace DiscoveryGraph

namespace EntityKind

/-- Entities of these kinds belong to no domain. -/
def isShared : EntityKind → Bool
  | host | user | process | locator => true
  | _ => false

theorem of_adjoins_domain {kind : EntityKind} (adjoins : kind.Adjoins .domain) :
    kind = .participant ∨ kind = .topic := by
  revert adjoins
  cases kind <;> decide

/-- Locator bindings are no parent edges, from either end. -/
theorem locatorBinding_not_mem_parents : ∀ rule ∈ edgeRules, rule.kind = .locatorBinding →
    rule.child ∉ rule.parent.parents ∧ rule.parent ∉ rule.child.parents ∧ rule.child = .locator := by decide

end EntityKind

namespace Graph
variable {g : Graph} {a : Action} {d e x y z : EntityId} {k kind : EntityKind}

/-- Every entity has all its parents. -/
def Rooted (g : Graph) : Prop :=
  ∀ x kind, g.kind? x = some kind → ∀ k ∈ kind.parents, ∃ y, y ∈ g.neighbors x k

/-- The participant and the topic of an endpoint lie in one domain. -/
def Square (g : Graph) : Prop :=
  ∀ x k p t d, g.kind? x = some k → k.isEndpoint → p ∈ g.neighbors x .participant → t ∈ g.neighbors x .topic →
    d ∈ g.neighbors p .domain → d ∈ g.neighbors t .domain

/-- The graphs that discovery builds. -/
structure Regular (g : Graph) : Prop where
  wellFormed : g.WellFormed
  rooted : g.Rooted
  square : g.Square

theorem regular_empty : (∅ : Graph).Regular := by
  have unknown : ∀ x, (∅ : Graph).kind? x = none := fun x => kind?_eq_none.mpr Std.ExtTreeMap.getElem?_empty
  exact ⟨wellFormed_empty, by simp [Rooted, unknown], by simp [Square, unknown]⟩

/-- What belongs to a domain: the domain, its participants and topics, and the endpoints of its
participants. -/
inductive Owned (g : Graph) (d : EntityId) : EntityId → Prop
  | self : g.kind? d = some .domain → Owned g d d
  | member {x : EntityId} : d ∈ g.neighbors x .domain → Owned g d x
  | endpoint {x p : EntityId} {k : EntityKind} : g.kind? x = some k → k.isEndpoint →
      p ∈ g.neighbors x .participant → d ∈ g.neighbors p .domain → Owned g d x

/-- What an operation on a domain may touch: what the domain owns, and what nobody owns. -/
def Local (g : Graph) (d x : EntityId) : Prop := g.Owned d x ∨ ∃ k, g.kind? x = some k ∧ k.isShared

namespace Owned

theorem kind? (wf : g.WellFormed) (owned : g.Owned d x) : ∃ k, g.kind? x = some k ∧ k.isShared = false ∧
    (k.isEndpoint ∨ k = .domain ∧ x = d ∨ (k = .participant ∨ k = .topic) ∧ d ∈ g.neighbors x .domain) := by
  cases owned with
  | self known => exact ⟨_, known, rfl, .inr (.inl ⟨rfl, rfl⟩)⟩
  | member near =>
    obtain ⟨kind, known, adjoins⟩ := wf.exists_of_mem near
    have kinds := EntityKind.of_adjoins_domain adjoins
    refine ⟨kind, known, ?_, .inr (.inr ⟨kinds, near⟩)⟩
    obtain rfl | rfl := kinds <;> rfl
  | @endpoint x p k known isEndpoint _ _ =>
    refine ⟨k, known, ?_, .inl isEndpoint⟩
    revert isEndpoint
    cases k <;> decide

/-- An endpoint is owned through its participant. -/
theorem participant (wf : g.WellFormed) (owned : g.Owned d x) (known : g.kind? x = some k)
    (isEndpoint : k.isEndpoint) : ∃ p ∈ g.neighbors x .participant, d ∈ g.neighbors p .domain := by
  cases owned with
  | self known' =>
    obtain rfl := kind_unique known' known
    cases isEndpoint
  | member near =>
    obtain ⟨kind, known', adjoins⟩ := wf.exists_of_mem near
    obtain rfl := kind_unique known known'
    obtain rfl | rfl := EntityKind.of_adjoins_domain adjoins <;> cases isEndpoint
  | endpoint _ _ near domain => exact ⟨_, near, domain⟩

/-- A participant or a topic is owned by its own domain. -/
theorem mem_domain (wf : g.WellFormed) (owned : g.Owned d x) (known : g.kind? x = some k)
    (kinds : k = .participant ∨ k = .topic) : d ∈ g.neighbors x .domain := by
  obtain ⟨k', known', -, isEndpoint | ⟨rfl, -⟩ | ⟨-, near⟩⟩ := owned.kind? wf
  · obtain rfl := kind_unique known known'
    obtain rfl | rfl := kinds <;> cases isEndpoint
  · obtain rfl := kind_unique known known'
    obtain h | h := kinds <;> cases h
  · exact near

/-- Nothing is owned twice. -/
theorem unique (wf : g.WellFormed) (owned : g.Owned d x) (owned' : g.Owned e x) : d = e := by
  obtain ⟨k, known, -, isEndpoint | ⟨rfl, rfl⟩ | ⟨kinds, near⟩⟩ := owned.kind? wf
  · obtain ⟨p, near, domain⟩ := owned.participant wf known isEndpoint
    obtain ⟨p', near', domain'⟩ := owned'.participant wf known isEndpoint
    have same : p = p' := wf.single known (EntityKind.participant_mem_parents isEndpoint) near near'
    subst same
    exact wf.single (wf.kind?_of_mem near) (by decide) domain domain'
  · obtain ⟨k', known', -, isEndpoint | ⟨-, rfl⟩ | ⟨kinds, -⟩⟩ := owned'.kind? wf
    · obtain rfl := kind_unique known known'
      cases isEndpoint
    · rfl
    · obtain rfl := kind_unique known known'
      obtain h | h := kinds <;> cases h
  · exact wf.single known (by obtain rfl | rfl := kinds <;> decide) near (owned'.mem_domain wf known kinds)

/-- What one domain owns is out of reach of an operation on another one. -/
theorem not_local (wf : g.WellFormed) (owned : g.Owned e x) (other : e ≠ d) : ¬ g.Local d x := by
  intro held
  obtain owned' | ⟨k, known, shared⟩ := held
  · exact other (owned.unique wf owned')
  · obtain ⟨k', known', unshared, -⟩ := owned.kind? wf
    obtain rfl := kind_unique known known'
    rw [shared] at unshared
    cases unshared

end Owned

theorem Local.mem_domain (wf : g.WellFormed) (near : g.Local d x) (known : g.kind? x = some k)
    (kinds : k = .participant ∨ k = .topic) : d ∈ g.neighbors x .domain := by
  obtain owned | ⟨k', known', shared⟩ := near
  · exact owned.mem_domain wf known kinds
  · obtain rfl := kind_unique known known'
    obtain rfl | rfl := kinds <;> cases shared

end Graph

/-! ### Local runs -/

/-- An action that an operation on a domain may take: a new entity comes with all its parents,
edges of existing entities are locator bindings, and nothing is touched that is not local. -/
def Action.Local (d : EntityId) (g : Graph) : Action → Prop
  | born entity edges => entity.kind ≠ .domain ∧
      (∀ k ∈ entity.kind.parents, ∃ edge ∈ edges, edge.rule.parent = k) ∧ ∀ edge ∈ edges, g.Local d edge.parent
  | linked edge | unlinked edge => edge.rule.kind = .locatorBinding ∧ g.Local d edge.parent
  | flagged id _ _ => g.Local d id
  | forgotten _ => False

namespace Action
open DiscoveryGraph.Graph
variable {g : Graph} {a : Action} {d e x y : EntityId} {k kind : EntityKind}

/-- Entities that are not forgotten do not change their kind. -/
theorem kind?_act (wf : g.WellFormed) (enabled : a.Enabled g) (stays : ∀ entity, a ≠ .forgotten entity)
    (known : g.kind? x = some kind) : (a.act g).kind? x = some kind := by
  cases a with
  | born entity edges =>
    rw [kind?_born, if_neg (wf.ne_fresh enabled.1 known), known]
  | linked | unlinked => exact known
  | flagged => rwa [act, kind?_of_profile? profile?_reflag]
  | forgotten entity => exact absurd rfl (stays entity)

theorem Local.not_forgotten (loc : a.Local d g) (entity : Entity) : a ≠ .forgotten entity := by
  intro same
  subst same
  exact loc.elim

theorem Local.kind? (loc : a.Local d g) (wf : g.WellFormed) (enabled : a.Enabled g)
    (known : g.kind? x = some kind) : (a.act g).kind? x = some kind :=
  kind?_act wf enabled loc.not_forgotten known

theorem profile?_born {entity : Entity} {edges : List Edge} (wf : g.WellFormed)
    (enabled : (born entity edges).Enabled g) (known : g.kind? x = some kind) :
    ((born entity edges).act g).profile? x = g.profile? x := by
  rw [Graph.profile?, act, entity?_links, entity?_add, if_neg (wf.ne_fresh enabled.1 known), Graph.profile?]

/-- Local actions leave what is there as it is, but for its flag. -/
theorem Local.profile? (loc : a.Local d g) (wf : g.WellFormed) (enabled : a.Enabled g)
    (known : g.kind? x = some kind) : (a.act g).profile? x = g.profile? x := by
  cases a with
  | born entity edges => exact profile?_born wf enabled known
  | linked | unlinked => rfl
  | flagged => exact profile?_reflag
  | forgotten => exact loc.elim

/-- Whatever is not forgotten keeps its parents: only locator bindings can be taken away. -/
theorem mem_parent_act (enabled : a.Enabled g) (stays : ∀ entity, a ≠ .forgotten entity)
    (known : g.kind? x = some kind) (parent : k ∈ kind.parents) (near : y ∈ g.neighbors x k) :
    y ∈ (a.act g).neighbors x k := by
  cases a with
  | born entity edges => exact mem_neighbors_links.mpr (.inr near)
  | linked edge => exact mem_neighbors_link.mpr (.inr near)
  | unlinked edge =>
    refine mem_neighbors_unlink.mpr ⟨?_, near⟩
    have binding : edge.rule.kind = .locatorBinding := by simpa [EdgeKind.isRemovable] using enabled.2
    obtain ⟨down, up, -⟩ := EntityKind.locatorBinding_not_mem_parents _ enabled.1.rule binding
    intro held
    obtain ⟨rfl, rfl, -⟩ | ⟨rfl, rfl, -⟩ := held
    · rw [enabled.1.parent, Option.some_inj] at known
      subst known
      exact down parent
    · rw [enabled.1.child, Option.some_inj] at known
      subst known
      exact up parent
  | flagged => exact near
  | forgotten entity => exact absurd rfl (stays entity)

/-- Local actions only add parents. -/
theorem Local.mem_parent (loc : a.Local d g) (enabled : a.Enabled g) (known : g.kind? x = some kind)
    (parent : k ∈ kind.parents) (near : y ∈ g.neighbors x k) : y ∈ (a.act g).neighbors x k :=
  mem_parent_act enabled loc.not_forgotten known parent near

/-- The edges of a new entity go up from it, so what is there gets no parent through them. -/
theorem neighbors_parent_born {entity : Entity} {edges : List Edge} (wf : g.WellFormed)
    (enabled : (born entity edges).Enabled g) (known : g.kind? x = some kind) (parent : k ∈ kind.parents) :
    ((born entity edges).act g).neighbors x k = g.neighbors x k := by
  refine Std.ExtTreeSet.ext_mem fun y => ?_
  rw [act, mem_neighbors_links, neighbors_add]
  refine or_iff_right fun held => ?_
  obtain ⟨edge, mem, ⟨rfl, rfl, -⟩ | ⟨rfl, -, -⟩⟩ := held
  · obtain rfl := kind_unique known (enabled.2.2.2.parent edge mem)
    exact EntityKind.not_mem_parents_of_mem_edgeRules _ (enabled.2.2.2.rule edge mem) parent
  · rw [(enabled.2.2.2.child edge mem).1, wf.fresh enabled.1] at known
    cases known

/-- Local actions leave the parents of what is there as they are: locator bindings are no parent
edges. -/
theorem Local.neighbors_parent (loc : a.Local d g) (wf : g.WellFormed) (enabled : a.Enabled g)
    (known : g.kind? x = some kind) (parent : k ∈ kind.parents) :
    (a.act g).neighbors x k = g.neighbors x k := by
  refine Std.ExtTreeSet.ext_mem fun y => ⟨fun near => ?_, loc.mem_parent enabled known parent⟩
  cases a with
  | born entity edges => rwa [neighbors_parent_born wf enabled known parent] at near
  | linked edge =>
    refine (mem_neighbors_link.mp near).resolve_left fun held => ?_
    obtain ⟨down, up, -⟩ := EntityKind.locatorBinding_not_mem_parents _ enabled.1.rule loc.1
    obtain ⟨rfl, rfl, -⟩ | ⟨rfl, rfl, -⟩ := held
    · obtain rfl := kind_unique known enabled.1.parent
      exact down parent
    · obtain rfl := kind_unique known enabled.1.child
      exact up parent
  | unlinked edge => exact (mem_neighbors_unlink.mp near).2
  | flagged => exact near
  | forgotten => exact loc.elim

theorem Local.owned (loc : a.Local d g) (wf : g.WellFormed) (enabled : a.Enabled g) (owned : g.Owned e x) :
    (a.act g).Owned e x := by
  cases owned with
  | self known => exact .self (loc.kind? wf enabled known)
  | member near =>
    obtain ⟨kind, known, adjoins⟩ := wf.exists_of_mem near
    refine .member (loc.mem_parent enabled known ?_ near)
    obtain rfl | rfl := EntityKind.of_adjoins_domain adjoins <;> decide
  | @endpoint x p k known isEndpoint near domain =>
    exact .endpoint (loc.kind? wf enabled known) isEndpoint
      (loc.mem_parent enabled known (EntityKind.participant_mem_parents isEndpoint) near)
      (loc.mem_parent enabled (wf.kind?_of_mem near) (by decide) domain)

theorem Local.local (loc : a.Local d g) (wf : g.WellFormed) (enabled : a.Enabled g) (near : g.Local e x) :
    (a.act g).Local e x := by
  obtain owned | ⟨k, known, shared⟩ := near
  · exact .inl (loc.owned wf enabled owned)
  · exact .inr ⟨k, loc.kind? wf enabled known, shared⟩

/-- A known entity of the new graph is new or was there before. -/
theorem Local.kind?_cases (loc : a.Local d g) (known : (a.act g).kind? x = some kind) :
    g.kind? x = some kind ∨ ∃ entity edges, a = .born entity edges ∧ entity.id = x ∧ entity.kind = kind := by
  cases a with
  | born entity edges =>
    rw [kind?_born] at known
    split at known
    · rename_i same
      exact .inr ⟨entity, edges, rfl, same, by simpa using known⟩
    · exact .inl known
  | linked | unlinked => exact .inl known
  | flagged => exact .inl (by rwa [act, kind?_of_profile? profile?_reflag] at known)
  | forgotten => exact loc.elim

/-- The neighbors of a new entity are the parents it was born with. -/
theorem mem_neighbors_born {entity : Entity} {edges : List Edge} (wf : g.WellFormed)
    (enabled : (born entity edges).Enabled g) :
    y ∈ ((born entity edges).act g).neighbors entity.id k ↔
      ∃ edge ∈ edges, edge.rule.parent = k ∧ edge.parent = y := by
  obtain ⟨next, -, -, up⟩ := enabled
  rw [act, mem_neighbors_links, neighbors_add]
  constructor
  · intro held
    obtain ⟨edge, mem, ⟨same, -, -⟩ | ⟨-, rfl, rfl⟩⟩ | old := held
    · exact absurd same (wf.ne_fresh next (up.parent edge mem))
    · exact ⟨edge, mem, rfl, rfl⟩
    · obtain ⟨kind, known, -⟩ := wf.exists_of_mem old
      exact absurd rfl (wf.ne_fresh next known)
  · intro fact
    obtain ⟨edge, mem, rfl, rfl⟩ := fact
    exact .inl ⟨edge, mem, .inr ⟨(up.child edge mem).1.symm, rfl, rfl⟩⟩

theorem Local.rooted (loc : a.Local d g) (wf : g.WellFormed) (enabled : a.Enabled g) (rooted : g.Rooted) :
    (a.act g).Rooted := by
  intro x kind known k parent
  obtain known | ⟨entity, edges, rfl, rfl, rfl⟩ := loc.kind?_cases known
  · obtain ⟨y, near⟩ := rooted x kind known k parent
    exact ⟨y, loc.mem_parent enabled known parent near⟩
  · obtain ⟨edge, mem, rfl⟩ := loc.2.1 k parent
    exact ⟨edge.parent, (mem_neighbors_born wf enabled).mpr ⟨edge, mem, rfl, rfl⟩⟩

theorem Local.square (loc : a.Local d g) (wf : g.WellFormed) (enabled : a.Enabled g) (square : g.Square) :
    (a.act g).Square := by
  intro x k p t e known isEndpoint nearp neart domain
  obtain known | ⟨entity, edges, rfl, rfl, rfl⟩ := loc.kind?_cases known
  · rw [loc.neighbors_parent wf enabled known (by revert isEndpoint; cases k <;> decide)] at nearp neart
    rw [loc.neighbors_parent wf enabled (wf.kind?_of_mem nearp) (by decide)] at domain
    rw [loc.neighbors_parent wf enabled (wf.kind?_of_mem neart) (by decide)]
    exact square x k p t e known isEndpoint nearp neart domain
  · -- Both parents of a new endpoint are local, so both lie in the domain of the operation.
    obtain ⟨edge, mem, kindp, rfl⟩ := (mem_neighbors_born wf enabled).mp nearp
    obtain ⟨edge', mem', kindt, rfl⟩ := (mem_neighbors_born wf enabled).mp neart
    have knownp := enabled.2.2.2.parent edge mem
    have knownt := enabled.2.2.2.parent edge' mem'
    rw [kindp] at knownp
    rw [kindt] at knownt
    have here := (loc.2.2 edge mem).mem_domain wf knownp (.inl rfl)
    have there := (loc.2.2 edge' mem').mem_domain wf knownt (.inr rfl)
    rw [loc.neighbors_parent wf enabled knownp (by decide)] at domain
    rw [wf.single knownp (by decide) domain here]
    exact loc.mem_parent enabled knownt (by decide) there

theorem Local.regular (loc : a.Local d g) (enabled : a.Enabled g) (regular : g.Regular) :
    (a.act g).Regular := by
  obtain ⟨wf, rooted, square⟩ := regular
  exact ⟨wellFormed_act wf enabled, loc.rooted wf enabled rooted, loc.square wf enabled square⟩

/-- A new domain has no parents to lack and no endpoints. -/
theorem regular_born_domain {entity : Entity} (regular : g.Regular) (kind : entity.kind = .domain)
    (enabled : (Action.born entity []).Enabled g) : ((Action.born entity []).act g).Regular := by
  have old : ∀ {x k}, ((Action.born entity []).act g).kind? x = some k → k ≠ .domain → g.kind? x = some k := by
    intro x k known other
    rw [Action.kind?_born] at known
    split at known
    · rw [kind, Option.some_inj] at known
      exact absurd known.symm other
    · exact known
  refine ⟨Action.wellFormed_act regular.wellFormed enabled, ?_, ?_⟩
  · intro x k known above parent
    refine regular.rooted x k (old known ?_) above parent
    intro same
    subst same
    simp [EntityKind.parents_eq] at parent
  · intro x k p t e known isEndpoint nearp neart member
    refine regular.square x k p t e (old known ?_) isEndpoint nearp neart member
    intro equal
    subst equal
    cases isEndpoint

/-- A locator binding of a local endpoint ends at nothing that is out of reach. -/
theorem not_joins_of_locatorBinding {edge : Edge} (legal : edge.Legal g)
    (binding : edge.rule.kind = .locatorBinding)
    (near : g.Local d edge.parent) (distant : ¬ g.Local d x) : ¬ edge.Joins x k y := by
  intro held
  obtain ⟨rfl, -, -⟩ | ⟨rfl, -, -⟩ := held
  · exact distant near
  · have locator := (EntityKind.locatorBinding_not_mem_parents _ legal.rule binding).2.2
    exact distant (.inr ⟨_, legal.child, by rw [locator]; rfl⟩)

/-- What another domain owns keeps its attributes, its flag and its relations. -/
theorem Local.frame (loc : a.Local d g) (wf : g.WellFormed) (enabled : a.Enabled g) (owned : g.Owned e x)
    (other : e ≠ d) : (a.act g).entity? x = g.entity? x ∧ ∀ k, (a.act g).neighbors x k = g.neighbors x k := by
  have distant := owned.not_local wf other
  obtain ⟨kind, known, -⟩ := owned.kind? wf
  cases a with
  | born entity edges =>
    have other : entity.id ≠ x := wf.ne_fresh enabled.1 known
    refine ⟨by rw [act, entity?_links, entity?_add, if_neg other], fun k => ?_⟩
    apply Std.ExtTreeSet.ext_mem
    intro y
    rw [act, mem_neighbors_links, neighbors_add]
    refine ⟨fun near => near.resolve_left ?_, .inr⟩
    intro held
    obtain ⟨edge, mem, ⟨rfl, -, -⟩ | ⟨same, -, -⟩⟩ := held
    · exact distant (loc.2.2 edge mem)
    · exact other (same.trans (enabled.2.2.2.child edge mem).1).symm
  | linked edge =>
    refine ⟨rfl, fun k => Std.ExtTreeSet.ext_mem fun y => ?_⟩
    rw [act, mem_neighbors_link]
    exact ⟨fun near => near.resolve_left (not_joins_of_locatorBinding enabled.1 loc.1 loc.2 distant), .inr⟩
  | unlinked edge =>
    refine ⟨rfl, fun k => Std.ExtTreeSet.ext_mem fun y => ?_⟩
    rw [act, mem_neighbors_unlink]
    exact ⟨fun near => near.2, fun near => ⟨not_joins_of_locatorBinding enabled.1 loc.1 loc.2 distant, near⟩⟩
  | flagged id kind active =>
    refine ⟨?_, fun _ => rfl⟩
    rw [act, entity?_reflag, if_neg]
    intro eq
    subst eq
    exact distant loc
  | forgotten => exact loc.elim

end Action

namespace Run
open DiscoveryGraph.Graph
variable {g g' : Graph} {changes : List StateChange} {d e x : EntityId} {k kind : EntityKind}

theorem regular (run : Run (Action.Local d) g changes g') (regular : g.Regular) : g'.Regular :=
  run.invariant Graph.Regular regular.wellFormed regular fun _ enabled loc held => loc.regular enabled held

theorem kind?_of_local (run : Run (Action.Local d) g changes g') (wf : g.WellFormed)
    (known : g.kind? x = some kind) : g'.kind? x = some kind :=
  run.invariant (fun h => h.kind? x = some kind) wf known
    fun wf enabled loc held => loc.kind? wf enabled held

theorem profile?_of_local (run : Run (Action.Local d) g changes g') (wf : g.WellFormed)
    (known : g.kind? x = some kind) : g'.profile? x = g.profile? x := by
  refine (run.invariant (fun h => h.kind? x = some kind ∧ h.profile? x = g.profile? x) wf ⟨known, rfl⟩ ?_).2
  intro h a wf enabled loc fact
  obtain ⟨there, same⟩ := fact
  exact ⟨loc.kind? wf enabled there, (loc.profile? wf enabled there).trans same⟩

theorem mem_parent_of_local (run : Run (Action.Local d) g changes g') (wf : g.WellFormed)
    (known : g.kind? x = some kind) (parent : k ∈ kind.parents) (near : e ∈ g.neighbors x k) :
    e ∈ g'.neighbors x k := by
  refine (run.invariant (fun h => h.kind? x = some kind ∧ e ∈ h.neighbors x k) wf ⟨known, near⟩ ?_).2
  intro h a wf enabled loc fact
  obtain ⟨there, held⟩ := fact
  exact ⟨loc.kind? wf enabled there, loc.mem_parent enabled there parent held⟩

theorem owned_of_local (run : Run (Action.Local d) g changes g') (wf : g.WellFormed) (owned : g.Owned e x) :
    g'.Owned e x :=
  run.invariant (·.Owned e x) wf owned fun wf enabled loc held => loc.owned wf enabled held

theorem local_of_local (run : Run (Action.Local d) g changes g') (wf : g.WellFormed) (near : g.Local e x) :
    g'.Local e x :=
  run.invariant (·.Local e x) wf near fun wf enabled loc held => loc.local wf enabled held

/-- Entities keep their parents. -/
theorem neighbors_parent (run : Run (Action.Local d) g changes g') (wf : g.WellFormed)
    (known : g.kind? x = some kind) (parent : k ∈ kind.parents) : g'.neighbors x k = g.neighbors x k := by
  refine (run.invariant (fun h => h.kind? x = some kind ∧ h.neighbors x k = g.neighbors x k)
    wf ⟨known, rfl⟩ ?_).2
  intro h a wf enabled loc fact
  obtain ⟨there, same⟩ := fact
  exact ⟨loc.kind? wf enabled there, (loc.neighbors_parent wf enabled there parent).trans same⟩

/-- What another domain owns keeps its attributes, its flag and its relations. -/
theorem frame (run : Run (Action.Local d) g changes g') (wf : g.WellFormed) (owned : g.Owned e x)
    (other : e ≠ d) :
    g'.entity? x = g.entity? x ∧ ∀ k, g'.neighbors x k = g.neighbors x k := by
  refine (run.invariant (fun h => h.Owned e x ∧ h.entity? x = g.entity? x ∧
    ∀ k, h.neighbors x k = g.neighbors x k)
    wf ⟨owned, rfl, fun _ => rfl⟩ ?_).2
  intro h a wf enabled loc fact
  obtain ⟨held, entity, neighbors⟩ := fact
  obtain ⟨entity', neighbors'⟩ := loc.frame wf enabled held other
  exact ⟨loc.owned wf enabled held, entity'.trans entity, fun k => (neighbors' k).trans (neighbors k)⟩

end Run
end DiscoveryGraph
