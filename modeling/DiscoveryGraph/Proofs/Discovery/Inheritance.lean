import DiscoveryGraph.Proofs.Discovery.Ingestion

/-! What becomes of domains. Discovery leaves every domain exactly as it is, a removal or a stop lowers
flags and does nothing else, and a clearing takes domains away. Whichever it is, the domains that are
left are old ones under their old numbers, and none of them has become active. -/
namespace DiscoveryGraph
namespace Graph
variable {g g' : Graph} {d e : EntityId} {number other : UInt32}

/-- The entity is a domain with a number. -/
def Numbered (g : Graph) (number : UInt32) (d : EntityId) : Prop :=
  ∃ entity, g.entity? d = some entity ∧ entity.kind = .domain ∧ entity.attributes = .domain number

/-- The entity is an active domain with a number. -/
def Running (g : Graph) (number : UInt32) (d : EntityId) : Prop := g.Numbered number d ∧ g.alive d = true

theorem Numbered.kind? (numbered : g.Numbered number d) : g.kind? d = some .domain :=
  let ⟨entity, found, kind, _⟩ := numbered
  kind?_eq_some.mpr ⟨entity, found, kind⟩

/-- A domain has one number. -/
theorem Numbered.eq (numbered : g.Numbered number d) (numbered' : g.Numbered other d) : number = other := by
  obtain ⟨entity, found, -, attributes⟩ := numbered
  obtain ⟨entity', found', -, attributes'⟩ := numbered'
  obtain rfl : entity = entity' := Option.some.inj (found.symm.trans found')
  rw [attributes] at attributes'
  cases attributes'
  rfl

theorem numbered_congr (same : g'.profile? d = g.profile? d) : g'.Numbered number d ↔ g.Numbered number d :=
  exists_entity_congr (fun _ _ => Iff.rfl) same

/-- The domains of the second graph are among those of the first one, under the same numbers, and none
of them has become active since. -/
structure Inherits (g g' : Graph) : Prop where
  stays : ∀ d, g.kind? d = some .domain → g'.kind? d = none ∨ g'.kind? d = some .domain
  comes : ∀ d, g'.kind? d = some .domain → g.kind? d = some .domain
  profile : ∀ d, g'.kind? d = some .domain → g'.profile? d = g.profile? d
  lowered : ∀ d, g'.kind? d = some .domain → g'.alive d = true → g.alive d = true

namespace Inherits

/-- Domains that are left just as they were are inherited. -/
theorem of_entity? (stays : ∀ d, g.kind? d = some .domain → g'.kind? d = none ∨ g'.kind? d = some .domain)
    (comes : ∀ d, g'.kind? d = some .domain → g.kind? d = some .domain)
    (same : ∀ d, g'.kind? d = some .domain → g'.entity? d = g.entity? d) : g.Inherits g' := by
  refine ⟨stays, comes, fun d known => ?_, fun d known active => ?_⟩
  · rw [profile?, same d known, profile?]
  · rwa [Graph.alive, ← same d known]

theorem refl : g.Inherits g := of_entity? (fun _ => .inr) (fun _ => id) fun _ _ => rfl

theorem numbered_iff (inherits : g.Inherits g') (known : g'.kind? d = some .domain) :
    g'.Numbered number d ↔ g.Numbered number d :=
  numbered_congr (inherits.profile d known)

/-- Nothing has started running. -/
theorem running (inherits : g.Inherits g') (running : g'.Running number d) : g.Running number d := by
  obtain ⟨numbered, active⟩ := running
  have known := numbered.kind?
  exact ⟨(inherits.numbered_iff known).mp numbered, inherits.lowered d known active⟩

end Inherits

theorem Without.inherits {s : EntityId → Prop} (without : g.Without s g') : g.Inherits g' := by
  refine .of_entity? (fun d known => ?_) (fun d known => ?_) fun d known => ?_
  · by_cases out : s d
    · exact .inl (kind?_eq_none.mpr (without.gone d out))
    · exact .inr (without.kind?.mpr ⟨out, known⟩)
  · exact (without.kind?.mp known).2
  · exact without.kept d (without.kind?.mp known).1

end Graph

open DiscoveryGraph.Graph

/-- Discovery neither changes a domain nor creates one. -/
theorem Action.Discovers.domain {g : Graph} {a : Action} {d e : EntityId} (discovers : a.Discovers d g)
    (wf : g.WellFormed) (enabled : a.Enabled g) (known : g.kind? e = some .domain) :
    (a.act g).entity? e = g.entity? e := by
  cases a with
  | born entity edges =>
    rw [act, entity?_links, entity?_add, if_neg (wf.ne_fresh enabled.1 known)]
  | linked | unlinked => rfl
  | flagged id kind active =>
    rw [act, entity?_reflag, if_neg]
    rintro rfl
    exact discovers.2 (kind_unique enabled.1 known)
  | forgotten => exact discovers.1.elim

namespace Run
variable {g g' : Graph} {d e : EntityId} {s : EntityId → Prop} {changes : List StateChange}

theorem entity?_domain (run : Run (Action.Discovers d) g changes g') (wf : g.WellFormed)
    (known : g.kind? e = some .domain) : g'.entity? e = g.entity? e := by
  refine run.invariant (fun h => h.entity? e = g.entity? e) wf rfl ?_
  intro h a wf enabled discovers same
  have there : h.kind? e = some .domain := by rw [Graph.kind?, same, ← Graph.kind?, known]
  rw [discovers.domain wf enabled there, same]

theorem domain_of_local (run : Run (Action.Local d) g changes g') (wf : g.WellFormed)
    (known : g'.kind? e = some .domain) : g.kind? e = some .domain := by
  refine run.invariant (fun h => h.kind? e = some .domain → g.kind? e = some .domain) wf id ?_ known
  intro h a wf enabled loc earlier known
  obtain old | ⟨entity, edges, rfl, -, kind⟩ := loc.kind?_cases known
  · exact earlier old
  · exact absurd kind loc.1

theorem inherits_of_discovers (run : Run (Action.Discovers d) g changes g') (wf : g.WellFormed) :
    g.Inherits g' := by
  have loc := run.local_of_discovers
  refine .of_entity? (fun e known => .inr (loc.kind?_of_local wf known)) (fun e => loc.domain_of_local wf) ?_
  exact fun e known => run.entity?_domain wf (loc.domain_of_local wf known)

theorem inherits_of_lowered (run : Run (Action.Flags false s) g changes g') : g.Inherits g' := by
  have alike := run.alike
  constructor
  case stays => exact fun e known => .inr (by rw [alike.kind?, known])
  case comes => exact fun e known => by rwa [alike.kind?] at known
  case profile => exact fun e _ => alike.profile e
  case lowered =>
    intro e _ active
    cases before : g.alive e with
    | true => rfl
    | false =>
      rw [run.not_alive_of_lowered before] at active
      cases active

end Run

theorem Graph.Ingests.inherits {g g' : Graph} {n : Notification} {changes : List StateChange}
    (ingests : Ingests g n changes g') (wf : g.WellFormed) : g.Inherits g' := by
  cases ingests with
  | present _ _ _ discovers => exact discovers.inherits_of_discovers wf
  | removal _ _ removes => exact removes.lowered.inherits_of_lowered

end DiscoveryGraph
