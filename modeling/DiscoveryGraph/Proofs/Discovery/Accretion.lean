import DiscoveryGraph.Proofs.Discovery.Exposure

/-! Accretion. Until what is announced appears, a notification creates, binds and releases, and does nothing
else. However that ends, what was there keeps its flag and its parents, and what is new is active. -/
namespace DiscoveryGraph

/-- Creates, binds or releases something. -/
def Action.Builds : Action → Prop
  | born .. | linked _ | unlinked _ => True
  | flagged .. | forgotten _ => False

theorem Action.Builds.not_forgotten {a : Action} (builds : a.Builds) (entity : Entity) : a ≠ .forgotten entity := by
  rintro rfl
  exact builds

theorem Action.Rebinds.builds {g : Graph} {a : Action} {x : EntityId} (rebinds : a.Rebinds x g) : a.Builds := by
  cases a with
  | born | linked | unlinked => trivial
  | flagged | forgotten => exact rebinds.elim

namespace Graph
variable {g g' h : Graph} {x y : EntityId} {k kind : EntityKind}

/-! ### What building leaves as it is -/

/-- What is in the first graph is in the second one, with its flag and its parents, and what is new in the
second one is active. -/
structure Enlarges (g h : Graph) : Prop where
  kind? : ∀ {x k}, g.kind? x = some k → h.kind? x = some k
  alive : ∀ {x k}, g.kind? x = some k → h.alive x = g.alive x
  parents : ∀ {x kind k y}, g.kind? x = some kind → k ∈ kind.parents → y ∈ g.neighbors x k → y ∈ h.neighbors x k
  fresh : ∀ {x k}, h.kind? x = some k → g.kind? x = none → h.alive x = true

theorem Enlarges.refl : g.Enlarges g := by
  refine ⟨fun known => known, fun _ => rfl, fun _ _ near => near, fun known unknown => ?_⟩
  rw [unknown] at known
  cases known

theorem Enlarges.trans (first : g.Enlarges g') (second : g'.Enlarges h) : g.Enlarges h := by
  constructor
  case kind? => exact fun known => second.kind? (first.kind? known)
  case alive => exact fun known => (second.alive (first.kind? known)).trans (first.alive known)
  case parents =>
    exact fun known parent near => second.parents (first.kind? known) parent (first.parents known parent near)
  case fresh =>
    intro x k known unknown
    cases there : g'.kind? x with
    | none => exact second.fresh known there
    | some kind => rw [second.alive there, first.fresh there unknown]

theorem enlarges_act {a : Action} (builds : a.Builds) (wf : g.WellFormed) (enabled : a.Enabled g) :
    g.Enlarges (a.act g) := by
  constructor
  case kind? => exact Action.kind?_act wf enabled builds.not_forgotten
  case parents => exact Action.mem_parent_act enabled builds.not_forgotten
  case alive =>
    intro x k known
    cases a with
    | born => exact alive_born known wf enabled
    | linked | unlinked => rfl
    | flagged | forgotten => exact builds.elim
  case fresh =>
    intro x k known unknown
    cases a with
    | born entity edges =>
      rw [Action.kind?_born] at known
      split at known
      · rename_i same
        exact same ▸ alive_of_born enabled
      · rw [unknown] at known
        cases known
    | linked | unlinked => cases unknown.symm.trans known
    | flagged | forgotten => exact builds.elim

/-- Entities have been created, bound and released, and nothing else has been done. -/
def Accretes (g h : Graph) : Prop := ∃ changes, Run (fun _ a => a.Builds) g changes h

namespace Accretes

theorem refl : g.Accretes g := ⟨[], .nil⟩

theorem trans (first : g.Accretes g') (second : g'.Accretes h) : g.Accretes h := by
  obtain ⟨changes, run⟩ := first
  obtain ⟨changes', run'⟩ := second
  exact ⟨changes ++ changes', run.trans run'⟩

theorem wellFormed (accretes : g.Accretes h) (wf : g.WellFormed) : h.WellFormed := by
  obtain ⟨changes, run⟩ := accretes
  exact run.wellFormed wf

theorem enlarges (accretes : g.Accretes h) (wf : g.WellFormed) : g.Enlarges h := by
  obtain ⟨changes, run⟩ := accretes
  refine run.invariant g.Enlarges wf .refl ?_
  intro h a wf enabled builds held
  exact held.trans (enlarges_act builds wf enabled)

theorem of_atMostOne {sort : Action → Prop} (one : AtMostOne sort g h) (builds : ∀ a, sort a → a.Builds) :
    g.Accretes h := by
  obtain rfl | ⟨a, enabled, mine, rfl⟩ := one
  · exact .refl
  · exact ⟨_, .single enabled (builds a mine)⟩

end Accretes
end Graph

/-! ### The stages of a notification -/

namespace Update
open DiscoveryGraph.Graph
variable {ε α β : Type} {u : Update ε α}

/-- However the update ends, it has only created, bound and released by then. -/
def Builds (u : Update ε α) : Prop := u.Leads Accretes

theorem builds_pure (a : α) : (pure a : Update ε α).Builds := fun _ => .refl

theorem builds_get : (get : Update ε Graph).Builds := fun _ => .refl

theorem Builds.bind {f : α → Update ε β} (first : u.Builds) (rest : ∀ a, (f a).Builds) : (u >>= f).Builds :=
  Leads.bind first rest Accretes.trans id

theorem builds_forM {f : α → Update ε PUnit} {as : List α} (each : ∀ a, (f a).Builds) : (as.forM f).Builds :=
  leads_forM (fun _ => .refl) Accretes.trans each

end Update

namespace Graph
open Update
variable {d x y : EntityId} {kind : EntityKind} {name : String} {attributes : Attributes}

theorem create_builds : (create kind name attributes).Builds := fun g => ends_iff_after.mpr <|
  .of_atMostOne create_atMostOne fun a born => by
    obtain ⟨entity, rfl⟩ := born
    trivial

theorem bind_builds : (Graph.bind x y).Builds := fun g => ends_iff_after.mpr <|
  .of_atMostOne bind_atMostOne fun a linked => by
    obtain ⟨edge, rfl⟩ := linked
    trivial

theorem unbind_builds : (unbind x y).Builds := fun g => ends_iff_after.mpr <|
  .of_atMostOne unbind_atMostOne fun a unlinked => by
    obtain ⟨edge, rfl⟩ := unlinked
    trivial

theorem introduce_builds : (introduce kind name attributes).Builds := create_builds.bind fun _ => builds_pure _

theorem resolveGlobal_builds : (resolveGlobal kind name).Builds := by
  refine builds_get.bind fun g => ?_
  split
  · exact builds_pure _
  · exact introduce_builds

theorem resolveChild_builds : (resolveChild x kind name attributes).Builds := by
  refine builds_get.bind fun g => ?_
  split
  · exact builds_pure _
  · exact introduce_builds.bind fun _ => bind_builds.bind fun _ => builds_pure _

theorem resolveParticipant_builds {info : ParticipantInfo} : (resolveParticipant d info).Builds := by
  refine builds_get.bind fun g => ?_
  split
  · exact builds_pure _
  · refine resolveGlobal_builds.bind fun _ => resolveChild_builds.bind fun _ => resolveChild_builds.bind fun _ => ?_
    exact introduce_builds.bind fun _ => bind_builds.bind fun _ => bind_builds.bind fun _ => builds_pure _

theorem resolveTopic_builds {info : TopicInfo} : (resolveTopic d info).Builds := by
  refine builds_get.bind fun g => ?_
  split
  · exact builds_pure _
  · exact introduce_builds.bind fun _ => bind_builds.bind fun _ => builds_pure _

theorem createEndpoint_builds {info : EndpointInfo} : (createEndpoint d kind info).Builds := by
  refine resolveParticipant_builds.bind fun _ => resolveTopic_builds.bind fun _ => introduce_builds.bind fun _ => ?_
  exact bind_builds.bind fun _ => bind_builds.bind fun _ => builds_pure _

theorem resolveLocators_builds {addresses : List String} : (resolveLocators addresses).Builds := by
  induction addresses with
  | nil => exact builds_pure _
  | cons address addresses ih => exact resolveGlobal_builds.bind fun _ => ih.bind fun _ => builds_pure _

theorem refreshBindings_builds {entity : Announcement} : (refreshBindings x entity).Builds := by
  have rebind : ∀ {addresses}, (rebindLocators x addresses).Builds := by
    refine resolveLocators_builds.bind fun wanted => builds_get.bind fun g => ?_
    refine (builds_forM fun _ => unbind_builds.discard).bind fun _ => ?_
    exact (builds_forM fun _ => bind_builds.discard).bind fun _ => builds_pure _
  cases entity with
  | participant | topic => exact builds_pure _
  | reader | writer => exact rebind

theorem announce_builds {n : Notification} {existing : Option EntityId} : (announce n existing).Builds := by
  cases existing with
  | some id => exact builds_pure _
  | none =>
    show (createAnnounced n.domain n.entity).Builds
    cases n.entity with
    | participant => exact resolveParticipant_builds
    | topic => exact resolveTopic_builds
    | reader | writer => exact createEndpoint_builds

end Graph
end DiscoveryGraph
