import DiscoveryGraph.Proofs.Discovery.Growth
import DiscoveryGraph.Proofs.Discovery.Shelter

/-! Support through the stages of a notification. Whatever host, user or process is born comes with an
active child below it, the locators of an endpoint are set right once its bindings have changed, and
an activation raises nothing but what it backs. So hosts, users, processes and locators are backed
while they are active, as long as they were before. -/
namespace DiscoveryGraph

namespace EntityKind

theorem isShared_of_isPhysical {kind : EntityKind} (physical : kind.isPhysical) :
    kind.isShared ∧ kind ≠ locator := by
  revert physical
  cases kind <;> decide

theorem ne_locator_of_mem_derivedFrom {kind k : EntityKind} (mem : kind ∈ k.derivedFrom) :
    kind ≠ locator := by
  revert mem
  cases k <;> cases kind <;> decide

/-- What is contained in an entity are its children, and not the other way round. -/
theorem derivedFrom_of_containment : ∀ rule ∈ edgeRules, rule.kind = .containment →
    rule.parent.isPhysical ∧ rule.parent.derivedFrom = [rule.child] ∧
      rule.parent ∉ rule.child.derivedFrom := by decide

end EntityKind

namespace Graph
variable {g g' h : Graph} {d id x y tip : EntityId} {k kind : EntityKind} {name : String}
    {changes : List StateChange}

/-- Hosts, users, processes and locators are backed while they are active. -/
def Supported (g : Graph) : Prop := ∀ x k, g.kind? x = some k → k.isShared → g.Justified x

/-- Active endpoints belong to active participants. -/
def Attached (g : Graph) : Prop :=
  ∀ x y k, g.Exposed x y → g.kind? x = some k → k.isEndpoint = false

/-- Hosts, users and processes have children. -/
def Populated (g : Graph) : Prop := ∀ x k, g.kind? x = some k → k.isPhysical → ∃ y, y ∈ g.children x k

/-! ### New entities -/

/-- What is in the first graph is in the second one, with its flag and its edges. -/
structure Grows (g h : Graph) : Prop where
  kind? : ∀ {x k}, g.kind? x = some k → h.kind? x = some k
  alive : ∀ {x k}, g.kind? x = some k → h.alive x = g.alive x
  neighbors : ∀ {x k y}, y ∈ g.neighbors x k → y ∈ h.neighbors x k

namespace Grows

theorem refl : g.Grows g := ⟨fun known => known, fun _ => rfl, fun near => near⟩

theorem trans (first : g.Grows g') (second : g'.Grows h) : g.Grows h :=
  ⟨fun known => second.kind? (first.kind? known),
    fun known => (second.alive (first.kind? known)).trans (first.alive known),
    fun near => second.neighbors (first.neighbors near)⟩

theorem mem_children (grows : g.Grows h) (child : y ∈ g.children x k) : y ∈ h.children x k := by
  obtain ⟨kind, derived, near⟩ := Graph.mem_children.mp child
  exact Graph.mem_children.mpr ⟨kind, derived, grows.neighbors near⟩

theorem backed (grows : g.Grows h) (backed : g.Backed x) : h.Backed x := by
  obtain ⟨k, known, y, child, active⟩ := backed
  obtain ⟨kind, known'⟩ := exists_of_alive active
  exact ⟨k, grows.kind? known, y, grows.mem_children child, by rw [grows.alive known', active]⟩

theorem justified (grows : g.Grows h) (known : g.kind? x = some k) (before : g.Justified x) :
    h.Justified x := by
  intro active
  rw [grows.alive known] at active
  exact grows.backed (before active)

end Grows

theorem grows_born {entity : Entity} {edges : List Edge} (wf : g.WellFormed)
    (enabled : (Action.born entity edges).Enabled g) : g.Grows ((Action.born entity edges).act g) :=
  ⟨Action.kind?_act wf enabled (by simp), fun known => alive_born known wf enabled,
    fun near => mem_neighbors_links.mpr (.inr near)⟩

/-- Shared entities that were not there in the first graph have an active child, but for the last one,
which has no child yet. -/
def Furnished (g h : Graph) (tip : EntityId) : Prop :=
  ∀ x k, h.kind? x = some k → k.isShared → g.kind? x = none →
    h.Backed x ∨ x = tip ∧ ∀ y, y ∉ h.children x k

theorem furnished_self : g.Furnished g tip := by
  intro x k known _ unknown
  rw [unknown] at known
  cases known

/-- The next entity, born below the last one, backs that one and is the last one from then on. -/
theorem Furnished.born {entity : Entity} {edges : List Edge} (furnished : g.Furnished h tip) (wf : h.WellFormed)
    (enabled : (Action.born entity edges).Enabled h)
    (below : h.kind? tip = none ∨ ∃ edge ∈ edges, edge.parent = tip ∧ edge.rule.kind = .containment)
    (upward : ∀ edge ∈ edges, edge.rule.parent ∉ entity.kind.derivedFrom) :
    g.Furnished ((Action.born entity edges).act h) entity.id := by
  have grows := grows_born wf enabled
  have up := enabled.2.2.2
  intro x k known shared unknown
  rw [Action.kind?_born] at known
  split at known
  · rename_i same
    subst same
    obtain rfl := Option.some_inj.mp known
    refine .inr ⟨rfl, fun y child => ?_⟩
    obtain ⟨kind, derived, near⟩ := mem_children.mp child
    obtain ⟨edge, mem, rfl, -⟩ := (Action.mem_neighbors_born wf enabled).mp near
    exact upward edge mem derived
  · obtain backed | ⟨rfl, -⟩ := furnished x k known shared unknown
    · exact .inl (grows.backed backed)
    · obtain missing | ⟨edge, mem, rfl, contains⟩ := below
      · rw [missing] at known
        cases known
      obtain rfl := kind_unique known (up.parent edge mem)
      have derived : edge.rule.child ∈ edge.rule.parent.derivedFrom := by
        simp [EntityKind.derivedFrom_of_containment edge.rule (up.rule edge mem) contains]
      refine .inl ⟨_, grows.kind? known, entity.id, mem_children.mpr ⟨_, derived, ?_⟩, alive_of_born enabled⟩
      exact mem_neighbors_links.mpr (.inl ⟨edge, mem, .inl ⟨rfl, rfl, (up.child edge mem).1.symm⟩⟩)

section Resolves
variable {found : Option EntityId} {attributes : Attributes} {edges : EntityId → List Edge} {r : Resolved}

theorem Resolves.grows (resolves : Resolves g found kind name attributes edges r g') (wf : g.WellFormed) :
    g.Grows g' := by
  cases resolves with
  | known => exact .refl
  | born _ enabled => exact grows_born wf enabled

/-- A child is found or born below the last entity. -/
theorem Furnished.child (rule : EdgeRule) (furnished : g.Furnished h tip) (wf : h.WellFormed)
    (legal : rule ∈ edgeRules) (contains : rule.kind = .containment) (known : h.kind? tip = some rule.parent)
    (resolves : Resolves h (h.findChild tip rule.child name) rule.child name attributes
      (fun id => [⟨rule, tip, id⟩]) r g') : g.Furnished g' r.id := by
  obtain ⟨-, only, upward⟩ := EntityKind.derivedFrom_of_containment rule legal contains
  have derived : rule.child ∈ rule.parent.derivedFrom := by simp [only]
  cases resolves with
  | known found =>
    intro x k here shared unknown
    obtain backed | ⟨rfl, childless⟩ := furnished x k here shared unknown
    · exact .inl backed
    · obtain rfl := kind_unique known here
      exact absurd (mem_children.mpr ⟨_, derived, findChild_eq_some found⟩) (childless _)
  | born _ enabled =>
    refine furnished.born wf enabled (.inr ⟨_, List.mem_cons_self, rfl, contains⟩) ?_
    simpa [Entity.discovered] using upward

/-- The graph has grown, and the shared entities that are new have an active child. -/
structure Settles (g h : Graph) : Prop where
  grows : g.Grows h
  backed : ∀ x k, h.kind? x = some k → k.isShared → g.kind? x = none → h.Backed x

theorem settles_self : g.Settles g := by
  refine ⟨.refl, fun x k known _ unknown => ?_⟩
  rw [unknown] at known
  cases known

theorem ResolvesParticipant.settles {info : ParticipantInfo} (resolves : ResolvesParticipant g d info r g')
    (wf : g.WellFormed) : g.Settles g' := by
  cases resolves with
  | known => exact settles_self
  | @built g₁ g₂ g₃ _ host user process participant _ hosts users processes participants =>
    have wf₁ := hosts.wellFormed wf
    have wf₂ := users.wellFormed wf₁
    have wf₃ := processes.wellFormed wf₂
    have knownh := hosts.kind? fun _ => findGlobal_eq_some wf
    have knownu := users.kind? fun _ found => wf₁.kind?_of_mem (findChild_eq_some found)
    have knownp := participants.kind? (by simp)
    have furnished₁ : g.Furnished g₁ host.id := by
      cases hosts with
      | known => exact furnished_self
      | born _ enabled => exact furnished_self.born wf enabled (.inl (wf.fresh enabled.1)) (by simp)
    have furnished₂ := furnished₁.child ⟨.host, .user, .containment⟩ wf₁ (by decide) rfl knownh users
    have furnished₃ := furnished₂.child ⟨.user, .process, .containment⟩ wf₂ (by decide) rfl knownu processes
    refine ⟨(hosts.grows wf).trans ((users.grows wf₁).trans ((processes.grows wf₂).trans
      (participants.grows wf₃))), fun x k known shared unknown => ?_⟩
    cases participants with
    | known found => cases found
    | born _ enabled =>
      have furnished₄ := furnished₃.born wf₃ enabled
        (.inr ⟨_, List.mem_cons_self, rfl, rfl⟩) (by simp [Entity.discovered, EntityKind.derivedFrom])
      refine (furnished₄ x k known shared unknown).resolve_right fun last => ?_
      rw [last.1] at known
      obtain rfl := kind_unique known knownp
      cases shared

/-- Other entities may be born on top of it. -/
theorem Settles.resolves (settles : g.Settles h) (wf : h.WellFormed) (other : kind.isShared = false)
    (known : ∀ id, found = some id → h.kind? id = some kind)
    (resolves : Resolves h found kind name attributes edges r g') : g.Settles g' := by
  have grows := resolves.grows wf
  refine ⟨settles.grows.trans grows, fun x k here shared unknown => ?_⟩
  obtain rfl | old := resolves.eq_or_known here
  · obtain rfl := kind_unique here (resolves.kind? known)
    rw [shared] at other
    cases other
  · exact grows.backed (settles.backed x k old shared unknown)

theorem CreatesEndpoint.settles {info : EndpointInfo} (creates : CreatesEndpoint g d kind info r g')
    (wf : g.WellFormed) (isEndpoint : kind.isEndpoint) : g.Settles g' := by
  cases creates with
  | built participants topics endpoints =>
    have wf₁ := participants.wellFormed wf
    have settles := (participants.settles wf).resolves wf₁ rfl
      (fun _ found => (findTopic_eq_some wf₁ found).1) topics
    refine settles.resolves (topics.wellFormed wf₁) ?_ (by simp) endpoints
    revert isEndpoint
    cases kind <;> decide

theorem Creates.settles {a : Announcement} (creates : Creates g d a r g') (wf : g.WellFormed) :
    g.Settles g' := by
  cases a with
  | participant => exact ResolvesParticipant.settles creates wf
  | topic => exact settles_self.resolves wf rfl (fun _ found => (findTopic_eq_some wf found).1) creates
  | reader | writer => exact CreatesEndpoint.settles creates wf rfl

/-! ### Participants of new endpoints -/

/-- What is born exposes itself at most. -/
theorem Resolves.exposed_or_new (resolves : Resolves g found kind name attributes edges r g')
    (wf : g.WellFormed) (exposed : g'.Exposed x y) : g.Exposed x y ∨ x = r.id := by
  cases resolves with
  | known => exact .inl exposed
  | born _ enabled => exact ((exposed_born wf enabled).mp exposed).imp (fun old => old) fun new => new.1

/-- Active endpoints belong to active participants, but for one entity at most. -/
def AttachedBut (g : Graph) (id : EntityId) : Prop :=
  ∀ x y k, g.Exposed x y → g.kind? x = some k → k.isEndpoint → x = id

/-- The participant of an active endpoint is there and active. -/
theorem Attached.participant (attached : g.Attached) (rooted : g.Rooted) (known : g.kind? x = some k)
    (isEndpoint : k.isEndpoint) (active : g.alive x = true) :
    ∃ p ∈ g.neighbors x .participant, g.alive p = true := by
  have container := EntityKind.container_of_isEndpoint isEndpoint
  obtain ⟨p, near⟩ := rooted x k known .participant (EntityKind.participant_mem_parents isEndpoint)
  refine ⟨p, near, ?_⟩
  cases state : g.alive p with
  | true => rfl
  | false =>
    rw [attached x p k ⟨⟨k, .participant, known, container, near⟩, active, state⟩ known] at isEndpoint
    cases isEndpoint

theorem Attached.but (attached : g.Attached) : g.AttachedBut id := by
  intro x y k exposed known isEndpoint
  rw [attached x y k exposed known] at isEndpoint
  cases isEndpoint

theorem AttachedBut.attached (but : g.AttachedBut id) (known : g.kind? id = some kind)
    (other : kind.isEndpoint = false) : g.Attached := by
  intro x y k exposed here
  cases isEndpoint : k.isEndpoint with
  | false => rfl
  | true =>
    obtain rfl := but x y k exposed here isEndpoint
    rw [kind_unique here known, other] at isEndpoint
    cases isEndpoint

theorem Attached.but_new (attached : g.Attached) (wf : g.WellFormed)
    (resolves : Resolves g found kind name attributes edges r g') : g'.AttachedBut r.id := by
  intro x y k exposed known isEndpoint
  refine (resolves.exposed_or_new wf exposed).resolve_left fun old => ?_
  obtain ⟨⟨kind', known'⟩, -⟩ := old.1.known wf
  obtain rfl := kind_unique known (resolves.kind?_of_known wf known')
  rw [attached x y _ old known'] at isEndpoint
  cases isEndpoint

theorem Attached.resolves (attached : g.Attached) (wf : g.WellFormed) (other : kind.isEndpoint = false)
    (known : ∀ id, found = some id → g.kind? id = some kind)
    (resolves : Resolves g found kind name attributes edges r g') : g'.Attached :=
  (attached.but_new wf resolves).attached (resolves.kind? known) other

theorem ResolvesParticipant.attached {info : ParticipantInfo} (resolves : ResolvesParticipant g d info r g')
    (wf : g.WellFormed) (attached : g.Attached) : g'.Attached := by
  have others : ∀ kind ∈ [EntityKind.host, .user, .process, .participant], kind.isEndpoint = false := by decide
  exact resolves.composed (fun g _ h => g.Attached → h.Attached) (fun _ => id)
    (fun first second attached => second (first attached))
    (fun wf mem known resolves attached => attached.resolves wf (others _ mem) known resolves) wf attached

theorem CreatesEndpoint.attached {info : EndpointInfo} (creates : CreatesEndpoint g d kind info r g')
    (wf : g.WellFormed) (attached : g.Attached) : g'.AttachedBut r.id := by
  cases creates with
  | @built _ _ _ _ _ endpoint participants topics endpoints =>
    show g'.AttachedBut endpoint.id
    have wf₁ := participants.wellFormed wf
    have attached₂ := (participants.attached wf attached).resolves wf₁ rfl
      (fun _ found => (findTopic_eq_some wf₁ found).1) topics
    exact attached₂.but_new (topics.wellFormed wf₁) endpoints

/-- Nothing but the announced entity itself is created apart from an active participant. -/
theorem Creates.attached {a : Announcement} (creates : Creates g d a r g') (wf : g.WellFormed)
    (attached : g.Attached) : g'.AttachedBut r.id := by
  cases a with
  | participant => exact (ResolvesParticipant.attached creates wf attached).but
  | topic => exact (attached.resolves wf rfl (fun _ found => (findTopic_eq_some wf found).1) creates).but
  | reader | writer => exact CreatesEndpoint.attached creates wf attached

end Resolves

/-! ### Locators -/

/-- What the locators that were rebound do not concern is backed as before. -/
theorem Rebound.justified {addresses : List String} {r : ResolvedLocators}
    (rebound : Rebound id addresses g r g') (wf : g.WellFormed)
    (known : g'.kind? x = some k) (shared : k.isShared) (outside : x ∉ r.ids) (supported : g.Supported) :
    g'.Justified x := by
  have run := rebound.run
  have old : g.kind? x = some k ∧ ∀ kind ∈ k.derivedFrom, g'.neighbors x kind = g.neighbors x kind := by
    by_cases locator : k = .locator
    · subst locator
      obtain ⟨old, same⟩ := rebound.untouched x known outside
      exact ⟨old, fun kind _ => same kind⟩
    · have old := run.kind?_of_rebound wf known locator
      exact ⟨old, fun kind derived => run.neighbors_of_rebinds wf old locator
        (EntityKind.ne_locator_of_mem_derivedFrom derived)⟩
  obtain ⟨old, same⟩ := old
  intro active
  rw [alive_of_rebinds_run run wf old] at active
  obtain ⟨k', here, y, child, alive⟩ := supported x k old shared active
  obtain rfl := kind_unique old here
  obtain ⟨kind, derived, near⟩ := mem_children.mp child
  refine ⟨k, known, y, mem_children.mpr ⟨kind, derived, by rwa [same kind derived]⟩, ?_⟩
  rw [alive_of_rebinds_run run wf (wf.kind?_of_mem near), alive]

/-- Once the locators that were rebound are set, they are backed as well. -/
theorem Rederived.supported {ids : IdSet} (rederived : Rederived g ids changes h) (wf : g.WellFormed)
    (others : ∀ x k, g.kind? x = some k → k.isShared → x ∉ ids → g.Justified x) : h.Supported := by
  have alike := rederived.run.alike_of_marks
  have endpoints : ∀ x k y, y ∈ g.children x k → h.alive y = g.alive y := by
    intro x k y child
    obtain ⟨kind, derived, near⟩ := mem_children.mp child
    refine rederived.run.alive_of_marks fun mem => ?_
    obtain rfl := kind_unique (rederived.locators y mem) (wf.kind?_of_mem near)
    exact EntityKind.ne_locator_of_mem_derivedFrom derived rfl
  intro x k known shared active
  rw [alike.kind?] at known
  by_cases mem : x ∈ ids
  · rw [rederived.set x mem, List.any_eq_true] at active
    obtain ⟨y, child, alive⟩ := active
    refine ⟨.locator, by rw [alike.kind?, rederived.locators x mem], y, by rwa [alike.children], ?_⟩
    rw [endpoints x _ y child, alive]
  · rw [rederived.run.alive_of_marks mem] at active
    obtain ⟨k', here, y, child, alive⟩ := others x k known shared mem active
    exact ⟨k', by rw [alike.kind?, here], y, by rwa [alike.children], by rw [endpoints x k' y child, alive]⟩

/-! ### Notifications -/

section Presents
variable {n : Notification} {existing : Option EntityId}

theorem Announced.settles {announced : Resolved} (announces : Announced g n existing announced g')
    (wf : g.WellFormed) : g.Settles g' ∧ g'.WellFormed := by
  cases existing with
  | some id =>
    obtain ⟨-, rfl⟩ := announces
    exact ⟨settles_self, wf⟩
  | none =>
    have creates : Creates g n.domain n.entity announced g' := announces
    exact ⟨creates.settles wf, creates.wellFormed wf⟩

theorem Settles.supported (settles : g.Settles h) (supported : g.Supported) : h.Supported := by
  intro x k known shared
  cases old : g.kind? x with
  | none => exact fun _ => settles.backed x k known shared old
  | some kind =>
    obtain rfl := kind_unique known (settles.grows.kind? old)
    exact settles.grows.justified old (supported x k old shared)

theorem Settles.populated (settles : g.Settles h) (populated : g.Populated) : h.Populated := by
  intro x k known physical
  cases old : g.kind? x with
  | none =>
    have shared := (EntityKind.isShared_of_isPhysical physical).1
    obtain ⟨k', here, y, child, -⟩ := settles.backed x k known shared old
    obtain rfl := kind_unique known here
    exact ⟨y, child⟩
  | some kind =>
    obtain rfl := kind_unique known (settles.grows.kind? old)
    obtain ⟨y, child⟩ := populated x k old physical
    exact ⟨y, settles.grows.mem_children child⟩

theorem Alike.populated (alike : g.Alike h) (populated : g.Populated) : h.Populated := by
  intro x k known physical
  rw [alike.kind?] at known
  rw [alike.children]
  exact populated x k known physical

theorem Presents.supported (presents : Presents g n existing changes g') (wf : g.WellFormed)
    (supported : g.Supported) : g'.Supported := by
  cases presents with
  | @done g₁ g₂ g₃ g₄ announced touched appeared rederived announces known₁ rebound appears sets =>
    obtain ⟨settles, wf₁⟩ := announces.settles wf
    have supported₁ := settles.supported supported
    have wf₂ := rebound.run.wellFormed wf₁
    have raised := appears.raised
    refine sets.supported (raised.wellFormed wf₂) fun x k known shared outside => ?_
    rw [raised.alike.kind?] at known
    have justified₂ := rebound.justified wf₁ known shared outside supported₁
    have known₂ := rebound.run.kind?_of_rebinds wf₁ known₁
    have unshared : n.entity.kind.isShared = false := by cases n.entity <;> rfl
    unfold Appeared at appears
    split at appears
    · refine appears.justified wf₂ known ?_ ?_ justified₂
      · rintro rfl
        cases shared
      · rintro rfl
        rw [kind_unique known known₂, unshared] at shared
        cases shared
    · rwa [appears.2]

theorem Presents.populated (presents : Presents g n existing changes g') (wf : g.WellFormed)
    (populated : g.Populated) : g'.Populated := by
  cases presents with
  | @done g₁ g₂ g₃ g₄ announced touched appeared rederived announces known₁ rebound appears sets =>
    obtain ⟨settles, wf₁⟩ := announces.settles wf
    refine sets.run.alike_of_marks.populated (appears.raised.alike.populated fun x k known physical => ?_)
    have other := (EntityKind.isShared_of_isPhysical physical).2
    have old := rebound.run.kind?_of_rebound wf₁ known other
    obtain ⟨y, child⟩ := settles.populated populated x k old physical
    obtain ⟨kind, derived, near⟩ := mem_children.mp child
    refine ⟨y, mem_children.mpr ⟨kind, derived, ?_⟩⟩
    rwa [rebound.run.neighbors_of_rebinds wf₁ old other (EntityKind.ne_locator_of_mem_derivedFrom derived)]

theorem Presents.attached (presents : Presents g n existing changes g') (wf : g.WellFormed)
    (attached : g.Attached) : g'.Attached := by
  cases presents with
  | @done g₁ g₂ g₃ g₄ announced touched appeared rederived announces known₁ rebound appears sets =>
    obtain ⟨-, wf₁⟩ := announces.settles wf
    have wf₂ := rebound.run.wellFormed wf₁
    have wf₃ := appears.raised.wellFormed wf₂
    -- What is exposed in the end was exposed before the activation.
    have before : ∀ x y, g'.Exposed x y → g₂.Exposed x y ∧ (existing = none → x ≠ announced.id) := by
      intro x y exposed
      rw [exposed_of_marks sets.run wf₃ sets.locators] at exposed
      unfold Appeared at appears
      split at appears
      · exact (appears.exposed_before exposed).imp (fun early => early) fun other _ => other
      · rename_i silent
        rw [appears.2] at exposed
        exact ⟨exposed, fun new => absurd (.inl new) silent⟩
    intro x y k exposed known
    obtain ⟨exposed₂, other⟩ := before x y exposed
    rw [sets.run.alike_of_marks.kind?, appears.raised.alike.kind?] at known
    have exposed₁ := (exposed_of_rebinds_run rebound.run wf₁).mp exposed₂
    obtain ⟨⟨kind, known₁⟩, -⟩ := exposed₁.1.known wf₁
    obtain rfl := kind_unique known (rebound.run.kind?_of_rebinds wf₁ known₁)
    cases existing with
    | some id =>
      obtain ⟨-, rfl⟩ := announces
      exact attached x y k exposed₁ known₁
    | none =>
      have creates : Creates g n.domain n.entity announced g₁ := announces
      cases isEndpoint : k.isEndpoint with
      | false => rfl
      | true => exact absurd (creates.attached wf attached x y k exposed₁ known₁ isEndpoint) (other rfl)

end Presents

/-- A removal takes the backing from nothing that stays active. -/
theorem Subsides.supported (subsides : g.Subsides changes h) (supported : g.Supported) : h.Supported := by
  intro x k known shared
  rw [subsides.lowered.alike.kind?] at known
  exact subsides.justified (supported x k known shared)

/-- A run of flags that exposes nothing leaves endpoints with active participants. -/
theorem Attached.of_alike (attached : g.Attached) (alike : g.Alike h)
    (covered : ∀ x y, h.Exposed x y → g.Exposed x y) : h.Attached := by
  intro x y k exposed known
  rw [alike.kind?] at known
  exact attached x y k (covered x y exposed) known

/-- Whichever of support, attached endpoints and children the first graph has, the second one has too. -/
structure Upholds (g h : Graph) : Prop where
  supported : g.Supported → h.Supported
  attached : g.Attached → h.Attached
  populated : g.Populated → h.Populated

theorem Ingests.upholds {n : Notification} (ingests : Ingests g n changes g') (wf : g.WellFormed) :
    g.Upholds g' := by
  cases ingests with
  | present _ _ presents _ => exact ⟨presents.supported wf, presents.attached wf, presents.populated wf⟩
  | @removal id valid removed removes =>
    have known := (((validate_checks wf).of_ok valid).2 id rfl).1
    have alike := removes.lowered.alike
    refine ⟨removes.subsides.supported, fun attached => ?_, alike.populated⟩
    exact attached.of_alike alike fun x y => removes.exposed_before wf known

end Graph
end DiscoveryGraph
