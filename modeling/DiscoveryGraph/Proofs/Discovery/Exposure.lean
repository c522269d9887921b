import DiscoveryGraph.Proofs.Discovery.Ingestion

/-! What ingestion exposes. Whatever a notification mentions and the graph lacks is born active,
below the nearest of its ancestors that is known; if that one is inactive, the first newborn lies
exposed in it, and the activation that follows only sees it from the announced entity. -/
namespace DiscoveryGraph

namespace EntityKind

theorem container_ne_child : ∀ rule ∈ edgeRules, rule.parent.container ≠ some rule.child := by decide

theorem ne_locator_of_container {kind k : EntityKind} (container : kind.container = some k) :
    kind ≠ locator ∧ k ≠ locator := by
  revert container
  cases kind <;> cases k <;> decide

/-- An entity keeps alive what it lies in, and besides that only entities that keep nothing alive. -/
theorem container_of_mem_sustains {kind k : EntityKind} (mem : k ∈ kind.sustains) :
    kind.container = some k ∨ k = topic ∨ k = locator := by
  revert mem
  cases kind <;> cases k <;> decide

theorem mem_sustains_of_container {kind k : EntityKind} (container : kind.container = some k) :
    k ∈ kind.sustains := by
  revert container
  cases kind <;> cases k <;> decide

end EntityKind

namespace Graph

/-- Whatever an active entity lies in is active. -/
def Sheltered (g : Graph) : Prop := ∀ x y, g.Inside x y → g.alive x = true → g.alive y = true

variable {g g' h : Graph} {d id x y : EntityId} {k kind : EntityKind} {name : String}
    {changes : List StateChange}

theorem sheltered_iff : g.Sheltered ↔ ∀ x y, ¬ g.Exposed x y := by
  simp only [Sheltered, Exposed, not_and, Bool.not_eq_false]

/-! ### New entities -/

theorem alive_born {entity : Entity} {edges : List Edge} (known : g.kind? x = some k) (wf : g.WellFormed)
    (enabled : (Action.born entity edges).Enabled g) :
    ((Action.born entity edges).act g).alive x = g.alive x := by
  rw [alive, Action.act, entity?_links, entity?_add, if_neg (wf.ne_fresh enabled.1 known), alive]

theorem kind?_of_born {entity : Entity} {edges : List Edge} :
    ((Action.born entity edges).act g).kind? entity.id = some entity.kind := by
  rw [Action.kind?_born, if_pos rfl]

theorem alive_of_born {entity : Entity} {edges : List Edge} (enabled : (Action.born entity edges).Enabled g) :
    ((Action.born entity edges).act g).alive entity.id = true := by
  rw [Graph.alive, Action.act, entity?_links, entity?_add, if_pos rfl, Option.any_some, enabled.2.2.1]

theorem Inside.known (inside : g.Inside x y) (wf : g.WellFormed) :
    (∃ k, g.kind? x = some k) ∧ ∃ k, g.kind? y = some k := by
  obtain ⟨kind, k, known, -, near⟩ := inside
  exact ⟨⟨kind, known⟩, k, wf.kind?_of_mem near⟩

/-- A new entity lies in the parents that contain it, and nothing lies in it. -/
theorem inside_born {entity : Entity} {edges : List Edge} (wf : g.WellFormed)
    (enabled : (Action.born entity edges).Enabled g) :
    ((Action.born entity edges).act g).Inside x y ↔ g.Inside x y ∨
      x = entity.id ∧ ∃ edge ∈ edges, edge.parent = y ∧ entity.kind.container = some edge.rule.parent := by
  have up := enabled.2.2.2
  by_cases new : x = entity.id
  · subst new
    have old : ¬ g.Inside entity.id y := by
      intro inside
      obtain ⟨⟨kind, known⟩, -⟩ := inside.known wf
      exact absurd rfl (wf.ne_fresh enabled.1 known)
    simp only [old, false_or, true_and]
    simp only [Inside, kind?_of_born, Option.some.injEq, Action.mem_neighbors_born wf enabled]
    constructor
    · intro inside
      obtain ⟨_, k, rfl, container, edge, mem, rfl, parent⟩ := inside
      exact ⟨edge, mem, parent, container⟩
    · intro below
      obtain ⟨edge, mem, parent, container⟩ := below
      exact ⟨_, _, rfl, container, edge, mem, rfl, parent⟩
  · have kinds : ((Action.born entity edges).act g).kind? x = g.kind? x := by
      rw [Action.kind?_born, if_neg (Ne.symm new)]
    simp only [new, false_and, or_false]
    simp only [Inside, kinds]
    refine exists_congr fun kind => exists_congr fun k => and_congr_right fun known =>
      and_congr_right fun container => ?_
    rw [Action.act, mem_neighbors_links, neighbors_add]
    refine ⟨fun near => near.resolve_left ?_, .inr⟩
    intro joined
    obtain ⟨edge, mem, ⟨rfl, rfl, -⟩ | ⟨same, -⟩⟩ := joined
    · rw [up.parent edge mem, Option.some_inj] at known
      exact EntityKind.container_ne_child edge.rule (up.rule edge mem) (known ▸ container)
    · exact new (same.trans (up.child edge mem).1)

/-- A new entity lies exposed if it was born into an inactive one, and it exposes nothing else. -/
theorem exposed_born {entity : Entity} {edges : List Edge} (wf : g.WellFormed)
    (enabled : (Action.born entity edges).Enabled g) :
    ((Action.born entity edges).act g).Exposed x y ↔ g.Exposed x y ∨
      x = entity.id ∧ g.alive y = false ∧ ∃ edge ∈ edges, edge.parent = y ∧
        entity.kind.container = some edge.rule.parent := by
  have parents := enabled.2.2.2.parent
  rw [Exposed, inside_born wf enabled]
  constructor
  · intro exposed
    obtain ⟨inside | ⟨rfl, edge, mem, rfl, container⟩, active, dead⟩ := exposed
    · obtain ⟨⟨k, known⟩, k', known'⟩ := inside.known wf
      rw [alive_born known wf enabled] at active
      rw [alive_born known' wf enabled] at dead
      exact .inl ⟨inside, active, dead⟩
    · rw [alive_born (parents edge mem) wf enabled] at dead
      exact .inr ⟨rfl, dead, edge, mem, rfl, container⟩
  · intro exposed
    obtain ⟨inside, active, dead⟩ | ⟨rfl, dead, edge, mem, rfl, container⟩ := exposed
    · obtain ⟨⟨k, known⟩, k', known'⟩ := inside.known wf
      refine ⟨.inl inside, ?_, ?_⟩
      · rw [alive_born known wf enabled, active]
      · rw [alive_born known' wf enabled, dead]
    · refine ⟨.inr ⟨rfl, edge, mem, rfl, container⟩, alive_of_born enabled, ?_⟩
      rw [alive_born (parents edge mem) wf enabled, dead]

/-! ### Branches -/

/-- A line of new entities from `top` down to `tip`. It hangs from a known entity, if there is one,
and exposes nothing but `top`, and this if that entity is inactive. -/
structure Branch (g : Graph) (near : Option EntityId) (top : EntityId) (h : Graph) (kind : EntityKind)
    (tip : EntityId) : Prop where
  known : ∃ k, h.kind? top = some k
  alive : h.alive tip = true
  childless : ∀ k ∉ kind.parents, ∀ y, y ∉ h.neighbors tip k
  exposed : ∀ x y, h.Exposed x y ↔ g.Exposed x y ∨ x = top ∧ g.alive y = false ∧ near = some y

section Branch
variable {entity : Entity} {edges : List Edge} {near : Option EntityId} {top tip : EntityId}
    {attributes : Attributes}

theorem not_mem_neighbors_of_born (wf : g.WellFormed) (enabled : (Action.born entity edges).Enabled g)
    (single : ∀ edge ∈ edges, edge.rule.parent ∈ entity.kind.parents) :
    ∀ k ∉ entity.kind.parents, ∀ y, y ∉ ((Action.born entity edges).act g).neighbors entity.id k := by
  intro k other y near
  obtain ⟨edge, mem, rfl, -⟩ := (Action.mem_neighbors_born wf enabled).mp near
  exact other (single edge mem)

/-- A new entity below a known one, or below none, starts a branch. -/
theorem Branch.start (wf : g.WellFormed) (enabled : (Action.born entity edges).Enabled g)
    (single : ∀ edge ∈ edges, edge.rule.parent ∈ entity.kind.parents)
    (hangs : ∀ y, (∃ edge ∈ edges, edge.parent = y ∧ entity.kind.container = some edge.rule.parent) ↔
      near = some y) :
    g.Branch near entity.id ((Action.born entity edges).act g) entity.kind entity.id := by
  refine ⟨⟨_, kind?_of_born⟩, alive_of_born enabled, not_mem_neighbors_of_born wf enabled single, fun x y => ?_⟩
  rw [exposed_born wf enabled, hangs]

/-- A new entity below the tip goes on with the branch. -/
theorem Branch.extend (branch : g.Branch near top h kind tip) (wf : h.WellFormed)
    (enabled : (Action.born entity edges).Enabled h)
    (single : ∀ edge ∈ edges, edge.rule.parent ∈ entity.kind.parents)
    (hangs : ∀ edge ∈ edges, entity.kind.container = some edge.rule.parent → edge.parent = tip) :
    top ≠ entity.id ∧ g.Branch near top ((Action.born entity edges).act h) entity.kind entity.id := by
  obtain ⟨k, known⟩ := branch.known
  have other : top ≠ entity.id := (wf.ne_fresh enabled.1 known).symm
  refine ⟨other, ⟨k, ?_⟩, alive_of_born enabled, not_mem_neighbors_of_born wf enabled single, fun x y => ?_⟩
  · rw [Action.kind?_born, if_neg other.symm, known]
  · rw [exposed_born wf enabled, branch.exposed]
    refine or_iff_left ?_
    intro held
    obtain ⟨-, dead, edge, mem, rfl, container⟩ := held
    rw [hangs edge mem container, branch.alive] at dead
    cases dead

/-- Below the tip of a branch nothing is found. -/
theorem Branch.child (rule : EdgeRule) {r : Resolved} (branch : g.Branch near top h rule.parent tip)
    (wf : h.WellFormed) (legal : rule ∈ edgeRules) (single : rule.kind.isSingleParent)
    (resolves : Resolves h (h.findChild tip rule.child name) rule.child name attributes
      (fun id => [⟨rule, tip, id⟩]) r g') :
    top ≠ r.id ∧ g.Branch near top g' rule.child r.id := by
  cases resolves with
  | known found =>
    refine absurd (findChild_eq_some found) (branch.childless rule.child ?_ _)
    exact EntityKind.not_mem_parents_of_mem_edgeRules rule legal
  | born _ enabled =>
    refine branch.extend wf enabled ?_ (by simp)
    simpa [Entity.discovered] using (EntityKind.mem_parents_of_mem_edgeRules rule legal).mpr single

/-- The last one that is known among the host, the user and the process of a description. -/
def nearest? (g : Graph) (info : ParticipantInfo) : Option EntityId :=
  (g.findGlobal .host info.host).map fun host =>
    match g.findChild host .user info.user with
    | none => host
    | some user => (g.findChild user .process info.process).getD user

theorem Branch.participant {info : ParticipantInfo} {process : EntityId} {r : Resolved}
    (branch : g.Branch near top h .process process)
    (wf : h.WellFormed) (other : ∀ y, near = some y → g.kind? y ≠ some .process)
    (participants : Resolves h none .participant info.name (.participant info.guid)
      (participantEdges process d) r g') :
    ∃ top, g.Branch near top g' .participant r.id ∧
      (top = r.id ↔ ∃ y, near = some y ∧ g.kind? y = some .process) := by
  cases participants with
  | known found => cases found
  | born _ enabled =>
    obtain ⟨apart, longer⟩ := branch.extend wf enabled
      (by simp [participantEdges, Entity.discovered, EntityKind.parents_eq])
      (by simp [participantEdges, Entity.discovered, EntityKind.container])
    refine ⟨top, longer, iff_of_false apart ?_⟩
    intro held
    obtain ⟨y, here, kind⟩ := held
    exact other y here kind

/-- A new participant ends a branch that hangs from what is known of its context. -/
theorem ResolvesParticipant.branch {info : ParticipantInfo} {r : Resolved}
    (resolves : ResolvesParticipant g d info r g')
    (wf : g.WellFormed) (unknown : g.findByGuid [.participant] info.guid = none) :
    ∃ top, g.Branch (g.nearest? info) top g' .participant r.id ∧
      (top = r.id ↔ ∃ process, g.nearest? info = some process ∧ g.kind? process = some .process) := by
  cases resolves with
  | known found =>
    rw [unknown] at found
    cases found
  | @built _ _ _ _ _ _ _ participant _ hosts users processes participants =>
    have wf₁ := hosts.wellFormed wf
    have wf₂ := users.wellFormed wf₁
    have wf₃ := processes.wellFormed wf₂
    show ∃ top, g.Branch (g.nearest? info) top g' .participant participant.id ∧ (top = participant.id ↔ _)
    cases hosts with
    | born foundh enabledh =>
      have branch : g.Branch none _ _ .host _ := Branch.start wf enabledh (by simp) (by simp)
      obtain ⟨-, branch⟩ := branch.child ⟨.host, .user, .containment⟩ wf₁ (by decide) (by decide) users
      obtain ⟨-, branch⟩ := branch.child ⟨.user, .process, .containment⟩ wf₂ (by decide) (by decide) processes
      have none : g.nearest? info = none := by rw [nearest?, foundh, Option.map_none]
      rw [none]
      exact branch.participant wf₃ (by simp) participants
    | @known host foundh =>
      have knownh := findGlobal_eq_some wf foundh
      cases users with
      | born foundu enabledu =>
        have branch : g.Branch (some host) _ _ .user _ :=
          Branch.start wf enabledu (by simp [Entity.discovered, EntityKind.parents_eq])
          (by simp [Entity.discovered, EntityKind.container])
        obtain ⟨-, branch⟩ := branch.child ⟨.user, .process, .containment⟩ wf₂ (by decide) (by decide) processes
        have near : g.nearest? info = some host := by rw [nearest?, foundh, Option.map_some, foundu]
        rw [near]
        exact branch.participant wf₃ (by simp [knownh]) participants
      | @known user foundu =>
        have knownu := wf.kind?_of_mem (findChild_eq_some foundu)
        cases processes with
        | born foundp enabledp =>
          have branch : g.Branch (some user) _ _ .process _ :=
            Branch.start wf enabledp (by simp [Entity.discovered, EntityKind.parents_eq])
            (by simp [Entity.discovered, EntityKind.container])
          have near : g.nearest? info = some user := by
            simp only [nearest?, foundh, Option.map_some, foundu, foundp, Option.getD_none]
          rw [near]
          exact branch.participant wf₃ (by simp [knownu]) participants
        | @known process foundp =>
          have knownp := wf.kind?_of_mem (findChild_eq_some foundp)
          have near : g.nearest? info = some process := by
            simp only [nearest?, foundh, Option.map_some, foundu, foundp, Option.getD_some]
          rw [near]
          cases participants with
          | known found => cases found
          | born _ enabled =>
            refine ⟨_, Branch.start wf enabled ?_ ?_, iff_of_true rfl ⟨process, rfl, knownp⟩⟩
            · simp [participantEdges, Entity.discovered, EntityKind.parents_eq]
            · simp [participantEdges, Entity.discovered, EntityKind.container]

end Branch

/-! ### Announced entities -/

/-- The participant that an announcement describes is new, and the nearest entity above it that is
known is inactive. A process does not count for a participant that is announced itself, whose
activation starts right below it. -/
def Stranded (g : Graph) (announcement : Announcement) : Prop :=
  ∃ info, announcement.described? = some info ∧ g.findByGuid [.participant] info.guid = none ∧
    ∃ y, g.nearest? info = some y ∧ g.alive y = false ∧
      (announcement.kind = .participant → g.kind? y ≠ some .process)

section Creates
variable {found : Option EntityId} {attributes : Attributes} {edges : EntityId → List Edge}
    {r : Resolved} {a : Announcement}

theorem Resolves.alive_eq (resolves : Resolves g found kind name attributes edges r g') (wf : g.WellFormed)
    (known : g.kind? x = some k) : g'.alive x = g.alive x := by
  cases resolves with
  | known => rfl
  | born _ enabled => exact alive_born known wf enabled

theorem Resolves.kind?_of_known (resolves : Resolves g found kind name attributes edges r g')
    (wf : g.WellFormed) (known : g.kind? x = some k) : g'.kind? x = some k := by
  cases resolves with
  | known => exact known
  | born _ enabled => exact Action.kind?_act wf enabled (by simp) known

/-- What lies in nothing is not exposed. -/
theorem Resolves.exposed_iff (resolves : Resolves g found kind name attributes edges r g') (wf : g.WellFormed)
    (uncontained : kind.container = none) : g'.Exposed x y ↔ g.Exposed x y := by
  cases resolves with
  | known => exact Iff.rfl
  | born _ enabled =>
    rw [exposed_born wf enabled]
    simp [Entity.discovered, uncontained]

theorem Resolves.exposed_endpoint {participant topic : EntityId} (isEndpoint : kind.isEndpoint)
    (resolves : Resolves g none kind name attributes (endpointEdges kind participant topic) r g')
    (wf : g.WellFormed) :
    g.kind? r.id = none ∧ g'.alive r.id = true ∧
      (g'.Exposed x y ↔ g.Exposed x y ∨ x = r.id ∧ g.alive y = false ∧ y = participant) := by
  cases resolves with
  | known found => cases found
  | @born id _ enabled =>
    have parent : (∃ edge ∈ endpointEdges kind participant topic id, edge.parent = y ∧
        some .participant = some edge.rule.parent) ↔
        y = participant := by
      simpa [endpointEdges] using eq_comm
    refine ⟨wf.fresh enabled.1, alive_of_born enabled, ?_⟩
    rw [exposed_born wf enabled, Entity.discovered, EntityKind.container_of_isEndpoint isEndpoint, parent]

theorem ResolvesParticipant.exposed {info : ParticipantInfo}
    (resolves : ResolvesParticipant g d info r g') (wf : g.WellFormed)
    (sheltered : g.Sheltered) :
    (∀ x y, ¬ g'.Exposed x y) ∧ g.findByGuid [.participant] info.guid ≠ none ∨
      g.findByGuid [.participant] info.guid = none ∧ g'.alive r.id = true ∧
        ∃ top, (∃ k, g'.kind? top = some k) ∧
          (top = r.id ↔ ∃ y, g.nearest? info = some y ∧ g.kind? y = some .process) ∧
          ∀ x y, g'.Exposed x y ↔ x = top ∧ g.alive y = false ∧ g.nearest? info = some y := by
  rw [sheltered_iff] at sheltered
  by_cases unknown : g.findByGuid [.participant] info.guid = none
  · obtain ⟨top, branch, tops⟩ := resolves.branch wf unknown
    refine .inr ⟨unknown, branch.alive, top, branch.known, tops, fun x y => ?_⟩
    rw [branch.exposed, or_iff_right (sheltered x y)]
  · cases resolves with
    | known => exact .inl ⟨sheltered, unknown⟩
    | built none => exact absurd none unknown

theorem CreatesEndpoint.exposed {info : EndpointInfo} (creates : CreatesEndpoint g d kind info r g')
    (wf : g.WellFormed) (isEndpoint : kind.isEndpoint) (sheltered : g.Sheltered) :
    (∀ x y, g'.Exposed x y → x = r.id) ∧ g.findByGuid [.participant] info.participant.guid ≠ none ∨
      g.findByGuid [.participant] info.participant.guid = none ∧ g'.alive r.id = true ∧
        ∃ top ≠ r.id, ∀ x y, g'.Exposed x y ↔ x = top ∧ g.alive y = false ∧
          g.nearest? info.participant = some y := by
  cases creates with
  | @built g₁ g₂ _ participant topic endpoint participants topics endpoints =>
    have wf₁ := participants.wellFormed wf
    have wf₂ := topics.wellFormed wf₁
    have before : ∀ x y, g₂.Exposed x y ↔ g₁.Exposed x y := fun x y => topics.exposed_iff wf₁ rfl
    have added := fun x y => endpoints.exposed_endpoint (x := x) (y := y) isEndpoint wf₂
    obtain ⟨none₁, known⟩ | ⟨unknown, alive, top, ⟨k, here⟩, -, exposed⟩ := participants.exposed wf sheltered
    · refine .inl ⟨fun x y exposed => ?_, known⟩
      obtain old | ⟨new, -⟩ := (added x y).2.2.mp exposed
      · exact absurd ((before x y).mp old) (none₁ x y)
      · exact new
    · refine .inr ⟨unknown, (added top top).2.1, top, ?_, fun x y => ?_⟩
      · intro same
        subst same
        have fresh := (added endpoint.id endpoint.id).1
        rw [topics.kind?_of_known wf₁ here] at fresh
        cases fresh
      · rw [(added x y).2.2, before, exposed]
        refine or_iff_left ?_
        intro held
        obtain ⟨-, dead, rfl⟩ := held
        rw [topics.alive_eq wf₁ participants.kind?, alive] at dead
        cases dead

/-- What lies exposed in a graph where one entity was created: that entity at most, or something
was stranded and lies exposed elsewhere. -/
inductive Exposure (h : Graph) (id : EntityId) (stranded : Prop) : Prop
  | here : ¬ stranded → (∀ x y, h.Exposed x y → x = id) → Exposure h id stranded
  | elsewhere : stranded → h.alive id = true → (∃ x y, h.Exposed x y) →
      (∀ y, ¬ h.Exposed id y) → Exposure h id stranded

theorem Exposure.of_top {stranded : Prop} {near : Option EntityId} {top : EntityId} (alive : h.alive id = true)
    (exposed : ∀ x y, h.Exposed x y ↔ x = top ∧ g.alive y = false ∧ near = some y)
    (iff : stranded ↔ top ≠ id ∧ ∃ y, near = some y ∧ g.alive y = false) : h.Exposure id stranded := by
  by_cases held : stranded
  · obtain ⟨other, y, near, dead⟩ := iff.mp held
    refine .elsewhere held alive ⟨top, y, (exposed top y).mpr ⟨rfl, dead, near⟩⟩ fun z exposure => ?_
    exact other ((exposed id z).mp exposure).1.symm
  · refine .here held fun x y exposure => ?_
    obtain ⟨rfl, dead, near⟩ := (exposed x y).mp exposure
    exact Decidable.byContradiction fun other => held (iff.mpr ⟨other, y, near, dead⟩)

theorem stranded_iff {info : ParticipantInfo} (described : a.described? = some info) : g.Stranded a ↔
    g.findByGuid [.participant] info.guid = none ∧
      ∃ y, g.nearest? info = some y ∧ g.alive y = false ∧
        (a.kind = .participant → g.kind? y ≠ some .process) := by
  simp [Stranded, described]

theorem CreatesEndpoint.exposure {info : EndpointInfo} (creates : CreatesEndpoint g d kind info r g')
    (wf : g.WellFormed) (isEndpoint : kind.isEndpoint) (described : a.described? = some info.participant)
    (other : a.kind ≠ .participant) (sheltered : g.Sheltered) : g'.Exposure r.id (g.Stranded a) := by
  obtain ⟨only, known⟩ | ⟨unknown, alive, top, apart, exposed⟩ := creates.exposed wf isEndpoint sheltered
  · refine .here (fun stranded => ?_) only
    exact known ((stranded_iff described).mp stranded).1
  · refine .of_top alive exposed ?_
    rw [stranded_iff described]
    simp [unknown, apart, other]

theorem ResolvesParticipant.exposure {info : ParticipantInfo}
    (resolves : ResolvesParticipant g d info r g') (wf : g.WellFormed)
    (sheltered : g.Sheltered) : g'.Exposure r.id (g.Stranded (.participant info)) := by
  obtain ⟨none, known⟩ | ⟨unknown, alive, top, -, tops, exposed⟩ := resolves.exposed wf sheltered
  · refine .here (fun stranded => ?_) fun x y exposure => absurd exposure (none x y)
    exact known ((stranded_iff rfl).mp stranded).1
  · refine .of_top alive exposed ?_
    rw [stranded_iff rfl]
    constructor
    · intro stranded
      obtain ⟨-, y, near, dead, other⟩ := stranded
      refine ⟨fun same => ?_, y, near, dead⟩
      obtain ⟨z, near', process⟩ := tops.mp same
      rw [near, Option.some_inj] at near'
      subst near'
      exact other rfl process
    · intro below
      obtain ⟨apart, y, near, dead⟩ := below
      exact ⟨unknown, y, near, dead, fun _ process => apart (tops.mpr ⟨y, near, process⟩)⟩

/-- What is created for an announcement leaves nothing exposed but the announced entity, or it is
stranded, and then the announced entity is not exposed but something else is. -/
theorem Creates.exposure (creates : g.Creates d a r g') (wf : g.WellFormed) (sheltered : g.Sheltered) :
    g'.Exposure r.id (g.Stranded a) := by
  cases a with
  | participant info => exact ResolvesParticipant.exposure creates wf sheltered
  | topic info =>
    refine .here ?_ fun x y exposed => ?_
    · intro stranded
      obtain ⟨info', described, -⟩ := stranded
      cases described
    · rw [Resolves.exposed_iff creates wf rfl] at exposed
      exact absurd exposed (sheltered_iff.mp sheltered x y)
  | reader info | writer info =>
    exact CreatesEndpoint.exposure creates wf rfl rfl (by simp [Announcement.kind]) sheltered

end Creates

end Graph
end DiscoveryGraph
