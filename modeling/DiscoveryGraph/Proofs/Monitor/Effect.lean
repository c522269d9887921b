import DiscoveryGraph.Proofs.Discovery.Mention
import DiscoveryGraph.Proofs.Discovery.Repetition
import DiscoveryGraph.Proofs.Discovery.Shelter
import DiscoveryGraph.Proofs.Monitor.Identity

/-! The effect of a notification. In a graph that requests lead to, a notification that is accepted
leaves what it mentions and nothing else: each entity that was mentioned and not there is created as it
is mentioned, the announced endpoint is bound to the announced addresses, and the rest stays as it was
but for flags. -/
namespace DiscoveryGraph
namespace Graph
variable {g g' h : Graph} {d e x : EntityId} {k : EntityKind} {n : Notification} {addresses : List String}
    {existing : Option EntityId}

/-- What a notification of something that is there leaves in place of a graph. The announced entity is
the one given. -/
structure Incorporates (n : Notification) (g : Graph) (e : EntityId) (h : Graph) : Prop where
  announced : h.Bears e (n.entity.label n.domain)
  /-- What was there is what it was and is called what it was called. -/
  kept : ∀ {x k}, g.kind? x = some k → h.profile? x = g.profile? x ∧ ∀ label, h.Bears x label ↔ g.Bears x label
  /-- All that is mentioned is there once. -/
  once : ∀ m ∈ n.entity.mentions n.domain, ∃ x, ∀ y, h.Bears y m.label ↔ y = x
  /-- What is mentioned and was not there is new, is as it is mentioned, and lies below the mentioned
  parents alone. -/
  added : ∀ m ∈ n.entity.mentions n.domain, (∀ x, ¬ g.Bears x m.label) → ∃ x, g.kind? x = none ∧ h.Portrays x m
  /-- Nothing else is new. -/
  only : ∀ {x k}, g.kind? x = none → h.kind? x = some k →
    ∃ m ∈ n.entity.mentions n.domain, h.Portrays x m ∧ ∀ y, ¬ g.Bears y m.label
  /-- The announced entity is bound to the announced addresses. -/
  bound : ∀ x, x ∈ h.neighbors e .locator ↔ ∃ address ∈ n.entity.addresses, h.Bears x (.locator address)
  /-- What was there lies where it lay, but for locators below the announced entity. -/
  edges : ∀ {x k}, g.kind? x = some k → ∀ y, ¬ (y = e ∧ k = .locator) → (h.Below x y ↔ g.Below x y)

/-! ### Bindings -/

/-- An endpoint has been bound to the locators with some addresses, which are there now. -/
structure Binds (e : EntityId) (addresses : List String) (g h : Graph) : Prop where
  adds : Adds [.locator] g h
  below : ∀ {x y}, ¬ (y = e ∧ h.kind? x = some .locator) → (h.Below x y ↔ g.Below x y)
  bound : ∀ x, x ∈ h.neighbors e .locator ↔ ∃ address ∈ addresses, h.Bears x (.locator address)
  borne : ∀ address ∈ addresses, ∃ x, h.Bears x (.locator address)
  new : ∀ {x entity}, g.kind? x = none → h.entity? x = some entity →
    x ∈ h.neighbors e .locator ∧ entity.attributes = .plain

/-- The locators that an endpoint has been bound to are called by the addresses that were looked up. -/
theorem findLocator_iff_bears {address : String} (wf : g.WellFormed) (identified : g.Identified) :
    g.findGlobal .locator address = some x ↔ g.Bears x (.locator address) := by
  have answers := findLocator_answers wf address
  constructor
  · exact fun found => .top rfl rfl (answers.holds found)
  · intro bears
    have has := bears.hasKey (y := x) identified rfl (by simp)
    exact answers.eq (identified.answers has)

theorem Alike.bears_iff {label : Label} (alike : g.Alike h) : h.Bears x label ↔ g.Bears x label :=
  ⟨alike.symm.adds.bears, alike.adds.bears⟩

theorem Rebound.binds {touched : ResolvedLocators} (rebound : Rebound e addresses g touched g') (wf : g.WellFormed)
    (alike : g'.Alike h) (identified : h.Identified) : Binds e addresses g h := by
  have wf' := rebound.run.wellFormed wf
  have adds := rebound.run.adds_of_rebinds wf
  have found : ∀ {x address}, g'.findGlobal .locator address = some x ↔ h.Bears x (.locator address) :=
    (findLocator_iff_bears wf' (identified.of_alike alike.symm)).trans alike.bears_iff.symm
  refine ⟨(adds.trans alike.adds).mono (by simp), fun apart => ?_, fun x => ?_, fun address mem => ?_, ?_⟩
  · rw [alike.below_iff]
    refine below_of_rebinds_run rebound.run wf fun same locator => apart ⟨same, ?_⟩
    rw [alike.kind?, locator]
  · rw [alike.neighbors, rebound.bound]
    simp only [found]
  · obtain ⟨x, here⟩ := rebound.found address mem
    exact ⟨x, found.mp here⟩
  · intro x entity unknown here
    obtain ⟨entity', here', plain⟩ := (exists_entity_congr (p := fun other => other.attributes = entity.attributes)
      (fun _ _ => Iff.rfl) (alike.profile x)).mp ⟨entity, here, rfl⟩
    obtain ⟨-, near⟩ := rebound.of_unknown wf unknown (kind?_of_entity? here')
    exact ⟨by rwa [alike.neighbors], plain ▸ plain_of_rebinds_run rebound.run wf unknown here'⟩

/-- A new locator is as it is mentioned. -/
theorem Binds.portrays {announcement : Announcement} {entity : Entity}
    (binds : Binds e announcement.addresses g h) (wf : h.WellFormed)
    (announced : h.Bears e (announcement.label d)) (unknown : g.kind? x = none) (here : h.entity? x = some entity) :
    ∃ address ∈ announcement.addresses, h.Portrays x (announcement.locator d address) := by
  obtain ⟨near, plain⟩ := binds.new unknown here
  obtain ⟨address, mem, bears⟩ := (binds.bound x).mp near
  have known := wf.kind?_of_mem near
  refine ⟨address, mem, bears, ⟨entity, here, ?_, ?_, plain⟩, ?_, fun y below => ?_⟩
  · exact kind_unique (kind?_of_entity? here) known
  · cases bears with
    | keyed amounts _ has =>
      cases amounts
      obtain ⟨entity', here', ⟨-, named⟩, -⟩ := has
      rw [here, Option.some_inj] at here'
      rw [here', named]
      rfl
  · simpa [Announcement.locator] using ⟨e, announced, ((mem_neighbors_locator wf).mp near).2⟩
  · refine ⟨announcement.label d, by simp [Announcement.locator], ?_⟩
    have same : y = e := by
      refine Decidable.byContradiction fun other => ?_
      obtain ⟨rule, -, old, -⟩ := (binds.below fun both => other both.1).mp below
      rw [unknown] at old
      cases old
    rwa [same]

/-! ### All that is mentioned -/

theorem Announced.brings {announced : Resolved} (announces : Announced g n existing announced h)
    (regular : g.Regular) (domain : g.kind? n.domain = some .domain)
    (valid : g.validate n.domain n.entity = .ok existing) :
    Brings (n.entity.subjects n.domain) g h ∧ h.Bears announced.id (n.entity.label n.domain) := by
  cases existing with
  | some id =>
    obtain ⟨rfl, rfl⟩ := announces
    obtain ⟨bears, borne⟩ := borne_of_validate regular domain valid
    exact ⟨.of_borne borne, bears⟩
  | none => exact Creates.brings announces regular.wellFormed domain valid

theorem incorporates_of_binds (wf : g.WellFormed) (wf' : h.WellFormed)
    (identified : h.Identified) (brings : Brings (n.entity.subjects n.domain) g g')
    (bears : g'.Bears e (n.entity.label n.domain)) (binds : Binds e n.entity.addresses g' h) :
    Incorporates n g e h := by
  have adds := brings.adds.trans binds.adds
  have announced := binds.adds.bears bears
  have borne : ∀ m ∈ n.entity.mentions n.domain, ∃ x, h.Bears x m.label := by
    intro m mem
    obtain mem | mem := List.mem_append.mp mem
    · obtain ⟨x, bears⟩ := brings.borne m mem
      exact ⟨x, binds.adds.bears bears⟩
    · obtain ⟨address, listed, rfl⟩ := List.mem_map.mp mem
      exact binds.borne address listed
  have new : ∀ {x k}, g.kind? x = none → h.kind? x = some k →
      ∃ m ∈ n.entity.mentions n.domain, h.Portrays x m := by
    intro x k unknown known
    cases early : g'.kind? x with
    | some k' =>
      obtain ⟨m, mem, portrays⟩ := brings.new unknown early
      refine ⟨m, List.mem_append_left _ mem, portrays.mono binds.adds fun y => binds.below fun both => ?_⟩
      exact Announcement.kind_of_mem_subjects mem (kind_unique (binds.adds.kind? portrays.known) both.2)
    | none =>
      obtain ⟨entity, here, -⟩ := kind?_eq_some.mp known
      obtain ⟨address, listed, portrays⟩ := binds.portrays wf' announced early here
      exact ⟨_, List.mem_append_right _ (List.mem_map_of_mem listed), portrays⟩
  have unborne : ∀ {x m}, g.kind? x = none → h.Portrays x m → ∀ y, ¬ g.Bears y m.label := by
    intro x m unknown portrays y old
    obtain ⟨k, known⟩ := old.known
    obtain rfl := (adds.bears old).unique identified portrays.bears
    rw [unknown] at known
    cases known
  refine ⟨announced, fun known => ⟨adds.profile? known, fun label => adds.bears_iff wf known⟩, ?_, ?_, ?_,
    binds.bound, fun {x k} known y apart => ?_⟩
  · intro m mem
    obtain ⟨x, bears⟩ := borne m mem
    exact ⟨x, fun y => ⟨fun bears' => bears'.unique identified bears, fun same => same ▸ bears⟩⟩
  · intro m mem lacking
    obtain ⟨x, bears⟩ := borne m mem
    obtain ⟨k, known⟩ := bears.known
    have unknown : g.kind? x = none := by
      cases old : g.kind? x with
      | none => rfl
      | some k' => exact absurd ((adds.bears_iff wf old).mp bears) (lacking x)
    obtain ⟨m', mem', portrays⟩ := new unknown known
    obtain rfl := Announcement.eq_of_label mem mem' (bears.eq wf' portrays.bears)
    exact ⟨x, unknown, portrays⟩
  · intro x k unknown known
    obtain ⟨m, mem, portrays⟩ := new unknown known
    exact ⟨m, mem, portrays, unborne unknown portrays⟩
  · rw [← brings.below known]
    refine binds.below fun both => apart ⟨both.1, ?_⟩
    exact kind_unique (adds.kind? known) both.2

/-! ### Flags -/

/-- An entity is active, and so are the participant, the topic and the locators of an endpoint. -/
def Upright (h : Graph) (e : EntityId) (kind : EntityKind) : Prop :=
  h.alive e = true ∧
    (kind.isEndpoint → ∀ k ∈ [EntityKind.participant, .topic, .locator], ∀ x ∈ h.neighbors e k, h.alive x = true)

theorem upright_of_sustains (known : h.kind? e = some k) (alive : h.alive e = true)
    (sustained : ∀ y, h.Sustains e y → h.alive y = true) : h.Upright e k := by
  refine ⟨alive, fun isEndpoint k' mem x near => sustained x (sustains_iff.mpr ⟨k, known, k', ?_, near⟩)⟩
  have supports : k.sustains = [EntityKind.participant, .topic, .locator] := by
    revert isEndpoint
    cases k <;> decide
  rwa [supports]

/-- Whatever was there and is announced to have changed keeps its flag. -/
theorem alive_of_updated {touched : ResolvedLocators} {appeared rederived : List StateChange} {g₁ g₂ : Graph}
    (rebound : Rebound e addresses g touched g₁) (appears : Appeared g₁ n existing e appeared g₂)
    (sets : Rederived g₂ touched.ids rederived h) (wf : g.WellFormed) (known : g.kind? e = some k)
    (other : k ≠ .locator) (there : existing ≠ none) (updated : n.status = .updated) : h.alive e = g.alive e := by
  have known₁ := rebound.run.kind?_of_rebinds wf known
  have idle : ¬ (existing = none ∨ n.status = .discovered) := by simp [there, updated]
  rw [Appeared, if_neg idle] at appears
  obtain ⟨-, rfl⟩ := appears
  have untouched : e ∉ touched.ids := fun mem => other (kind_unique known₁ (rebound.locators e mem))
  rw [sets.run.alive_of_marks untouched, alive_of_rebinds_run rebound.run wf known]

theorem Announced.unknown_iff {announced : Resolved} (announces : Announced g n existing announced h)
    (brings : Brings (n.entity.subjects n.domain) g h) (wf : g.WellFormed)
    (bears : h.Bears announced.id (n.entity.label n.domain)) (valid : g.validate n.domain n.entity = .ok existing) :
    g.kind? announced.id = none ↔ existing = none := by
  cases existing with
  | some id =>
    obtain ⟨rfl, rfl⟩ := announces
    obtain ⟨k, known⟩ := bears.known
    simp [known]
  | none =>
    refine iff_of_true ?_ rfl
    cases old : g.kind? announced.id with
    | none => rfl
    | some k => exact absurd ((brings.adds.bears_iff wf old).mp bears) (not_bears_of_validate wf valid)

/-- What carrying out an announcement of something that is there comes down to. -/
theorem Presents.effect {changes : List StateChange} (presents : Presents g n existing changes h)
    (regular : g.Regular) (domain : g.kind? n.domain = some .domain)
    (valid : g.validate n.domain n.entity = .ok existing) (run : Run (Action.Discovers n.domain) g changes h)
    (identified : g.Identified) :
    ∃ e, Incorporates n g e h ∧ (n.status = .discovered ∨ g.kind? e = none → h.Upright e n.entity.kind) ∧
      (n.status = .updated → g.kind? e ≠ none → h.alive e = g.alive e) := by
  have wf := regular.wellFormed
  have wf₄ := run.wellFormed wf
  have identified₄ := run.identified wf identified
  cases presents with
  | @done g₁ g₂ g₃ _ announced touched appeared rederived announces known₁ rebound appears sets =>
  obtain ⟨brings, bears⟩ := announces.brings regular domain valid
  have wf₁ := announces.wellFormed wf
  have wf₂ := rebound.run.wellFormed wf₁
  have known₂ := rebound.run.kind?_of_rebinds wf₁ known₁
  have alike : g₂.Alike h := appears.raised.alike.trans sets.run.alike_of_marks
  have binds := rebound.binds wf₁ alike identified₄
  have unknown := announces.unknown_iff brings wf bears valid
  refine ⟨announced.id, incorporates_of_binds wf wf₄ identified₄ brings bears binds, fun cause => ?_,
    fun updated there => ?_⟩
  · rw [Appeared, if_pos (cause.symm.imp_left unknown.mp)] at appears
    obtain ⟨alive, sustained⟩ := appears.alive_rederived sets wf₂ known₂ n.entity.kind_ne.1
    exact upright_of_sustains (by rw [alike.kind?, known₂]) alive sustained
  · have found := mt unknown.mpr there
    rw [alive_of_updated rebound appears sets wf₁ known₁ n.entity.kind_ne.1 found updated]
    obtain ⟨id, rfl⟩ := Option.ne_none_iff_exists'.mp found
    rw [announces.2]

end Graph

namespace Service
open DiscoveryGraph.Graph Update
variable {service : Service} {n : Notification} {changes : List StateChange} {h : Graph}

/-- In a reachable state, a notification that is accepted does this and nothing else. Of something that
has gone, it creates no entity and changes no relation. Of something that is there, it leaves all that it
mentions there once, created as it is mentioned where it was not there; it binds an announced endpoint to
the announced addresses, and what was there stays as it was otherwise. What is discovered or created is
active, and so is what an endpoint needs; what is only updated keeps its flag. -/
theorem ingest_effect (reachable : service.Reachable) (accepted : Graph.ingest n service.graph = .ok changes h) :
    (n.status = .removed → ∀ x, h.profile? x = service.graph.profile? x ∧
      ∀ k, h.neighbors x k = service.graph.neighbors x k) ∧
    (n.status ≠ .removed → ∃ e, Incorporates n service.graph e h ∧
      (n.status = .discovered ∨ service.graph.kind? e = none → h.Upright e n.entity.kind) ∧
      (n.status = .updated → service.graph.kind? e ≠ none → h.alive e = service.graph.alive e)) := by
  have regular := reachable.sound.regular
  obtain ⟨domain, ingests⟩ := (ends_iff.mp (ingest_ends regular.wellFormed)).1 changes h accepted
  cases ingests with
  | present valid status presents run =>
    refine ⟨fun removed => absurd removed status, fun _ => ?_⟩
    exact presents.effect regular domain valid run reachable.identified
  | removal valid removed removes =>
    have alike := removes.lowered.alike
    exact ⟨fun _ x => ⟨alike.profile x, fun k => alike.neighbors⟩, fun present => absurd removed present⟩

/-- A reader moves from the locator that it shares with a writer to a new one, which is announced twice. -/
theorem ingest_effect_moved :
    let participant : ParticipantInfo := ⟨⟨.replicate 16 1⟩, "node", "host", "user", "process", some "7"⟩
    let reader (locators : List String) : Announcement :=
      .reader ⟨⟨.replicate 16 2⟩, "reader", participant, ⟨"square", "ShapeType"⟩, locators⟩
    let writer : Announcement :=
      .writer ⟨⟨.replicate 16 3⟩, "writer", participant, ⟨"square", "ShapeType"⟩, ["udp:1"]⟩
    let service := run { config := {} } [.start 0 none, .apply ⟨⟨1⟩, .discovered, writer⟩,
      .apply ⟨⟨1⟩, .discovered, reader ["udp:1", "udp:2"]⟩]
    let n : Notification := ⟨⟨1⟩, .updated, reader ["udp:2", "udp:3", "udp:3"]⟩
    ∃ changes h e, Graph.ingest n service.graph = .ok changes h ∧ Incorporates n service.graph e h ∧
      (n.status = .updated → service.graph.kind? e ≠ none → h.alive e = service.graph.alive e) := by
  intro participant reader writer service n
  have reachable : service.Reachable := (Reachable.new new_default).run
  have outcome : (match Graph.ingest n service.graph with
      | .ok .. => true
      | .error .. => false) = true := by decide +kernel
  cases run : Graph.ingest n service.graph with
  | ok changes h =>
    obtain ⟨e, incorporates, -, updated⟩ := (ingest_effect reachable run).2 (by decide)
    exact ⟨changes, h, e, rfl, incorporates, updated⟩
  | error e h =>
    rw [run] at outcome
    cases outcome

end Service
end DiscoveryGraph
