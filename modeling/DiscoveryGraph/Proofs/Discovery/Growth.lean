import DiscoveryGraph.Proofs.Discovery.Ingestion

/-! Growth. While an announcement is carried out, entities are added and the profiles and parents of
all others are left alone. So keys are read and lookups answered as before, but for the kinds of which
there are new entities, and what has been resolved is found from then on. -/
namespace DiscoveryGraph

namespace Graph
variable {g g' h : Graph} {d id x y : EntityId} {k kind : EntityKind} {name : String} {key : Key}
    {kinds : List EntityKind}

/-- The second graph has what the first one has, under the same parents, and besides that only
entities of some kinds. -/
structure Adds (kinds : List EntityKind) (g h : Graph) : Prop where
  profile? : ∀ {x kind}, g.kind? x = some kind → h.profile? x = g.profile? x
  parents : ∀ {x kind k}, g.kind? x = some kind → k ∈ kind.parents → h.neighbors x k = g.neighbors x k
  new : ∀ {x kind}, h.kind? x = some kind → g.kind? x = some kind ∨ kind ∈ kinds

namespace Adds

theorem refl : Adds kinds g g := ⟨fun _ => rfl, fun _ _ => rfl, .inl⟩

theorem kind? (adds : Adds kinds g h) (known : g.kind? x = some k) : h.kind? x = some k := by
  rw [kind?_of_profile? (adds.profile? known), known]

theorem trans {kinds' : List EntityKind} (first : Adds kinds g g') (second : Adds kinds' g' h) :
    Adds (kinds ++ kinds') g h := by
  refine ⟨fun known => ?_, fun known parent => ?_, fun known => ?_⟩
  · rw [second.profile? (first.kind? known), first.profile? known]
  · rw [second.parents (first.kind? known) parent, first.parents known parent]
  · obtain known | mem := second.new known
    · exact (first.new known).imp_right fun mem => List.mem_append_left _ mem
    · exact .inr (List.mem_append_right _ mem)

/-- What was there keeps its key. -/
theorem hasKey_iff_of_known (adds : Adds kinds g h) (known : g.kind? x = some kind) :
    h.HasKey x key ↔ g.HasKey x key :=
  hasKey_congr (adds.profile? known) fun _ known' _ parent => adds.parents known' parent

/-- A key is read as before, unless it may fit something new. -/
theorem hasKey_iff (adds : Adds kinds g h) (apart : ∀ k ∈ key.kinds, k ∉ kinds) :
    h.HasKey x key ↔ g.HasKey x key := by
  by_cases known : ∃ kind, g.kind? x = some kind
  · obtain ⟨kind, known⟩ := known
    exact adds.hasKey_iff_of_known known
  · refine iff_of_false (fun has => ?_) fun has => known has.known
    obtain ⟨entity, found, fits, -⟩ := has
    obtain old | mem := adds.new (kind?_of_entity? found)
    · exact known ⟨_, old⟩
    · exact apart _ fits.mem_kinds mem

theorem hasKey (adds : Adds kinds g h) (has : g.HasKey x key) : h.HasKey x key := by
  obtain ⟨kind, known⟩ := has.known
  exact (adds.hasKey_iff_of_known known).mpr has

/-- A search for such a key is answered as before. -/
theorem answers {found : Option EntityId} (adds : Adds kinds g h) (answers : Answers (g.HasKey · key) found)
    (apart : ∀ k ∈ key.kinds, k ∉ kinds) : Answers (h.HasKey · key) found :=
  answers.congr fun _ => adds.hasKey_iff apart

theorem parent? (adds : Adds kinds g h) (known : g.kind? x = some kind) (parent : k ∈ kind.parents) :
    h.parent? x k = g.parent? x k := by
  rw [Graph.parent?, adds.parents known parent, Graph.parent?]

theorem nameOf? (adds : Adds kinds g h) (known : g.kind? x = some kind) : h.nameOf? x = g.nameOf? x := by
  have names : ∀ i : Graph, i.nameOf? x = (i.profile? x).map (·.name) := fun i => by
    simp [Graph.nameOf?, Graph.profile?, Function.comp_def]
  rw [names, names, adds.profile? known]

end Adds

theorem Alike.adds (alike : g.Alike h) : Adds [] g h :=
  ⟨fun _ => alike.profile _, fun _ _ => alike.neighbors, fun known => .inl (by rwa [alike.kind?] at known)⟩

theorem Adds.mono {kinds' : List EntityKind} (adds : Adds kinds g h) (sub : kinds ⊆ kinds') : Adds kinds' g h :=
  ⟨adds.profile?, adds.parents, fun known => (adds.new known).imp_right fun mem => sub mem⟩

end Graph

theorem Action.adds_born {g : Graph} {entity : Entity} {edges : List Edge} (wf : g.WellFormed)
    (enabled : (born entity edges).Enabled g) : g.Adds [entity.kind] ((born entity edges).act g) := by
  refine ⟨Action.profile?_born wf enabled, Action.neighbors_parent_born wf enabled, fun known => ?_⟩
  rw [Action.kind?_born] at known
  split at known
  · exact .inr (by simpa [eq_comm] using known)
  · exact .inl known

/-- Binding an endpoint anew adds locators at most: bindings are no parent edges. -/
theorem Action.Rebinds.adds {g : Graph} {a : Action} {id : EntityId} (rebinds : a.Rebinds id g)
    (wf : g.WellFormed) (enabled : a.Enabled g) : g.Adds [.locator] (a.act g) := by
  have parents : ∀ {x kind k}, g.kind? x = some kind → k ∈ kind.parents →
      (a.act g).neighbors x k = g.neighbors x k := by
    intro x kind k known parent
    have apart : kind ≠ .locator ∧ k ≠ .locator := by
      revert parent
      cases kind <;> cases k <;> decide
    exact rebinds.neighbors enabled known apart.1 apart.2
  cases a with
  | born entity edges => exact rebinds.1 ▸ adds_born wf enabled
  | linked | unlinked => exact ⟨fun _ => rfl, parents, .inl⟩
  | flagged | forgotten => exact rebinds.elim

theorem Run.adds_of_rebinds {g g' : Graph} {id : EntityId} {changes : List StateChange}
    (run : Run (Action.Rebinds id) g changes g') (wf : g.WellFormed) : g.Adds [.locator] g' :=
  run.invariant (g.Adds [.locator] ·) wf .refl
    fun wf enabled rebinds held => (held.trans (rebinds.adds wf enabled)).mono (by simp)

/-- Only locators are born while an endpoint is bound anew. -/
theorem Run.kind?_of_rebound {g g' : Graph} {id x : EntityId} {k : EntityKind} {changes : List StateChange}
    (run : Run (Action.Rebinds id) g changes g') (wf : g.WellFormed)
    (known : g'.kind? x = some k) (other : k ≠ .locator) : g.kind? x = some k :=
  ((run.adds_of_rebinds wf).new known).resolve_right (by simpa using other)

namespace Graph
variable {g g' h : Graph} {d id x y : EntityId} {k kind : EntityKind} {name : String} {key : Key}
    {kinds : List EntityKind}

theorem Resolves.adds {found : Option EntityId} {attributes : Attributes} {edges : EntityId → List Edge}
    {r : Resolved} (resolves : Resolves g found kind name attributes edges r h) (wf : g.WellFormed) :
    Adds [kind] g h := by
  cases resolves with
  | known => exact .refl
  | born _ enabled => exact Action.adds_born wf enabled

/-- Whatever comes while an endpoint is bound anew is a locator that the endpoint is bound to. -/
theorem Rebound.of_unknown {e : EntityId} {addresses : List String} {r : ResolvedLocators}
    (rebound : Rebound e addresses g r h) (wf : g.WellFormed) (unknown : g.kind? x = none)
    (known : h.kind? x = some kind) : kind = .locator ∧ x ∈ h.neighbors e .locator := by
  obtain rfl : kind = .locator := by
    have old := (rebound.run.adds_of_rebinds wf).new known
    simpa [unknown] using old
  have touched : x ∈ r.ids := by
    refine Decidable.byContradiction fun outside => ?_
    simpa [unknown] using (rebound.untouched x known outside).1
  refine ⟨rfl, (rebound.touched x touched).resolve_left fun near => ?_⟩
  simpa [unknown] using wf.kind?_of_mem near

theorem ResolvesParticipant.adds {info : ParticipantInfo} {r : Resolved}
    (resolves : ResolvesParticipant g d info r h) (wf : g.WellFormed) :
    Adds [.host, .user, .process, .participant] g h :=
  resolves.composed (fun g _ h => Adds [.host, .user, .process, .participant] g h) (fun _ => .refl)
    (fun first second => (first.trans second).mono (by simp))
    (fun wf mem _ resolves => (resolves.adds wf).mono (by simpa using mem)) wf

/-! ### Checks -/

theorem findParticipant_of_answers (wf : g.WellFormed) {guid : Guid}
    (answers : Answers (g.HasKey · (.participant guid)) (some id)) :
    g.findByGuid [.participant] guid = some (id, .participant) := by
  have same := (findParticipant_answers wf guid).eq answers
  obtain ⟨⟨id', k⟩, found, rfl⟩ := Option.map_eq_some_iff.mp same
  rw [found, List.mem_singleton.mp (findByGuid_eq_some found).2]

theorem findEndpoint_of_answers (wf : g.WellFormed) {guid : Guid} (known : g.kind? id = some kind)
    (answers : Answers (g.HasKey · (.endpoint guid)) (some id)) :
    g.findByGuid EntityKind.endpoints guid = some (id, kind) := by
  have same := (findEndpoint_answers wf guid).eq answers
  obtain ⟨⟨id', k⟩, found, rfl⟩ := Option.map_eq_some_iff.mp same
  rw [found, kind_unique known (findByGuid_eq_some found).1]

/-- An endpoint below the participant and the topic that have the mentioned keys is known with them. -/
theorem knownEndpoint_of_keys {info : EndpointInfo} {participant : Option EntityId} {p t : EntityId}
    (wf : g.WellFormed) (identified : g.Identified)
    (answers : Answers (g.HasKey · (.participant info.participant.guid)) participant)
    (has : g.HasKey id (.endpoint info.guid)) (known : g.kind? id = some kind)
    (nearp : p ∈ g.neighbors id .participant) (hasp : g.HasKey p (.participant info.participant.guid))
    (neart : t ∈ g.neighbors id .topic) (hast : g.HasKey t (.topic d info.topic.name info.topic.dataType)) :
    g.KnownEndpoint d kind info participant id := by
  have isEndpoint : kind.isEndpoint := (EntityKind.mem_endpoints kind).mp (has.mem_kinds known)
  constructor
  case found => exact findEndpoint_of_answers wf known (identified.answers has)
  case participant =>
    exact ⟨p, answers.eq (identified.answers hasp),
      (wf.parent?_eq_some_iff known (EntityKind.participant_mem_parents isEndpoint)).mpr nearp⟩
  case topic =>
    rw [(wf.parent?_eq_some_iff known (EntityKind.topic_mem_parents isEndpoint)).mpr neart]
    exact (identified.answers hast).eq (findTopic_answers wf)

/-- An entity runs in a process, of a user, on a host, of these names. -/
def RunsIn (g : Graph) (x : EntityId) (host user process : String) : Prop :=
  ∃ p ∈ g.neighbors x .process, ∃ u ∈ g.neighbors p .user, ∃ h ∈ g.neighbors u .host,
    g.nameOf? h = some host ∧ g.nameOf? u = some user ∧ g.nameOf? p = some process

/-- The context of a participant is what it runs in. -/
theorem context_eq_iff {host user process : String} (wf : g.WellFormed) (known : g.kind? id = some .participant) :
    g.context id = (some host, some user, some process) ↔ g.RunsIn id host user process := by
  simp only [context, Prod.mk.injEq, Option.bind_eq_some_iff]
  constructor
  · intro context
    obtain ⟨⟨h, ⟨u, ⟨p, process₁, user₁⟩, host₁⟩, nameh⟩, ⟨u', ⟨p', process₂, user₂⟩, nameu⟩, p'', process₃, namep⟩ :=
      context
    obtain rfl : p = p' := Option.some_inj.mp (process₁.symm.trans process₂)
    obtain rfl : p = p'' := Option.some_inj.mp (process₁.symm.trans process₃)
    obtain rfl : u = u' := Option.some_inj.mp (user₁.symm.trans user₂)
    exact ⟨p, mem_of_parent? process₁, u, mem_of_parent? user₁, h, mem_of_parent? host₁, nameh, nameu, namep⟩
  · intro runs
    obtain ⟨p, nearp, u, nearu, h, nearh, nameh, nameu, namep⟩ := runs
    have first := (wf.parent?_eq_some_iff known (by decide)).mpr nearp
    have second := (wf.parent?_eq_some_iff (wf.kind?_of_mem nearp) (by decide)).mpr nearu
    have third := (wf.parent?_eq_some_iff (wf.kind?_of_mem nearu) (by decide)).mpr nearh
    exact ⟨⟨h, ⟨u, ⟨p, first, second⟩, third⟩, nameh⟩, ⟨u, ⟨p, first, second⟩, nameu⟩, p, first, namep⟩

/-- The context of a participant is where its host, user and process have been found. -/
theorem context_eq (wf : g.WellFormed) {host user process : EntityId} {h u p : String}
    (known : g.kind? id = some .participant) (near : process ∈ g.neighbors id .process)
    (hosts : g.HasKey host (.host h)) (users : g.HasKey user (.user host u))
    (processes : g.HasKey process (.process user p)) : g.context id = (some h, some u, some p) := by
  obtain ⟨hostEntity, foundh, ⟨-, nameh⟩, -⟩ := hosts
  obtain ⟨userEntity, foundu, ⟨-, nameu⟩, aboveu⟩ := users
  obtain ⟨processEntity, foundp, ⟨-, namep⟩, abovep⟩ := processes
  exact (context_eq_iff wf known).mpr ⟨process, near, user, abovep _ _ rfl, host, aboveu _ _ rfl,
    nameOf?_eq_some.mpr ⟨_, foundh, nameh⟩, nameOf?_eq_some.mpr ⟨_, foundu, nameu⟩,
    nameOf?_eq_some.mpr ⟨_, foundp, namep⟩⟩

theorem Adds.context (adds : Adds kinds g h) (wf : g.WellFormed) (known : g.kind? id = some .participant) :
    h.context id = g.context id := by
  have names : ∀ {y k}, g.kind? y = some k → h.nameOf? y = g.nameOf? y := adds.nameOf?
  unfold Graph.context
  rw [adds.parent? known (by decide)]
  cases process : g.parent? id .process with
  | none => rfl
  | some process' =>
    have knownp := wf.kind?_of_mem (mem_of_parent? process)
    simp only [Option.bind_some, adds.parent? knownp (show EntityKind.user ∈ _ by decide), names knownp]
    cases user : g.parent? process' .user with
    | none => rfl
    | some user' =>
      have knownu := wf.kind?_of_mem (mem_of_parent? user)
      simp only [Option.bind_some, adds.parent? knownu (show EntityKind.host ∈ _ by decide), names knownu]
      cases host : g.parent? user' .host with
      | none => rfl
      | some host' => simp only [Option.bind_some, names (wf.kind?_of_mem (mem_of_parent? host))]

theorem Adds.knownParticipant {info : ParticipantInfo} (adds : Adds kinds g h) (wf : g.WellFormed)
    (wf' : h.WellFormed) (apart : .participant ∉ kinds) (known : g.KnownParticipant d info id) :
    h.KnownParticipant d info id := by
  have here := known.kind?
  obtain ⟨⟨k, found⟩, domain, context⟩ := known
  have answers := findParticipant_answers wf info.guid
  rw [found] at answers
  refine ⟨⟨_, findParticipant_of_answers wf' (adds.answers answers ?_)⟩, ?_, ?_⟩
  · simpa using apart
  · rw [adds.parent? here (by decide), domain]
  · rw [adds.context wf here, context]

theorem Adds.findTopic {info : TopicInfo} (adds : Adds kinds g h) (wf : g.WellFormed) (wf' : h.WellFormed)
    (apart : .topic ∉ kinds) : h.findTopic d info = g.findTopic d info :=
  (findTopic_answers wf').eq (adds.answers (findTopic_answers wf) (by simpa using apart))

/-- What was checked and found is found again after locators have been added. -/
theorem Adds.validate {announcement : Announcement} (adds : Adds [.locator] g h) (wf : g.WellFormed)
    (wf' : h.WellFormed) (valid : g.validate d announcement = .ok (some id)) :
    h.validate d announcement = .ok (some id) := by
  have participant : ∀ {info id}, g.validateParticipant d info = .ok (some id) →
      h.validateParticipant d info = .ok (some id) := by
    intro info id valid
    obtain ⟨legible, known⟩ := validateParticipant_eq_ok.mp valid
    exact validateParticipant_eq_ok.mpr ⟨legible, adds.knownParticipant wf wf' (by decide) known⟩
  have endpoint : ∀ {kind info id}, g.validateEndpoint d kind info = .ok (some id) →
      h.validateEndpoint d kind info = .ok (some id) := by
    intro kind info id valid
    obtain ⟨legible, p, checked, known⟩ := validateEndpoint_eq_ok.mp valid
    obtain ⟨here, isEndpoint⟩ := KnownEndpoint.kind? known
    obtain ⟨found, ⟨p, rfl, above⟩, topic⟩ := known
    have answers := findEndpoint_answers wf info.guid
    rw [found] at answers
    refine validateEndpoint_eq_ok.mpr ⟨legible, _, participant checked, ?_, ⟨p, rfl, ?_⟩, ?_⟩
    · exact findEndpoint_of_answers wf' (adds.kind? here) (adds.answers answers (by simp [EntityKind.endpoints]))
    · rw [adds.parent? here (EntityKind.participant_mem_parents isEndpoint), above]
    · rw [adds.parent? here (EntityKind.topic_mem_parents isEndpoint), topic, adds.findTopic wf wf' (by decide)]
  cases announcement with
  | participant info => exact participant valid
  | reader info | writer info => exact endpoint valid
  | topic info =>
    rw [Graph.validate] at valid ⊢
    rw [adds.findTopic wf wf' (by decide)]
    exact valid

end Graph
end DiscoveryGraph
