import Mathlib.Data.List.Nodup
import DiscoveryGraph.Proofs.Discovery.Portrait

/-! Mentions. An announcement mentions entities by the labels that they are called by. Where nothing is
called by the label, an entity is created as it is mentioned, below the parents that are mentioned with
it; nothing else is created, and what was there is left alone. -/
namespace DiscoveryGraph

/-- An entity that is mentioned: what it is called, and what it is created as if it is not there. -/
structure Mention where
  label : Label
  kind : EntityKind
  name : String
  attributes : Attributes
  parents : List Label
  deriving DecidableEq, Repr

/-- A participant, with the host, the user and the process that it is created in. -/
def ParticipantInfo.mentions (domain : EntityId) (info : ParticipantInfo) : List Mention :=
  [⟨.host info.host, .host, info.host, .plain, []⟩,
    ⟨.user info.host info.user, .user, info.user, .plain, [.host info.host]⟩,
    ⟨.process info.host info.user info.process, .process, info.process, .process (info.pid.getD ""),
      [.user info.host info.user]⟩,
    ⟨info.label, .participant, info.name, .participant info.guid,
      [.process info.host info.user info.process, .domain domain]⟩]

def TopicInfo.mentions (domain : EntityId) (info : TopicInfo) : List Mention :=
  [⟨info.label domain, .topic, info.name, .topic info.dataType, [.domain domain]⟩]

/-- An endpoint with its participant and its topic. -/
def EndpointInfo.mentions (domain : EntityId) (kind : EntityKind) (info : EndpointInfo) : List Mention :=
  info.participant.mentions domain ++ (info.topic.mentions domain ++
    [⟨info.label, kind, info.name, .endpoint info.guid, [info.participant.label, info.topic.label domain]⟩])

namespace Announcement
variable {announcement : Announcement} {d : EntityId} {m m' : Mention}

/-- What is mentioned apart from locators. -/
def subjects (domain : EntityId) : Announcement → List Mention
  | participant info => info.mentions domain
  | topic info => info.mentions domain
  | reader info => info.mentions domain .dataReader
  | writer info => info.mentions domain .dataWriter

/-- The locator with an address, which is created below the announced endpoint. -/
def locator (domain : EntityId) (announcement : Announcement) (address : String) : Mention :=
  ⟨.locator address, .locator, address, .plain, [announcement.label domain]⟩

/-- All that an announcement mentions. -/
def mentions (domain : EntityId) (announcement : Announcement) : List Mention :=
  announcement.subjects domain ++ announcement.addresses.map (announcement.locator domain)

theorem kind_of_mem_subjects (mem : m ∈ announcement.subjects d) : m.kind ≠ .locator := by
  revert m
  cases announcement <;>
    simp [subjects, ParticipantInfo.mentions, TopicInfo.mentions, EndpointInfo.mentions]

theorem label_of_mem_subjects (mem : m ∈ announcement.subjects d) (address : String) :
    m.label ≠ .locator address := by
  revert m
  cases announcement <;>
    simp [subjects, ParticipantInfo.mentions, TopicInfo.mentions, EndpointInfo.mentions, ParticipantInfo.label,
      TopicInfo.label, EndpointInfo.label]

theorem nodup_labels : ((announcement.subjects d).map (·.label)).Nodup := by
  cases announcement <;>
    simp [subjects, ParticipantInfo.mentions, TopicInfo.mentions, EndpointInfo.mentions, ParticipantInfo.label,
      TopicInfo.label, EndpointInfo.label]

/-- Nothing is mentioned in two ways. -/
theorem eq_of_label (mem : m ∈ announcement.mentions d) (mem' : m' ∈ announcement.mentions d)
    (same : m.label = m'.label) : m = m' := by
  simp only [mentions, List.mem_append, List.mem_map] at mem mem'
  obtain mem | ⟨address, -, rfl⟩ := mem
  · obtain mem' | ⟨address', -, rfl⟩ := mem'
    · exact List.inj_on_of_nodup_map nodup_labels mem mem' same
    · exact absurd same (label_of_mem_subjects mem address')
  · obtain mem' | ⟨address', -, rfl⟩ := mem'
    · exact absurd same.symm (label_of_mem_subjects mem' address)
    · cases same
      rfl

end Announcement

namespace Graph
variable {g g' h : Graph} {d id x y : EntityId} {k kind : EntityKind} {name : String} {key : Key}
    {attributes : Attributes} {label : Label} {kinds : List EntityKind} {m : Mention} {ms ms' : List Mention}
    {r : Resolved}

/-- An entity is as it is mentioned, and lies below the mentioned parents alone. -/
structure Portrays (h : Graph) (x : EntityId) (m : Mention) : Prop where
  bears : h.Bears x m.label
  entity : ∃ entity, h.entity? x = some entity ∧ entity.kind = m.kind ∧ entity.name = m.name ∧
    entity.attributes = m.attributes
  above : ∀ parent ∈ m.parents, ∃ y, h.Bears y parent ∧ h.Below x y
  only : ∀ y, h.Below x y → ∃ parent ∈ m.parents, h.Bears y parent

theorem Portrays.known (portrays : h.Portrays x m) : h.kind? x = some m.kind := by
  obtain ⟨entity, found, kind, -⟩ := portrays.entity
  rw [kind?_of_entity? found, kind]

/-- An entity that stays where it is stays as it is mentioned. -/
theorem Portrays.mono (portrays : g.Portrays x m) (adds : Adds kinds g h)
    (below : ∀ y, h.Below x y ↔ g.Below x y) : h.Portrays x m := by
  refine ⟨adds.bears portrays.bears, ?_, fun parent mem => ?_, fun y joined => ?_⟩
  · exact (exists_entity_congr (p := fun entity => entity.kind = m.kind ∧ entity.name = m.name ∧
      entity.attributes = m.attributes) (fun _ _ => Iff.rfl) (adds.profile? portrays.known)).mpr portrays.entity
  · obtain ⟨y, bears, joined⟩ := portrays.above parent mem
    exact ⟨y, adds.bears bears, (below y).mpr joined⟩
  · obtain ⟨parent, mem, bears⟩ := portrays.only y ((below y).mp joined)
    exact ⟨parent, mem, adds.bears bears⟩

/-- The second graph has what is mentioned besides what the first one has: what was there is left where
it was, and what is new is as it is mentioned. -/
structure Brings (ms : List Mention) (g h : Graph) : Prop where
  adds : Adds (ms.map (·.kind)) g h
  below : ∀ {x k}, g.kind? x = some k → ∀ y, h.Below x y ↔ g.Below x y
  borne : ∀ m ∈ ms, ∃ x, h.Bears x m.label
  new : ∀ {x k}, g.kind? x = none → h.kind? x = some k → ∃ m ∈ ms, h.Portrays x m

namespace Brings

/-- Nothing has to be brought if all that is mentioned is there. -/
theorem of_borne (borne : ∀ m ∈ ms, ∃ x, g.Bears x m.label) : Brings ms g g := by
  refine ⟨.refl, fun _ _ => Iff.rfl, borne, fun unknown known => ?_⟩
  rw [unknown] at known
  cases known

theorem trans (first : Brings ms g g') (second : Brings ms' g' h) : Brings (ms ++ ms') g h := by
  refine ⟨?_, fun known y => ?_, fun m mem => ?_, fun {x k} unknown known => ?_⟩
  · rw [List.map_append]
    exact first.adds.trans second.adds
  · rw [second.below (first.adds.kind? known), first.below known]
  · obtain mem | mem := List.mem_append.mp mem
    · obtain ⟨x, bears⟩ := first.borne m mem
      exact ⟨x, second.adds.bears bears⟩
    · exact second.borne m mem
  · cases early : g'.kind? x with
    | some k' =>
      obtain ⟨m, mem, portrays⟩ := first.new unknown early
      exact ⟨m, List.mem_append_left _ mem, portrays.mono second.adds (second.below early)⟩
    | none =>
      obtain ⟨m, mem, portrays⟩ := second.new early known
      exact ⟨m, List.mem_append_right _ mem, portrays⟩

end Brings

/-! ### What is found or created -/

section Resolves
variable {found : Option EntityId} {edges : EntityId → List Edge} {parents : List Label}

/-- What is found or created is brought as it is mentioned. -/
theorem Resolves.brings (resolves : Resolves g found kind name attributes edges r h) (wf : g.WellFormed)
    (bears : h.Bears r.id label)
    (above : ∀ parent ∈ parents, ∃ edge ∈ edges r.id, g.Bears edge.parent parent)
    (only : ∀ edge ∈ edges r.id, ∃ parent ∈ parents, g.Bears edge.parent parent) :
    Brings [⟨label, kind, name, attributes, parents⟩] g h := by
  cases resolves with
  | known => exact .of_borne (by simpa using ⟨_, bears⟩)
  | @born id unknown enabled =>
    have adds := Action.adds_born wf enabled
    have joined : ∀ {x y}, ((Action.born (Entity.discovered id kind name attributes) (edges id)).act g).Below x y ↔
        g.Below x y ∨ x = id ∧ ∃ edge ∈ edges id, edge.parent = y := below_born wf enabled
    have fresh : g.kind? id = none := wf.fresh enabled.1
    refine ⟨adds, fun {x k} known y => ?_, by simpa using ⟨_, bears⟩, fun {x k} unknown known => ?_⟩
    · rw [joined]
      refine or_iff_left fun new => ?_
      rw [new.1, fresh] at known
      cases known
    · have same : id = x := by
        refine Decidable.byContradiction fun other => ?_
        rw [Action.kind?_born, Entity.id_discovered, if_neg other, unknown] at known
        cases known
      subst same
      have here : ((Action.born (Entity.discovered id kind name attributes) (edges id)).act g).entity? id =
          some (Entity.discovered id kind name attributes) := by
        rw [Action.act, entity?_links, entity?_add, Entity.id_discovered, if_pos rfl]
      refine ⟨_, List.mem_singleton.mpr rfl, bears, ⟨_, here, rfl, rfl, rfl⟩, fun parent mem => ?_, fun y below => ?_⟩
      · obtain ⟨edge, listed, upper⟩ := above parent mem
        exact ⟨edge.parent, adds.bears upper, joined.mpr (.inr ⟨rfl, edge, listed, rfl⟩)⟩
      · obtain ⟨rule, -, old, -⟩ | ⟨-, edge, listed, rfl⟩ := joined.mp below
        · rw [fresh] at old
          cases old
        · obtain ⟨parent, mem, upper⟩ := only edge listed
          exact ⟨parent, mem, adds.bears upper⟩

theorem Resolves.brings_top (resolves : Resolves g found kind name attributes (fun _ => []) r h)
    (wf : g.WellFormed) (answers : Answers (g.HasKey · key) found)
    (fits : ∀ id, key.FitsBirth (Entity.discovered id kind name attributes) [])
    (amounts : label.key? r.id = some key) (top : label.above? = none) :
    Brings [⟨label, kind, name, attributes, []⟩] g h ∧ h.Bears r.id label := by
  have bears := resolves.bears wf answers fits amounts (by rw [top]; simp)
  exact ⟨resolves.brings wf bears (by simp) (by simp), bears⟩

theorem Resolves.brings_below (rule : EdgeRule) {upper : Label}
    (resolves : Resolves g found kind name attributes (fun id => [⟨rule, y, id⟩]) r h) (wf : g.WellFormed)
    (above : g.Bears y upper) (answers : Answers (g.HasKey · key) found)
    (fits : ∀ id, key.FitsBirth (Entity.discovered id kind name attributes) [⟨rule, y, id⟩])
    (amounts : label.key? y = some key) (named : label.above? = some upper) :
    Brings [⟨label, kind, name, attributes, [upper]⟩] g h ∧ h.Bears r.id label := by
  have bears := resolves.bears wf answers fits amounts (by rw [named]; simpa using above)
  exact ⟨resolves.brings wf bears (by simpa using above) (by simpa using above), bears⟩

end Resolves

theorem brings_topic {info : TopicInfo} (wf : g.WellFormed) (domain : g.kind? d = some .domain)
    (resolves : Resolves g (g.findTopic d info) .topic info.name (.topic info.dataType)
      (fun id => [⟨⟨.domain, .topic, .domainMembership⟩, d, id⟩]) r h) :
    Brings (info.mentions d) g h ∧ h.Bears r.id (info.label d) :=
  resolves.brings_below ⟨.domain, .topic, .domainMembership⟩ wf (.domain domain) (findTopic_answers wf)
    (by simp [Key.FitsBirth]) rfl rfl

/-- The host, the user and the process that something runs in are called by their names. -/
theorem RunsIn.exists_bears {host user process : String} (runs : g.RunsIn id host user process) (wf : g.WellFormed) :
    (∃ x, g.Bears x (.host host)) ∧ (∃ x, g.Bears x (.user host user)) ∧
      ∃ x, g.Bears x (.process host user process) := by
  obtain ⟨z, nearz, y, neary, x, nearx, nameh, nameu, namep⟩ := runs
  have fits : ∀ {x k name}, g.kind? x = some k → g.nameOf? x = some name →
      ∃ entity, g.entity? x = some entity ∧ entity.kind = k ∧ entity.name = name := by
    intro x k name known named
    obtain ⟨entity, found, same⟩ := nameOf?_eq_some.mp named
    exact ⟨entity, found, kind_unique (kind?_of_entity? found) known, same⟩
  obtain ⟨hostEntity, foundh, fitsh⟩ := fits (wf.kind?_of_mem nearx) nameh
  obtain ⟨userEntity, foundu, fitsu⟩ := fits (wf.kind?_of_mem neary) nameu
  obtain ⟨processEntity, foundp, fitsp⟩ := fits (wf.kind?_of_mem nearz) namep
  have hosts : g.Bears x (.host host) := .top rfl rfl ⟨hostEntity, foundh, fitsh, by simp⟩
  have users : g.Bears y (.user host user) := by
    refine .keyed (y := x) rfl (by simpa using hosts) ⟨userEntity, foundu, fitsu, ?_⟩
    rintro _ _ ⟨⟩
    exact nearx
  have processes : g.Bears z (.process host user process) := by
    refine .keyed (y := y) rfl (by simpa using users) ⟨processEntity, foundp, fitsp, ?_⟩
    rintro _ _ ⟨⟩
    exact neary
  exact ⟨⟨x, hosts⟩, ⟨y, users⟩, ⟨z, processes⟩⟩

/-- A participant that validation finds is there with all that is mentioned beside it. -/
theorem KnownParticipant.borne {info : ParticipantInfo} (known : g.KnownParticipant d info id)
    (wf : g.WellFormed) : g.Bears id info.label ∧ ∀ m ∈ info.mentions d, ∃ x, g.Bears x m.label := by
  have here := known.kind?
  obtain ⟨⟨k, found⟩, -, context⟩ := known
  have answers := findParticipant_answers wf info.guid
  rw [found] at answers
  have bears : g.Bears id info.label := .top rfl rfl answers.1
  obtain ⟨host, user, process⟩ := ((context_eq_iff wf here).mp context).exists_bears wf
  simpa [ParticipantInfo.mentions, bears] using ⟨host, user, process, id, bears⟩

/-- A participant that was checked is known where it is found. -/
theorem knownParticipant_of_validate {info : ParticipantInfo} {found : Option EntityId}
    (checked : g.validateParticipant d info = .ok found)
    (here : g.findByGuid [.participant] info.guid = some (id, k)) : g.KnownParticipant d info id := by
  have known := (validateParticipant_eq_ok.mp checked).2
  cases found with
  | none => simp [here] at known
  | some id' =>
    obtain ⟨k', found⟩ := KnownParticipant.found known
    rw [here] at found
    cases found
    exact known

theorem ResolvesParticipant.brings {info : ParticipantInfo} {found : Option EntityId}
    (resolves : ResolvesParticipant g d info r h) (wf : g.WellFormed) (domain : g.kind? d = some .domain)
    (checked : g.validateParticipant d info = .ok found) :
    Brings (info.mentions d) g h ∧ h.Bears r.id info.label := by
  cases resolves with
  | known here =>
    obtain ⟨bears, borne⟩ := (knownParticipant_of_validate checked here).borne wf
    exact ⟨.of_borne borne, bears⟩
  | @built g₁ g₂ g₃ _ host user process participant unknown hosts users processes participants =>
    have wf₁ := hosts.wellFormed wf
    have wf₂ := users.wellFormed wf₁
    have wf₃ := processes.wellFormed wf₂
    obtain ⟨brings₁, bears₁⟩ : Brings [⟨.host info.host, .host, info.host, .plain, []⟩] g g₁ ∧
        g₁.Bears host.id (.host info.host) :=
      hosts.brings_top wf (findHost_answers wf info.host) (by simp [Key.FitsBirth]) rfl rfl
    obtain ⟨brings₂, bears₂⟩ :
        Brings [⟨.user info.host info.user, .user, info.user, .plain, [.host info.host]⟩] g₁ g₂ ∧
          g₂.Bears user.id (.user info.host info.user) :=
      users.brings_below ⟨.host, .user, .containment⟩ wf₁ bears₁ (findUser_answers wf₁ (bears₁.kind? fun _ => rfl))
        (by simp [Key.FitsBirth]) rfl rfl
    obtain ⟨brings₃, bears₃⟩ :
        Brings [⟨.process info.host info.user info.process, .process, info.process,
          .process (info.pid.getD ""), [.user info.host info.user]⟩] g₂ g₃ ∧
          g₃.Bears process.id (.process info.host info.user info.process) :=
      processes.brings_below ⟨.user, .process, .containment⟩ wf₂ bears₂
        (findProcess_answers wf₂ (bears₂.kind? fun _ => rfl)) (by simp [Key.FitsBirth]) rfl rfl
    have brings := (brings₁.trans brings₂).trans brings₃
    have answers := findParticipant_answers wf info.guid
    rw [unknown] at answers
    have lacks₃ : g₃.Lacks (.participant info.guid) := brings.adds.answers answers (by simp)
    have bears₄ : h.Bears participant.id info.label := participants.bears (y := d) wf₃ lacks₃
      (by simp [Key.FitsBirth]) rfl (by simp [ParticipantInfo.label])
    have above : g₃.Bears d (.domain d) := .domain (brings.adds.kind? domain)
    have brings₄ : Brings [⟨info.label, .participant, info.name, .participant info.guid,
        [.process info.host info.user info.process, .domain d]⟩] g₃ h :=
      participants.brings wf₃ bears₄ (by simp [participantEdges, bears₃, above])
        (by simp [participantEdges, bears₃, above])
    exact ⟨brings.trans brings₄, bears₄⟩

theorem CreatesEndpoint.brings {info : EndpointInfo} {found : Option EntityId}
    (creates : CreatesEndpoint g d kind info r h) (wf : g.WellFormed) (domain : g.kind? d = some .domain)
    (isEndpoint : kind.isEndpoint) (checked : g.validateParticipant d info.participant = .ok found) :
    Brings (info.mentions d kind) g h ∧ h.Bears r.id info.label := by
  obtain @⟨g₁, g₂, _, participant, topic, endpoint, participants, topics, endpoints⟩ := creates
  have wf₁ := participants.wellFormed wf
  have wf₂ := topics.wellFormed wf₁
  obtain ⟨brings₁, bears₁⟩ := participants.brings wf domain checked
  obtain ⟨brings₂, bears₂⟩ := brings_topic wf₁ (brings₁.adds.kind? domain) topics
  have has : h.HasKey endpoint.id (.endpoint info.guid) :=
    endpoints.hasKey_new wf₂ (by simp [Key.FitsBirth, isEndpoint])
  have bears₃ : h.Bears endpoint.id info.label := .top rfl rfl has
  have above := brings₂.adds.bears bears₁
  have brings₃ : Brings [⟨info.label, kind, info.name, .endpoint info.guid,
      [info.participant.label, info.topic.label d]⟩] g₂ h :=
    endpoints.brings wf₂ bears₃ (by simp [endpointEdges, above, bears₂]) (by simp [endpointEdges, above, bears₂])
  exact ⟨brings₁.trans (brings₂.trans brings₃), bears₃⟩

/-! ### What is announced -/

/-- What an announced entity is created with is brought along. -/
theorem Creates.brings {announcement : Announcement} {found : Option EntityId}
    (creates : Creates g d announcement r h) (wf : g.WellFormed) (domain : g.kind? d = some .domain)
    (checked : g.validate d announcement = .ok found) :
    Brings (announcement.subjects d) g h ∧ h.Bears r.id (announcement.label d) := by
  cases announcement with
  | participant info => exact ResolvesParticipant.brings creates wf domain checked
  | topic info => exact brings_topic wf domain creates
  | reader info | writer info =>
    obtain ⟨-, found, checked, -⟩ := validateEndpoint_eq_ok.mp checked
    exact CreatesEndpoint.brings creates wf domain rfl checked

theorem bears_of_findTopic {info : TopicInfo} (wf : g.WellFormed) (domain : g.kind? d = some .domain)
    (found : g.findTopic d info = some id) : g.Bears id (info.label d) :=
  .keyed (y := d) rfl (by simpa [TopicInfo.label] using Bears.domain domain) ((findTopic_answers wf).holds found)

/-- An endpoint that validation finds is there with all that is mentioned beside it. -/
theorem KnownEndpoint.borne {info : EndpointInfo} {participant : Option EntityId}
    (known : g.KnownEndpoint d kind info participant id) (regular : g.Regular)
    (domain : g.kind? d = some .domain) (checked : g.validateParticipant d info.participant = .ok participant) :
    g.Bears id info.label ∧ ∀ m ∈ info.mentions d kind, ∃ x, g.Bears x m.label := by
  have wf := regular.wellFormed
  obtain ⟨here, isEndpoint⟩ := known.kind?
  obtain ⟨found, ⟨p, rfl, -⟩, topic⟩ := known
  have answers := findEndpoint_answers wf info.guid
  rw [found] at answers
  have bears : g.Bears id info.label := .top rfl rfl answers.1
  have participant : g.KnownParticipant d info.participant p := (validateParticipant_eq_ok.mp checked).2
  obtain ⟨t, near⟩ := regular.rooted id kind here .topic (EntityKind.topic_mem_parents isEndpoint)
  rw [(wf.parent?_eq_some_iff here (EntityKind.topic_mem_parents isEndpoint)).mpr near] at topic
  have topics := bears_of_findTopic wf domain topic.symm
  refine ⟨bears, fun m mem => ?_⟩
  simp only [EndpointInfo.mentions, TopicInfo.mentions, List.mem_append, List.mem_singleton] at mem
  obtain mem | rfl | rfl := mem
  · exact (participant.borne wf).2 m mem
  · exact ⟨t, topics⟩
  · exact ⟨id, bears⟩

theorem findTopic_of_validate {info : TopicInfo} {found : Option EntityId}
    (checked : g.validate d (.topic info) = .ok found) : g.findTopic d info = found := by
  have checks : Checks (g.validate d (.topic info)) (g.findTopic d info = ·) ValidationError.IsRejection := by
    rw [validate, checks_bind]
    exact checkName_checks.imp_ok fun _ _ => rfl
  exact checks.of_ok checked

/-- What validation finds is there with all that is mentioned beside it. -/
theorem borne_of_validate {announcement : Announcement} (regular : g.Regular) (domain : g.kind? d = some .domain)
    (checked : g.validate d announcement = .ok (some id)) :
    g.Bears id (announcement.label d) ∧ ∀ m ∈ announcement.subjects d, ∃ x, g.Bears x m.label := by
  have wf := regular.wellFormed
  cases announcement with
  | participant info =>
    obtain ⟨-, known⟩ := validateParticipant_eq_ok.mp checked
    exact KnownParticipant.borne known wf
  | topic info =>
    have bears : g.Bears id (info.label d) := bears_of_findTopic wf domain (findTopic_of_validate checked)
    exact ⟨bears, by simpa [Announcement.subjects, TopicInfo.mentions] using ⟨id, bears⟩⟩
  | reader info | writer info =>
    obtain ⟨-, participant, checked, known⟩ := validateEndpoint_eq_ok.mp checked
    exact KnownEndpoint.borne known regular domain checked

/-- Nothing is called by the label that validation has looked for in vain. -/
theorem not_bears_of_validate {announcement : Announcement} (wf : g.WellFormed)
    (checked : g.validate d announcement = .ok none) : ¬ g.Bears x (announcement.label d) := by
  intro bears
  cases announcement with
  | participant info =>
    have bears : g.Bears x (.participant info.guid) := bears
    have answers := findParticipant_answers wf info.guid
    rw [(validateParticipant_eq_ok.mp checked).2] at answers
    cases bears with
    | keyed amounts _ has =>
      cases amounts
      exact answers x has
  | topic info =>
    have bears : g.Bears x (.topic d info.name info.dataType) := bears
    have answers : Answers (g.HasKey · (.topic d info.name info.dataType)) (g.findTopic d info) :=
      findTopic_answers wf
    rw [findTopic_of_validate checked] at answers
    cases bears with
    | keyed amounts above has =>
      cases amounts
      obtain rfl := (above _ rfl).domain_eq
      exact answers x has
  | reader info | writer info =>
    have bears : g.Bears x (.endpoint info.guid) := bears
    cases bears with
    | keyed amounts _ has =>
      cases amounts
      exact lacks_of_validate wf checked info.guid rfl x has

end Graph
end DiscoveryGraph
